import PoliteCrawl.Proofs.Frontier.Serving
import PoliteCrawl.Proofs.World.Turns

set_option autoImplicit false

namespace PoliteCrawl.World

section Serving

variable {origin : Gateway} {settled loose opened : WorkQueue → Prop}

theorem act_upheld (world : World) (event : Event) (calm : event.Calm)
    (kept : Kept origin world.frontier world.journal)
    (handing : Upkeep.Handing settled loose opened world.frontier.budgets)
    (recalling : event = .unretire → Recalling settled) (upheld : world.frontier.Upheld settled)
    (other : ∀ id, event ≠ .proceed id) :
    (world.act event).frontier.Upheld settled := by
  have upkeep := handing.toUpkeep
  cases event with
  | schedule uri => exact (Frontier.schedule_upheld upkeep world.frontier uri upheld).upheld
  | proceed id => exact absurd rfl (other id)
  | drop id =>
      simp only [act]
      cases world.call? id with
      | none => exact upheld
      | some call =>
          simp only [Option.elim, drop]
          split
          · exact upheld
          · exact upheld.cancel call
  | complete uri outcome =>
      exact Frontier.complete_upheld handing world.frontier uri outcome kept.registered upheld
  | request state =>
      obtain ⟨ready, snooze, same⟩ := request_shape world.frontier state
      simp only [act, same]
      exact upheld.same rfl rfl rfl
  | unretire => exact (Frontier.unretire_upheld upkeep (recalling rfl) world.frontier upheld).upheld
  | reroute routing => exact ⟨calm, upheld.meets, upheld.marked⟩
  | manage =>
      exact Frontier.management_permitted (Frontier.upheld_permits upkeep) world.frontier upheld
  | supervise id =>
      simp only [act]
      cases world.supervisor? id with
      | none => exact upheld
      | some supervisor =>
          exact Frontier.turn_permitted (Frontier.upheld_permits upkeep) world.frontier supervisor
            upheld
  | _ => exact upheld.same rfl rfl rfl

theorem proceed_served (world : World) (call : Call)
    (kept : Kept origin world.frontier world.journal)
    (handing : Upkeep.Handing settled loose opened world.frontier.budgets)
    (upheld : world.frontier.Upheld settled) :
    ((world.proceed call).handed = world.handed ∧ (world.proceed call).frontier.Upheld settled) ∨
      ∃ uri, (world.proceed call).handed = world.handed ++ [uri] ∧
        (world.proceed call).frontier.Gives settled opened uri.siteKey uri := by
  have served := Frontier.step_served handing world.frontier call.id call.phase upheld rfl
  have passing := step_passing world.frontier call.phase
  simp only [handed, proceed, List.filterMap_append, passing.unhanded, List.nil_append]
  cases gained : call.phase.gain? (world.frontier.stepPhase call.id call.phase).2 with
  | none =>
      have gives : call.phase.gain? (world.frontier.step call).2.phase = none := gained
      rw [gained] at served
      exact .inl ⟨by simp [handEntries, gives], served⟩
  | some uri =>
      have gives : call.phase.gain? (world.frontier.step call).2.phase = some uri := gained
      rw [gained] at served
      obtain ⟨key, rest, queue, line, found, member⟩ :=
        world.frontier.gain_ready call.id call.phase uri gained
      have site : uri.siteKey = key := by
        apply kept.posted.addressed kept.addressed
        change uri ∈ (world.frontier.lane key).items
        rw [world.frontier.lane_of_queue key queue found]
        exact member
      rw [line, List.headD_cons, ← site] at served
      exact .inr ⟨uri, by rw [gives]; rfl, served⟩

theorem step_hands (world : World) (event : Event) (calm : event.Calm)
    (kept : Kept origin world.frontier world.journal)
    (handing : Upkeep.Handing settled loose opened world.frontier.budgets)
    (recalling : event = .unretire → Recalling settled) (upheld : world.frontier.Upheld settled) :
    ((world.step event).handed = world.handed ∧ (world.step event).frontier.Upheld settled) ∨
      ∃ uri, (world.step event).handed = world.handed ++ [uri] ∧
        (world.step event).frontier.Gives settled opened uri.siteKey uri := by
  by_cases other : ∀ id, event ≠ .proceed id
  · have same : (world.step event).handed = world.handed :=
      (step_gained world event).resolve_right fun ⟨id, _, _, proceeds, _⟩ => other id proceeds
    refine .inl ⟨same, ?_⟩
    rw [step]
    split
    · exact act_upheld world event calm kept handing recalling upheld other
    · exact upheld
  · obtain ⟨id, same⟩ : ∃ id, event = .proceed id := by simpa using other
    subst same
    rw [step]
    split
    · simp only [act]
      cases world.call? id with
      | none => exact .inl ⟨rfl, upheld⟩
      | some call => exact proceed_served world call kept handing upheld
    · exact .inl ⟨rfl, upheld⟩

theorem step_served (world : World) (event : Event) (calm : event.Calm)
    (kept : Kept origin world.frontier world.journal)
    (serving : Upkeep.Serving settled loose opened world.frontier.budgets)
    (upheld : world.frontier.Upheld settled) :
    ((world.step event).handed = world.handed ∧ (world.step event).frontier.Upheld settled) ∨
      ∃ uri, (world.step event).handed = world.handed ++ [uri] ∧
        (world.step event).frontier.Gives settled opened uri.siteKey uri :=
  step_hands world event calm kept serving.toHanding (fun _ => serving.recalls) upheld

end Serving

theorem free_serving (budgets : Budgets) :
    Upkeep.Serving (fun _ => True) (fun _ => True) (fun queue => queue.state = .inProcess) budgets where
  fresh _ _ := trivial
  loosens _ _ _ := trivial
  joins _ _ _ := trivial
  rates _ _ _ _ := trivial
  funds _ _ _ _ := trivial
  asks _ _ _ := trivial
  wakes _ _ := trivial
  activates _ _ _ := trivial
  parks _ _ _ _ := trivial
  readies _ _ _ _ := trivial
  exhausts _ _ _ := trivial
  retires _ _ _ := trivial
  dozes _ _ _ _ := trivial
  opens _ _ _ := trivial
  admits queue _ _ _ _ :=
    (Frontier.open_session_shape budgets { queue with state := .inProcess }).2.2.1
  drops _ _ process := process
  process _ process := process
  gives _ _ := trivial
  bills _ _ _ _ _ _ _ _ := trivial
  recalls _ _ _ _ := ⟨trivial, trivial⟩

theorem run_marked (setup : Setup) (events : List Event) (calm : Calm setup events) :
    let tiers := (run setup events).frontier.tiers
    tiers.watermark = Tiers.lowest tiers.filed := by
  suffices upheld : (run setup events).frontier.Upheld fun _ => True from upheld.marked
  revert calm
  refine run_induction (motive := fun events world => Calm setup events →
    world.frontier.Upheld fun _ => True) setup ?_ ?_ events
  · intro calm
    exact ⟨calm.1, fun _ _ _ => trivial, rfl⟩
  · intro events event before calm
    have kept := run_kept setup events calm.before.1
    rcases step_served (run setup events) event calm.before.2 kept (free_serving _)
      (before calm.before.1) with ⟨_, upheld⟩ | ⟨_, _, gives⟩
    · exact upheld
    · exact ⟨gives.others.calm, fun _ _ _ => trivial, gives.others.marked⟩

end PoliteCrawl.World
