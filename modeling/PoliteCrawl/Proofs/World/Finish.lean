import PoliteCrawl.Proofs.World.Turns

set_option autoImplicit false

namespace PoliteCrawl

-- What is left of a gateway that was told to close.
def Gateway.afterClosing (gateway : Gateway) : Except GatewayError Gateway → Gateway
  | .ok closed => closed
  | .error _ => gateway

namespace Frontier

def closings (frontier : Frontier) : List (Except GatewayError Gateway) :=
  if frontier.target = .finish ∧ frontier.claims = [] then [frontier.gateway.close] else []

-- What a step does about the end, where the gateway gave these answers.
structure Nears (answers : List (Except GatewayError Gateway)) (before after : Frontier) :
    Prop where
  target : before.target = .finish → after.target = .finish
  kept : before.target = .finish → before.reached = some .finish → after.reached = some .finish
  reached : after.reached = some .finish → before.reached = some .finish ∨ answers ≠ []
  closes : answers ≠ [] → before.target = .finish ∧ before.claims = [] ∧
    answers = [before.gateway.close] ∧ after.reached = some .finish ∧
      after.gateway = before.gateway.afterClosing before.gateway.close

theorem Nears.still {before after : Frontier} (cell : after.cell = before.cell) :
    Nears [] before after where
  target := (congrArg StateCell.target cell).trans
  kept _ := (congrArg StateCell.reached cell).trans
  reached ends := .inl ((congrArg StateCell.reached cell).symm.trans ends)
  closes some := absurd rfl some

structure Astray (before after : Frontier) : Prop where
  target : before.target ≠ .finish → after.target ≠ .finish
  reached : before.target ≠ .finish → after.reached = some .finish → before.reached = some .finish

theorem Astray.still {before after : Frontier} (cell : after.cell = before.cell) :
    before.Astray after where
  target open_ ends := open_ ((congrArg StateCell.target cell).symm.trans ends)
  reached _ := (congrArg StateCell.reached cell).symm.trans

theorem astray_permits : Permits Astray where
  refl _ := .still rfl
  trans _ _ _ one two :=
    ⟨fun open_ => two.target (one.target open_), fun open_ ends =>
      one.reached open_ (two.reached (one.target open_) ends)⟩
  mark frontier state ends := by
    refine ⟨fun open_ => ?_, fun open_ reached => ?_⟩
    · rw [mark_target]
      exact open_
    · rw [mark_reached, Option.some.injEq] at reached
      exact absurd (ends reached).1 open_
  retarget _ _ _ unfinished _ := ⟨fun _ => unfinished, fun _ ends => ends⟩
  notify _ := .still rfl
  call _ := .still rfl
  snooze _ _ := .still rfl
  close _ _ _ _ := .still rfl
  wake frontier := .still (congrArg Setting.cell (wake_stays frontier).setting)

theorem Astray.nears {before after : Frontier} (astray : before.Astray after)
    (open_ : before.target ≠ .finish) : Nears [] before after where
  target ends := absurd ends open_
  kept ends := absurd ends open_
  reached ends := .inl (astray.reached open_ ends)
  closes some := absurd rfl some

theorem mark_finished (frontier : Frontier) :
    frontier.markFinished.target = frontier.target ∧
      frontier.markFinished.reached = some .finish ∧
      frontier.markFinished.gateway = frontier.gateway :=
  ⟨frontier.mark_target .finish, frontier.mark_reached .finish, rfl⟩

theorem management_finishes (frontier : Frontier) (asked : frontier.target = .finish) :
    Nears frontier.closings frontier frontier.managementStep.1 := by
  simp only [managementStep, asked, manageFinish]
  by_cases drained : frontier.claims = []
  · have closings : frontier.closings = [frontier.gateway.close] := if_pos ⟨asked, drained⟩
    have finished (base : Frontier) (target : base.target = .finish)
        (closed : base.gateway = frontier.gateway.afterClosing frontier.gateway.close) :
        Nears frontier.closings frontier base.markFinished := by
      obtain ⟨same, reached, gateway⟩ := mark_finished base
      exact ⟨fun _ => same.trans target, fun _ _ => reached, fun _ => .inr (by simp [closings]),
        fun _ => ⟨asked, drained, closings, reached, gateway.trans closed⟩⟩
    rw [if_neg (by simp [drained])]
    cases closed : frontier.gateway.close with
    | ok gateway =>
        apply finished { frontier with gateway } asked
        rw [closed]
        rfl
    | error cause =>
        apply finished frontier asked
        rw [closed]
        rfl
  · have closings : frontier.closings = [] := if_neg fun both => drained both.2
    rw [if_pos (by simp [drained]), closings]
    exact .still rfl

theorem management_nears (frontier : Frontier) :
    Nears frontier.closings frontier frontier.managementStep.1 := by
  by_cases asked : frontier.target = .finish
  · exact management_finishes frontier asked
  · have closings : frontier.closings = [] := if_neg fun both => asked both.1
    rw [closings]
    exact (management_permitted astray_permits frontier).nears asked

theorem manage_finishes (frontier : Frontier) (asked : frontier.target = .finish) :
    frontier.manage.1 = frontier.managementStep.1 := by
  have ends := (management_finishes frontier asked).target asked
  rw [manage]
  cases result : frontier.managementStep with
  | mk after ended =>
      rw [result] at ends
      cases ended with
      | rests span => rfl
      | refused cause => exact if_pos ends
      | failed => exact if_pos ends

theorem manage_nears (frontier : Frontier) :
    Nears frontier.closings frontier frontier.manage.1 := by
  by_cases asked : frontier.target = .finish
  · rw [manage_finishes frontier asked]
    exact management_finishes frontier asked
  · have closings : frontier.closings = [] := if_neg fun both => asked both.1
    rw [closings]
    exact (manage_permitted astray_permits frontier).nears asked

theorem has_reached (frontier : Frontier) (state : CrawlState) :
    frontier.hasReached state = true ↔ frontier.reached = some state := by
  simp [hasReached, StateCell.hasReached, reached]

theorem supervise_step_shape (frontier : Frontier) (id : Nat) :
    (frontier.reached = some .finish ∧ frontier.superviseStep id = (frontier, .ended)) ∨
    (frontier.reached ≠ some .finish ∧ ∃ signal phase,
      frontier.superviseStep id = ({ frontier.manage.1 with snoozeSignal := signal }, phase) ∧
        (phase = .ended → frontier.manage.1.reached = some .finish)) := by
  rw [superviseStep]
  by_cases finished : frontier.hasReached .finish = true
  · rw [if_pos finished]
    exact .inl ⟨(has_reached frontier .finish).mp finished, rfl⟩
  · rw [if_neg finished]
    refine .inr ⟨fun reached => finished ((has_reached frontier .finish).mpr reached), ?_⟩
    cases frontier.manage with
    | mk after span =>
        by_cases ends : after.hasReached .finish = true
        · simp only [if_pos ends]
          exact ⟨after.snoozeSignal, _, rfl, fun _ => (has_reached after .finish).mp ends⟩
        · by_cases again : span = 0
          · simp only [if_neg ends, if_pos again]
            exact ⟨after.snoozeSignal, _, rfl, by simp⟩
          · simp only [if_neg ends, if_neg again]
            exact ⟨after.snoozeSignal.enrol id, _, rfl, by simp⟩

theorem supervise_step_nears (frontier : Frontier) (id : Nat) :
    Nears (if frontier.reached = some .finish then [] else frontier.closings) frontier
        (frontier.superviseStep id).1 ∧
      ((frontier.superviseStep id).2 = .ended →
        (frontier.superviseStep id).1.reached = some .finish) := by
  rcases supervise_step_shape frontier id with ⟨finished, same⟩ | ⟨goes, signal, phase, same, ended⟩
  · rw [same, if_pos finished]
    exact ⟨.still rfl, fun _ => finished⟩
  · have nears := manage_nears frontier
    rw [same, if_neg goes]
    exact ⟨⟨nears.target, nears.kept, nears.reached, nears.closes⟩, ended⟩

theorem turn_shape (frontier : Frontier) (supervisor : Supervisor) :
    (frontier.canSupervise supervisor = false ∧
      frontier.superviseTurn supervisor = (frontier, supervisor)) ∨
    (frontier.canSupervise supervisor = true ∧ ∃ signal,
      let result := { frontier with snoozeSignal := signal }.superviseStep supervisor.id
      frontier.superviseTurn supervisor = (result.1, { supervisor with phase := result.2 })) := by
  obtain ⟨id, phase⟩ := supervisor
  cases phase with
  | stepping => exact .inr ⟨rfl, frontier.snoozeSignal, rfl⟩
  | ended => exact .inl ⟨rfl, rfl⟩
  | sleeping until_ =>
      by_cases awake : (frontier.snoozeSignal.isAwake id || decide (until_ ≤ frontier.now)) = true
      · refine .inr ⟨(Bool.or_comm _ _).trans awake, frontier.snoozeSignal.consume id, ?_⟩
        · simp only [superviseTurn, supervise, supervisePhase, if_pos awake]
      · refine .inl ⟨(Bool.or_comm _ _).trans (Bool.eq_false_iff.mpr awake), ?_⟩
        · simp only [superviseTurn, supervise, supervisePhase, if_neg awake]

theorem turn_manages (frontier : Frontier) (supervisor : Supervisor) :
    ∃ first last, (frontier.superviseTurn supervisor).1 = { frontier with snoozeSignal := last } ∨
      (frontier.superviseTurn supervisor).1 =
        { { frontier with snoozeSignal := first }.manage.1 with snoozeSignal := last } := by
  rcases turn_shape frontier supervisor with ⟨_, same⟩ | ⟨_, signal, same⟩
  · exact ⟨frontier.snoozeSignal, frontier.snoozeSignal, .inl (by rw [same])⟩
  · rcases supervise_step_shape { frontier with snoozeSignal := signal } supervisor.id with
      ⟨_, still⟩ | ⟨_, last, phase, managed, _⟩
    · exact ⟨signal, signal, .inl (by rw [same, still])⟩
    · exact ⟨signal, last, .inr (by rw [same, managed])⟩

theorem turn_nears (frontier : Frontier) (supervisor : Supervisor) :
    Nears (if frontier.canSupervise supervisor && !frontier.hasReached .finish then
        frontier.closings else []) frontier (frontier.superviseTurn supervisor).1 ∧
      ((frontier.superviseTurn supervisor).2.phase = .ended → supervisor.phase = .ended ∨
        (frontier.superviseTurn supervisor).1.reached = some .finish) := by
  rcases turn_shape frontier supervisor with ⟨idle, same⟩ | ⟨goes, signal, same⟩
  · rw [same, idle]
    exact ⟨.still rfl, .inl⟩
  · obtain ⟨nears, ends⟩ :=
      supervise_step_nears { frontier with snoozeSignal := signal } supervisor.id
    rw [same, goes, Bool.true_and]
    refine ⟨?_, fun ended => .inr (ends ended)⟩
    by_cases finished : frontier.reached = some .finish
    · have stays : frontier.hasReached .finish = true := (has_reached frontier .finish).mpr finished
      rw [if_neg (by simp [stays])]
      rw [if_pos (by exact finished)] at nears
      exact ⟨nears.target, nears.kept, nears.reached, nears.closes⟩
    · have moves : frontier.hasReached .finish = false :=
        Bool.eq_false_iff.mpr fun reached => finished ((has_reached frontier .finish).mp reached)
      rw [if_pos (by simp [moves])]
      rw [if_neg (by exact finished)] at nears
      exact ⟨nears.target, nears.kept, nears.reached, nears.closes⟩

theorem request_nears (frontier : Frontier) (state : CrawlState) :
    Nears [] frontier (frontier.requestState state) := by
  obtain ⟨ready, snooze, same⟩ := World.request_shape frontier state
  rw [same]
  by_cases refused : frontier.target = .finish ∧ state ≠ .finish
  · rw [if_pos refused]
    exact .still rfl
  · rw [if_neg refused]
    refine ⟨fun ends => ?_, fun _ reached => reached, .inl, fun some => absurd rfl some⟩
    -- A crawl that is to finish takes no other order.
    by_cases asked : state = .finish
    · exact asked
    · exact absurd ⟨ends, asked⟩ refused

end Frontier

namespace World

def closings (world : World) : Event → List (Except GatewayError Gateway)
  | .manage => world.frontier.closings
  | .supervise id =>
      match world.supervisor? id with
      | none => []
      | some supervisor =>
          if world.frontier.canSupervise supervisor && !world.frontier.hasReached .finish then
            world.frontier.closings
          else []
  | _ => []

def closed (world : World) : List Event → List (Except GatewayError Gateway)
  | [] => []
  | event :: rest =>
      (if world.admits event then world.closings event else []) ++ (world.step event).closed rest

theorem closed_append (world : World) (first second : List Event) :
    world.closed (first ++ second) =
      world.closed first ++ (first.foldl step world).closed second := by
  induction first generalizing world with
  | nil => rfl
  | cons event rest ih => simp only [List.cons_append, closed, ih, List.append_assoc, List.foldl_cons]

theorem act_nears (world : World) (event : Event) :
    Frontier.Nears (world.closings event) world.frontier (world.act event).frontier := by
  cases event with
  | request state => exact world.frontier.request_nears state
  | manage => exact world.frontier.management_nears
  | supervise id =>
      simp only [act, closings]
      cases world.supervisor? id with
      | none => exact .still rfl
      | some supervisor => exact (world.frontier.turn_nears supervisor).1
  | _ => exact .still (act_cell world _ (by simp) (by simp) (by simp))

theorem step_nears (world : World) (event : Event) :
    Frontier.Nears (world.closed [event]) world.frontier (world.step event).frontier := by
  simp only [closed, List.append_nil]
  by_cases admitted : world.admits event = true
  · rw [step, if_pos admitted, if_pos admitted]
    exact world.act_nears event
  · rw [step, if_neg admitted, if_neg admitted]
    exact .still rfl

theorem closed_event (world : World) (event : Event) (some : world.closed [event] ≠ []) :
    event = .manage ∨ ∃ id, event = .supervise id := by
  simp only [closed, List.append_nil] at some
  cases event with
  | manage => exact .inl rfl
  | supervise id => exact .inr ⟨id, rfl⟩
  | _ => simp [closings] at some

theorem act_ended (world : World) (event : Event) (supervisor : Supervisor)
    (member : supervisor ∈ (world.act event).supervisors) (ended : supervisor.phase = .ended) :
    (∃ old ∈ world.supervisors, old.phase = .ended) ∨
      (world.act event).frontier.reached = some .finish := by
  cases event with
  | hire =>
      simp only [act, List.mem_append, List.mem_singleton] at member
      rcases member with before | fresh
      · exact .inl ⟨supervisor, before, ended⟩
      · rw [fresh] at ended
        cases ended
  | supervise id =>
      simp only [act] at member ⊢
      cases found : world.supervisor? id with
      | none =>
          rw [found] at member
          exact .inl ⟨supervisor, member, ended⟩
      | some waking =>
          rw [found] at member
          obtain ⟨old, listed, same⟩ := List.mem_map.mp member
          by_cases own : old.id = waking.id
          · rw [if_pos own] at same
            rw [← same] at ended
            refine ((world.frontier.turn_nears waking).2 ended).imp_left fun before => ?_
            exact ⟨waking, List.mem_of_find?_eq_some found, before⟩
          · rw [if_neg own] at same
            exact .inl ⟨old, listed, same ▸ ended⟩
  | _ =>
      rw [act_supervisors world _ (by simp) (by simp)] at member
      exact .inl ⟨supervisor, member, ended⟩

structure Finishing (setup : Setup) (events : List Event) (world : World) : Prop where
  target : world.frontier.reached = some .finish → world.frontier.target = .finish
  unclosed : world.frontier.reached ≠ some .finish → (start setup).closed events = []
  ended : ∀ supervisor ∈ world.supervisors, supervisor.phase = .ended →
    world.frontier.reached = some .finish

theorem closed_snoc (setup : Setup) (events : List Event) (event : Event) :
    (start setup).closed (events ++ [event]) =
      (start setup).closed events ++ (run setup events).closed [event] :=
  closed_append (start setup) events [event]

theorem Finishing.next {setup : Setup} {events : List Event} {event : Event}
    (finishing : Finishing setup events (run setup events)) :
    Finishing setup (events ++ [event]) ((run setup events).step event) := by
  have nears := step_nears (run setup events) event
  have stays (reached : (run setup events).frontier.reached = some .finish) :
      ((run setup events).step event).frontier.reached = some .finish :=
    nears.kept (finishing.target reached) reached
  refine ⟨fun reached => ?_, fun unreached => ?_, fun supervisor member ended => ?_⟩
  · rcases nears.reached reached with before | some
    · exact nears.target (finishing.target before)
    · exact nears.target (nears.closes some).1
  · have none : (run setup events).closed [event] = [] :=
      Classical.byContradiction fun some => unreached (nears.closes some).2.2.2.1
    rw [closed_snoc, none, finishing.unclosed fun before => unreached (stays before)]
    rfl
  · rw [step] at member stays ⊢
    split at member
    · rename_i admitted
      rw [if_pos admitted] at stays ⊢
      rcases act_ended _ event supervisor member ended with ⟨old, listed, before⟩ | reached
      · exact stays (finishing.ended old listed before)
      · exact reached
    · rename_i refused
      rw [if_neg refused]
      exact finishing.ended supervisor member ended

theorem run_finishing (setup : Setup) (events : List Event) :
    Finishing setup events (run setup events) := by
  refine run_induction (motive := fun events world => Finishing setup events world) setup ?_ ?_
    events
  · refine ⟨fun reached => ?_, fun _ => rfl, fun supervisor member => ?_⟩
    · cases reached
    · cases member
  · intro events event finishing
    exact finishing.next

theorem target_stays (world : World) (later : List Event)
    (asked : world.frontier.target = .finish) :
    (later.foldl step world).frontier.target = .finish := by
  induction later generalizing world with
  | nil => exact asked
  | cons event rest ih => exact ih (world.step event) ((step_nears world event).target asked)

end World

end PoliteCrawl
