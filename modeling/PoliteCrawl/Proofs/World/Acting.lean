import PoliteCrawl.Proofs.World.Kept

set_option autoImplicit false

namespace PoliteCrawl.World

structure Outside (spared : String → Prop) (related : Frontier → Frontier → Prop) : Prop where
  completing : Frontier.Completing spared related
  permits : Frontier.Permits related
  fund : ∀ frontier budgets, related frontier { frontier with budgets }
  offer : ∀ (frontier : Frontier) offer,
    related frontier { frontier with gateway := frontier.gateway.take offer }
  pass : ∀ (frontier : Frontier) span, related frontier { frontier with now := frontier.now + span }

structure Acting (spared : String → Prop) (related : Frontier → Frontier → Prop) : Prop
    extends Outside spared related where
  dispatching : Frontier.Dispatching spared related
  pulling : Frontier.Pulling spared related
  advance : ∀ frontier ready, related frontier { frontier with ready }
  record : ∀ (frontier : Frontier) queue, ¬ spared queue.key →
    related frontier (frontier.recordDispatch queue)
  order : ∀ frontier cell ready snooze,
    related frontier { frontier with cell, readySignal := ready, snoozeSignal := snooze }

variable {spared : String → Prop} {related : Frontier → Frontier → Prop}

theorem Outside.act (outside : Outside spared related) (world : World) (event : Event)
    (uncalled : ∀ id, event ≠ .proceed id ∧ event ≠ .drop id)
    (asked : ∀ state, event = .request state →
      related world.frontier (world.frontier.requestState state))
    (unclaimed : ∀ key, spared key → key ∉ world.frontier.claims) :
    related world.frontier (world.act event).frontier := by
  have same : related world.frontier world.frontier := outside.completing.refl _
  cases event with
  | schedule uri => exact Frontier.schedule_placed outside.completing.toPlacing world.frontier uri
  | proceed id => exact absurd rfl (uncalled id).1
  | drop id => exact absurd rfl (uncalled id).2
  | complete uri outcome =>
      exact Frontier.complete_moved outside.completing world.frontier uri outcome
        (unclaimed uri.siteKey)
  | request state => exact asked state rfl
  | setBudgets session total => exact outside.fund _ _
  | unretire => exact Frontier.unretire_shelved outside.completing.toShelving world.frontier
  | reroute routing => exact outside.completing.route _ _
  | offer offer => exact outside.offer _ _
  | manage => exact Frontier.management_permitted outside.permits world.frontier
  | supervise id =>
      simp only [World.act]
      cases world.supervisor? id with
      | none => exact same
      | some supervisor => exact Frontier.turn_permitted outside.permits world.frontier supervisor
  | advance span => exact outside.pass _ _
  | call | hire => exact same

theorem Acting.step (acting : Acting spared related) (frontier : Frontier) (id : Nat)
    (phase : CallPhase)
    (busy : ∀ key queue, spared key → frontier.queue? key = some queue → queue.state ≠ .ready) :
    related frontier (frontier.stepPhase id phase).1 := by
  cases phase with
  | polling progress =>
      apply Frontier.poll_kept acting.pulling
      · exact acting.advance
      · intro key
        apply Frontier.dispatch_kept acting.dispatching
        · intro other queue found
          exact busy key queue other found
        · exact acting.record
  | _ => exact Frontier.step_pulled acting.pulling frontier id _ (by simp)

theorem Acting.act (acting : Acting spared related) (world : World) (event : Event)
    (busy : ∀ key queue, spared key → world.frontier.queue? key = some queue →
      queue.state ≠ .ready)
    (unclaimed : ∀ key, spared key → key ∉ world.frontier.claims) :
    related world.frontier (world.act event).frontier := by
  have same : related world.frontier world.frontier := acting.pulling.refl _
  cases event with
  | proceed id =>
      simp only [World.act]
      cases world.call? id with
      | none => exact same
      | some call => exact acting.step world.frontier call.id call.phase busy
  | drop id =>
      simp only [World.act]
      cases world.call? id with
      | none => exact same
      | some call =>
          by_cases ended : call.hasEnded = true
          · simp only [Option.elim, drop, if_pos ended]
            exact same
          · simp only [Option.elim, drop, if_neg ended]
            exact Frontier.cancel_pulled acting.pulling world.frontier call
  | _ =>
      refine acting.toOutside.act world _ (by simp) (fun state _ => ?_) unclaimed
      obtain ⟨ready, snooze, shape⟩ := request_shape world.frontier state
      rw [shape]
      exact acting.order _ _ _ _

theorem Acting.next (acting : Acting Frontier.nobody related) (world : World) (event : Event) :
    related world.frontier (world.step event).frontier := by
  rw [World.step]
  by_cases admitted : world.admits event = true
  · rw [if_pos admitted]
    exact acting.act world event (fun _ _ no => no.elim) fun _ no => no.elim
  · rw [if_neg admitted]
    exact acting.pulling.refl _

theorem config_shelving :
    Frontier.Shelving Frontier.nobody fun before after => after.config = before.config where
  refl _ := rfl
  trans _ _ _ one two := two.trans one
  route _ _ := rfl
  store _ _ _ := rfl
  add _ _ _ _ := rfl
  file _ _ _ := rfl
  count _ := rfl
  publish _ _ := rfl
  shelve _ _ := rfl

theorem config_completing :
    Frontier.Completing Frontier.nobody fun before after => after.config = before.config where
  toShelving := config_shelving
  snooze _ _ _ := rfl
  awaken _ _ _ _ _ := rfl
  release _ _ := rfl
  charge _ _ := rfl
  alarm _ _ := rfl
  tell _ _ _ := rfl

theorem config_acting :
    Acting Frontier.nobody fun before after => after.config = before.config where
  completing := config_completing
  dispatching :=
    { toShelving := config_shelving
      hold _ _ _ _ := rfl
      release _ _ := rfl
      reclassify _ := rfl }
  pulling :=
    { toPlacing := config_shelving.toPlacing
      take _ _ _ _ := rfl
      pull _ _ := rfl
      signal _ _ := rfl }
  permits :=
    { refl := config_shelving.refl
      trans := config_shelving.trans
      mark _ _ _ := rfl
      retarget _ _ _ _ _ := rfl
      notify _ := rfl
      call _ := rfl
      snooze _ _ := rfl
      close _ _ _ _ := rfl
      wake := Frontier.wake_dozed config_completing.toDozing }
  advance _ _ := rfl
  record _ _ _ := rfl
  order _ _ _ _ := rfl
  fund _ _ := rfl
  offer _ _ := rfl
  pass _ _ := rfl

theorem run_config (setup : Setup) (events : List Event) :
    (run setup events).frontier.config = setup.config := by
  refine run_induction (motive := fun _ world => world.frontier.config = setup.config) setup rfl ?_
    events
  intro events event same
  exact (config_acting.next _ event).trans same

end PoliteCrawl.World
