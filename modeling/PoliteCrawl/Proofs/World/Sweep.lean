import PoliteCrawl.Proofs.Frontier.Sweep
import PoliteCrawl.Proofs.World.Finish
import PoliteCrawl.Proofs.World.Vigils

set_option autoImplicit false

namespace PoliteCrawl

namespace Frontier

def rerouted (frontier : Frontier) (routing : Routing) : Frontier :=
  { frontier with routing }

-- Where a supervisor takes its step: if it slept, it has noticed that it was woken.
def aroused (frontier : Frontier) (supervisor : Supervisor) : Frontier :=
  match supervisor.phase with
  | .sleeping _ => { frontier with snoozeSignal := frontier.snoozeSignal.consume supervisor.id }
  | _ => frontier

theorem aroused_turn (frontier : Frontier) (supervisor : Supervisor)
    (goes : frontier.canSupervise supervisor = true) :
    (frontier.superviseTurn supervisor).1 =
      ((frontier.aroused supervisor).superviseStep supervisor.id).1 := by
  obtain ⟨id, phase⟩ := supervisor
  cases phase with
  | stepping => rfl
  | ended => cases goes
  | sleeping until_ =>
      have awake : (frontier.snoozeSignal.isAwake id || decide (until_ ≤ frontier.now)) = true :=
        (Bool.or_comm _ _).trans goes
      simp only [superviseTurn, supervise, supervisePhase, if_pos awake, aroused]

theorem turn_breaks (frontier : Frontier) (supervisor : Supervisor)
    (registered : frontier.Registered) (open_ : frontier.reached ≠ some .finish)
    (goes : frontier.canSupervise supervisor = true)
    (failed : (frontier.aroused supervisor).managementStep.2 = .failed) :
    (frontier.target = .run ∨ frontier.target = .empty) ∧
      (frontier.superviseTurn supervisor).1.target = .pause ∧
      ∃ woken entry rest, frontier.Broken woken entry rest (frontier.superviseTurn supervisor).1 := by
  obtain ⟨base, same⟩ : ∃ base, base = frontier.aroused supervisor := ⟨_, rfl⟩
  have aroused : base = { frontier with
      cell := base.cell, snoozeSignal := base.snoozeSignal } ∧ base.cell = frontier.cell := by
    rw [same, Frontier.aroused]
    split <;> exact ⟨rfl, rfl⟩
  rw [aroused_turn frontier supervisor goes, ← same]
  rw [← same] at failed
  obtain ⟨state, target, running, woken⟩ := management_fails base failed
  have cell : base.target = frontier.target := congrArg StateCell.target aroused.2
  have stays := wake_stays (base.markReached state)
  have broken := wake_breaks (base.markReached state)
    (by rw [aroused.1]; exact ⟨registered.once, registered.ascending, registered.settled⟩)
    (congrArg Prod.snd woken)
  rw [woken] at stays broken
  have still : base.managementStep.1.target = state := by
    have kept := congrArg (StateCell.target ∘ Setting.cell) stays.setting
    exact kept.trans ((base.mark_target state).trans target)
  have paused : base.manage.1 = base.managementStep.1.setTarget .pause := by
    have ended : base.managementStep = (base.managementStep.1, .failed) := Prod.ext rfl failed
    rw [manage, ended]
    simp only [forcePause]
    rw [if_neg (by rw [still]; rcases running with same | same <;> simp [same])]
  have reached : base.reached = frontier.reached := congrArg StateCell.reached aroused.2
  rcases supervise_step_shape base supervisor.id with ⟨finished, _⟩ | ⟨_, signal, _, stepped, _⟩
  · exact absurd (reached.symm.trans finished) open_
  · rw [stepped, paused]
    refine ⟨by rw [← cell, target]; exact running, rfl, ?_⟩
    obtain ⟨first, entry, rest, broken⟩ := broken
    have marked : base.markReached state = { frontier with
        cell := (base.markReached state).cell
        snoozeSignal := (base.markReached state).snoozeSignal } := by
      rw [aroused.1]
      rfl
    exact ⟨first, entry, rest, broken.still _ signal marked rfl⟩

theorem Dozes.asleep {before after : Frontier} (dozes : before.Dozes after) :
    before.snoozed ⊆ after.snoozed := by
  intro entry listed
  rcases dozes with same | ⟨key, wake, same⟩
  · have snoozed : after.snoozed = before.snoozed := congrArg Prod.fst same
    exact snoozed ▸ listed
  · have snoozed : after.snoozed = Snoozed.insert { wake, key } before.snoozed :=
      congrArg Prod.fst same
    rw [snoozed, (Snoozed.insert_perm _ _).mem_iff]
    exact List.mem_cons_of_mem _ listed

theorem drained_snoozed (frontier : Frontier) : frontier.noteDrained.snoozed = frontier.snoozed := by
  rw [noteDrained]
  split <;> rfl

theorem complete_asleep (frontier : Frontier) (uri : CrawlUri) (outcome : Outcome)
    (calm : frontier.Calm) (registered : frontier.Registered) :
    frontier.snoozed ⊆ (frontier.complete uri outcome).1.snoozed := by
  rcases frontier.complete_reported uri outcome with ⟨_, refused⟩ | ⟨queue, head, rest, reported⟩
  · rw [refused]
    exact List.Subset.refl _
  · obtain ⟨landed, dozes, ended⟩ :=
      complete_dozes frontier uri head rest outcome queue calm registered reported
    rw [ended, drained_snoozed]
    exact dozes.asleep

theorem wake_queues_due (frontier : Frontier) :
    frontier.wakeQueues.1 = (frontier.wakeDue frontier.snoozed).1 := by
  rw [wakeQueues]
  split <;> rename_i result <;> rw [result]

theorem wake_all (frontier : Frontier) (calm : frontier.Calm) (registered : frontier.Registered)
    (ordered : frontier.Ordered) :
    frontier.wakeQueues.2 ≠ none ∧ frontier.wakeQueues.1.Registered ∧
      (∀ entry ∈ frontier.snoozed, entry.wake ≤ frontier.now →
        frontier.Roused entry.key frontier.wakeQueues.1) ∧
      ∀ entry ∈ frontier.wakeQueues.1.snoozed, frontier.now < entry.wake := by
  obtain ⟨slumber, answer⟩ := wake_slumber frontier calm registered
  have left : frontier.wakeQueues.1.snoozed = frontier.snoozed.asleep frontier.now :=
    congrArg Prod.fst slumber
  have early := Snoozed.asleep_early frontier.snoozed frontier.now ordered
  rw [← left] at early
  have swept := wake_due_sweeps frontier.snoozed frontier registered rfl
  obtain ⟨woken, _⟩ := wake_due_calm frontier.snoozed frontier calm registered rfl
  rw [wake_queues_due] at early ⊢
  refine ⟨by rw [answer]; simp, ?_⟩
  generalize frontier.wakeDue frontier.snoozed = result at swept woken early
  cases swept with
  | breaks => cases woken
  | whole awoken _ =>
      refine ⟨awoken.registered, fun entry listed due => ?_, early⟩
      rw [awoken.line] at listed
      rcases List.mem_append.mp listed with rises | sleeps
      · exact awoken.roused entry rises
      · exact absurd due (Nat.not_le.mpr (early entry sleeps))

end Frontier

def Event.unattended : Event → Bool
  | .manage => false
  | .supervise _ => false
  | _ => true

namespace World

theorem act_snoozed (world : World) (event : Event) (unattended : event.unattended = true)
    (uncompleted : ∀ uri outcome, event ≠ .complete uri outcome) :
    (world.act event).frontier.snoozed = world.frontier.snoozed := by
  have same (after : Frontier) (slumber : after.slumber = world.frontier.slumber) :
      after.snoozed = world.frontier.snoozed := congrArg Prod.fst slumber
  cases event with
  | schedule uri =>
      exact same _ (Frontier.schedule_placed Frontier.slumber_placing world.frontier uri)
  | proceed id =>
      simp only [act]
      cases world.call? id with
      | none => exact same _ rfl
      | some call => exact same _ (world.frontier.step_slumber call.id call.phase)
  | drop id =>
      simp only [act]
      cases world.call? id with
      | none => exact same _ rfl
      | some call =>
          by_cases ended : call.hasEnded = true
          · simp only [Option.elim, drop, if_pos ended]
          · simp only [Option.elim, drop, if_neg ended]
            exact same _ (Frontier.cancel_pulled Frontier.slumber_pulling world.frontier call)
  | complete uri outcome => exact absurd rfl (uncompleted uri outcome)
  | request state =>
      obtain ⟨ready, snooze, shape⟩ := request_shape world.frontier state
      simp only [act, shape]
  | unretire =>
      exact same _
        (Frontier.unretire_shelved Frontier.slumber_dispatching.toShelving world.frontier)
  | manage | supervise _ => cases unattended
  | setBudgets _ _ | reroute _ | offer _ | advance _ | call | hire => exact same _ rfl

theorem act_asleep {origin : Gateway} (world : World) (event : Event)
    (kept : Kept origin world.frontier world.journal) (unattended : event.unattended = true) :
    world.frontier.snoozed ⊆ (world.act event).frontier.snoozed := by
  cases event with
  | complete uri outcome =>
      exact world.frontier.complete_asleep uri outcome kept.calm kept.registered
  | _ =>
      rw [act_snoozed world _ unattended (by simp)]
      exact List.Subset.refl _

theorem later_kept {origin : Gateway} (world : World) (later : List Event)
    (calm : ∀ event ∈ later, event.Calm) (kept : Kept origin world.frontier world.journal) :
    Kept origin (later.foldl step world).frontier (later.foldl step world).journal ∧
      ((∀ event ∈ later, event.unattended = true) →
        world.frontier.snoozed ⊆ (later.foldl step world).frontier.snoozed) := by
  induction later generalizing world with
  | nil => exact ⟨kept, fun _ => List.Subset.refl _⟩
  | cons event rest ih =>
      have others : ∀ other ∈ rest, other.Calm := fun other listed =>
        calm other (List.mem_cons_of_mem _ listed)
      rw [List.foldl_cons, step]
      by_cases admitted : world.admits event = true
      · rw [if_pos admitted]
        obtain ⟨after, asleep⟩ := ih (world.act event) others
          (act_kept origin world event (calm event List.mem_cons_self) kept)
        refine ⟨after, fun unattended => ?_⟩
        exact List.Subset.trans
          (act_asleep world event kept (unattended event List.mem_cons_self))
          (asleep fun other listed => unattended other (List.mem_cons_of_mem _ listed))
      · rw [if_neg admitted]
        obtain ⟨after, asleep⟩ := ih world others kept
        exact ⟨after, fun unattended =>
          asleep fun other listed => unattended other (List.mem_cons_of_mem _ listed)⟩

-- A sweep of a supervisor between two changes of the routing.
theorem run_mended (setup : Setup) (events later : List Event) (routing mended : Routing) (id : Nat)
    (supervisor : Supervisor) (idle : (run setup events).turn = none)
    (found : (run setup events).supervisor? id = some supervisor) :
    ∃ swept : World,
      run setup (events ++ .reroute routing :: .supervise id :: .reroute mended :: later) =
        later.foldl step swept ∧
      swept.frontier = (((run setup events).frontier.rerouted routing).superviseTurn
        supervisor).1.rerouted mended ∧
      swept.journal = (run setup events).journal := by
  let rerouted := (run setup events).act (.reroute routing)
  have next (world : World) (event : Event) (free : world.turn = none) :
      world.step event = world.act event := by
    simp [step, admits, free]
  have present : rerouted.supervisor? id = some supervisor := found
  have swept : rerouted.act (.supervise id) = rerouted.supervise supervisor := by
    rw [act, present]
    rfl
  refine ⟨(rerouted.supervise supervisor).act (.reroute mended), ?_, rfl, rfl⟩
  rw [run, List.foldl_append]
  change later.foldl step ((((run setup events).step _).step _).step _) = _
  rw [next _ _ idle, next rerouted _ idle, swept, next (rerouted.supervise supervisor) _ idle]

theorem Kept.mended {origin : Gateway} {before after : Frontier} {journal : List Entry}
    {woken rest : Snoozed} {failed : SnoozeEntry} (kept : Kept origin before journal)
    (routing mended : Routing) (calm : mended.faults = [])
    (broken : (before.rerouted routing).Broken woken failed rest after) :
    Kept origin (after.rerouted mended) journal where
  calm := calm
  registered :=
    ⟨broken.registered.once, broken.registered.ascending, broken.registered.settled⟩
  posted := by
    have posted := kept.posted.trans broken.posted
    rw [List.append_nil] at posted
    exact posted
  addressed := kept.addressed
  paired := kept.paired
  heard := by
    have same : after.gateway = before.gateway := broken.gateway
    change origin.Heard _ after.gateway
    rw [same]
    exact kept.heard

end World

/-- If the routing fails a supervisor in a sweep, which it can do only where the crawl is to run or is
empty, the supervisor pauses the crawl and the registers still match the states of the queues. The sweep
came to an entry that was due: those before it are awake and have their places; the queue of the entry
sleeps, in the one register of those who sleep, and is due at once; and those behind it sleep on until
the same times as before. As long as nobody works toward the target they all stay asleep, and as soon as
the routing answers again a sweep wakes all who are due. -/
theorem failed_sweep_loses_nothing (setup : Setup) (events : List Event) (routing : Routing)
    (supervisor : Supervisor) (calm : Calm setup events)
    (goes : ((World.run setup events).frontier.rerouted routing).canSupervise supervisor = true)
    (failed : (((World.run setup events).frontier.rerouted routing).aroused
      supervisor).managementStep.2 = .failed) :
    let frontier := (World.run setup events).frontier.rerouted routing
    let after := (frontier.superviseTurn supervisor).1
    (frontier.target = .run ∨ frontier.target = .empty) ∧ after.target = .pause ∧
      after.Registered ∧
      ∃ woken entry rest, frontier.snoozed = woken ++ entry :: rest ∧
        (∀ other ∈ woken ++ [entry], other.wake ≤ frontier.now) ∧
        (∀ other ∈ woken, frontier.Roused other.key after) ∧
        (∃ queue, after.queue? entry.key = some queue ∧ queue.state = .snoozed ∧
          queue.wakeTime = some frontier.now ∧ after.standing entry.key =
            { Standing.nowhere with snoozed := [{ wake := frontier.now, key := entry.key }] }) ∧
        (after.snoozed.Perm ({ wake := frontier.now, key := entry.key } :: rest) ∧
          ∀ other ∈ rest, after.queue? other.key = frontier.queue? other.key) ∧
        ∀ id mended later, (World.run setup events).turn = none →
          (World.run setup events).supervisor? id = some supervisor →
          (∀ event ∈ .reroute mended :: later, event.Calm) →
          let final := (World.run setup
            (events ++ .reroute routing :: .supervise id :: .reroute mended :: later)).frontier
          frontier.now ≤ final.now ∧ final.wakeQueues.2 ≠ none ∧
            final.wakeQueues.1.Registered ∧
            (∀ other ∈ final.snoozed, other.wake ≤ final.now →
              final.Roused other.key final.wakeQueues.1) ∧
            (∀ other ∈ final.wakeQueues.1.snoozed, final.now < other.wake) ∧
            ((∀ event ∈ later, event.unattended = true) → after.snoozed ⊆ final.snoozed) := by
  intro frontier after
  have kept := World.run_kept setup events calm
  have registered : frontier.Registered :=
    ⟨kept.registered.once, kept.registered.ascending, kept.registered.settled⟩
  have open_ : frontier.reached ≠ some .finish := by
    intro finished
    have ends : frontier.target = .finish := (World.run_finishing setup events).target finished
    obtain ⟨state, target, running, _⟩ := Frontier.management_fails _ failed
    have same : (frontier.aroused supervisor).target = frontier.target := by
      rw [Frontier.aroused]
      split <;> rfl
    rw [← target, same, ends] at running
    rcases running with other | other <;> cases other
  obtain ⟨running, paused, woken, entry, rest, broken⟩ :=
    frontier.turn_breaks supervisor registered open_ goes failed
  have snoozed : after.snoozed.Perm ({ wake := frontier.now, key := entry.key } :: rest) :=
    broken.snoozed ▸ Snoozed.insert_perm _ rest
  refine ⟨running, paused, broken.registered, woken, entry, rest, broken.line, broken.due,
    broken.roused, ?_, ⟨snoozed, ?_⟩, ?_⟩
  · obtain ⟨queue, found, asleep, again⟩ := broken.asleep
    have listed : { wake := frontier.now, key := entry.key } ∈ after.snoozed :=
      snoozed.mem_iff.mpr List.mem_cons_self
    obtain ⟨_, _, _, _, here, _⟩ := after.snoozed_queue _ broken.registered listed
    exact ⟨_, again, asleep, rfl, here⟩
  · exact broken.behind registered
  · intro id mended later idle found quiet final
    have answers : mended.faults = [] := quiet (.reroute mended) List.mem_cons_self
    obtain ⟨swept, whole, same, journal⟩ :=
      World.run_mended setup events later routing mended id supervisor idle found
    have well := kept.mended routing mended answers broken
    rw [← same, ← journal] at well
    obtain ⟨still, asleep⟩ := World.later_kept swept later
      (fun event listed => quiet event (List.mem_cons_of_mem _ listed)) well
    have clock := (World.run_dreams swept later).clock
    have now : swept.frontier.now = frontier.now := by
      rw [same]
      exact broken.now
    have left : swept.frontier.snoozed = after.snoozed := by
      rw [same]
      rfl
    have ordered : final.Ordered := World.run_ordered setup _
    rw [← whole] at still asleep clock
    obtain ⟨succeeds, settled, roused, early⟩ :=
      final.wake_all still.calm still.registered ordered
    exact ⟨now ▸ clock, succeeds, settled, roused, early, left ▸ asleep⟩

-- Two sites have served their pauses, and a supervisor is hired.
def twoPauses : List Event :=
  [.request .run, .schedule (page "a.com" "1"), .schedule (page "a.com" "2"),
    .schedule (page "b.com" "1"), .schedule (page "b.com" "2"), .call, .proceed 0, .proceed 0,
    .proceed 0, .proceed 0, .call, .proceed 1, .proceed 1, .proceed 1, .proceed 1,
    .complete firstPage fetched, .complete { page "b.com" "1" with siteKey := "b.com" } fetched,
    .hire, .advance (Time.millis 100)]

def Routing.faltering : Routing :=
  { Routing.new 1 with faults := [false, true] }

theorem failed_sweep_loses_nothing_two_pauses :
    let frontier := (World.run Setup.polite twoPauses).frontier.rerouted .faltering
    let after := (frontier.superviseTurn (Supervisor.start 2)).1
    let final := (World.run Setup.polite (twoPauses ++ .reroute .faltering :: .supervise 2 ::
      .reroute (Routing.new 1) :: [.request .run])).frontier
    frontier.snoozed = [⟨Time.millis 100, "a.com"⟩, ⟨Time.millis 100, "b.com"⟩] ∧
      after.target = .pause ∧ after.Registered ∧ after.snoozed = [⟨Time.millis 100, "b.com"⟩] ∧
      after.snoozed ⊆ final.snoozed ∧ final.Roused "b.com" final.wakeQueues.1 := by
  have calm : Calm Setup.polite twoPauses := ⟨rfl, by simp [twoPauses, Event.Calm]⟩
  obtain ⟨_, paused, registered, _, _, _, _, _, _, _, _, later⟩ :=
    failed_sweep_loses_nothing Setup.polite twoPauses .faltering (Supervisor.start 2) calm
      (by decide +kernel) (by decide +kernel)
  obtain ⟨_, _, _, roused, _, asleep⟩ := later 2 (Routing.new 1) [.request .run]
    (by decide +kernel) (by decide +kernel) (by simp [Event.Calm, Routing.new])
  have kept := asleep (by simp [Event.unattended])
  exact ⟨by decide +kernel, paused, registered, by decide +kernel, kept,
    roused ⟨Time.millis 100, "b.com"⟩ (by decide +kernel) (by decide +kernel)⟩

end PoliteCrawl
