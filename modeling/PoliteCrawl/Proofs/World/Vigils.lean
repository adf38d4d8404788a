import PoliteCrawl.Proofs.Frontier.Sleep
import PoliteCrawl.Proofs.World.Finish
import PoliteCrawl.Proofs.World.Flights
import PoliteCrawl.Proofs.World.Pauses
import PoliteCrawl.Proofs.World.Stranding

set_option autoImplicit false

namespace PoliteCrawl

namespace Frontier

def Ordered (frontier : Frontier) : Prop :=
  frontier.snoozed.Ascending

theorem ordered_shelving : Shelving nobody fun before after => before.Ordered → after.Ordered where
  refl _ := id
  trans _ _ _ one two := two ∘ one
  route _ _ := id
  store _ _ _ := id
  add _ _ _ _ := id
  file _ _ _ := id
  count _ := id
  publish _ _ := id
  shelve _ _ := id

theorem ordered_completing :
    Completing nobody fun before after => before.Ordered → after.Ordered where
  toShelving := ordered_shelving
  snooze frontier key wake := Snoozed.insert_ascending { wake, key } frontier.snoozed
  awaken frontier entry rest line _ ordered := by
    rw [Ordered, line] at ordered
    exact (List.pairwise_cons.mp ordered).2
  release _ _ := id
  charge _ _ := id
  alarm _ _ := id
  tell _ _ _ := id

theorem ordered_acting : World.Acting nobody fun before after => before.Ordered → after.Ordered where
  completing := ordered_completing
  dispatching :=
    { toShelving := ordered_shelving
      hold _ _ _ _ := id
      release _ _ := id
      reclassify _ := id }
  pulling :=
    { toPlacing := ordered_shelving.toPlacing
      take _ _ _ _ := id
      pull _ _ := id
      signal _ _ := id }
  permits :=
    { refl := ordered_shelving.refl
      trans := ordered_shelving.trans
      mark _ _ _ := id
      retarget _ _ _ _ _ := id
      notify _ := id
      call _ := id
      snooze _ _ := id
      close _ _ _ _ := id
      wake := wake_dozed ordered_completing.toDozing }
  advance _ _ := id
  record _ _ _ := id
  order _ _ _ _ := id
  fund _ _ := id
  offer _ _ := id
  pass _ _ := id

theorem busy_guarding (key : String) : Guarding (· = key)
    fun before after => (before.lane key).busy = true → (after.lane key).busy = true where
  still before after queues _ busy := by
    obtain ⟨queue, found, process⟩ := (before.busy_process key).mp busy
    exact (after.busy_process key).mpr
      ⟨queue, (queues_queue before after key queues).trans found, process⟩
  trans _ _ _ one two busy := two (one busy)
  store frontier queue fits busy := by
    obtain ⟨old, found, process⟩ := (frontier.busy_process key).mp busy
    refine (busy_process _ key).mpr ?_
    by_cases here : queue.key = key
    · subst here
      exact ⟨queue, store_same frontier queue old found, fits rfl old found process⟩
    · exact ⟨old, (store_other frontier queue key (Ne.symm here)).trans found, process⟩
  add frontier other tier _ busy := by
    obtain ⟨queue, found, process⟩ := (frontier.busy_process key).mp busy
    refine (busy_process _ key).mpr ⟨queue, ?_, process⟩
    rw [add_queue, found]
    rfl
  hold _ _ _ _ busy := busy
  release _ _ busy := busy

theorem step_claims (frontier : Frontier) (id : Nat) (phase : CallPhase) (calm : frontier.Calm)
    (registered : frontier.Registered) (key : String) (claimed : key ∈ frontier.claims) :
    key ∈ (frontier.stepPhase id phase).1.claims := by
  have after := (frontier.step_proceeds id phase calm registered).registered
  have busy := (frontier.busy_process key).mpr ((frontier.claimed_process key registered).mp claimed)
  refine ((Frontier.claimed_process _ key after).mpr ((busy_process _ key).mp ?_))
  refine (World.guarding_acting (busy_guarding key)).step frontier id phase ?_ busy
  intro other queue same found ready
  subst same
  obtain ⟨_, present, process⟩ := (frontier.busy_process other).mp busy
  rw [found] at present
  cases present
  rw [ready] at process
  cases process

theorem step_guards (frontier : Frontier) (id : Nat) (phase : CallPhase) (calm : frontier.Calm)
    (registered : frontier.Registered) : frontier.Guards (frontier.stepPhase id phase).1 := by
  obtain ⟨config, now⟩ := frontier.step_even id phase
  refine .still (frontier.step_slumber id phase) (frontier.step_cell id phase) config
    (Nat.le_of_eq now.symm) fun drained => ?_
  refine List.eq_nil_iff_forall_not_mem.mpr fun key claimed => ?_
  have kept := frontier.step_claims id phase calm registered key claimed
  rw [drained] at kept
  cases kept

theorem cancel_guards (frontier : Frontier) (call : Call) : frontier.Guards (frontier.cancel call) := by
  have minds := frontier.cancel_minds call
  obtain ⟨config, now⟩ := cancel_pulled even_pulling frontier call
  exact .still (cancel_pulled slumber_pulling frontier call) minds.cell config
    (Nat.le_of_eq now.symm) minds.claims.symm.trans

theorem Guards.awake {before after : Frontier} (guards : before.Guards after)
    (once : before.snoozeSignal.roll.Nodup) (supervisor : Supervisor)
    (goes : before.canSupervise supervisor = true) : after.canSupervise supervisor = true := by
  rw [canSupervise] at goes ⊢
  cases phase : supervisor.phase with
  | stepping => rfl
  | ended =>
      rw [phase] at goes
      cases goes
  | sleeping until_ =>
      rw [phase] at goes
      simp only [Bool.or_eq_true, decide_eq_true_eq] at goes ⊢
      rcases goes with due | woken
      · exact .inl (Nat.le_trans due guards.clock)
      · obtain ⟨wake, awake, member⟩ := (Signal.awake_iff _ once _).mp woken
        refine .inr ((Signal.awake_iff _ (guards.roll ▸ once) _).mpr ⟨wake, awake, ?_⟩)
        exact guards.stirs.kept _ wake trivial awake member

end Frontier

namespace World

theorem run_ordered (setup : Setup) (events : List Event) : (run setup events).frontier.Ordered := by
  refine run_induction (motive := fun _ world => world.frontier.Ordered) setup .nil ?_ events
  intro events event ordered
  exact Frontier.ordered_acting.next _ event ordered

-- The supervisors that sleep are enrolled to be woken, each once.
structure Rostered (world : World) : Prop where
  fresh : ∀ supervisor ∈ world.supervisors, supervisor.id < world.nextId
  once : world.frontier.snoozeSignal.roll.Nodup
  roll : ∀ id, id ∈ world.frontier.snoozeSignal.roll ↔
    ∃ supervisor, world.supervisor? id = some supervisor ∧ supervisor.phase.sleeps = true

-- One of the supervisors can go on or is done, or has nothing to do before the time until which it
-- sleeps.
def Watched (world : World) : Prop :=
  ∃ id supervisor, world.supervisor? id = some supervisor ∧
    (world.frontier.canSupervise supervisor = true ∨ supervisor.phase = .ended ∨
      ∃ until_, supervisor.phase = .sleeping until_ ∧ world.frontier.Vigil until_)

theorem supervisor_id (world : World) (id : Nat) (supervisor : Supervisor)
    (found : world.supervisor? id = some supervisor) : supervisor.id = id := by
  simpa using List.find?_some found

theorem Rostered.roster {world : World} {id : Nat} {supervisor : Supervisor}
    (rostered : world.Rostered) (found : world.supervisor? id = some supervisor) :
    world.frontier.Roster supervisor := by
  refine ⟨rostered.once, (rostered.roll supervisor.id).trans ?_⟩
  rw [supervisor_id world id supervisor found, found]
  simp

theorem start_rostered (setup : Setup) : (start setup).Rostered where
  fresh supervisor listed := by simp [start] at listed
  once := by simp [start, Frontier.new, Signal.new, Signal.roll]
  roll id := by simp [start, Frontier.new, Signal.new, Signal.roll, supervisor?]

theorem Rostered.guarded {world after : World} (rostered : world.Rostered)
    (guards : world.frontier.Guards after.frontier) (same : after.supervisors = world.supervisors)
    (later : world.nextId ≤ after.nextId) : after.Rostered := by
  refine ⟨fun supervisor listed => ?_, guards.roll ▸ rostered.once, fun id => ?_⟩
  · exact Nat.lt_of_lt_of_le (rostered.fresh supervisor (same ▸ listed)) later
  · rw [guards.roll, rostered.roll, supervisor?, supervisor?, same]

theorem Watched.guarded {world after : World} (rostered : world.Rostered) (watched : world.Watched)
    (guards : world.frontier.Guards after.frontier)
    (same : ∀ id supervisor, world.supervisor? id = some supervisor →
      after.supervisor? id = some supervisor) : after.Watched := by
  have once : after.frontier.snoozeSignal.roll.Nodup := guards.roll ▸ rostered.once
  -- A supervisor that sleeps and was woken can go on.
  have wakes (id : Nat) (wake : Wake) (member : (id, wake) ∈ after.frontier.snoozeSignal.enrolled)
      (woken : wake ≠ .waiting) : after.Watched := by
    have listed : id ∈ after.frontier.snoozeSignal.roll := List.mem_map_of_mem member
    rw [guards.roll, rostered.roll] at listed
    obtain ⟨supervisor, found, sleeps⟩ := listed
    refine ⟨id, supervisor, same id supervisor found, .inl ?_⟩
    have awake := (Signal.awake_iff _ once id).mpr ⟨wake, woken, member⟩
    rw [Frontier.canSupervise, supervisor_id world id supervisor found]
    cases phase : supervisor.phase with
    | stepping => rfl
    | sleeping until_ => simp [awake]
    | ended =>
        rw [phase] at sleeps
        cases sleeps
  obtain ⟨id, supervisor, found, goes | ended | ⟨until_, phase, vigil⟩⟩ := watched
  · exact ⟨id, supervisor, same id supervisor found, .inl (guards.awake rostered.once supervisor goes)⟩
  · exact ⟨id, supervisor, same id supervisor found, .inr (.inl ended)⟩
  · rcases guards.vigil until_ vigil with still | ⟨other, picked⟩ | silent
    · exact ⟨id, supervisor, same id supervisor found, .inr (.inr ⟨until_, phase, still⟩)⟩
    · exact wakes other .picked picked (by simp)
    · have listed := (rostered.roll id).mpr ⟨supervisor, found, by rw [phase]; rfl⟩
      rw [← guards.roll] at listed
      obtain ⟨⟨waiter, wake⟩, member, named⟩ := List.mem_map.mp listed
      have own : waiter = id := named
      subst own
      exact wakes waiter wake member fun waits => silent waiter (waits ▸ member)

theorem act_later (world : World) (event : Event) : world.nextId ≤ (world.act event).nextId := by
  cases event with
  | call | hire => exact Nat.le_succ _
  | proceed id =>
      simp only [act]
      cases world.call? id <;> exact Nat.le_refl _
  | drop id =>
      simp only [act]
      cases world.call? id with
      | none => exact Nat.le_refl _
      | some call =>
          simp only [Option.elim, drop]
          split <;> exact Nat.le_refl _
  | supervise id =>
      simp only [act]
      cases world.supervisor? id <;> exact Nat.le_refl _
  | _ => exact Nat.le_refl _

theorem act_guards {origin : Gateway} (world : World) (event : Event)
    (kept : Kept origin world.frontier world.journal) (unmanaged : event ≠ .manage)
    (unsupervised : ∀ id, event ≠ .supervise id) :
    world.frontier.Guards (world.act event).frontier := by
  have still : world.frontier.Guards world.frontier := .still rfl rfl rfl (Nat.le_refl _) id
  cases event with
  | schedule uri =>
      exact (world.frontier.schedule_stays uri).guards
        (Frontier.schedule_placed Frontier.slumber_placing world.frontier uri)
  | proceed id =>
      simp only [act]
      cases world.call? id with
      | none => exact still
      | some call => exact world.frontier.step_guards call.id call.phase kept.calm kept.registered
  | drop id =>
      simp only [act]
      cases world.call? id with
      | none => exact still
      | some call =>
          by_cases ended : call.hasEnded = true
          · simp only [Option.elim, drop, if_pos ended]
            exact still
          · simp only [Option.elim, drop, if_neg ended]
            exact world.frontier.cancel_guards call
  | complete uri outcome =>
      exact world.frontier.complete_guards uri outcome kept.calm kept.registered
  | request state => exact world.frontier.request_guards state
  | unretire =>
      exact world.frontier.unretire_stays.guards
        (Frontier.unretire_shelved Frontier.slumber_dispatching.toShelving world.frontier)
  | manage => exact absurd rfl unmanaged
  | supervise id => exact absurd rfl (unsupervised id)
  | advance span => exact .still rfl rfl rfl (Nat.le_add_right _ _) id
  | setBudgets _ _ | reroute _ | offer _ => exact .still rfl rfl rfl (Nat.le_refl _) id
  | call | hire => exact still

theorem supervisor_hire (world : World) (id : Nat) :
    (world.act .hire).supervisor? id =
      (world.supervisor? id).or
        (if world.nextId = id then some (Supervisor.start world.nextId) else none) := by
  rw [supervisor?, act, List.find?_append, List.find?_singleton]
  by_cases new : world.nextId = id <;> simp [supervisor?, Supervisor.start, new]

theorem supervisor_supervise (world : World) (supervisor : Supervisor) (id : Nat)
    (named : (world.frontier.superviseTurn supervisor).2.id = supervisor.id) :
    (world.supervise supervisor).supervisor? id =
      (world.supervisor? id).map fun old =>
        if old.id = supervisor.id then (world.frontier.superviseTurn supervisor).2 else old := by
  unfold supervisor? supervise
  rw [List.find?_map]
  congr 2
  funext old
  by_cases same : old.id = supervisor.id
  · simp [same, named]
  · simp [same]

theorem Rostered.hire {world : World} (rostered : world.Rostered) :
    (world.act .hire).Rostered := by
  have free (supervisor : Supervisor) : world.supervisor? world.nextId ≠ some supervisor := by
    intro found
    have older := rostered.fresh supervisor (List.mem_of_find?_eq_some found)
    exact Nat.lt_irrefl _ (supervisor_id world _ supervisor found ▸ older)
  refine ⟨fun supervisor listed => ?_, rostered.once, fun id => (rostered.roll id).trans ?_⟩
  · rcases List.mem_append.mp listed with old | new
    · exact Nat.lt_succ_of_lt (rostered.fresh supervisor old)
    · rw [List.mem_singleton] at new
      rw [new]
      exact Nat.lt_succ_self _
  · rw [supervisor_hire]
    cases found : world.supervisor? id with
    | some old => simp
    | none =>
        by_cases new : world.nextId = id
        · simp [new, Supervisor.start, SupervisorPhase.sleeps]
        · simp [new]

theorem Watched.hire {world : World} (rostered : world.Rostered)
    (before : world.supervisors ≠ [] → world.Watched) : (world.act .hire).Watched := by
  by_cases some : world.supervisors = []
  · refine ⟨world.nextId, Supervisor.start world.nextId, ?_, .inl rfl⟩
    rw [supervisor_hire, supervisor?, some]
    simp
  · refine (before some).guarded rostered (.still rfl rfl rfl (Nat.le_refl _) id) ?_
    intro id supervisor found
    rw [supervisor_hire, found]
    rfl

theorem Rostered.renumbered {world : World} (rostered : world.Rostered) (supervisor : Supervisor)
    (named : (world.frontier.superviseTurn supervisor).2.id = supervisor.id) :
    ∀ other ∈ (world.supervise supervisor).supervisors,
      other.id < (world.supervise supervisor).nextId := by
  intro other listed
  obtain ⟨old, before, same⟩ := List.mem_map.mp listed
  have kept : other.id = old.id := by
    rw [← same]
    split
    · rename_i own
      rw [named, own]
    · rfl
  exact kept ▸ rostered.fresh old before

theorem supervise_idle (world : World) (id : Nat) (supervisor : Supervisor)
    (found : world.supervisor? id = some supervisor)
    (same : world.frontier.superviseTurn supervisor = (world.frontier, supervisor)) (other : Nat) :
    (world.supervise supervisor).supervisor? other = world.supervisor? other := by
  rw [supervisor_supervise world supervisor other (by rw [same]), same]
  cases present : world.supervisor? other with
  | none => rfl
  | some old =>
      rw [Option.map_some]
      split
      · rename_i own
        rw [supervisor_id world other old present, supervisor_id world id supervisor found] at own
        rw [own, found] at present
        exact present
      · rfl

theorem supervise_turned (world : World) (id : Nat) (supervisor : Supervisor)
    (found : world.supervisor? id = some supervisor)
    (named : (world.frontier.superviseTurn supervisor).2.id = supervisor.id) :
    (world.supervise supervisor).supervisor? id =
        some (world.frontier.superviseTurn supervisor).2 ∧
      ∀ other ≠ id, (world.supervise supervisor).supervisor? other = world.supervisor? other := by
  constructor
  · rw [supervisor_supervise world supervisor id named, found]
    simp
  · intro other apart
    rw [supervisor_supervise world supervisor other named]
    cases present : world.supervisor? other with
    | none => rfl
    | some old =>
        rw [Option.map_some, if_neg]
        rw [supervisor_id world other old present, supervisor_id world id supervisor found]
        exact apart

theorem supervise_watched {origin : Gateway} (world : World) (id : Nat) (supervisor : Supervisor)
    (kept : Kept origin world.frontier world.journal) (ordered : world.frontier.Ordered)
    (found : world.supervisor? id = some supervisor) (rostered : world.Rostered)
    (watched : world.Watched) :
    (world.supervise supervisor).Rostered ∧ (world.supervise supervisor).Watched := by
  have number := supervisor_id world id supervisor found
  rcases world.frontier.turn_leaves supervisor kept.calm kept.registered ordered
      (rostered.roster found) with ⟨_, same⟩ | ⟨named, leaves⟩
  · have still := supervise_idle world id supervisor found same
    have frontier : (world.supervise supervisor).frontier = world.frontier := by
      rw [supervise, same]
    refine ⟨⟨rostered.renumbered supervisor (by rw [same]), ?_, fun other => ?_⟩, ?_⟩
    · rw [frontier]
      exact rostered.once
    · rw [frontier, still]
      exact rostered.roll other
    · obtain ⟨other, watching, present, state⟩ := watched
      exact ⟨other, watching, (still other).trans present, frontier.symm ▸ state⟩
  · obtain ⟨own, others⟩ := supervise_turned world id supervisor found named
    refine ⟨⟨rostered.renumbered supervisor named, leaves.roster.once, fun other => ?_⟩, id, _, own,
      ?_⟩
    · by_cases mine : other = id
      · subst mine
        rw [own, ← number, ← named]
        refine leaves.roster.enrolled.trans ?_
        simp
      · rw [others other mine, ← rostered.roll]
        exact leaves.others other (by rw [named, number]; exact mine)
    · cases phase : (world.frontier.superviseTurn supervisor).2.phase with
      | stepping =>
          refine .inl ?_
          rw [Frontier.canSupervise, phase]
      | ended => exact .inr (.inl rfl)
      | sleeping until_ => exact .inr (.inr ⟨until_, rfl, leaves.vigil until_ phase⟩)

theorem step_watched {origin : Gateway} (world : World) (event : Event)
    (kept : Kept origin world.frontier world.journal) (ordered : world.frontier.Ordered)
    (unmanaged : event ≠ .manage) (rostered : world.Rostered)
    (watched : world.supervisors ≠ [] → world.Watched) :
    (world.step event).Rostered ∧ ((world.step event).supervisors ≠ [] → (world.step event).Watched) := by
  rw [step]
  by_cases admitted : world.admits event = true
  · rw [if_pos admitted]
    by_cases hired : event = .hire
    · subst hired
      exact ⟨rostered.hire, fun _ => Watched.hire rostered watched⟩
    · by_cases unsupervised : ∀ id, event ≠ .supervise id
      · have guards := act_guards world event kept unmanaged unsupervised
        have same := act_supervisors world event hired unsupervised
        refine ⟨rostered.guarded guards same (act_later world event), fun some => ?_⟩
        refine (watched (same ▸ some)).guarded rostered guards fun id supervisor found => ?_
        rw [supervisor?, same]
        exact found
      · obtain ⟨id, same⟩ : ∃ id, event = .supervise id := by simpa using unsupervised
        subst same
        simp only [act]
        cases found : world.supervisor? id with
        | none => exact ⟨rostered, watched⟩
        | some supervisor =>
            have some : world.supervisors ≠ [] := by
              intro none
              simp [supervisor?, none] at found
            obtain ⟨after, next⟩ :=
              supervise_watched world id supervisor kept ordered found rostered (watched some)
            exact ⟨after, fun _ => next⟩
  · rw [if_neg admitted]
    exact ⟨rostered, watched⟩

theorem run_watched (setup : Setup) (events : List Event) (calm : Calm setup events)
    (unmanaged : Event.manage ∉ events) :
    (run setup events).Rostered ∧ ((run setup events).supervisors ≠ [] → (run setup events).Watched) := by
  revert calm unmanaged
  refine run_induction (motive := fun events world => Calm setup events → Event.manage ∉ events →
    world.Rostered ∧ (world.supervisors ≠ [] → world.Watched)) setup ?_ ?_ events
  · exact fun _ _ => ⟨start_rostered setup, fun some => absurd rfl some⟩
  · intro events event ih calm unmanaged
    rw [List.mem_append, not_or, List.mem_singleton] at unmanaged
    obtain ⟨rostered, watched⟩ := ih calm.earlier unmanaged.1
    exact step_watched _ event (run_kept setup events calm.earlier) (run_ordered setup events)
      (Ne.symm unmanaged.2) rostered watched

end World

/-- At every moment at which there are supervisors and none of them can go on, where nobody else works
toward the target and the routing never fails: while the crawl is to run, no queue that sleeps is due;
while it is empty, none is due for as long as the longest sleep; when it is to pause or to hold and
nothing is claimed, the pause is reached; and when it is to finish and nothing is claimed, the end is
reached and a supervisor is done. -/
theorem supervisors_do_not_oversleep (setup : Setup) (events : List Event) (calm : Calm setup events)
    (unmanaged : Event.manage ∉ events) (hired : (World.run setup events).supervisors ≠ [])
    (quiet : ∀ supervisor ∈ (World.run setup events).supervisors,
      (World.run setup events).frontier.canSupervise supervisor = false) :
    let world := World.run setup events
    (world.frontier.target = .run →
      ∀ entry ∈ world.frontier.snoozed, world.frontier.now < entry.wake) ∧
    (world.frontier.target = .empty →
      ∀ entry ∈ world.frontier.snoozed,
        world.frontier.now < entry.wake + world.frontier.config.maxSleep) ∧
    (world.frontier.target = .pause ∨ world.frontier.target = .hold → world.frontier.claims = [] →
      world.frontier.reached = some .pause) ∧
    (world.frontier.target = .finish → world.frontier.claims = [] →
      world.frontier.reached = some .finish ∧
        ∃ supervisor ∈ world.supervisors, supervisor.phase = .ended) := by
  intro world
  obtain ⟨id, supervisor, found, goes | ended | ⟨until_, phase, vigil⟩⟩ :=
    (World.run_watched setup events calm unmanaged).2 hired
  · rw [quiet supervisor (List.mem_of_find?_eq_some found)] at goes
    cases goes
  · have finishing := World.run_finishing setup events
    have member := List.mem_of_find?_eq_some found
    have reached := finishing.ended supervisor member ended
    have target : world.frontier.target = .finish := finishing.target reached
    refine ⟨?_, ?_, ?_, fun _ _ => ⟨reached, supervisor, member, ended⟩⟩
    · simp [target]
    · simp [target]
    · simp [target]
  · have stuck := quiet supervisor (List.mem_of_find?_eq_some found)
    rw [Frontier.canSupervise, phase] at stuck
    simp only [Bool.or_eq_false_iff, decide_eq_false_iff_not, Nat.not_le] at stuck
    refine ⟨fun run entry listed => ?_, fun empty entry listed => ?_, vigil.pause,
      fun ends drained => absurd drained (vigil.finish ends)⟩
    · exact Nat.lt_of_lt_of_le stuck.1 (vigil.run run entry listed)
    · exact Nat.lt_trans stuck.1 (vigil.empty empty entry listed)

-- A site serves its pause for another millisecond, and so long its supervisor sleeps. The first time it
-- goes to sleep a permit wakes it at once.
def quietPause : List Event :=
  firstCall ++ [.hire, .supervise 1, .supervise 1, .complete firstPage fetched, .supervise 1,
    .advance (Time.millis 99)]

def quietEnd : List Event :=
  [.hire, .supervise 0, .request .finish, .supervise 0]

theorem supervisors_do_not_oversleep_quiet_pause :
    (World.run Setup.polite quietPause).supervisors = [⟨1, .sleeping (Time.millis 100)⟩] ∧
      (World.run Setup.polite quietPause).frontier.snoozed = [⟨Time.millis 100, "a.com"⟩] ∧
      (∀ entry ∈ (World.run Setup.polite quietPause).frontier.snoozed,
        (World.run Setup.polite quietPause).frontier.now < entry.wake) ∧
      (World.run Setup.plain quietEnd).supervisors = [⟨0, .ended⟩] ∧
      (World.run Setup.plain quietEnd).frontier.reached = some .finish := by
  have asleep : (World.run Setup.polite quietPause).supervisors =
      [⟨1, .sleeping (Time.millis 100)⟩] := by decide +kernel
  have ended : (World.run Setup.plain quietEnd).supervisors = [⟨0, .ended⟩] := rfl
  have pauses := supervisors_do_not_oversleep Setup.polite quietPause
    ⟨rfl, by simp [quietPause, firstCall, Event.Calm]⟩ (by simp [quietPause, firstCall])
    (by simp [asleep]) (by
      intro supervisor listed
      rw [asleep, List.mem_singleton] at listed
      subst listed
      decide +kernel)
  have ends := supervisors_do_not_oversleep Setup.plain quietEnd
    ⟨rfl, by simp [quietEnd, Event.Calm]⟩ (by simp [quietEnd]) (by simp [ended]) (by
      intro supervisor listed
      rw [ended, List.mem_singleton] at listed
      subst listed
      rfl)
  exact ⟨asleep, by decide +kernel, pauses.1 (by decide +kernel), ended,
    (ends.2.2.2 rfl rfl).1⟩

end PoliteCrawl
