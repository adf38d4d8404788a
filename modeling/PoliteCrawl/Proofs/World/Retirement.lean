import PoliteCrawl.Proofs.Frontier.Retirement
import PoliteCrawl.Proofs.World.Pauses

set_option autoImplicit false

namespace PoliteCrawl

namespace Frontier

theorem settle_retires (frontier : Frontier) (queue : WorkQueue) (pause : Time.Span)
    (found : frontier.queue? queue.key = some queue) (process : queue.state = .inProcess) :
    (frontier.settle queue pause).1.queueState? queue.key = some .retired ↔
      queue.isOverTotal = true := by
  have allowed (state : QueueState) (moves : QueueState.inProcess.allows state = true) :
      queue.state.allows state = true := by
    rw [process]
    exact moves
  have lands (after : Frontier) (landed : WorkQueue)
      (stored : after.queue? queue.key = some landed) (other : landed.state ≠ .retired) :
      after.queueState? queue.key ≠ some .retired := by
    rw [queueState?, stored]
    simpa using other
  by_cases spent : queue.isOverTotal = true
  · rw [settle, if_pos spent]
    let retired := WorkQueue.deactivate { queue with state := .retired }
    have stored : (frontier.store retired).queue? queue.key = some retired :=
      store_same frontier retired queue found
    have whole : (frontier.retire queue).queue? queue.key = some retired := by
      simp only [retire, queue.transition_allowed .retired (allowed .retired rfl)]
      exact stored
    simp only [queueState?, whole, spent, iff_true]
    rfl
  · refine ⟨fun retired => ?_, fun exceeded => absurd exceeded spent⟩
    refine absurd retired ?_
    rw [settle, if_neg spent]
    by_cases owed : pause ≠ 0
    · rw [if_pos owed]
      let asleep :=
        WorkQueue.setWakeTime { queue with state := .snoozed } (some (frontier.now + pause))
      have stored : (frontier.store asleep).queue? queue.key = some asleep :=
        store_same frontier asleep queue found
      simp only [rest, queue.transition_allowed .snoozed (allowed .snoozed rfl)]
      exact lands _ asleep stored (by simp [asleep, WorkQueue.setWakeTime])
    · rw [if_neg owed]
      by_cases dry : queue.isEmpty = true
      · let empty : WorkQueue := { queue.noteExhausted with state := .empty }
        rw [if_pos dry]
        simp only [markExhausted,
          queue.noteExhausted.transition_allowed .empty (allowed .empty rfl)]
        exact lands _ empty (store_same frontier empty queue found) (by simp [empty])
      · rw [if_neg dry]
        have requeued := reenqueue_cases frontier queue ⟨allowed .ready rfl, allowed .inactive rfl⟩
        generalize frontier.reenqueue queue = result at requeued
        cases requeued with
        | fails routing _ => exact lands _ queue found (by simp [process])
        | parks routing asked told _ =>
            obtain ⟨tier, rfl⟩ := told
            exact lands _ (parked (queue.setPrecedence tier))
              (store_same { frontier with routing } _ queue found)
              (by simp [parked, WorkQueue.deactivate])
        | readies routing asked told _ =>
            obtain ⟨tier, rfl⟩ := told
            exact lands _ { queue.setPrecedence tier with state := .ready }
              (store_same { frontier with routing } { queue.setPrecedence tier with state := .ready }
                queue found)
              (by simp)

theorem complete_retires (frontier : Frontier) (uri head : CrawlUri) (rest : List CrawlUri)
    (outcome : Outcome) (queue : WorkQueue) (reported : frontier.Reported uri queue head rest) :
    (frontier.complete uri outcome).1.queueState? uri.siteKey = some .retired ↔
      (frontier.billed queue head outcome).isOverTotal = true := by
  let billed := frontier.billed queue head outcome
  let base := frontier.givenUp billed (frontier.billedStats queue head outcome)
  have named := queue_key frontier uri.siteKey queue reported.found
  have key : billed.key = uri.siteKey := (frontier.billed_key queue head outcome).trans named
  have state := (frontier.billed_shape queue head rest outcome reported.line).2.1
  have found : base.queue? billed.key = some billed :=
    store_same (frontier.release billed.key) billed queue (key.symm ▸ reported.found)
  have settled := settle_retires base billed (frontier.pauseAfter head outcome) found
    (state.trans reported.process)
  rw [key] at settled
  rw [complete_shape frontier uri head rest outcome queue reported, ← settled]
  cases result : base.settle billed (frontier.pauseAfter head outcome) with
  | mk after answer =>
      cases answer with
      | none => exact Iff.rfl
      | some placement =>
          obtain ⟨gateway, signal, same⟩ := report_drained (after.place uri.siteKey placement)
            (frontier.grantsRetry head outcome) head outcome
          have queues := queues_queue _ _ uri.siteKey
            (place_queues after uri.siteKey placement)
          simp only [same]
          exact Eq.to_iff (congrArg (fun queue => queue.map WorkQueue.state = some .retired) queues)

end Frontier

namespace World

theorem act_spares (world : World) (event : Event) (key : String) (other : event ≠ .unretire) :
    Frontier.Spares key world.frontier (world.act event).frontier := by
  cases event with
  | schedule uri => exact Frontier.send_spares world.frontier _ key
  | proceed id =>
      simp only [act]
      cases world.call? id with
      | none => exact .still rfl
      | some call => exact Frontier.step_spares world.frontier call.id call.phase key
  | drop id =>
      simp only [act]
      cases world.call? id with
      | none => exact .still rfl
      | some call =>
          simp only [Option.elim, drop, Frontier.cancel]
          split
          · exact .still rfl
          · cases call.phase <;> exact .still rfl
  | complete uri outcome => exact Frontier.complete_spares world.frontier uri outcome key
  | request state =>
      obtain ⟨ready, snooze, same⟩ := request_shape world.frontier state
      simp only [act, same]
      exact .still rfl
  | unretire => exact absurd rfl other
  | manage => exact Frontier.management_permitted (Frontier.spares_permits key) world.frontier
  | supervise id =>
      simp only [act]
      cases world.supervisor? id with
      | none => exact .still rfl
      | some supervisor =>
          exact Frontier.turn_permitted (Frontier.spares_permits key) world.frontier supervisor
  | _ => exact .still rfl

def RecalledWithin (setup : Setup) (before later : List Event) (key : String) : Prop :=
  ∃ early late, later = early ++ .unretire :: late ∧ (run setup (before ++ early)).turn = none ∧
    (run setup (before ++ early)).frontier.Recallable key

theorem RecalledWithin.cons {setup : Setup} {before later : List Event} {event : Event}
    {key : String} (recalled : RecalledWithin setup (before ++ [event]) later key) :
    RecalledWithin setup before (event :: later) key := by
  obtain ⟨early, late, split, idle, recalls⟩ := recalled
  have whole : before ++ event :: early = before ++ [event] ++ early := by simp
  refine ⟨event :: early, late, by simp [split], ?_, ?_⟩
  · rw [whole]
    exact idle
  · rw [whole]
    exact recalls

theorem step_retired (setup : Setup) (events : List Event) (event : Event) (key : String)
    (calm : Calm setup events)
    (retired : (run setup events).frontier.queueState? key = some .retired)
    (unrecalled : ¬ RecalledWithin setup events [event] key) :
    ((run setup events).step event).frontier.queueState? key = some .retired ∧
      ((run setup events).step event).handedAt key = (run setup events).handedAt key := by
  have kept := run_kept setup events calm
  obtain ⟨queue, found, state⟩ := Option.map_eq_some_iff.mp retired
  refine ⟨?_, step_idle (run setup events) event key queue kept found (by simp [state])⟩
  rw [step]
  by_cases admitted : (run setup events).admits event = true
  · rw [if_pos admitted]
    by_cases recalled : event = .unretire
    · subst recalled
      obtain ⟨landed, there, fares⟩ := (run setup events).frontier.unretire_fares key queue
        kept.calm kept.registered found state
      have left (recalls : (queue.setTotalBudget
          (run setup events).frontier.budgets.total).isOverTotal = false) : False := by
        apply unrecalled
        refine ⟨[], [], rfl, ?_, ?_⟩
        · rw [List.append_nil]
          cases turn : (run setup events).turn with
          | none => rfl
          | some id => simp [admits, turn] at admitted
        · rw [List.append_nil]
          exact ⟨queue, found, state, recalls⟩
      cases fares with
      | stays _ =>
          refine Option.map_eq_some_iff.mpr ⟨_, there, state⟩
      | parks _ recalls => exact (left recalls).elim
      | readies _ recalls => exact (left recalls).elim
    · obtain ⟨uris, there⟩ := act_spares (run setup events) event key recalled queue found state
      exact Option.map_eq_some_iff.mpr ⟨_, there, (queue.join_all_state uris).trans state⟩
  · rw [if_neg admitted]
    exact retired

theorem run_retired (setup : Setup) (before later : List Event) (key : String)
    (calm : Calm setup (before ++ later))
    (retired : (run setup before).frontier.queueState? key = some .retired)
    (unrecalled : ¬ RecalledWithin setup before later key) :
    (run setup (before ++ later)).frontier.queueState? key = some .retired ∧
      (run setup (before ++ later)).handedAt key = (run setup before).handedAt key := by
  induction later generalizing before with
  | nil =>
      rw [List.append_nil]
      exact ⟨retired, rfl⟩
  | cons event rest ih =>
      have split : before ++ event :: rest = before ++ [event] ++ rest := by simp
      rw [split] at calm ⊢
      have first : ¬ RecalledWithin setup before [event] key := by
        rintro ⟨early, late, whole, idle, recalls⟩
        refine unrecalled ⟨early, late ++ rest, ?_, idle, recalls⟩
        simpa using congrArg (· ++ rest) whole
      obtain ⟨still, handed⟩ :=
        step_retired setup before event key calm.earlier.earlier retired first
      rw [← run_snoc] at still handed
      obtain ⟨last, whole⟩ := ih (before ++ [event]) calm still fun recalled =>
        unrecalled recalled.cons
      exact ⟨last, whole.trans handed⟩

end World

structure Frontier.InLine (frontier : Frontier) (key : String) (items : List CrawlUri) : Prop where
  placed : ∃ queue, frontier.queue? key = some queue ∧ queue.items = items ∧
    queue.wakeTime = none ∧
    (queue.state = .ready ∧ key ∈ frontier.ready ∨
      queue.state = .inactive ∧ key ∈ frontier.tiers.keys)
  awake : ∀ entry ∈ frontier.snoozed, entry.key ≠ key

theorem Frontier.in_line (frontier : Frontier) (key : String) (queue : WorkQueue)
    (registered : frontier.Registered) (found : frontier.queue? key = some queue)
    (lined : queue.state = .ready ∨ queue.state = .inactive) :
    frontier.InLine key queue.items := by
  have stands := frontier.settled_queue key queue registered found
  have awake (entry : SnoozeEntry) (asleep : entry ∈ frontier.snoozed) : entry.key ≠ key := by
    intro same
    obtain ⟨other, present, _, snoozed, _⟩ := frontier.snoozed_queue entry registered asleep
    rw [same, found] at present
    cases present
    rcases lined with ready | inactive
    · cases ready.symm.trans snoozed
    · cases inactive.symm.trans snoozed
  rcases lined with ready | inactive
  · simp only [WorkQueue.StandsAt, ready] at stands
    have once : frontier.ready.count key = 1 := congrArg Standing.ready stands.1
    have listed : key ∈ frontier.ready := List.count_pos_iff.mp (by omega)
    exact ⟨⟨queue, found, rfl, stands.2, .inl ⟨ready, listed⟩⟩, awake⟩
  · simp only [WorkQueue.StandsAt, inactive] at stands
    have once : frontier.tiers.keys.count key = 1 := congrArg Standing.inactive stands.1
    have listed : key ∈ frontier.tiers.keys := List.count_pos_iff.mp (by omega)
    exact ⟨⟨queue, found, rfl, stands.2, .inr ⟨inactive, listed⟩⟩, awake⟩

theorem World.recall_lines_up (setup : Setup) (events : List Event) (key : String)
    (calm : Calm setup events) (idle : (World.run setup events).turn = none)
    (recalls : (World.run setup events).frontier.Recallable key) :
    ∃ queue, (World.run setup events).frontier.queue? key = some queue ∧
      (World.run setup (events ++ [.unretire])).frontier.now =
        (World.run setup events).frontier.now ∧
      (World.run setup (events ++ [.unretire])).frontier.InLine key queue.items := by
  obtain ⟨queue, found, retired, left⟩ := recalls
  have kept := World.run_kept setup events calm
  have again : Calm setup (events ++ [.unretire]) :=
    ⟨calm.1, fun event listed => (List.mem_append.mp listed).elim (calm.2 event)
      fun last => List.mem_singleton.mp last ▸ trivial⟩
  have registered := (World.run_kept setup (events ++ [.unretire]) again).registered
  have stepped : (World.run setup (events ++ [.unretire])).frontier =
      (World.run setup events).frontier.unretireQueues.1 := by
    rw [World.run_next setup events .unretire idle]
    rfl
  obtain ⟨landed, there, fares⟩ := (World.run setup events).frontier.unretire_fares key queue
    kept.calm kept.registered found retired
  rw [← stepped] at there
  refine ⟨queue, found, ?_, ?_⟩
  · rw [stepped]
    exact congrArg Setting.now (World.run setup events).frontier.unretire_stays.setting
  · cases fares with
    | stays spent =>
        rw [left] at spent
        cases spent
    | parks tier _ =>
        have lined := Frontier.in_line _ key _ registered there (.inr rfl)
        exact lined
    | readies tier _ =>
        have lined := Frontier.in_line _ key _ registered there (.inl rfl)
        exact lined

theorem World.paused_unserved (setup : Setup) (before later : List Event) (uri head : CrawlUri)
    (rest : List CrawlUri) (outcome : Outcome) (queue : WorkQueue)
    (calm : Calm setup (before ++ [.complete uri outcome] ++ later))
    (idle : (World.run setup before).turn = none)
    (reported : (World.run setup before).frontier.Reported uri queue head rest)
    (active : (World.run setup (before ++ [.complete uri outcome])).frontier.queueState?
      uri.siteKey ≠ some .retired)
    (early : (World.run setup (before ++ [.complete uri outcome] ++ later)).frontier.now <
      (World.run setup before).frontier.now +
        (World.run setup before).frontier.pauseAfter head outcome) :
    (World.run setup (before ++ [.complete uri outcome] ++ later)).handedAt uri.siteKey =
      (World.run setup (before ++ [.complete uri outcome])).handedAt uri.siteKey := by
  have stepped := World.run_next setup before (.complete uri outcome) idle
  let world := World.run setup before
  have clock := (World.run_dreams (World.run setup (before ++ [.complete uri outcome])) later).clock
  have whole : World.run setup (before ++ [.complete uri outcome] ++ later) =
      later.foldl World.step (World.run setup (before ++ [.complete uri outcome])) := by
    simp [World.run]
  have sooner : world.frontier.now ≤
      (World.run setup (before ++ [.complete uri outcome])).frontier.now := by
    rw [stepped]
    exact (Frontier.complete_moved Frontier.dreams_completing _ uri outcome fun no => no.elim).clock
  have owed : world.frontier.pauseAfter head outcome ≠ 0 := by
    intro free
    rw [free] at early
    rw [← whole] at clock
    exact Nat.not_lt.mpr (Nat.le_trans sooner clock) early
  rw [stepped] at active
  have asleep :=
    (world.frontier.complete_pauses uri head rest outcome queue reported owed).resolve_left active
  refine World.run_asleep setup (before ++ [.complete uri outcome]) later
    { wake := world.frontier.now + world.frontier.pauseAfter head outcome, key := uri.siteKey }
    calm ?_ early
  rw [stepped]
  exact asleep

/-- While the routing does not fail, a completion retires the queue of its site if and only if it leaves
the lifetime budget spent, and the pause that the site is owed is forgotten then: the queue neither sleeps
nor has a time to wake. As long as no recall finds a budget in force that is not spent, it stays so and
nothing is handed out at the site, be the pause over or not. A recall that does puts the queue in line at
once, without a pause, whatever the time. And that is the only way to get anything from a site before the
pause it is owed is over. -/
theorem recalls_forgive_pauses (setup : Setup) (before later : List Event) (uri head : CrawlUri)
    (rest : List CrawlUri) (outcome : Outcome) (queue : WorkQueue)
    (calm : Calm setup (before ++ [.complete uri outcome] ++ later))
    (idle : (World.run setup before).turn = none)
    (reported : (World.run setup before).frontier.Reported uri queue head rest) :
    let world := World.run setup before
    let next := World.run setup (before ++ [.complete uri outcome])
    let last := World.run setup (before ++ [.complete uri outcome] ++ later)
    let recalled :=
      World.RecalledWithin setup (before ++ [.complete uri outcome]) later uri.siteKey
    (next.frontier.queueState? uri.siteKey = some .retired ↔
      (world.frontier.billed queue head outcome).isOverTotal = true) ∧
    (next.frontier.queueState? uri.siteKey = some .retired → ¬ recalled →
      (∃ retired, last.frontier.queue? uri.siteKey = some retired ∧ retired.state = .retired ∧
        retired.wakeTime = none) ∧
      (∀ entry ∈ last.frontier.snoozed, entry.key ≠ uri.siteKey) ∧
      last.handedAt uri.siteKey = next.handedAt uri.siteKey) ∧
    (last.turn = none → last.frontier.Recallable uri.siteKey →
      let back := World.run setup (before ++ [.complete uri outcome] ++ later ++ [.unretire])
      ∃ retired, last.frontier.queue? uri.siteKey = some retired ∧
        back.frontier.now = last.frontier.now ∧ back.frontier.InLine uri.siteKey retired.items) ∧
    (last.frontier.now < world.frontier.now + world.frontier.pauseAfter head outcome →
      last.handedAt uri.siteKey ≠ next.handedAt uri.siteKey →
        next.frontier.queueState? uri.siteKey = some .retired ∧ recalled) := by
  intro world next last recalled
  have stepped : next = world.act (.complete uri outcome) :=
    World.run_next setup before (.complete uri outcome) idle
  have retires : next.frontier.queueState? uri.siteKey = some .retired ↔
      (world.frontier.billed queue head outcome).isOverTotal = true := by
    rw [stepped]
    exact world.frontier.complete_retires uri head rest outcome queue reported
  have stays (retired : next.frontier.queueState? uri.siteKey = some .retired)
      (unrecalled : ¬ recalled) :=
    World.run_retired setup (before ++ [.complete uri outcome]) later uri.siteKey calm retired
      unrecalled
  refine ⟨retires, fun retired unrecalled => ?_, fun free recalls => ?_, fun early served => ?_⟩
  · obtain ⟨still, handed⟩ := stays retired unrecalled
    obtain ⟨old, found, state⟩ := Option.map_eq_some_iff.mp still
    obtain ⟨_, wake, awake⟩ := last.frontier.retired_listed uri.siteKey old
      (World.run_kept setup _ calm).registered found state
    exact ⟨⟨old, found, state, wake⟩, awake, handed⟩
  · exact World.recall_lines_up setup _ uri.siteKey calm free recalls
  · by_cases retired : next.frontier.queueState? uri.siteKey = some .retired
    · exact ⟨retired, Classical.byContradiction fun unrecalled =>
        served (stays retired unrecalled).2⟩
    · exact absurd (World.paused_unserved setup before later uri head rest outcome queue calm idle
        reported retired early) served

def lonePage : List Event :=
  .setBudgets 10 (some 1) :: firstCall

def secondLife : List Event :=
  [.setBudgets 10 none, .unretire, .call, .proceed 1, .proceed 1, .proceed 1, .proceed 1]

def secondPage : CrawlUri :=
  { page "a.com" "2" with siteKey := "a.com" }

theorem second_life_calm :
    Calm Setup.polite (lonePage ++ [.complete firstPage fetched] ++ secondLife) :=
  ⟨rfl, by simp [lonePage, firstCall, secondLife, Event.Calm]⟩

theorem recalls_forgive_pauses_second_life :
    (World.run Setup.polite lonePage).turn = none ∧
      (World.run Setup.polite (lonePage ++ [.complete firstPage fetched])).frontier.queueState?
        "a.com" = some .retired ∧
      World.RecalledWithin Setup.polite (lonePage ++ [.complete firstPage fetched]) secondLife
        "a.com" := by
  have served := recalls_forgive_pauses Setup.polite lonePage secondLife firstPage firstPage
    [secondPage] fetched _ second_life_calm (by decide +kernel)
    ⟨rfl, by decide +kernel, by decide +kernel, rfl, rfl⟩
  exact ⟨by decide +kernel, served.2.2.2 (by decide +kernel) (by decide +kernel)⟩

-- The site is owed a pause of 100 ms and retired, and gives its second page at the same moment.
theorem second_life_needs_no_pause :
    let world := World.run Setup.polite lonePage
    let next := World.run Setup.polite (lonePage ++ [.complete firstPage fetched])
    let last := World.run Setup.polite (lonePage ++ [.complete firstPage fetched] ++ secondLife)
    Calm Setup.polite (lonePage ++ [.complete firstPage fetched] ++ secondLife) ∧
      world.frontier.pauseAfter firstPage fetched = Time.millis 100 ∧
      (world.frontier.complete firstPage fetched).2 = .done ∧
      next.frontier.queueState? "a.com" = some .retired ∧
      next.handedAt "a.com" = [firstPage] ∧
      last.handedAt "a.com" = [firstPage, secondPage] ∧
      last.frontier.now < world.frontier.now + Time.millis 100 := by
  refine ⟨second_life_calm, ?_⟩
  decide +kernel

end PoliteCrawl
