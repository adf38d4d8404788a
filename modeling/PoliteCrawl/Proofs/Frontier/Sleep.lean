import PoliteCrawl.Proofs.Frontier.Call
import PoliteCrawl.Proofs.Frontier.Completion
import PoliteCrawl.Proofs.Frontier.Supervision
import PoliteCrawl.Proofs.Register.Waking
import PoliteCrawl.Proofs.Signal

set_option autoImplicit false

namespace PoliteCrawl

def SupervisorPhase.sleeps : SupervisorPhase → Bool
  | .sleeping _ => true
  | _ => false

namespace Frontier

-- There is nothing to do for a supervisor before a time.
structure Vigil (frontier : Frontier) (until_ : Time.Instant) : Prop where
  run : frontier.target = .run → ∀ entry ∈ frontier.snoozed, until_ ≤ entry.wake
  empty : frontier.target = .empty →
    ∀ entry ∈ frontier.snoozed, until_ < entry.wake + frontier.config.maxSleep
  pause : frontier.target = .pause ∨ frontier.target = .hold → frontier.claims = [] →
    frontier.reached = some .pause
  finish : frontier.target = .finish → frontier.claims ≠ []

-- Whoever was woken stays awake, and whoever may sleep may sleep on, or one is woken.
structure Guards (before after : Frontier) : Prop where
  clock : before.now ≤ after.now
  stirs : Signal.Stirs (fun _ => True) before.snoozeSignal after.snoozeSignal
  roll : after.snoozeSignal.roll = before.snoozeSignal.roll
  vigil : ∀ until_, before.Vigil until_ → after.Vigil until_ ∨ after.snoozeSignal.Heeded

structure Roster (frontier : Frontier) (supervisor : Supervisor) : Prop where
  once : frontier.snoozeSignal.roll.Nodup
  enrolled : supervisor.id ∈ frontier.snoozeSignal.roll ↔ supervisor.phase.sleeps = true

def slumber (frontier : Frontier) : Snoozed × Signal :=
  (frontier.snoozed, frontier.snoozeSignal)

theorem slumber_dispatching : Dispatching nobody fun before after => after.slumber = before.slumber where
  refl _ := rfl
  trans _ _ _ one two := two.trans one
  route _ _ := rfl
  store _ _ _ := rfl
  add _ _ _ _ := rfl
  file _ _ _ := rfl
  count _ := rfl
  publish _ _ := rfl
  shelve _ _ := rfl
  hold _ _ _ _ := rfl
  release _ _ := rfl
  reclassify _ := rfl

theorem slumber_placing : Placing nobody fun before after => after.slumber = before.slumber :=
  slumber_dispatching.toPlacing

theorem slumber_pulling : Pulling nobody fun before after => after.slumber = before.slumber where
  toPlacing := slumber_placing
  take _ _ _ _ := rfl
  pull _ _ := rfl
  signal _ _ := rfl

theorem step_slumber (frontier : Frontier) (id : Nat) (phase : CallPhase) :
    (frontier.stepPhase id phase).1.slumber = frontier.slumber := by
  cases phase with
  | polling progress =>
      refine poll_kept slumber_pulling frontier id progress (fun _ _ => rfl) fun key => ?_
      exact dispatch_kept slumber_dispatching _ key (fun no => no.elim) fun _ _ _ => rfl
  | _ => exact step_pulled slumber_pulling frontier id _ (by simp)

theorem Guards.still {before after : Frontier} (slumber : after.slumber = before.slumber)
    (cell : after.cell = before.cell) (config : after.config = before.config)
    (clock : before.now ≤ after.now) (claims : after.claims = [] → before.claims = []) :
    before.Guards after := by
  have snoozed : after.snoozed = before.snoozed := congrArg Prod.fst slumber
  have signal : after.snoozeSignal = before.snoozeSignal := congrArg Prod.snd slumber
  refine ⟨clock, signal ▸ .refl _, by rw [signal], fun until_ vigil => .inl ?_⟩
  have target : after.target = before.target := congrArg StateCell.target cell
  refine ⟨fun run => ?_, fun empty => ?_, fun pauses free => ?_, fun ends free => ?_⟩
  · rw [snoozed]
    exact vigil.run (target ▸ run)
  · rw [snoozed, config]
    exact vigil.empty (target ▸ empty)
  · exact (congrArg StateCell.reached cell).trans (vigil.pause (target ▸ pauses) (claims free))
  · exact vigil.finish (target ▸ ends) (claims free)

theorem Stays.guards {before after : Frontier} (stays : before.Stays after)
    (slumber : after.slumber = before.slumber) : before.Guards after :=
  .still slumber (congrArg Setting.cell stays.setting) (congrArg Setting.config stays.setting)
    (Nat.le_of_eq (congrArg Setting.now stays.setting).symm) stays.claims.symm.trans

theorem Guards.heeded {before after : Frontier} (clock : before.now ≤ after.now)
    (signal : after.snoozeSignal = before.snoozeSignal.notifyOne) : before.Guards after where
  clock := clock
  stirs := signal ▸ Signal.notify_one_stirs _
  roll := by rw [signal, Signal.notify_one_roll]
  vigil _ _ := .inr (signal ▸ Signal.notify_one_heeded _)

theorem request_guards (frontier : Frontier) (state : CrawlState) :
    frontier.Guards (frontier.requestState state) := by
  rw [requestState]
  by_cases refused : frontier.target = .finish ∧ state ≠ .finish
  · rw [if_pos refused]
    exact .still rfl rfl rfl (Nat.le_refl _) id
  · rw [if_neg refused]
    by_cases same : frontier.target = state
    · simp only [if_pos same]
      exact .heeded (Nat.le_refl _) rfl
    · simp only [if_neg same]
      cases state <;> exact .heeded (Nat.le_refl _) rfl

theorem even_completing :
    Completing nobody fun before after => after.config = before.config ∧ after.now = before.now where
  refl _ := ⟨rfl, rfl⟩
  trans _ _ _ one two := ⟨two.1.trans one.1, two.2.trans one.2⟩
  route _ _ := ⟨rfl, rfl⟩
  store _ _ _ := ⟨rfl, rfl⟩
  add _ _ _ _ := ⟨rfl, rfl⟩
  file _ _ _ := ⟨rfl, rfl⟩
  count _ := ⟨rfl, rfl⟩
  publish _ _ := ⟨rfl, rfl⟩
  shelve _ _ := ⟨rfl, rfl⟩
  snooze _ _ _ := ⟨rfl, rfl⟩
  awaken _ _ _ _ _ := ⟨rfl, rfl⟩
  release _ _ := ⟨rfl, rfl⟩
  charge _ _ := ⟨rfl, rfl⟩
  alarm _ _ := ⟨rfl, rfl⟩
  tell _ _ _ := ⟨rfl, rfl⟩

theorem even_pulling :
    Pulling nobody fun before after => after.config = before.config ∧ after.now = before.now where
  toPlacing := even_completing.toPlacing
  take _ _ _ _ := ⟨rfl, rfl⟩
  pull _ _ := ⟨rfl, rfl⟩
  signal _ _ := ⟨rfl, rfl⟩

theorem step_even (frontier : Frontier) (id : Nat) (phase : CallPhase) :
    (frontier.stepPhase id phase).1.config = frontier.config ∧
      (frontier.stepPhase id phase).1.now = frontier.now := by
  cases phase with
  | polling progress =>
      have setting := frontier.poll_setting id progress
      exact ⟨congrArg Setting.config setting, congrArg Setting.now setting⟩
  | _ => exact step_pulled even_pulling frontier id _ (by simp)

-- At most one entry is added, and a supervisor is woken if it is the earliest.
def Dozes (before after : Frontier) : Prop :=
  after.slumber = before.slumber ∨ ∃ key wake, after.slumber = (before.snooze key wake).slumber

theorem settle_dozes (frontier : Frontier) (queue : WorkQueue) (pause : Time.Span) :
    frontier.Dozes (frontier.settle queue pause).1 := by
  have free := free_nobody frontier queue
  rw [settle]
  by_cases spent : queue.isOverTotal = true
  · rw [if_pos spent]
    exact .inl (retire_shelved slumber_dispatching.toShelving frontier queue free)
  · rw [if_neg spent]
    by_cases owed : pause ≠ 0
    · rw [if_pos owed]
      by_cases allowed : queue.state.allows .snoozed = true
      · simp only [rest, WorkQueue.transition, if_pos allowed]
        exact .inr ⟨queue.key, frontier.now + pause, rfl⟩
      · simp only [rest, WorkQueue.transition, if_neg allowed]
        exact .inl rfl
    · rw [if_neg owed]
      by_cases dry : queue.isEmpty = true
      · rw [if_pos dry]
        exact .inl (exhausted_placed slumber_placing frontier queue free)
      · rw [if_neg dry]
        exact .inl (reenqueue_placed slumber_placing frontier queue free)

theorem Dozes.stirs {before after : Frontier} (dozes : before.Dozes after) :
    Signal.Stirs (fun _ => True) before.snoozeSignal after.snoozeSignal ∧
      after.snoozeSignal.roll = before.snoozeSignal.roll := by
  rcases dozes with same | ⟨key, wake, same⟩
  · have signal : after.snoozeSignal = before.snoozeSignal := congrArg Prod.snd same
    exact ⟨signal ▸ .refl _, by rw [signal]⟩
  · have signal : after.snoozeSignal = (before.snooze key wake).snoozeSignal :=
      congrArg Prod.snd same
    rw [signal, snooze]
    dsimp only
    split
    · exact ⟨Signal.notify_one_stirs _, Signal.notify_one_roll _⟩
    · exact ⟨.refl _, rfl⟩

theorem Dozes.later {before after : Frontier} (dozes : before.Dozes after)
    (unheeded : ¬ after.snoozeSignal.Heeded) :
    ∀ entry ∈ after.snoozed, ∃ first ∈ before.snoozed, first.wake ≤ entry.wake := by
  intro entry listed
  rcases dozes with same | ⟨key, wake, same⟩
  · have snoozed : after.snoozed = before.snoozed := congrArg Prod.fst same
    exact ⟨entry, snoozed ▸ listed, Nat.le_refl _⟩
  · have snoozed : after.snoozed = Snoozed.insert { wake, key } before.snoozed :=
      congrArg Prod.fst same
    have signal : after.snoozeSignal = (before.snooze key wake).snoozeSignal :=
      congrArg Prod.snd same
    have late : Snoozed.isEarliest before.snoozed wake = false := by
      cases earliest : Snoozed.isEarliest before.snoozed wake with
      | false => rfl
      | true =>
          rw [signal, snooze, if_pos earliest] at unheeded
          exact absurd (Signal.notify_one_heeded _) unheeded
    rw [snoozed, (Snoozed.insert_perm _ _).mem_iff] at listed
    rcases List.mem_cons.mp listed with new | old
    · exact new ▸ Snoozed.insert_late { wake, key } before.snoozed late
    · exact ⟨entry, old, Nat.le_refl _⟩

theorem drained_heeds (frontier : Frontier) (drained : frontier.claims = [])
    (forbids : frontier.target.allowsDispatch = false) :
    frontier.noteDrained.snoozeSignal.Heeded := by
  rw [noteDrained, if_pos (by simp [drained, forbids])]
  exact Signal.notify_one_heeded _

theorem drained_dozes {before frontier : Frontier} (dozes : before.Dozes frontier) :
    Signal.Stirs (fun _ => True) before.snoozeSignal frontier.noteDrained.snoozeSignal ∧
      frontier.noteDrained.snoozeSignal.roll = before.snoozeSignal.roll ∧
      (¬ frontier.noteDrained.snoozeSignal.Heeded →
        ∀ entry ∈ frontier.noteDrained.snoozed, ∃ first ∈ before.snoozed,
          first.wake ≤ entry.wake) := by
  obtain ⟨stirs, roll⟩ := dozes.stirs
  rw [noteDrained]
  split
  · exact ⟨stirs.trans (Signal.notify_one_stirs _), (Signal.notify_one_roll _).trans roll,
      fun unheeded => absurd (Signal.notify_one_heeded _) unheeded⟩
  · exact ⟨stirs, roll, dozes.later⟩

theorem complete_dozes (frontier : Frontier) (uri head : CrawlUri) (rest : List CrawlUri)
    (outcome : Outcome) (queue : WorkQueue) (calm : frontier.Calm)
    (registered : frontier.Registered) (reported : frontier.Reported uri queue head rest) :
    ∃ landed, frontier.Dozes landed ∧ (frontier.complete uri outcome).1 = landed.noteDrained := by
  have done := (frontier.complete_calm uri head rest outcome queue calm registered reported.found
    reported.process reported.line reported.same).1
  have dozes := settle_dozes (frontier.givenUp (frontier.billed queue head outcome)
    (frontier.billedStats queue head outcome)) (frontier.billed queue head outcome)
    (frontier.pauseAfter head outcome)
  rw [complete_shape frontier uri head rest outcome queue reported] at done ⊢
  cases result : (frontier.givenUp (frontier.billed queue head outcome)
      (frontier.billedStats queue head outcome)).settle (frontier.billed queue head outcome)
      (frontier.pauseAfter head outcome) with
  | mk after answer =>
      rw [result] at done dozes
      cases answer with
      | none => cases done
      | some placement =>
          refine ⟨_, ?_, rfl⟩
          have placed := place_placed slumber_placing after uri.siteKey placement
          have told : ((after.place uri.siteKey placement).report
              (frontier.grantsRetry head outcome) head outcome).slumber = after.slumber := by
            rw [← placed, report]
            split <;> rfl
          rw [Dozes, told]
          exact dozes

theorem complete_guards (frontier : Frontier) (uri : CrawlUri) (outcome : Outcome)
    (calm : frontier.Calm) (registered : frontier.Registered) :
    frontier.Guards (frontier.complete uri outcome).1 := by
  have same : frontier.Guards frontier := .still rfl rfl rfl (Nat.le_refl _) id
  have refusal (cause : FrontierError)
      (refused : frontier.complete uri outcome = (frontier, .refused cause)) :
      frontier.Guards (frontier.complete uri outcome).1 := by
    rw [refused]
    exact same
  rcases frontier.complete_cases uri outcome registered with
    ⟨_, refused⟩ | ⟨_, _, _, refused⟩ | ⟨_, _, _, _, _, _, _, refused⟩ |
    ⟨queue, head, rest, found, process, line, named⟩
  · exact refusal _ refused
  · exact refusal _ refused
  · exact refusal _ refused
  · have claimed := (process_claimed frontier uri.siteKey queue registered found process).1
    obtain ⟨landed, dozes, ended⟩ := complete_dozes frontier uri head rest outcome queue calm
      registered ⟨found, process, claimed, line, named⟩
    obtain ⟨config, now⟩ := complete_moved even_completing frontier uri outcome fun no => no.elim
    have cell := (frontier.complete_yields uri outcome).cell
    obtain ⟨stirs, roll, later⟩ := drained_dozes dozes
    have kept : landed.noteDrained.target = landed.target ∧
        landed.noteDrained.claims = landed.claims := by
      rw [noteDrained]
      split <;> exact ⟨rfl, rfl⟩
    rw [ended] at config now cell ⊢
    have target : landed.noteDrained.target = frontier.target := congrArg StateCell.target cell
    refine ⟨Nat.le_of_eq now.symm, stirs, roll, fun until_ vigil => ?_⟩
    by_cases heeded : landed.noteDrained.snoozeSignal.Heeded
    · exact .inr heeded
    · have busy (forbids : landed.noteDrained.target.allowsDispatch = false) :
          landed.noteDrained.claims ≠ [] := fun drained =>
        heeded (drained_heeds landed (kept.2.symm.trans drained) (kept.1 ▸ forbids))
      refine .inl ⟨fun run entry listed => ?_, fun empty entry listed => ?_,
        fun pauses drained => ?_, fun ends => ?_⟩
      · obtain ⟨first, before, sooner⟩ := later heeded entry listed
        exact Nat.le_trans (vigil.run (target ▸ run) first before) sooner
      · obtain ⟨first, before, sooner⟩ := later heeded entry listed
        rw [config]
        exact Nat.lt_of_lt_of_le (vigil.empty (target ▸ empty) first before)
          (Nat.add_le_add_right sooner _)
      · refine absurd drained (busy ?_)
        rcases pauses with pause | hold
        · rw [pause]
          rfl
        · rw [hold]
          rfl
      · exact busy (by rw [ends]; rfl)

theorem wake_due_slumber (entries : Snoozed) (frontier : Frontier) (calm : frontier.Calm)
    (registered : frontier.Registered) (listed : frontier.snoozed = entries) :
    (frontier.wakeDue entries).1.slumber =
      (entries.asleep frontier.now, frontier.snoozeSignal) := by
  induction entries generalizing frontier with
  | nil => exact Prod.ext listed rfl
  | cons entry rest ih =>
      rw [wakeDue]
      by_cases due : entry.wake ≤ frontier.now
      · obtain ⟨woken, proceeds⟩ := wake_queue_calm frontier entry rest calm registered listed
        have same := wake_queue_placed slumber_placing { frontier with snoozed := rest } entry.key
        have stays := wake_queue_placed stays_dozing.toPlacing { frontier with snoozed := rest } entry.key
        rw [if_pos due, Snoozed.asleep, List.dropWhile_cons_of_pos (by simpa using due)]
        cases result : { frontier with snoozed := rest }.wakeQueue entry.key with
        | mk after answer =>
            rw [result] at woken proceeds same stays
            simp only at woken proceeds same stays
            subst woken
            have now : after.now = frontier.now := congrArg Setting.now stays.setting
            have signal : after.snoozeSignal = frontier.snoozeSignal := congrArg Prod.snd same
            have others := ih after (proceeds.calm calm) proceeds.registered (congrArg Prod.fst same)
            rw [now, signal] at others
            exact others
      · rw [if_neg due, Snoozed.asleep, List.dropWhile_cons_of_neg (by simpa using due)]
        exact Prod.ext listed rfl

theorem wake_slumber (frontier : Frontier) (calm : frontier.Calm)
    (registered : frontier.Registered) :
    frontier.wakeQueues.1.slumber = (frontier.snoozed.asleep frontier.now, frontier.snoozeSignal) ∧
      frontier.wakeQueues.2 = some frontier.wakeQueues.1.untilNextWake := by
  have slumber := wake_due_slumber frontier.snoozed frontier calm registered rfl
  have woken := (wake_due_calm frontier.snoozed frontier calm registered rfl).1
  rw [wakeQueues]
  cases result : frontier.wakeDue frontier.snoozed with
  | mk after answer =>
      rw [result] at slumber woken
      simp only at slumber woken
      subst woken
      exact ⟨slumber, rfl⟩

theorem until_next_wake (frontier : Frontier) (ascending : frontier.snoozed.Ascending)
    (early : ∀ entry ∈ frontier.snoozed, frontier.now < entry.wake) :
    ∀ entry ∈ frontier.snoozed, frontier.now + frontier.untilNextWake ≤ entry.wake := by
  intro entry listed
  rw [untilNextWake, Snoozed.nextWake?]
  cases head : frontier.snoozed.head? with
  | none => simp [List.head?_eq_none_iff.mp head] at listed
  | some first =>
      have least := Snoozed.head_least frontier.snoozed ascending first entry head listed
      have ahead := early first (List.mem_of_mem_head? head)
      calc frontier.now + min (first.wake - frontier.now) frontier.config.maxSleep
          ≤ frontier.now + (first.wake - frontier.now) :=
            Nat.add_le_add_left (Nat.min_le_left _ _) _
        _ = first.wake := Nat.add_sub_cancel' (Nat.le_of_lt ahead)
        _ ≤ entry.wake := least

theorem marked_wakes (frontier : Frontier) (state : CrawlState) (calm : frontier.Calm)
    (registered : frontier.Registered) (ascending : frontier.snoozed.Ascending) :
    ∃ after, (frontier.markReached state).wakeQueues = (after, some after.untilNextWake) ∧
      after.snoozeSignal = frontier.snoozeSignal ∧ after.target = frontier.target ∧
      (∀ entry ∈ after.snoozed, after.now < entry.wake) ∧
      ∀ entry ∈ after.snoozed, after.now + after.untilNextWake ≤ entry.wake := by
  have stays := wake_stays (frontier.markReached state)
  have marked : (frontier.markReached state).Registered :=
    ⟨registered.once, registered.ascending, registered.settled⟩
  obtain ⟨slumber, span⟩ := wake_slumber (frontier.markReached state) calm marked
  have now : (frontier.markReached state).wakeQueues.1.now = frontier.now :=
    congrArg Setting.now stays.setting
  have target : (frontier.markReached state).wakeQueues.1.target = frontier.target :=
    (congrArg (StateCell.target ∘ Setting.cell) stays.setting).trans (frontier.mark_target state)
  have snoozed : (frontier.markReached state).wakeQueues.1.snoozed =
      frontier.snoozed.asleep frontier.now := congrArg Prod.fst slumber
  have early := Snoozed.asleep_early frontier.snoozed frontier.now ascending
  rw [← snoozed, ← now] at early
  have ordered := Snoozed.asleep_ascending frontier.snoozed frontier.now ascending
  rw [← snoozed] at ordered
  exact ⟨_, Prod.ext rfl span, congrArg Prod.snd slumber, target, early,
    until_next_wake _ ordered early⟩

-- How a step toward the target ends where the routing does not fail: the end is reached, or the
-- supervisor is to take another step, or there is nothing to do for it until it has rested.
def Concludes (frontier : Frontier) : Frontier × StepEnd → Prop
  | (after, .rests span) => after.snoozeSignal = frontier.snoozeSignal ∧
      (after.reached = some .finish ∨ span = 0 ∨ after.Vigil (after.now + span))
  | (after, .refused _) => after.snoozeSignal = frontier.snoozeSignal ∧
      after.target = .finish ∧ after.reached = some .finish
  | (_, .failed) => False

section Vigil

variable {frontier : Frontier} {until_ : Time.Instant}

theorem Vigil.running (target : frontier.target = .run)
    (later : ∀ entry ∈ frontier.snoozed, until_ ≤ entry.wake) : frontier.Vigil until_ where
  run _ := later
  empty other := by simp [target] at other
  pause other := by simp [target] at other
  finish other := by simp [target] at other

theorem Vigil.emptied (target : frontier.target = .empty)
    (later : ∀ entry ∈ frontier.snoozed, until_ < entry.wake + frontier.config.maxSleep) :
    frontier.Vigil until_ where
  run other := by simp [target] at other
  empty _ := later
  pause other := by simp [target] at other
  finish other := by simp [target] at other

theorem Vigil.halted (target : frontier.target = .pause ∨ frontier.target = .hold)
    (paused : frontier.claims = [] → frontier.reached = some .pause) : frontier.Vigil until_ where
  run other := by simp [other] at target
  empty other := by simp [other] at target
  pause _ := paused
  finish other := by simp [other] at target

theorem Vigil.ending (target : frontier.target = .finish) (busy : frontier.claims ≠ []) :
    frontier.Vigil until_ where
  run other := by simp [target] at other
  empty other := by simp [target] at other
  pause other := by simp [target] at other
  finish _ := busy

end Vigil

theorem management_concludes (frontier : Frontier) (calm : frontier.Calm)
    (registered : frontier.Registered) (ascending : frontier.snoozed.Ascending) :
    frontier.Concludes frontier.managementStep := by
  cases asked : frontier.target with
  | empty =>
      by_cases empty : frontier.isEmpty = true
      · obtain ⟨after, woken, signal, target, early, _⟩ :=
          marked_wakes frontier .empty calm registered ascending
        have step : frontier.managementStep = (after.notifyReady, .rests after.config.maxSleep) := by
          simp only [managementStep, asked, manageEmpty, empty, woken, Bool.not_true,
            Bool.false_eq_true, if_false]
        rw [step]
        refine ⟨signal, .inr (.inr (.emptied (target.trans asked) fun entry listed => ?_))⟩
        exact Nat.add_lt_add_right (early entry listed) _
      · have step : frontier.managementStep = (frontier.setTarget .run, .rests 0) := by
          simp [managementStep, asked, manageEmpty, empty]
        rw [step]
        exact ⟨rfl, .inr (.inl rfl)⟩
  | run =>
      by_cases empty : frontier.isEmpty = true
      · have step : frontier.managementStep = (frontier.setTarget .empty, .rests 0) := by
          simp [managementStep, asked, manageRun, empty]
        rw [step]
        exact ⟨rfl, .inr (.inl rfl)⟩
      · obtain ⟨after, woken, signal, target, _, next⟩ :=
          marked_wakes frontier .run calm registered ascending
        simp only [managementStep, asked, manageRun, if_neg empty, woken]
        split <;> exact ⟨signal, .inr (.inr (.running (target.trans asked) next))⟩
  | pause | hold =>
      have step : frontier.managementStep =
          (if frontier.claims.isEmpty then frontier.markReached .pause else frontier,
            .rests frontier.config.maxSleep) := by
        simp only [managementStep, asked, managePause]
      rw [step]
      by_cases drained : frontier.claims = []
      · have still := (frontier.mark_target .pause).trans asked
        rw [if_pos (by simp [drained])]
        exact ⟨rfl, .inr (.inr (.halted (by simp [still]) fun _ => frontier.mark_reached .pause))⟩
      · rw [if_neg (by simp [drained])]
        exact ⟨rfl, .inr (.inr (.halted (by simp [asked]) fun free => absurd free drained))⟩
  | finish =>
      by_cases drained : frontier.claims = []
      · simp only [managementStep, asked, manageFinish]
        rw [if_neg (by simp [drained])]
        cases frontier.gateway.close with
        | ok gateway => exact ⟨rfl, .inr (.inl rfl)⟩
        | error cause =>
            exact ⟨rfl, (frontier.mark_target .finish).trans asked, frontier.mark_reached .finish⟩
      · have step : frontier.managementStep = (frontier, .rests frontier.config.maxSleep) := by
          simp [managementStep, asked, manageFinish, drained]
        rw [step]
        exact ⟨rfl, .inr (.inr (.ending asked drained))⟩

structure Leaves (before after : Frontier) (supervisor : Supervisor) : Prop where
  others : ∀ id ≠ supervisor.id, id ∈ after.snoozeSignal.roll ↔ id ∈ before.snoozeSignal.roll
  roster : after.Roster supervisor
  vigil : ∀ until_, supervisor.phase = .sleeping until_ → after.Vigil until_

theorem manage_concludes (frontier : Frontier) (calm : frontier.Calm)
    (registered : frontier.Registered) (ascending : frontier.snoozed.Ascending) :
    frontier.manage.1.snoozeSignal = frontier.snoozeSignal ∧
      (frontier.manage.1.reached = some .finish ∨ frontier.manage.2 = 0 ∨
        frontier.manage.1.Vigil (frontier.manage.1.now + frontier.manage.2)) := by
  have rests := management_concludes frontier calm registered ascending
  rw [manage]
  cases result : frontier.managementStep with
  | mk after ended =>
      rw [result] at rests
      cases ended with
      | rests span => exact rests
      | refused cause =>
          obtain ⟨signal, target, reached⟩ := rests
          simp only [forcePause, if_pos target]
          exact ⟨signal, .inl reached⟩
      | failed => exact rests.elim

theorem Roster.stays {frontier after : Frontier} {id : Nat} {phase : SupervisorPhase}
    (roster : frontier.Roster { id, phase := .stepping })
    (signal : after.snoozeSignal = frontier.snoozeSignal) (awake : phase.sleeps = false) :
    frontier.Leaves after { id, phase } := by
  refine ⟨fun other _ => by rw [signal], ⟨signal ▸ roster.once, ?_⟩, fun until_ asleep => ?_⟩
  · rw [signal, roster.enrolled, awake]
    rfl
  · rw [show phase = .sleeping until_ from asleep] at awake
    cases awake

theorem Roster.retires {frontier after : Frontier} {id : Nat} {until_ : Time.Instant}
    (roster : frontier.Roster { id, phase := .stepping })
    (signal : after.snoozeSignal = frontier.snoozeSignal.enrol id) (vigil : after.Vigil until_) :
    frontier.Leaves after { id, phase := .sleeping until_ } := by
  have roll : after.snoozeSignal.roll = frontier.snoozeSignal.roll ++ [id] := by
    rw [signal]
    exact Signal.enrol_roll _ id
  have away : id ∉ frontier.snoozeSignal.roll := by
    rw [roster.enrolled]
    simp [SupervisorPhase.sleeps]
  refine ⟨fun other apart => ?_, ⟨?_, ?_⟩, fun _ asleep => ?_⟩
  · rw [roll]
    simpa using fun same => absurd same apart
  · rw [roll]
    exact roster.once.append (List.nodup_singleton id) (by simpa using away)
  · rw [roll]
    simp [SupervisorPhase.sleeps]
  · cases asleep
    exact vigil

theorem supervise_step_leaves (frontier : Frontier) (id : Nat) (calm : frontier.Calm)
    (registered : frontier.Registered) (ascending : frontier.snoozed.Ascending)
    (roster : frontier.Roster { id, phase := .stepping }) :
    frontier.Leaves (frontier.superviseStep id).1 { id, phase := (frontier.superviseStep id).2 } := by
  obtain ⟨signal, rests⟩ := manage_concludes frontier calm registered ascending
  rw [superviseStep]
  by_cases finished : frontier.hasReached .finish = true
  · rw [if_pos finished]
    exact roster.stays rfl rfl
  · rw [if_neg finished]
    cases result : frontier.manage with
    | mk after span =>
        rw [result] at signal rests
        by_cases ends : after.hasReached .finish = true
        · simp only [if_pos ends]
          exact roster.stays signal rfl
        · by_cases again : span = 0
          · simp only [if_neg ends, if_pos again]
            exact roster.stays signal rfl
          · simp only [if_neg ends, if_neg again]
            have unfinished : after.reached ≠ some .finish := by
              intro reached
              rw [Frontier.reached] at reached
              simp [hasReached, StateCell.hasReached, reached] at ends
            have vigil := (rests.resolve_left unfinished).resolve_left again
            exact roster.retires (congrArg (Signal.enrol · id) signal)
              ⟨vigil.run, vigil.empty, vigil.pause, vigil.finish⟩

theorem turn_leaves (frontier : Frontier) (supervisor : Supervisor) (calm : frontier.Calm)
    (registered : frontier.Registered) (ascending : frontier.snoozed.Ascending)
    (roster : frontier.Roster supervisor) :
    (frontier.canSupervise supervisor = false ∧
      frontier.superviseTurn supervisor = (frontier, supervisor)) ∨
    (frontier.superviseTurn supervisor).2.id = supervisor.id ∧
      frontier.Leaves (frontier.superviseTurn supervisor).1 (frontier.superviseTurn supervisor).2 := by
  obtain ⟨id, phase⟩ := supervisor
  cases phase with
  | stepping => exact .inr ⟨rfl, supervise_step_leaves frontier id calm registered ascending roster⟩
  | ended => exact .inl ⟨rfl, rfl⟩
  | sleeping until_ =>
      by_cases awake : (frontier.snoozeSignal.isAwake id || decide (until_ ≤ frontier.now)) = true
      · right
        let base := { frontier with snoozeSignal := frontier.snoozeSignal.consume id }
        have roll : base.snoozeSignal.roll = frontier.snoozeSignal.roll.filter (· ≠ id) :=
          Signal.consume_roll _ id
        have consumed : base.Roster { id, phase := .stepping } := by
          refine ⟨roll ▸ roster.once.filter _, ?_⟩
          rw [roll]
          simp [SupervisorPhase.sleeps]
        have leaves := supervise_step_leaves base id calm
          ⟨registered.once, registered.ascending, registered.settled⟩ ascending consumed
        have same : frontier.superviseTurn { id, phase := .sleeping until_ } =
            ((base.superviseStep id).1, { id, phase := (base.superviseStep id).2 }) := by
          simp only [superviseTurn, supervise, supervisePhase, if_pos awake]
          rfl
        rw [same]
        refine ⟨rfl, fun other apart => ?_, leaves.roster, leaves.vigil⟩
        rw [leaves.others other apart, roll]
        simp [show other ≠ id from apart]
      · refine .inl ⟨(Bool.or_comm _ _).trans (Bool.eq_false_iff.mpr awake), ?_⟩
        simp only [superviseTurn, supervise, supervisePhase, if_neg awake]

end Frontier

end PoliteCrawl
