import PoliteCrawl.Proofs.Frontier.Books
import PoliteCrawl.Proofs.Frontier.Lineup

set_option autoImplicit false

namespace PoliteCrawl

def FetchStatus.mark : FetchStatus → Mark
  | .success _ => .succeeded
  | .failure _ => .failed
  | .retry _ => .failed
  | .disregarded => .disregarded

structure Counts (mark : Mark) (before after : Mark → Nat) : Prop where
  here : after mark = before mark + 1
  others : ∀ other, other ≠ mark → after other = before other

theorem count_outcome (counters : QueueCounters) (status : FetchStatus) :
    Counts status.mark counters.of (counters.count status).of := by
  cases status <;> refine ⟨rfl, fun other different => ?_⟩ <;> cases other <;>
    first | rfl | exact absurd rfl different

theorem count_retried (counters : QueueCounters) :
    Counts .retried counters.of { counters with retried := counters.retried + 1 }.of := by
  refine ⟨rfl, fun other different => ?_⟩
  cases other <;> first | rfl | exact absurd rfl different

theorem Counts.offset {mark : Mark} {old new : WorkQueue} {before after : Stats}
    (counts : Counts mark old.counters.of new.counters.of)
    (offsets : Frontier.Offsets old new before after) : Counts mark before.of after.of := by
  refine ⟨?_, fun other different => ?_⟩
  · have here := counts.here
    have offset := offsets.marks mark
    omega
  · have same := counts.others other different
    have offset := offsets.marks other
    omega

namespace WorkQueue

structure Settles (queue landed : WorkQueue) : Prop where
  items : landed.items = queue.items
  session : landed.sessionSpent = queue.sessionSpent
  total : landed.totalSpent = queue.totalSpent
  counters : landed.counters = queue.counters
  busy : queue.items ≠ [] → landed.state ≠ .empty ∧ landed.exhausted = queue.exhausted

structure Retains (queue : WorkQueue) (head : CrawlUri) (rest : List CrawlUri) (landed : WorkQueue) :
    Prop where
  items : landed.items = head.again :: rest
  session : landed.sessionSpent = queue.sessionSpent
  total : landed.totalSpent = queue.totalSpent
  busy : landed.state ≠ .empty
  exhausted : landed.exhausted = queue.exhausted

structure PaysOff (queue : WorkQueue) (head : CrawlUri) (rest : List CrawlUri) (landed : WorkQueue) :
    Prop where
  items : landed.items = rest
  session : landed.sessionSpent = min (queue.sessionSpent + head.cost) expenseLimit
  total : landed.totalSpent = min (queue.totalSpent + head.cost) expenseLimit

end WorkQueue

namespace Frontier

theorem seated_settles (frontier : Frontier) (ready : Bool) (queue : WorkQueue) :
    queue.Settles (frontier.seated ready queue) := by
  obtain ⟨items, _, state⟩ := frontier.seated_shape ready queue
  cases ready <;> exact ⟨items, rfl, rfl, rfl, fun _ => ⟨by simp [state], rfl⟩⟩

theorem settle_settles (frontier : Frontier) (queue old : WorkQueue) (pause : Time.Span)
    (calm : frontier.Calm) (found : frontier.queue? queue.key = some old)
    (process : queue.state = .inProcess) :
    ∃ after placement landed, frontier.settle queue pause = (after, some placement) ∧
      (after.place queue.key placement).queue? queue.key = some landed ∧ queue.Settles landed := by
  have allowed (state : QueueState) (moves : QueueState.inProcess.allows state = true) :
      queue.state.allows state = true := by
    rw [process]
    exact moves
  rw [settle]
  by_cases spent : queue.isOverTotal = true
  · let retired := WorkQueue.deactivate { queue with state := .retired }
    rw [if_pos spent, retire, queue.transition_allowed .retired (allowed .retired rfl)]
    refine ⟨_, _, retired, rfl, ?_, rfl, rfl, rfl, rfl, fun _ => ⟨?_, rfl⟩⟩
    · exact store_same frontier retired old found
    · simp [retired, WorkQueue.deactivate]
  · rw [if_neg spent]
    by_cases owed : pause ≠ 0
    · let asleep := WorkQueue.setWakeTime { queue with state := .snoozed } (some (frontier.now + pause))
      rw [if_pos owed, rest, queue.transition_allowed .snoozed (allowed .snoozed rfl)]
      refine ⟨_, _, asleep, rfl, ?_, rfl, rfl, rfl, rfl, fun _ => ⟨?_, rfl⟩⟩
      · exact store_same frontier asleep old found
      · simp [asleep, WorkQueue.setWakeTime]
    · rw [if_neg owed]
      by_cases dry : queue.isEmpty = true
      · have none : queue.items = [] := by simpa [WorkQueue.isEmpty] using dry
        rw [if_pos dry, markExhausted,
          queue.noteExhausted.transition_allowed .empty (allowed .empty rfl)]
        exact ⟨_, _, queue.exhaust, rfl, store_same frontier queue.exhaust old found, rfl, rfl, rfl,
          rfl, fun some => absurd none some⟩
      · rw [if_neg dry]
        obtain ⟨after, placement, again, lined⟩ := reenqueue_lined frontier queue old calm found
          ⟨allowed .ready rfl, allowed .inactive rfl⟩
        exact ⟨after, placement, _, again, lined.landed queue (List.mem_singleton_self _),
          frontier.seated_settles _ queue⟩

theorem marks_dozing : Dozing nobody fun before after => after.stats.of = before.stats.of where
  refl _ := rfl
  trans _ _ _ one two := two.trans one
  route _ _ := rfl
  store _ _ _ := rfl
  add _ _ _ _ := rfl
  file _ _ _ := rfl
  count _ := by funext mark; cases mark <;> rfl
  publish _ _ := by funext mark; cases mark <;> rfl
  shelve _ _ := rfl
  snooze _ _ _ := rfl
  awaken _ _ _ _ _ := rfl

section Returning

variable {frontier : Frontier} {uri head : CrawlUri} {rest : List CrawlUri} {queue : WorkQueue}

theorem Reported.settles (reported : frontier.Reported uri queue head rest) (outcome : Outcome)
    (calm : frontier.Calm) :
    ∃ landed, (frontier.complete uri outcome).1.queue? uri.siteKey = some landed ∧
      (frontier.billed queue head outcome).Settles landed ∧
      (frontier.complete uri outcome).1.stats.of =
        (frontier.billedStats queue head outcome).of := by
  let billed := frontier.billed queue head outcome
  let base := frontier.givenUp billed (frontier.billedStats queue head outcome)
  let pause := frontier.pauseAfter head outcome
  have named := queue_key frontier uri.siteKey queue reported.found
  have key : billed.key = uri.siteKey := (frontier.billed_key queue head outcome).trans named
  have found : base.queue? billed.key = some billed :=
    store_same frontier billed queue (key.symm ▸ reported.found)
  have state := (frontier.billed_shape queue head rest outcome reported.line).2.1
  obtain ⟨after, placement, landed, settled, present, settles⟩ :=
    base.settle_settles billed billed pause calm found (state.trans reported.process)
  have dozed := settle_dozed marks_dozing base billed pause (free_nobody base billed)
  have placed := place_placed marks_dozing.toPlacing after uri.siteKey placement
  obtain ⟨gateway, signal, told⟩ := report_drained (after.place uri.siteKey placement)
    (frontier.grantsRetry head outcome) head outcome
  rw [key] at present
  rw [settled] at dozed
  simp only [base, billed, pause] at settled
  rw [complete_shape frontier uri head rest outcome queue reported, settled]
  simp only [told]
  exact ⟨landed, present, settles, placed.trans dozed⟩

theorem Reported.retains (reported : frontier.Reported uri queue head rest) (outcome : Outcome)
    (calm : frontier.Calm) (granted : frontier.grantsRetry head outcome = true) :
    ∃ landed, (frontier.complete uri outcome).1.queue? uri.siteKey = some landed ∧
      queue.Retains head rest landed ∧ Counts .retried queue.counters.of landed.counters.of ∧
      Counts .retried frontier.stats.of (frontier.complete uri outcome).1.stats.of := by
  obtain ⟨landed, found, settles, stats⟩ := reported.settles outcome calm
  have billed : frontier.billed queue head outcome =
      { queue with
        items := head.again :: rest
        counters := { queue.counters with retried := queue.counters.retried + 1 } } := by
    rw [Frontier.billed, if_pos granted, WorkQueue.retryHead, reported.line]
    rfl
  have counts : Counts .retried queue.counters.of
      (frontier.billed queue head outcome).counters.of := by
    rw [billed]
    exact count_retried queue.counters
  have counted := counts.offset (billed_offsets queue head rest outcome reported.line)
  rw [billed] at settles
  obtain ⟨busy, exhausted⟩ := settles.busy (List.cons_ne_nil _ _)
  refine ⟨landed, found, ⟨settles.items, settles.session, settles.total, busy, exhausted⟩, ?_,
    stats ▸ counted⟩
  rw [settles.counters]
  exact count_retried queue.counters

theorem Reported.pays (reported : frontier.Reported uri queue head rest) (outcome : Outcome)
    (calm : frontier.Calm) (refused : frontier.grantsRetry head outcome = false) :
    ∃ landed, (frontier.complete uri outcome).1.queue? uri.siteKey = some landed ∧
      queue.PaysOff head rest landed ∧
      Counts outcome.status.mark queue.counters.of landed.counters.of ∧
      Counts outcome.status.mark frontier.stats.of (frontier.complete uri outcome).1.stats.of := by
  obtain ⟨landed, found, settles, stats⟩ := reported.settles outcome calm
  have items := (frontier.billed_shape queue head rest outcome reported.line).1
  have paid : frontier.billed queue head outcome = (frontier.finishHead queue head outcome).2 := by
    rw [billed, refused]
    rfl
  have counts : Counts outcome.status.mark queue.counters.of
      (frontier.billed queue head outcome).counters.of := by
    rw [billed_counters queue head outcome refused]
    exact count_outcome queue.counters outcome.status
  have counted := counts.offset (billed_offsets queue head rest outcome reported.line)
  rw [refused] at items
  refine ⟨landed, found, ⟨settles.items.trans items, ?_, ?_⟩, ?_, stats ▸ counted⟩
  · rw [settles.session, paid]
    rfl
  · rw [settles.total, paid]
    rfl
  · rw [settles.counters]
    exact counts

end Returning

end Frontier

end PoliteCrawl
