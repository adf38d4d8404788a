import PoliteCrawl.Proofs.Frontier.Call
import PoliteCrawl.Proofs.Frontier.Requeue
import PoliteCrawl.Proofs.Frontier.Stranding
import PoliteCrawl.Proofs.Frontier.Supervision

set_option autoImplicit false

namespace PoliteCrawl

inductive Mark where
  | dispatched
  | succeeded
  | failed
  | disregarded
  | retried

def QueueCounters.of (counters : QueueCounters) : Mark → Nat
  | .dispatched => counters.dispatched
  | .succeeded => counters.succeeded
  | .failed => counters.failed
  | .disregarded => counters.disregarded
  | .retried => counters.retried

namespace Stats

def of (stats : Stats) : Mark → Nat
  | .dispatched => stats.dispatched
  | .succeeded => stats.succeeded
  | .failed => stats.failed
  | .disregarded => stats.disregarded
  | .retried => stats.retried

def finished (stats : Stats) : Nat :=
  stats.succeeded + stats.failed + stats.disregarded

def gone (stats : Stats) : Nat :=
  stats.reclassified + stats.finished

end Stats

namespace Frontier

def sumOf (frontier : Frontier) (measure : WorkQueue → Nat) : Nat :=
  frontier.queues.foldr (fun queue total => measure queue + total) 0

theorem store_sum (frontier : Frontier) (old new : WorkQueue) (measure : WorkQueue → Nat)
    (once : frontier.keys.Nodup) (found : frontier.queue? new.key = some old) :
    (frontier.store new).sumOf measure + measure old = frontier.sumOf measure + measure new := by
  unfold keys at once
  unfold queue? at found
  simp only [sumOf, store]
  generalize frontier.queues = queues at once found
  induction queues with
  | nil => cases found
  | cons first rest ih =>
      obtain ⟨fresh, others⟩ := List.nodup_cons.mp once
      by_cases here : first.key = new.key
      · have same : first = old := by simpa [here] using found
        subst same
        rw [List.map_cons, replace_missing rest new (here ▸ fresh), if_pos here]
        simp only [List.foldr_cons]
        omega
      · have later := ih others (by simpa [here] using found)
        simp only [List.map_cons, if_neg here, List.foldr_cons] at later ⊢
        omega

-- Each outcome that the frontier counted was counted by one queue, and each URI that ever joined a
-- queue is still in one, was moved to another, or is done with.
structure Balanced (frontier : Frontier) : Prop where
  once : frontier.keys.Nodup
  marks : ∀ mark, frontier.sumOf (·.counters.of mark) = frontier.stats.of mark
  enqueued : frontier.sumOf (·.counters.enqueued) =
    frontier.sumOf (·.length) + frontier.stats.gone

structure Offsets (old new : WorkQueue) (before after : Stats) : Prop where
  marks : ∀ mark, new.counters.of mark + before.of mark = old.counters.of mark + after.of mark
  enqueued : new.counters.enqueued + old.length + before.gone =
    old.counters.enqueued + new.length + after.gone

-- A queue may differ from the one that the frontier holds, but not in what is counted.
def Books (frontier : Frontier) (queue : WorkQueue) : Prop :=
  ∃ old, frontier.queue? queue.key = some old ∧ queue.counters = old.counters ∧
    queue.length = old.length

section Balanced

variable {before after : Frontier}

theorem Balanced.still (balanced : before.Balanced) (queues : after.queues = before.queues)
    (marks : after.stats.of = before.stats.of) (gone : after.stats.gone = before.stats.gone) :
    after.Balanced := by
  have totals : after.sumOf = before.sumOf := by
    funext measure
    rw [sumOf, sumOf, queues]
  refine ⟨?_, fun mark => ?_, ?_⟩
  · rw [keys, queues]
    exact balanced.once
  · rw [totals, marks]
    exact balanced.marks mark
  · rw [totals, gone]
    exact balanced.enqueued

theorem Balanced.posts (balanced : before.Balanced) (old new : WorkQueue)
    (found : before.queue? new.key = some old) (queues : after.queues = (before.store new).queues)
    (offsets : Offsets old new before.stats after.stats) : after.Balanced := by
  have moved (measure : WorkQueue → Nat) :
      after.sumOf measure + measure old = before.sumOf measure + measure new := by
    rw [sumOf, queues]
    exact store_sum before old new measure balanced.once found
  refine ⟨?_, fun mark => ?_, ?_⟩
  · rw [keys, queues]
    change (before.store new).keys.Nodup
    rw [store_keys]
    exact balanced.once
  · have change := moved (·.counters.of mark)
    have offset := offsets.marks mark
    have books := balanced.marks mark
    omega
  · have change := moved (·.counters.enqueued)
    have lengths := moved (·.length)
    have offset := offsets.enqueued
    have books := balanced.enqueued
    omega

theorem Balanced.store (balanced : before.Balanced) (new : WorkQueue) (booked : before.Books new) :
    (before.store new).Balanced := by
  obtain ⟨old, found, counters, length⟩ := booked
  exact balanced.posts old new found rfl
    ⟨fun _ => by rw [counters]; rfl, by rw [counters, length]; rfl⟩

theorem Balanced.add (balanced : before.Balanced) (key : String) (tier : Nat)
    (missing : before.queue? key = none) :
    (before.addQueue (WorkQueue.new key tier)).Balanced := by
  have fresh := (queue_missing before key).mp missing
  have none (measure : WorkQueue → Nat) (zero : measure (WorkQueue.new key tier) = 0) :
      (before.addQueue (WorkQueue.new key tier)).sumOf measure = before.sumOf measure := by
    simp [sumOf, addQueue, zero]
  refine ⟨?_, fun mark => ?_, ?_⟩
  · simpa [keys, addQueue, WorkQueue.new, List.nodup_append] using
      ⟨balanced.once, fun other member same => fresh (same ▸ List.mem_map_of_mem member)⟩
  · rw [none _ (by cases mark <;> rfl)]
    exact balanced.marks mark
  · rw [none _ rfl, none _ rfl]
    exact balanced.enqueued

theorem Books.found {frontier : Frontier} {queue : WorkQueue} {key : String}
    (found : frontier.queue? key = some queue) : frontier.Books queue :=
  ⟨queue, (queue_key frontier key queue found).symm ▸ found, rfl, rfl⟩

theorem Books.stored {frontier : Frontier} {queue : WorkQueue} (booked : frontier.Books queue) :
    (frontier.store queue).Books queue := by
  obtain ⟨old, found, _, _⟩ := booked
  exact ⟨queue, store_same frontier queue old found, rfl, rfl⟩

end Balanced

section Placing

variable {frontier : Frontier}

theorem Balanced.place (balanced : frontier.Balanced) (key : String) (placement : Placement) :
    (frontier.place key placement).Balanced := by
  cases placement with
  | ready => exact balanced.still rfl (by funext mark; cases mark <;> rfl) rfl
  | inactive tier => exact balanced.still rfl rfl rfl
  | stay => exact balanced

theorem Balanced.requeued {queue : WorkQueue} {after : Frontier} {answer : Option Placement}
    (balanced : frontier.Balanced) (booked : frontier.Books queue)
    (requeued : Requeued frontier queue (after, answer)) : after.Balanced := by
  have routed (routing : Routing) : { frontier with routing }.Balanced := balanced.still rfl rfl rfl
  cases requeued with
  | fails routing _ => exact routed routing
  | parks routing asked told _ =>
      obtain ⟨tier, rfl⟩ := told
      exact (routed routing).store _ booked
  | readies routing asked told _ =>
      obtain ⟨tier, rfl⟩ := told
      exact (routed routing).store _ booked

theorem exhausted_balanced (queue : WorkQueue) (balanced : frontier.Balanced)
    (booked : frontier.Books queue) : (frontier.markExhausted queue).Balanced := by
  by_cases allowed : queue.noteExhausted.state.allows .empty = true
  · simp only [markExhausted, WorkQueue.transition, if_pos allowed]
    exact balanced.store _ booked
  · simp only [markExhausted, WorkQueue.transition, if_neg allowed]
    exact balanced.store _ booked

theorem retire_balanced (queue : WorkQueue) (balanced : frontier.Balanced)
    (booked : frontier.Books queue) : (frontier.retire queue).Balanced := by
  by_cases allowed : queue.state.allows .retired = true
  · simp only [retire, WorkQueue.transition, if_pos allowed]
    exact (balanced.store (WorkQueue.deactivate { queue with state := .retired }) booked).still rfl
      rfl rfl
  · simp only [retire, WorkQueue.transition, if_neg allowed]
    exact balanced

theorem enqueue_counters (queue : WorkQueue) (uri : CrawlUri) :
    (queue.enqueue uri).counters =
      { queue.counters with enqueued := queue.counters.enqueued + 1 } := by
  cases hint : uri.hint <;> simp [WorkQueue.enqueue, hint, WorkQueue.raisePrecedence]

theorem send_balanced (uri : CrawlUri) (balanced : frontier.Balanced) :
    (frontier.send uri).1.Balanced := by
  have joins {base : Frontier} {queue : WorkQueue}
      (ensured : Ensured frontier uri.siteKey (base, some queue)) :
      (base.store (queue.enqueue uri)).countQueued.Balanced ∧
        (base.store (queue.enqueue uri)).countQueued.Books (queue.enqueue uri) := by
    have named := queue_key base uri.siteKey queue ensured.stored
    have found : base.queue? (queue.enqueue uri).key = some queue := by
      rw [queue.enqueue_key, named]
      exact ensured.stored
    have whole : base.Balanced := by
      cases ensured with
      | known _ _ => exact balanced
      | adds routing tier missing _ =>
          have routed : { frontier with routing }.Balanced := balanced.still rfl rfl rfl
          exact routed.add _ tier missing
    refine ⟨whole.posts queue (queue.enqueue uri) found rfl ⟨fun mark => ?_, ?_⟩, queue.enqueue uri,
      store_same base _ queue found, rfl, rfl⟩
    · rw [enqueue_counters]
      cases mark <;> rfl
    · rw [enqueue_counters, WorkQueue.length, WorkQueue.length, queue.enqueue_items,
        List.length_append]
      change _ + 1 + _ + base.stats.gone = _ + (_ + 1) + base.stats.gone
      omega
  have sent := send_cases frontier uri
  generalize frontier.send uri = result at sent
  cases sent with
  | lost routing missing => exact balanced.still rfl rfl rfl
  | joins queue found busy => exact (joins (.known queue found)).1
  | places ensured empty requeued =>
      obtain ⟨grown, booked⟩ := joins ensured
      exact (grown.requeued booked requeued).place _ _
  | sticks routing ensured empty => exact (joins ensured).1.still rfl rfl rfl

theorem receive_all_balanced (uris : List CrawlUri) (balanced : frontier.Balanced) :
    (frontier.receiveAll uris).1.Balanced := by
  induction uris generalizing frontier with
  | nil => exact balanced
  | cons uri rest ih =>
      have sent : (frontier.schedule uri).1.Balanced := send_balanced _ balanced
      rw [receiveAll]
      cases result : frontier.schedule uri with
      | mk after answer =>
          rw [result] at sent
          cases answer with
          | none => exact sent
          | some received => exact ih sent

end Placing

section Returning

variable {frontier : Frontier}

theorem reenqueue_balanced (queue : WorkQueue) (balanced : frontier.Balanced)
    (booked : frontier.Books queue)
    (free : queue.state.allows .ready = true ∧ queue.state.allows .inactive = true) :
    (frontier.reenqueue queue).1.Balanced :=
  balanced.requeued booked (reenqueue_cases frontier queue free)

theorem inspect_balanced (key : String) (tier : Nat) (balanced : frontier.Balanced) :
    (frontier.inspect key tier).1.Balanced := by
  have inspected := inspect_cases frontier key tier
  generalize frontier.inspect key tier = result at inspected
  have refreshed {queue : WorkQueue} (found : frontier.queue? queue.key = some queue) :
      (frontier.refresh queue).1.Balanced ∧
        ∀ asked, (frontier.refresh queue).2 = some asked →
          (frontier.refresh queue).1.Books asked := by
    have routed (routing : Routing) : { frontier with routing }.Balanced :=
      balanced.still rfl rfl rfl
    obtain ⟨routing, _, fails | ⟨rate, asks⟩⟩ := refresh_cases frontier queue
    · rw [fails]
      exact ⟨routed routing, by simp⟩
    · have booked : { frontier with routing }.Books (queue.setPrecedence rate) :=
        ⟨queue, found, rfl, rfl⟩
      rw [asks]
      refine ⟨(routed routing).store _ booked, fun asked same => ?_⟩
      cases same
      exact booked.stored
  cases inspected with
  | stale => exact balanced
  | fails found _ same =>
      have rated := (refreshed found).1
      rwa [same] at rated
  | misfiled found _ same _ =>
      have rated := (refreshed found).1
      rwa [same] at rated
  | @readies _ asked after found _ same _ =>
      obtain ⟨rated, booked⟩ := refreshed found
      rw [same] at rated booked
      have kept : after.Books asked := booked asked rfl
      exact rated.store { asked with state := .ready } kept

theorem activate_balanced (balanced : frontier.Balanced) :
    frontier.activateInactive.1.Balanced := by
  have scanned : (Tiers.scan inspect (frontier.tiers.filed.map (·.1)) frontier
      frontier.tiers.filed).1.Balanced :=
    (Tiers.scan_keeps inspect Balanced (fun _ key tier kept => inspect_balanced key tier kept) _ _ _
      balanced).1
  simp only [activateInactive, Tiers.activateNext]
  cases result : Tiers.scan inspect (frontier.tiers.filed.map (·.1)) frontier
      frontier.tiers.filed with
  | mk after others =>
      obtain ⟨left, ended⟩ := others
      rw [result] at scanned
      have refiled (tiers : Tiers) : { after with tiers }.Balanced := scanned.still rfl rfl rfl
      cases ended with
      | exhausted => exact refiled _
      | failed => exact refiled _
      | activated key => exact (refiled _).place key .ready

theorem unretire_queue_balanced (key : String) (balanced : frontier.Balanced) :
    (frontier.unretireQueue key).1.Balanced := by
  rw [unretireQueue]
  cases found : frontier.queue? key with
  | none => exact balanced
  | some queue =>
      by_cases retired : queue.state = .retired
      · have known : frontier.Books queue := Books.found found
        have booked : frontier.Books (queue.setTotalBudget frontier.budgets.total) := known
        have stored := balanced.store _ booked
        simp only [if_pos retired]
        split
        · exact stored.still rfl rfl rfl
        · have again := reenqueue_balanced _ stored booked.stored
            (by simp [WorkQueue.setTotalBudget, retired, QueueState.allows])
          split <;> rename_i result <;> rw [result] at again
          · exact again
          · exact again.place key _
      · simp only [if_neg retired]
        exact balanced

theorem unretire_all_balanced (count : Nat) (keys : List String) (balanced : frontier.Balanced) :
    (frontier.unretireAll count keys).1.Balanced := by
  induction keys generalizing frontier count with
  | nil => exact balanced
  | cons key rest ih =>
      have recalled := unretire_queue_balanced key balanced
      rw [unretireAll]
      split <;> rename_i result <;> rw [result] at recalled
      · exact recalled
      · exact ih _ recalled
      · exact ih _ recalled

theorem wake_queue_balanced (key : String) (balanced : frontier.Balanced) :
    (frontier.wakeQueue key).1.Balanced := by
  rw [wakeQueue]
  cases found : frontier.queue? key with
  | none => exact balanced
  | some queue =>
      by_cases asleep : queue.state = .snoozed
      · have known : frontier.Books queue := Books.found found
        have booked : frontier.Books (queue.setWakeTime none) := known
        have stored := balanced.store _ booked
        simp only [if_pos asleep]
        split
        · exact exhausted_balanced _ stored booked.stored
        · have again := reenqueue_balanced _ stored booked.stored
            (by simp [WorkQueue.setWakeTime, asleep, QueueState.allows])
          split <;> rename_i result <;> rw [result] at again
          · exact again
          · exact again.place key _
      · simp only [if_neg asleep]
        exact balanced

theorem resnooze_balanced (key : String) (balanced : frontier.Balanced) :
    (frontier.resnooze key).Balanced := by
  rw [resnooze]
  cases found : frontier.queue? key with
  | none => exact balanced
  | some queue =>
      by_cases asleep : queue.state = .snoozed
      · have known : frontier.Books queue := Books.found found
        simp only [if_pos asleep]
        exact (balanced.store (queue.setWakeTime (some frontier.now)) known).still rfl rfl rfl
      · simp only [if_neg asleep]
        exact balanced

theorem wake_due_balanced (entries : Snoozed) (balanced : frontier.Balanced) :
    (frontier.wakeDue entries).1.Balanced := by
  induction entries generalizing frontier with
  | nil => exact balanced
  | cons entry rest ih =>
      have shorter : { frontier with snoozed := rest }.Balanced := balanced.still rfl rfl rfl
      have woken := wake_queue_balanced entry.key shorter
      rw [wakeDue]
      split
      · split <;> rename_i result <;> rw [result] at woken
        · exact resnooze_balanced entry.key woken
        · exact ih woken
      · exact balanced

end Returning

theorem balanced_permits : Permits fun before after => before.Balanced → after.Balanced where
  refl _ balanced := balanced
  trans _ _ _ one two balanced := two (one balanced)
  mark _ _ _ balanced := balanced.still rfl rfl rfl
  retarget _ _ _ _ _ balanced := balanced.still rfl rfl rfl
  notify _ balanced := balanced.still rfl rfl rfl
  call _ balanced := balanced.still rfl rfl rfl
  snooze _ _ balanced := balanced.still rfl rfl rfl
  close _ _ _ _ balanced := balanced.still rfl rfl rfl
  wake frontier balanced := by
    have woken := wake_due_balanced frontier.snoozed balanced
    rw [wakeQueues]
    split <;> rename_i result <;> rw [result] at woken <;> exact woken

section Completing

variable {frontier : Frontier}

theorem settle_balanced (queue : WorkQueue) (pause : Time.Span) (balanced : frontier.Balanced)
    (booked : frontier.Books queue) (process : queue.state = .inProcess) :
    (frontier.settle queue pause).1.Balanced := by
  rw [settle]
  split
  · exact retire_balanced queue balanced booked
  · split
    · let wake := frontier.now + pause
      let asleep := WorkQueue.setWakeTime { queue with state := .snoozed } (some wake)
      have stored : (frontier.store asleep).Balanced := balanced.store asleep booked
      simp only [rest, queue.transition_allowed .snoozed (by simp [process, QueueState.allows])]
      exact stored.still rfl rfl rfl
    · split
      · exact exhausted_balanced queue balanced booked
      · exact reenqueue_balanced queue balanced booked (by simp [process, QueueState.allows])

theorem billed_counters (queue : WorkQueue) (head : CrawlUri) (outcome : Outcome)
    (refused : frontier.grantsRetry head outcome = false) :
    (frontier.billed queue head outcome).counters = queue.counters.count outcome.status := by
  simp [billed, refused, finishHead, WorkQueue.recordOutcome, WorkQueue.expend, WorkQueue.dequeue]

theorem billed_stats (queue : WorkQueue) (head : CrawlUri) (outcome : Outcome)
    (refused : frontier.grantsRetry head outcome = false) :
    frontier.billedStats queue head outcome =
      frontier.discountQueued.stats.count outcome.status := by
  simp only [billedStats, refused, finishHead]
  rfl

theorem billed_offsets (queue : WorkQueue) (head : CrawlUri) (rest : List CrawlUri)
    (outcome : Outcome) (line : queue.items = head :: rest) :
    Offsets queue (frontier.billed queue head outcome) frontier.stats
      (frontier.billedStats queue head outcome) := by
  obtain ⟨items, _, _⟩ := frontier.billed_shape queue head rest outcome line
  cases retried : frontier.grantsRetry head outcome with
  | true =>
      rw [retried] at items
      refine ⟨fun mark => ?_, ?_⟩
      · simp only [billed, billedStats, retried, WorkQueue.retryHead, line, countRetry]
        cases mark <;> simp [QueueCounters.of, Stats.of]
        omega
      · have length : (frontier.billed queue head outcome).length = queue.length := by
          rw [WorkQueue.length, items, WorkQueue.length, line]
          rfl
        have enqueued : (frontier.billed queue head outcome).counters.enqueued =
            queue.counters.enqueued := by
          simp [billed, retried, WorkQueue.retryHead, line]
        rw [length, enqueued]
        simp [billedStats, retried, countRetry, Stats.gone, Stats.finished]
  | false =>
      rw [retried] at items
      have counters := billed_counters queue head outcome retried
      have shorter : (frontier.billed queue head outcome).length + 1 = queue.length := by
        rw [WorkQueue.length, items, WorkQueue.length, line]
        rfl
      rw [billed_stats queue head outcome retried]
      refine ⟨fun mark => ?_, ?_⟩
      · rw [counters]
        cases outcome.status <;> cases mark <;>
          simp only [QueueCounters.count, QueueCounters.of, Stats.count, Stats.of, discountQueued] <;>
          omega
      · rw [counters]
        cases outcome.status <;>
          simp only [QueueCounters.count, Stats.count, Stats.gone, Stats.finished, discountQueued] <;>
          omega

theorem complete_balanced (uri : CrawlUri) (outcome : Outcome) (balanced : frontier.Balanced) :
    (frontier.complete uri outcome).1.Balanced := by
  rcases complete_reported frontier uri outcome with ⟨cause, refused⟩ | ⟨queue, head, rest, reported⟩
  · rw [refused]
    exact balanced
  · let billed := frontier.billed queue head outcome
    let base := frontier.givenUp billed (frontier.billedStats queue head outcome)
    have named := queue_key frontier uri.siteKey queue reported.found
    have key : billed.key = uri.siteKey := (frontier.billed_key queue head outcome).trans named
    have found : frontier.queue? billed.key = some queue := key.symm ▸ reported.found
    have given : base.Balanced := balanced.posts queue billed found rfl
      (billed_offsets queue head rest outcome reported.line)
    have booked : base.Books billed := ⟨billed, store_same frontier billed queue found, rfl, rfl⟩
    have state := (frontier.billed_shape queue head rest outcome reported.line).2.1
    have settled := settle_balanced billed (frontier.pauseAfter head outcome) given booked
      (state.trans reported.process)
    rw [complete_shape frontier uri head rest outcome queue reported]
    cases result : base.settle billed (frontier.pauseAfter head outcome) with
    | mk after answer =>
        rw [result] at settled
        cases answer with
        | none => exact settled
        | some placement =>
            obtain ⟨gateway, signal, told⟩ := report_drained (after.place uri.siteKey placement)
              (frontier.grantsRetry head outcome) head outcome
            simp only [told]
            exact (settled.place uri.siteKey placement).still rfl rfl rfl

end Completing

section Dispatching

variable {frontier : Frontier}

theorem open_session_counters (budgets : Budgets) (queue : WorkQueue) :
    (openSession budgets queue).counters = queue.counters := by
  unfold openSession WorkQueue.considerActive
  split <;> rfl

theorem claim_balanced (queue : WorkQueue) (balanced : frontier.Balanced)
    (found : frontier.queue? queue.key = some queue) :
    (frontier.claim queue).1.Balanced ∧
      ((frontier.claim queue).2 = .claimed → queue.items ≠ [] ∧
        ∃ opened : WorkQueue, opened.key = queue.key ∧ opened.items = queue.items ∧
          (frontier.claim queue).1.queue? queue.key = some opened) := by
  have known : frontier.Books queue := Books.found found
  by_cases passes : queue.state ≠ .ready ∨ (queue.items ≠ [] ∧ queue.key ∈ frontier.claims)
  · have passed : frontier.claim queue = (frontier, .skipped) := by
      rcases passes with other | ⟨some, listed⟩
      · simp [claim, other]
      · by_cases ready : queue.state = .ready <;>
          simp [claim, ready, WorkQueue.isEmpty, some, listed]
    rw [passed]
    exact ⟨balanced, by simp⟩
  · have ready : queue.state = .ready := by simpa using fun other => passes (.inl other)
    by_cases dry : queue.items = []
    · have exhausted : frontier.claim queue = (frontier.markExhausted queue, .skipped) := by
        simp [claim, ready, WorkQueue.isEmpty, dry]
      rw [exhausted]
      exact ⟨exhausted_balanced queue balanced known, by simp⟩
    · have free : queue.key ∉ frontier.claims := fun listed => passes (.inr ⟨dry, listed⟩)
      have claiming := claim_cases frontier queue ready free
      obtain ⟨key, items, _, _⟩ := frontier.opened_shape queue
      have booked : frontier.Books (frontier.opened queue) :=
        ⟨queue, key.symm ▸ found, open_session_counters _ _, congrArg List.length items⟩
      generalize frontier.claim queue = result at claiming
      cases claiming with
      | dry none => exact absurd none dry
      | parks some => exact ⟨balanced.store _ booked, by simp⟩
      | retires some =>
          exact ⟨retire_balanced _ (balanced.store _ booked) booked.stored, by simp⟩
      | claimed some =>
          refine ⟨(balanced.store _ booked).still rfl rfl rfl, fun _ => ⟨some, _, key, items, ?_⟩⟩
          rw [← key]
          exact store_same frontier (frontier.opened queue) queue (key.symm ▸ found)

theorem record_balanced (queue : WorkQueue) (balanced : frontier.Balanced)
    (found : frontier.queue? queue.key = some queue) : (frontier.recordDispatch queue).Balanced := by
  refine balanced.posts queue (queue.recordDispatch frontier.moment) found rfl ⟨fun mark => ?_, rfl⟩
  cases mark <;> simp [WorkQueue.recordDispatch, QueueCounters.of, Stats.of, recordDispatch, store]
  omega

theorem dropped_balanced (queue : WorkQueue) (head : CrawlUri) (rest : List CrawlUri)
    (balanced : frontier.Balanced) (found : frontier.queue? queue.key = some queue)
    (line : queue.items = head :: rest) : (frontier.dropped queue head).Balanced := by
  let shorter : WorkQueue := { queue with items := rest }
  let moved := (frontier.store shorter).countReclassified.discountQueued
  have left : moved.Balanced := by
    refine balanced.posts queue shorter found rfl ⟨fun mark => by cases mark <;> rfl, ?_⟩
    have length : queue.length = rest.length + 1 := by rw [WorkQueue.length, line]; rfl
    rw [length]
    simp [moved, shorter, Stats.gone, Stats.finished, WorkQueue.length, countReclassified,
      discountQueued, store]
    omega
  by_cases last : rest = []
  · subst last
    have booked : moved.Books shorter :=
      ⟨shorter, store_same frontier shorter queue found, rfl, rfl⟩
    have exhausted := exhausted_balanced shorter left booked
    have allowed (base : Frontier) : base.markExhausted shorter =
        base.store (if shorter.noteExhausted.state.allows .empty = true then
          { shorter.noteExhausted with state := .empty } else shorter.noteExhausted) := by
      by_cases free : shorter.noteExhausted.state.allows .empty = true <;>
        simp [markExhausted, WorkQueue.transition, free]
    rw [dropped_last frontier queue head line]
    rw [allowed] at exhausted ⊢
    exact exhausted.still rfl rfl rfl
  · rw [dropped_more frontier queue head rest line last]
    exact left

theorem resolve_balanced (items : List CrawlUri) (queue : WorkQueue) (some : items ≠ [])
    (line : queue.items = items) (found : frontier.queue? queue.key = .some queue)
    (balanced : frontier.Balanced) : (frontier.resolve queue.key items).1.Balanced := by
  induction items generalizing frontier queue with
  | nil => exact absurd rfl some
  | cons head rest ih =>
      by_cases home : frontier.routing.siteKey head.url = queue.key
      · rw [resolve_home frontier queue head rest found home]
        exact record_balanced queue balanced found
      · have dropped := dropped_balanced queue head rest balanced found line
        have sent := send_balanced (frontier.relocated head) dropped
        have beside := send_beside (frontier.dropped queue head) (frontier.relocated head)
          queue.key (Ne.symm home)
        rw [resolve_away frontier queue head rest found home]
        cases result : (frontier.dropped queue head).send (frontier.relocated head) with
        | mk after answer =>
            rw [result] at sent beside
            cases answer with
            | none => exact sent
            | some arrived =>
                by_cases last : rest = []
                · simp only [last, List.isEmpty_nil, if_true]
                  exact sent
                · have kept : after.queue? queue.key = .some { queue with items := rest } := by
                    rw [beside, dropped_more frontier queue head rest line last]
                    exact store_same frontier { queue with items := rest } queue found
                  simp only [List.isEmpty_iff, if_neg last]
                  exact ih { queue with items := rest } last rfl kept sent

theorem dispatch_balanced (key : String) (balanced : frontier.Balanced) :
    (frontier.dispatchFrom key).1.Balanced := by
  rw [dispatchFrom]
  cases found : frontier.queue? key with
  | none => exact balanced
  | some queue =>
      have named := queue_key frontier key queue found
      subst named
      obtain ⟨whole, claims⟩ := claim_balanced queue balanced found
      simp only
      cases result : frontier.claim queue with
      | mk after ended =>
          rw [result] at whole claims
          cases ended with
          | skipped => exact whole
          | parked tier => exact whole.place queue.key (.inactive tier)
          | claimed =>
              obtain ⟨some, opened, key, items, present⟩ := claims rfl
              rw [← key] at present ⊢
              exact resolve_balanced queue.items opened some items present whole

end Dispatching

section Calls

variable {frontier : Frontier}

theorem collect_balanced (worker : Nat) (balanced : frontier.Balanced) :
    (frontier.collect worker).1.Balanced := by
  rw [collect]
  cases frontier.gateway.takeBatch with
  | error cause => exact balanced.still rfl rfl rfl
  | ok taken =>
      obtain ⟨gateway, handover⟩ := taken
      have drawn : { frontier with gateway }.Balanced := balanced.still rfl rfl rfl
      have received := receive_all_balanced handover.uris drawn
      simp only
      split <;> rename_i result <;> rw [result] at received <;> exact received.still rfl rfl rfl

theorem flush_balanced (worker : Nat) (balanced : frontier.Balanced) :
    (frontier.flush worker).1.Balanced := by
  rw [flush]
  split
  · exact collect_balanced worker balanced
  · exact balanced

theorem pull_balanced (worker : Nat) (balanced : frontier.Balanced) :
    (frontier.pull worker).1.Balanced := by
  rw [pull]
  split
  · have activated := activate_balanced balanced
    split <;> rename_i result <;> rw [result] at activated
    · exact activated.still rfl rfl rfl
    · exact activated.still rfl rfl rfl
    · exact flush_balanced worker activated
  · exact flush_balanced worker balanced

theorem poll_balanced (worker : Nat) (progress : Bool) (balanced : frontier.Balanced) :
    (frontier.poll worker progress).1.Balanced := by
  rw [poll]
  cases first : frontier.ready with
  | nil => exact balanced
  | cons key rest =>
      have shorter : { frontier with ready := rest }.Balanced := balanced.still rfl rfl rfl
      have dispatched := dispatch_balanced key shorter
      simp only
      split <;> rename_i result <;> rw [result] at dispatched
      · exact dispatched.still rfl rfl rfl
      · exact dispatched
      · simp only [hand]
        split <;> exact dispatched.still rfl rfl rfl

theorem step_balanced (worker : Nat) (phase : CallPhase) (balanced : frontier.Balanced) :
    (frontier.stepPhase worker phase).1.Balanced := by
  cases phase with
  | entering =>
      simp only [stepPhase, enter]
      split
      · exact balanced.still rfl rfl rfl
      · split <;> exact balanced.still rfl rfl rfl
  | contending attempt =>
      simp only [stepPhase, contend]
      split
      · have began : { frontier with pulling := true }.Balanced := balanced.still rfl rfl rfl
        exact pull_balanced worker began
      · split <;> exact balanced
  | resting attempt until_ =>
      simp only [stepPhase]
      split <;> exact balanced
  | flushing due deadline =>
      simp only [stepPhase]
      split
      · exact collect_balanced worker balanced
      · split <;> exact balanced.still rfl rfl rfl
  | polling progress => exact poll_balanced worker progress balanced
  | waiting =>
      simp only [stepPhase, awake]
      split <;> exact balanced.still rfl rfl rfl
  | seeking | done _ | failed => exact balanced

theorem cancel_balanced (call : Call) (balanced : frontier.Balanced) :
    (frontier.cancel call).Balanced := by
  rw [cancel]
  split <;> exact balanced.still rfl rfl rfl

end Calls

end Frontier

end PoliteCrawl
