import PoliteCrawl.Proofs.Frontier.Dispatch
import PoliteCrawl.Proofs.Frontier.Frame

set_option autoImplicit false

namespace PoliteCrawl.Frontier

theorem rest_lands (frontier : Frontier) (queue : WorkQueue) (pause : Time.Span)
    (loose : frontier.Loose queue.key) (allowed : queue.state.allows .snoozed = true) :
    frontier.Lands queue (frontier.rest queue pause) := by
  let wake := frontier.now + pause
  let asleep : WorkQueue := WorkQueue.setWakeTime { queue with state := .snoozed } (some wake)
  have snoozed : frontier.rest queue pause = (frontier.store asleep).snooze asleep.key wake := by
    simp only [rest, queue.transition_allowed .snoozed allowed]
    rfl
  rw [snoozed]
  exact ⟨land_snoozed frontier asleep loose wake rfl rfl, rfl, rfl,
    asleep, rfl, lane_resting asleep (by simp [asleep, WorkQueue.setWakeTime]), rfl⟩

theorem settle_lands (frontier : Frontier) (queue : WorkQueue) (pause : Time.Span)
    (calm : frontier.Calm) (loose : frontier.Loose queue.key) (process : queue.state = .inProcess)
    (awake : queue.wakeTime = none) :
    ∃ placement, (frontier.settle queue pause).2 = some placement ∧
      frontier.Lands queue ((frontier.settle queue pause).1.place queue.key placement) := by
  unfold settle
  split
  · exact ⟨.stay, rfl, retire_lands frontier queue loose
      (by simp [process, QueueState.allows]) awake⟩
  · split
    · exact ⟨.stay, rfl, rest_lands frontier queue pause loose
        (by simp [process, QueueState.allows])⟩
    · split
      · rename_i dry
        exact ⟨.stay, rfl, exhausted_lands frontier queue loose
          (by simp [process, QueueState.allows]) (by simpa [WorkQueue.isEmpty] using dry) awake⟩
      · exact reenqueue_lands frontier queue calm loose (by simp [process, QueueState.allows]) awake

theorem complete_missing (frontier : Frontier) (uri : CrawlUri) (outcome : Outcome)
    (missing : frontier.queue? uri.siteKey = none) :
    frontier.complete uri outcome = (frontier, .refused (.missingQueue uri.siteKey)) := by
  simp [complete, missing]

theorem complete_idle (frontier : Frontier) (uri : CrawlUri) (outcome : Outcome)
    (queue : WorkQueue) (found : frontier.queue? uri.siteKey = some queue)
    (idle : queue.state ≠ .inProcess) :
    frontier.complete uri outcome = (frontier, .refused (.notInProcess uri.siteKey)) := by
  simp [complete, found, idle]

theorem process_claimed (frontier : Frontier) (key : String) (queue : WorkQueue)
    (registered : frontier.Registered) (found : frontier.queue? key = some queue)
    (process : queue.state = .inProcess) :
    key ∈ frontier.claims ∧ queue.items ≠ [] ∧ queue.wakeTime = none := by
  have stands := settled_queue frontier key queue registered found
  simp only [WorkQueue.StandsAt, process] at stands
  refine ⟨?_, stands.2⟩
  have once := congrArg Standing.claimed stands.1
  simp only [standing] at once
  exact List.count_pos_iff.mp (by omega)

theorem complete_unknown (frontier : Frontier) (uri head : CrawlUri) (rest : List CrawlUri)
    (outcome : Outcome) (queue : WorkQueue) (registered : frontier.Registered)
    (found : frontier.queue? uri.siteKey = some queue) (process : queue.state = .inProcess)
    (line : queue.items = head :: rest) (other : head.url ≠ uri.url) :
    frontier.complete uri outcome =
      (frontier, .refused (.unknownItem uri.text uri.siteKey)) := by
  have claimed := (process_claimed frontier uri.siteKey queue registered found process).1
  simp [complete, found, process, claimed, line, other]

theorem drained_same (frontier : Frontier) (registered : frontier.Registered) :
    frontier.Proceeds [] frontier.noteDrained ∧
      frontier.noteDrained.gateway = frontier.gateway := by
  unfold noteDrained
  split
  · exact ⟨.still ⟨registered.once, registered.ascending, registered.settled⟩ rfl rfl rfl, rfl⟩
  · exact ⟨.still registered rfl rfl rfl, rfl⟩

theorem count_queued (stats : Stats) (status : FetchStatus) :
    (stats.count status).queued = stats.queued := by
  cases status <;> rfl

def takeBack (frontier : Frontier) (head : CrawlUri) (outcome : Outcome) : Deed :=
  if frontier.grantsRetry head outcome then .retried head else .finished head

structure Reported (frontier : Frontier) (uri : CrawlUri) (queue : WorkQueue) (head : CrawlUri)
    (rest : List CrawlUri) : Prop where
  found : frontier.queue? uri.siteKey = some queue
  process : queue.state = .inProcess
  claimed : uri.siteKey ∈ frontier.claims
  line : queue.items = head :: rest
  same : head.url = uri.url

def billed (frontier : Frontier) (queue : WorkQueue) (head : CrawlUri) (outcome : Outcome) :
    WorkQueue :=
  if frontier.grantsRetry head outcome then queue.retryHead
  else (frontier.finishHead queue head outcome).2

def billedStats (frontier : Frontier) (queue : WorkQueue) (head : CrawlUri) (outcome : Outcome) :
    Stats :=
  if frontier.grantsRetry head outcome then frontier.countRetry.stats
  else (frontier.finishHead queue head outcome).1.stats

def pauseAfter (frontier : Frontier) (head : CrawlUri) (outcome : Outcome) : Time.Span :=
  if frontier.grantsRetry head outcome then
    max (frontier.pauseOwed outcome) frontier.config.retryDelay
  else frontier.pauseOwed outcome

def report (frontier : Frontier) (retried : Bool) (head : CrawlUri) (outcome : Outcome) :
    Frontier :=
  if retried then frontier
  else { frontier with gateway := frontier.gateway.noteFinished head outcome }

def givenUp (frontier : Frontier) (queue : WorkQueue) (stats : Stats) : Frontier :=
  { (frontier.release queue.key).store queue with stats }

theorem report_drained (frontier : Frontier) (retried : Bool) (head : CrawlUri)
    (outcome : Outcome) :
    ∃ gateway signal, (frontier.report retried head outcome).noteDrained =
      { frontier with gateway, snoozeSignal := signal } := by
  have drained (base : Frontier) :
      ∃ signal, base.noteDrained = { base with snoozeSignal := signal } := by
    rw [noteDrained]
    split
    · exact ⟨_, rfl⟩
    · exact ⟨base.snoozeSignal, rfl⟩
  cases retried with
  | true =>
      obtain ⟨signal, same⟩ := drained frontier
      exact ⟨frontier.gateway, signal, same⟩
  | false =>
      obtain ⟨signal, same⟩ :=
        drained { frontier with gateway := frontier.gateway.noteFinished head outcome }
      exact ⟨_, signal, same⟩

theorem billed_key (frontier : Frontier) (queue : WorkQueue) (head : CrawlUri)
    (outcome : Outcome) : (frontier.billed queue head outcome).key = queue.key := by
  cases retried : frontier.grantsRetry head outcome with
  | false => simp [billed, retried, finishHead, WorkQueue.recordOutcome, WorkQueue.expend,
      WorkQueue.dequeue]
  | true => cases line : queue.items <;> simp [billed, retried, WorkQueue.retryHead, line]

theorem billed_shape (frontier : Frontier) (queue : WorkQueue) (head : CrawlUri)
    (rest : List CrawlUri) (outcome : Outcome) (line : queue.items = head :: rest) :
    (frontier.billed queue head outcome).items =
        (if frontier.grantsRetry head outcome then head.again :: rest else rest) ∧
      (frontier.billed queue head outcome).state = queue.state ∧
      (frontier.billed queue head outcome).wakeTime = queue.wakeTime := by
  cases retried : frontier.grantsRetry head outcome with
  | false =>
      simp [billed, retried, finishHead, dequeue_head queue head rest line,
        WorkQueue.recordOutcome, WorkQueue.expend]
  | true => simp [billed, retried, WorkQueue.retryHead, line, CrawlUri.again]

-- All that a completion does: the queue settles with its outcome counted, and if it finds its place
-- the gateway hears of it.
theorem complete_shape (frontier : Frontier) (uri head : CrawlUri) (rest : List CrawlUri)
    (outcome : Outcome) (queue : WorkQueue) (reported : frontier.Reported uri queue head rest) :
    frontier.complete uri outcome =
      match (frontier.givenUp (frontier.billed queue head outcome)
        (frontier.billedStats queue head outcome)).settle (frontier.billed queue head outcome)
          (frontier.pauseAfter head outcome) with
      | (after, none) => (after, .failed)
      | (after, some placement) =>
          (((after.place uri.siteKey placement).report (frontier.grantsRetry head outcome) head
            outcome).noteDrained, .done) := by
  obtain ⟨found, process, claimed, line, same⟩ := reported
  have named := queue_key frontier uri.siteKey queue found
  have key := frontier.billed_key queue head outcome
  have whole : frontier.complete uri outcome =
      if frontier.grantsRetry head outcome then
        frontier.completeRetry queue (frontier.pauseOwed outcome)
      else frontier.completeFinal queue head outcome (frontier.pauseOwed outcome) := by
    simp [complete, found, process, claimed, line, same]
  rw [whole, ← named]
  cases retried : frontier.grantsRetry head outcome with
  | true =>
      have given : (frontier.countRetry.store queue.retryHead).release queue.key =
          frontier.givenUp queue.retryHead frontier.countRetry.stats := by
        have key := frontier.billed_key queue head outcome
        simp only [billed, retried, if_true] at key
        rw [givenUp, key]
        rfl
      have delay : (frontier.givenUp queue.retryHead frontier.countRetry.stats).config.retryDelay =
          frontier.config.retryDelay := rfl
      cases landed : (frontier.givenUp queue.retryHead frontier.countRetry.stats).settle
          queue.retryHead (max (frontier.pauseOwed outcome) frontier.config.retryDelay) with
      | mk after answer =>
          cases answer <;> simp only [completeRetry, given, delay, landed, billed, billedStats,
            pauseAfter, report, retried, if_true]
  | false =>
      let paid := (frontier.finishHead queue head outcome).2
      let stats := (frontier.finishHead queue head outcome).1.stats
      have given : (frontier.finishHead queue head outcome).1.release paid.key =
          frontier.givenUp paid stats := rfl
      have kept : queue.key = paid.key := rfl
      simp only [paid, stats] at given kept
      cases landed : (frontier.givenUp paid stats).settle paid (frontier.pauseOwed outcome) with
      | mk after answer =>
          simp only [paid, stats] at landed
          cases answer <;> simp only [completeFinal, given, landed, kept, billed, billedStats,
            pauseAfter, report, retried, Bool.false_eq_true, if_false]

theorem settle_proceeds (frontier : Frontier) (old queue : WorkQueue) (stats : Stats) (deed : Deed)
    (pause : Time.Span) (calm : frontier.Calm) (registered : frontier.Registered)
    (found : frontier.queue? queue.key = some old) (process : old.state = .inProcess)
    (state : queue.state = old.state) (wake : queue.wakeTime = old.wakeTime)
    (taken : old.lane.take deed = some { items := queue.items, busy := false })
    (queued : frontier.ledger.Counted →
      stats.queued + deed.left?.toList.length =
        frontier.stats.queued + deed.joined?.toList.length) :
    ∃ after placement,
      (frontier.givenUp queue stats).settle queue pause = (after, some placement) ∧
        frontier.Proceeds [⟨queue.key, deed⟩] (after.place queue.key placement) ∧
        (after.place queue.key placement).gateway = frontier.gateway := by
  obtain ⟨listed, _, awake⟩ := process_claimed frontier queue.key old registered found process
  have stored := (loosen_claimed frontier queue.key registered listed).store
  have loose : (frontier.givenUp queue stats).Loose queue.key :=
    ⟨stored.once, stored.ascending, stored.known, stored.nowhere, stored.others⟩
  obtain ⟨placement, placed, lands⟩ := settle_lands (frontier.givenUp queue stats) queue pause
    calm loose (state.trans process) (wake.trans awake)
  obtain ⟨earlier, later, differs⟩ := lands.differs frontier old registered.once found
    (.inr ⟨queue, rfl, rfl⟩)
  refine ⟨_, placement, Prod.ext rfl placed,
    ⟨lands.registered, lands.routing, differs.posted (by simp) ?_ ?_⟩, ?_⟩
  · rw [earlier, later]
    simp [Lane.replay?, taken]
  · intro counted
    simp only [Lane.filter_map_head, Entry.left?, Entry.joined?]
    have settled : (((frontier.givenUp queue stats).settle queue pause).1.place queue.key
        placement).ledger.queued = stats.queued := lands.queued
    rw [settled]
    simpa [ledger] using queued counted
  · have stays := settle_stays (frontier.givenUp queue stats) queue pause
    have placing := place_stays ((frontier.givenUp queue stats).settle queue pause).1 queue.key
      placement
    exact congrArg Setting.gateway (stays.trans placing).setting

theorem billed_counts (frontier : Frontier) (queue : WorkQueue) (head : CrawlUri)
    (rest : List CrawlUri) (outcome : Outcome) (found : frontier.queue? queue.key = some queue)
    (line : queue.items = head :: rest) (counted : frontier.ledger.Counted) :
    (frontier.billedStats queue head outcome).queued +
        (frontier.takeBack head outcome).left?.toList.length =
      frontier.stats.queued + (frontier.takeBack head outcome).joined?.toList.length := by
  cases retried : frontier.grantsRetry head outcome with
  | true => simp [billedStats, takeBack, retried, countRetry, Deed.left?, Deed.joined?]
  | false =>
      have positive := counted_some frontier queue counted found (by simp [line])
      have less : (frontier.billedStats queue head outcome).queued = frontier.stats.queued - 1 := by
        simp only [billedStats, retried]
        exact count_queued _ _
      have left : (frontier.takeBack head outcome).left? = some head := by
        simp [takeBack, retried, Deed.left?]
      have joined : (frontier.takeBack head outcome).joined? = none := by
        simp [takeBack, retried, Deed.joined?]
      rw [left, joined, less, Option.toList_some, Option.toList_none, List.length_singleton,
        List.length_nil]
      omega

theorem complete_calm (frontier : Frontier) (uri head : CrawlUri) (rest : List CrawlUri)
    (outcome : Outcome) (queue : WorkQueue) (calm : frontier.Calm)
    (registered : frontier.Registered) (found : frontier.queue? uri.siteKey = some queue)
    (process : queue.state = .inProcess) (line : queue.items = head :: rest)
    (same : head.url = uri.url) :
    (frontier.complete uri outcome).2 = .done ∧
      frontier.Proceeds [⟨uri.siteKey, frontier.takeBack head outcome⟩]
        (frontier.complete uri outcome).1 ∧
      (frontier.complete uri outcome).1.gateway =
        if frontier.grantsRetry head outcome then frontier.gateway
        else frontier.gateway.noteFinished head outcome := by
  have named := queue_key frontier uri.siteKey queue found
  have claimed := (process_claimed frontier uri.siteKey queue registered found process).1
  have key := (frontier.billed_key queue head outcome).trans named
  obtain ⟨items, state, wake⟩ := frontier.billed_shape queue head rest outcome line
  have here : frontier.queue? queue.key = some queue := named.symm ▸ found
  have taken : queue.lane.take (frontier.takeBack head outcome) =
      some { items := (frontier.billed queue head outcome).items, busy := false } := by
    rw [items, takeBack]
    split <;> simp [Lane.take, Lane.isHead, WorkQueue.lane, line, process]
  obtain ⟨after, placement, settled, proceeds, gateway⟩ := settle_proceeds frontier queue
    (frontier.billed queue head outcome) (frontier.billedStats queue head outcome)
    (frontier.takeBack head outcome) (frontier.pauseAfter head outcome) calm registered
    (key.symm ▸ found) process state wake taken
    (billed_counts frontier queue head rest outcome here line)
  rw [key] at proceeds gateway
  have registers := proceeds.registered
  have quiet : (after.place uri.siteKey placement).Proceeds []
      ((after.place uri.siteKey placement).report (frontier.grantsRetry head outcome) head
        outcome) := by
    rw [report]
    split
    · exact .still registers rfl rfl rfl
    · exact .still ⟨registers.once, registers.ascending, registers.settled⟩ rfl rfl rfl
  obtain ⟨drained, unchanged⟩ := drained_same _ quiet.registered
  rw [complete_shape frontier uri head rest outcome queue ⟨found, process, claimed, line, same⟩,
    settled]
  refine ⟨rfl, proceeds.trans (quiet.trans drained), unchanged.trans ?_⟩
  rw [report]
  split
  · exact gateway
  · exact congrArg (Gateway.noteFinished head outcome) gateway

theorem complete_cases (frontier : Frontier) (uri : CrawlUri) (outcome : Outcome)
    (registered : frontier.Registered) :
    (frontier.queue? uri.siteKey = none ∧
      frontier.complete uri outcome = (frontier, .refused (.missingQueue uri.siteKey))) ∨
    (∃ queue, frontier.queue? uri.siteKey = some queue ∧ queue.state ≠ .inProcess ∧
      frontier.complete uri outcome = (frontier, .refused (.notInProcess uri.siteKey))) ∨
    (∃ queue head rest, frontier.queue? uri.siteKey = some queue ∧ queue.state = .inProcess ∧
      queue.items = head :: rest ∧ head.url ≠ uri.url ∧
      frontier.complete uri outcome =
        (frontier, .refused (.unknownItem uri.text uri.siteKey))) ∨
    (∃ queue head rest, frontier.queue? uri.siteKey = some queue ∧ queue.state = .inProcess ∧
      queue.items = head :: rest ∧ head.url = uri.url) := by
  cases found : frontier.queue? uri.siteKey with
  | none => exact .inl ⟨rfl, complete_missing frontier uri outcome found⟩
  | some queue =>
      by_cases process : queue.state = .inProcess
      · have some := (process_claimed frontier uri.siteKey queue registered found process).2.1
        cases line : queue.items with
        | nil => exact absurd line some
        | cons head rest =>
            by_cases same : head.url = uri.url
            · exact .inr (.inr (.inr ⟨queue, head, rest, rfl, process, line, same⟩))
            · exact .inr (.inr (.inl ⟨queue, head, rest, rfl, process, line, same,
                complete_unknown frontier uri head rest outcome queue registered found process
                  line same⟩))
      · exact .inr (.inl ⟨queue, rfl, process,
          complete_idle frontier uri outcome queue found process⟩)

structure Yields (before after : Frontier) : Prop where
  cell : after.cell = before.cell
  claims : after.claims.Sublist before.claims

theorem yields_completing : Completing nobody Yields where
  refl _ := ⟨rfl, .refl _⟩
  trans _ _ _ one two := ⟨two.cell.trans one.cell, two.claims.trans one.claims⟩
  route _ _ := ⟨rfl, .refl _⟩
  store _ _ _ := ⟨rfl, .refl _⟩
  add _ _ _ _ := ⟨rfl, .refl _⟩
  file _ _ _ := ⟨rfl, .refl _⟩
  count _ := ⟨rfl, .refl _⟩
  publish _ _ := ⟨rfl, .refl _⟩
  shelve _ _ := ⟨rfl, .refl _⟩
  snooze _ _ _ := ⟨rfl, .refl _⟩
  awaken _ _ _ _ _ := ⟨rfl, .refl _⟩
  release _ _ := ⟨rfl, List.erase_sublist⟩
  charge _ _ := ⟨rfl, .refl _⟩
  alarm _ _ := ⟨rfl, .refl _⟩
  tell _ _ _ := ⟨rfl, .refl _⟩

theorem complete_yields (frontier : Frontier) (uri : CrawlUri) (outcome : Outcome) :
    frontier.Yields (frontier.complete uri outcome).1 :=
  complete_moved yields_completing frontier uri outcome fun no => no.elim

end PoliteCrawl.Frontier
