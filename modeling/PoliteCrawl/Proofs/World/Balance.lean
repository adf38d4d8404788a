import PoliteCrawl.Proofs.Frontier.Books
import PoliteCrawl.Proofs.World.Conservation
import PoliteCrawl.Proofs.World.Registers
import PoliteCrawl.Proofs.World.Serving
import PoliteCrawl.Proofs.World.Supply

set_option autoImplicit false

namespace PoliteCrawl

theorem World.act_balanced (world : World) (event : Event) (balanced : world.frontier.Balanced) :
    (world.act event).frontier.Balanced := by
  cases event with
  | schedule uri => exact Frontier.send_balanced _ balanced
  | proceed id =>
      simp only [World.act]
      cases world.call? id with
      | none => exact balanced
      | some call => exact Frontier.step_balanced call.id call.phase balanced
  | drop id =>
      simp only [World.act]
      cases world.call? id with
      | none => exact balanced
      | some call =>
          simp only [Option.elim, World.drop]
          split
          · exact balanced
          · exact Frontier.cancel_balanced call balanced
  | complete uri outcome => exact Frontier.complete_balanced uri outcome balanced
  | request state =>
      obtain ⟨ready, snooze, same⟩ := World.request_shape world.frontier state
      simp only [World.act, same]
      exact balanced.still rfl rfl rfl
  | unretire => exact Frontier.unretire_all_balanced 0 _ (balanced.still rfl rfl rfl)
  | manage => exact Frontier.management_permitted Frontier.balanced_permits world.frontier balanced
  | supervise id =>
      simp only [World.act]
      cases world.supervisor? id with
      | none => exact balanced
      | some supervisor =>
          exact Frontier.turn_permitted Frontier.balanced_permits world.frontier supervisor balanced
  | _ => exact balanced.still rfl rfl rfl

theorem World.run_balanced (setup : Setup) (events : List Event) :
    (World.run setup events).frontier.Balanced := by
  refine World.run_induction (motive := fun _ world => world.frontier.Balanced) setup ?_ ?_ events
  · exact ⟨.nil, fun mark => by cases mark <;> rfl, rfl⟩
  · intro events event before
    rw [World.step]
    split
    · exact World.act_balanced _ event before
    · exact before

def QueueCounters.returned (counters : QueueCounters) : Nat :=
  counters.succeeded + counters.failed + counters.disregarded + counters.retried

namespace WorkQueue

def Returned (queue : WorkQueue) : Prop :=
  queue.counters.dispatched = queue.counters.returned

-- All that was handed out came back, but for one URI of a queue in process.
def Square (queue : WorkQueue) : Prop :=
  queue.counters.dispatched =
    queue.counters.returned + if queue.state = .inProcess then 1 else 0

def Ajar (queue : WorkQueue) : Prop :=
  queue.state = .inProcess ∧ queue.Returned

theorem returned_square (queue : WorkQueue) (returned : queue.Returned)
    (idle : queue.state ≠ .inProcess) : queue.Square := by
  rw [Square, if_neg idle]
  exact returned

theorem Square.returned {queue : WorkQueue} (square : queue.Square)
    (idle : queue.state ≠ .inProcess) : queue.Returned := by
  rw [Square, if_neg idle] at square
  exact square

theorem parked_square (queue : WorkQueue) (returned : queue.Returned) :
    (Frontier.parked queue).Square :=
  returned_square (Frontier.parked queue) returned (by simp [Frontier.parked, deactivate])

end WorkQueue

theorem billed_returned (frontier : Frontier) (queue : WorkQueue) (head : CrawlUri)
    (rest : List CrawlUri) (outcome : Outcome) (square : queue.Square)
    (process : queue.state = .inProcess) (line : queue.items = head :: rest) :
    (frontier.billed queue head outcome).Returned := by
  rw [WorkQueue.Square, if_pos process] at square
  cases retried : frontier.grantsRetry head outcome with
  | true =>
      simp only [QueueCounters.returned] at square
      simp only [WorkQueue.Returned, QueueCounters.returned, Frontier.billed, retried, if_true,
        WorkQueue.retryHead, line]
      omega
  | false =>
      rw [WorkQueue.Returned, Frontier.billed_counters queue head outcome retried]
      simp only [QueueCounters.returned] at square
      cases outcome.status <;>
        simp only [QueueCounters.count, QueueCounters.returned] <;> omega

theorem ajar_opens (budgets : Budgets) (queue : WorkQueue) (square : queue.Square)
    (ready : queue.state = .ready) :
    (Frontier.openSession budgets { queue with state := .inProcess }).Ajar := by
  have returned := square.returned (by simp [ready])
  refine ⟨(Frontier.open_session_shape _ _).2.2.1, ?_⟩
  rw [WorkQueue.Returned, Frontier.open_session_counters]
  exact returned

theorem square_serving (budgets : Budgets) :
    Upkeep.Serving WorkQueue.Square WorkQueue.Returned WorkQueue.Ajar budgets where
  fresh _ _ := rfl
  loosens _ square idle := square.returned idle
  joins queue uri square := by
    rw [WorkQueue.Square, Frontier.enqueue_counters, queue.enqueue_state]
    exact square
  rates _ _ square _ := square
  funds _ _ square _ := square
  asks _ _ returned := returned
  wakes _ returned := returned
  activates queue square inactive :=
    WorkQueue.returned_square { queue with state := .ready } (square.returned (by simp [inactive]))
      (by simp)
  parks queue returned _ _ := queue.parked_square returned
  readies queue returned _ _ :=
    WorkQueue.returned_square { queue with state := .ready } returned (by simp)
  exhausts queue returned _ :=
    WorkQueue.returned_square { queue.noteExhausted with state := .empty } returned (by simp)
  retires queue returned _ :=
    WorkQueue.returned_square (WorkQueue.deactivate { queue with state := .retired }) returned
      (by simp [WorkQueue.deactivate])
  dozes queue wake returned _ :=
    WorkQueue.returned_square
      (WorkQueue.setWakeTime { queue with state := .snoozed } (some wake)) returned
      (by simp [WorkQueue.setWakeTime])
  opens queue square ready := (ajar_opens budgets queue square ready).2
  admits queue square ready _ _ := ajar_opens budgets queue square ready
  drops _ _ ajar := ajar
  process _ ajar := ajar.1
  gives _ ajar := ajar.2
  bills frontier queue head rest outcome := billed_returned frontier queue head rest outcome
  recalls queue square retired tier := by
    have returned := square.returned (by simp [retired])
    refine ⟨WorkQueue.parked_square (queue.setPrecedence tier) returned, ?_⟩
    exact WorkQueue.returned_square { queue.setPrecedence tier with state := .ready } returned
      (by simp)

theorem gives_square {key : String} {uri : CrawlUri} {after : Frontier}
    (gives : after.Gives WorkQueue.Square WorkQueue.Ajar key uri) :
    after.Upheld WorkQueue.Square := by
  obtain ⟨others, queue, moment, ajar, _, present⟩ := gives
  refine ⟨others.calm, fun other standing found => ?_, others.marked⟩
  by_cases here : other = key
  · rw [here, present] at found
    cases found
    rw [WorkQueue.Square, if_pos (show (queue.recordDispatch moment).state = .inProcess from ajar.1)]
    exact congrArg (· + 1) ajar.2
  · apply others.meets other standing found
    rw [Frontier.queue_key after other standing found]
    exact here

theorem World.run_square (setup : Setup) (events : List Event) (calm : Calm setup events) :
    (World.run setup events).frontier.Upheld WorkQueue.Square := by
  revert calm
  refine World.run_induction (motive := fun events world => Calm setup events →
    world.frontier.Upheld WorkQueue.Square) setup ?_ ?_ events
  · intro calm
    refine ⟨calm.1, fun key queue found => ?_, rfl⟩
    cases found
  · intro events event before calm
    rcases World.step_served (World.run setup events) event calm.before.2
      (World.run_kept setup events calm.before.1) (square_serving _) (before calm.before.1) with
      ⟨_, upheld⟩ | ⟨_, _, gives⟩
    · exact upheld
    · exact gives_square gives

theorem Frontier.sum_square (frontier : Frontier) (square : frontier.Upheld WorkQueue.Square)
    (once : frontier.keys.Nodup) :
    frontier.sumOf (·.counters.dispatched) =
      frontier.sumOf (·.counters.returned) + (frontier.keysIn .inProcess).length := by
  have each : ∀ queue ∈ frontier.queues, queue.Square := fun queue listed =>
    square.meets queue.key queue (listed_queue once listed)
  unfold Frontier.sumOf Frontier.keysIn
  generalize frontier.queues = queues at each
  induction queues with
  | nil => rfl
  | cons first rest ih =>
      have others := ih fun queue listed => each queue (List.mem_cons_of_mem _ listed)
      have here := each first List.mem_cons_self
      rw [WorkQueue.Square] at here
      by_cases process : first.state = .inProcess <;>
        simp [process] at here others ⊢ <;> omega

theorem Frontier.sum_returned (frontier : Frontier) :
    frontier.sumOf (·.counters.returned) = frontier.sumOf (·.counters.succeeded) +
      frontier.sumOf (·.counters.failed) + frontier.sumOf (·.counters.disregarded) +
        frontier.sumOf (·.counters.retried) := by
  unfold Frontier.sumOf
  induction frontier.queues with
  | nil => rfl
  | cons first rest ih =>
      simp only [List.foldr_cons, QueueCounters.returned] at ih ⊢
      omega

theorem Frontier.sum_length (frontier : Frontier) :
    frontier.sumOf (·.length) = frontier.contents.length := by
  unfold Frontier.sumOf Frontier.contents
  induction frontier.queues with
  | nil => rfl
  | cons first rest ih =>
      simp only [List.foldr_cons, List.flatMap_cons, List.length_append, ih]
      rfl

theorem Frontier.dispatched_balances (frontier : Frontier) (registered : frontier.Registered)
    (balanced : frontier.Balanced) (square : frontier.Upheld WorkQueue.Square) :
    frontier.stats.dispatched =
      frontier.stats.succeeded + frontier.stats.failed + frontier.stats.disregarded +
        frontier.stats.retried + frontier.claims.length := by
  have out := frontier.sum_square square balanced.once
  rw [frontier.sum_returned, ← registered.perms.2.2.2.2.length_eq] at out
  have dispatched := balanced.marks .dispatched
  have succeeded := balanced.marks .succeeded
  have failed := balanced.marks .failed
  have disregarded := balanced.marks .disregarded
  have retried := balanced.marks .retried
  simp only [QueueCounters.of, Stats.of] at dispatched succeeded failed disregarded retried
  omega

theorem Frontier.enqueued_balances (frontier : Frontier) (balanced : frontier.Balanced)
    (counted : frontier.ledger.Counted) :
    frontier.sumOf (·.counters.enqueued) =
      frontier.stats.queued + frontier.stats.succeeded + frontier.stats.failed +
        frontier.stats.disregarded + frontier.stats.reclassified := by
  have queued : frontier.stats.queued = frontier.contents.length := counted
  have joined := balanced.enqueued
  rw [frontier.sum_length] at joined
  simp only [Stats.gone, Stats.finished] at joined
  omega

theorem World.supply_balances (setup : Setup) (filter : UniqFilter) (frontier : Frontier)
    (journal : List Entry) (connected : setup.gateway = .memory filter)
    (fresh : filter.added = filter.pending.length) (untold : filter.finished = 0)
    (kept : World.Kept setup.gateway frontier journal)
    (accounts : World.Accounts (World.start setup).frontier journal frontier) :
    ∃ now, frontier.gateway = .memory now ∧
      now.added = now.pending.length + frontier.stats.queued + now.finished ∧
      now.finished =
        frontier.stats.succeeded + frontier.stats.failed + frontier.stats.disregarded := by
  have queued : frontier.stats.queued = frontier.ledger.contents.length :=
    kept.posted.counted Ledger.nothing_counted
  have conserved := (kept.posted.conserved kept.paired).length_eq
  have heard := kept.heard
  have delivers := accounts.delivers
  have finished := accounts.finished
  have unfinished : (World.start setup).frontier.stats.finished = 0 := rfl
  have origin : (World.start setup).frontier.gateway = .memory filter := connected
  simp only [List.length_map, List.length_append] at conserved
  rw [unfinished, Stats.finished] at finished
  rw [origin] at delivers
  rw [connected] at heard
  cases gateway : frontier.gateway with
  | remote service =>
      rw [gateway] at heard
      exact heard.elim
  | memory now =>
      rw [gateway] at heard delivers
      simp only [Gateway.Heard] at heard
      simp only [Gateway.Delivers, Gateway.added, Gateway.pending, acceptedIn] at delivers
      refine ⟨now, rfl, ?_, ?_⟩ <;> omega

/-- In every world that can be reached without a fault of the routing, the counters balance. Of each
queue, all that was handed out succeeded, failed, was disregarded or is tried again, but for one URI of a
queue in process; and so for the whole frontier, where as many are out as sites are claimed. Those that
ever joined a queue are queued, are done with or moved to another queue. Each number that the frontier
shows is the sum of those of its queues. And if all URIs come from a filter that had handed over none,
each that it took is pending, is queued or is done with, and it was told of exactly those. -/
theorem counters_balance (setup : Setup) (events : List Event) (calm : Calm setup events) :
    let frontier := (World.run setup events).frontier
    let shown := frontier.snapshot
    (∀ key queue, frontier.queue? key = some queue →
      queue.counters.dispatched =
        queue.counters.succeeded + queue.counters.failed + queue.counters.disregarded +
          queue.counters.retried + if queue.state = .inProcess then 1 else 0) ∧
    shown.dispatched =
      shown.succeeded + shown.failed + shown.disregarded + shown.retried + shown.inProcess ∧
    frontier.sumOf (·.counters.enqueued) =
      shown.queued + shown.succeeded + shown.failed + shown.disregarded + shown.reclassified ∧
    (frontier.sumOf (·.counters.dispatched) = shown.dispatched ∧
      frontier.sumOf (·.counters.succeeded) = shown.succeeded ∧
      frontier.sumOf (·.counters.failed) = shown.failed ∧
      frontier.sumOf (·.counters.disregarded) = shown.disregarded ∧
      frontier.sumOf (·.counters.retried) = shown.retried) ∧
    (∀ filter, setup.gateway = .memory filter → filter.added = filter.pending.length →
      filter.finished = 0 → (∀ uri, Event.schedule uri ∉ events) →
        ∃ now, frontier.gateway = .memory now ∧
          now.added = now.pending.length + shown.queued + now.finished ∧
          now.finished = shown.succeeded + shown.failed + shown.disregarded) := by
  intro frontier shown
  have kept := World.run_kept setup events calm
  have balanced := World.run_balanced setup events
  have square := World.run_square setup events calm
  have counted := kept.posted.counted Ledger.nothing_counted
  refine ⟨fun key queue found => square.meets key queue found,
    frontier.dispatched_balances kept.registered balanced square,
    frontier.enqueued_balances balanced counted,
    ⟨balanced.marks .dispatched, balanced.marks .succeeded, balanced.marks .failed,
      balanced.marks .disregarded, balanced.marks .retried⟩, ?_⟩
  intro filter connected fresh untold supplied
  exact World.supply_balances setup filter frontier _ connected fresh untold kept
    (World.run_accounts setup events calm supplied)

def suppliedCalls : List Event :=
  [.request .run, .offer (.add (page "a.com" "1")), .offer (.add (page "a.com" "2")),
    .offer (.add (page "b.com" "1")), .call, .proceed 0, .proceed 0, .proceed 0, .proceed 0,
    .proceed 0, .complete firstPage (Outcome.new (.success 200) 0), .call, .proceed 1, .proceed 1,
    .proceed 1, .proceed 1]

theorem supplied_calls_calm :
    Calm Setup.plain suppliedCalls ∧ ∀ uri, Event.schedule uri ∉ suppliedCalls :=
  ⟨⟨rfl, by simp [suppliedCalls, Event.Calm]⟩, by simp [suppliedCalls]⟩

theorem counters_balance_supplied_calls :
    let frontier := (World.run Setup.plain suppliedCalls).frontier
    let shown := frontier.snapshot
    Calm Setup.plain suppliedCalls ∧ (∀ uri, Event.schedule uri ∉ suppliedCalls) ∧
      (UniqFilter.new 1000).added = (UniqFilter.new 1000).pending.length ∧
      (UniqFilter.new 1000).finished = 0 ∧
      shown.dispatched = 2 ∧ shown.succeeded = 1 ∧ shown.inProcess = 1 ∧
      shown.dispatched =
        shown.succeeded + shown.failed + shown.disregarded + shown.retried + shown.inProcess ∧
      ∃ now, frontier.gateway = .memory now ∧
        now.added = now.pending.length + shown.queued + now.finished ∧
        now.finished = shown.succeeded + shown.failed + shown.disregarded := by
  intro frontier shown
  obtain ⟨calm, supplied⟩ := supplied_calls_calm
  have balance := counters_balance Setup.plain suppliedCalls calm
  exact ⟨calm, supplied, rfl, rfl, by decide +kernel, by decide +kernel, by decide +kernel, balance.2.1,
    balance.2.2.2.2 (UniqFilter.new 1000) rfl rfl rfl supplied⟩

end PoliteCrawl
