import PoliteCrawl.CrawlUri
import PoliteCrawl.FrontierError
import PoliteCrawl.Outcome
import PoliteCrawl.Report.Snapshot

set_option autoImplicit false

namespace PoliteCrawl

structure QueueCounters where
  enqueued : Nat
  dispatched : Nat
  succeeded : Nat
  failed : Nat
  disregarded : Nat
  retried : Nat
deriving DecidableEq, Repr

def QueueCounters.zero : QueueCounters :=
  { enqueued := 0, dispatched := 0, succeeded := 0, failed := 0, disregarded := 0, retried := 0 }

def QueueCounters.count (counters : QueueCounters) : FetchStatus → QueueCounters
  | .success _ => { counters with succeeded := counters.succeeded + 1 }
  | .failure _ => { counters with failed := counters.failed + 1 }
  | .retry _ => { counters with failed := counters.failed + 1 }
  | .disregarded => { counters with disregarded := counters.disregarded + 1 }

structure WorkQueue where
  key : String
  items : List CrawlUri
  state : QueueState
  assigned : Nat
  hinted : Option Nat
  sessionBudget : Nat
  sessionSpent : Nat
  totalBudget : Option Nat
  totalSpent : Nat
  -- A session is open from the first claim after activation until the queue is deactivated.
  active : Bool
  wakeTime : Option Time.Instant
  exhausted : Nat
  counters : QueueCounters
  lastDispatched : Option Time.Timestamp
  lastCompleted : Option Time.Timestamp
deriving DecidableEq, Repr

namespace WorkQueue

def new (key : String) (precedence : Nat) : WorkQueue :=
  { key, items := [], state := .empty, assigned := precedence, hinted := none, sessionBudget := 0
    sessionSpent := 0, totalBudget := none, totalSpent := 0, active := false, wakeTime := none
    exhausted := 0, counters := .zero, lastDispatched := none, lastCompleted := none }

def length (queue : WorkQueue) : Nat :=
  queue.items.length

def isEmpty (queue : WorkQueue) : Bool :=
  queue.items.isEmpty

def transition (queue : WorkQueue) (state : QueueState) : Except FrontierError WorkQueue :=
  if queue.state.allows state then .ok { queue with state }
  else .error (.illegalMove queue.key queue.state state)

def raisePrecedence (queue : WorkQueue) (hint : Nat) : WorkQueue :=
  { queue with hinted := some (queue.hinted.elim hint (min hint)) }

def precedence (queue : WorkQueue) : Nat :=
  queue.hinted.elim queue.assigned (min queue.assigned)

def setPrecedence (queue : WorkQueue) (precedence : Nat) : WorkQueue :=
  { queue with assigned := precedence }

def enqueue (queue : WorkQueue) (uri : CrawlUri) : WorkQueue :=
  let raised := uri.hint.elim queue queue.raisePrecedence
  { raised with
    items := raised.items ++ [uri]
    counters := { raised.counters with enqueued := raised.counters.enqueued + 1 } }

def peek? (queue : WorkQueue) : Option CrawlUri :=
  queue.items.head?

def dequeue (queue : WorkQueue) (url : Url) : WorkQueue × Option CrawlUri :=
  ({ queue with items := queue.items.eraseP (·.url = url) }, queue.items.find? (·.url = url))

def retryHead (queue : WorkQueue) : WorkQueue :=
  match queue.items with
  | [] => queue
  | head :: rest =>
      { queue with
        items := { head with retries := head.retries + 1 } :: rest
        counters := { queue.counters with retried := queue.counters.retried + 1 } }

def setSessionBudget (queue : WorkQueue) (budget : Nat) : WorkQueue :=
  { queue with sessionBudget := budget }

def setTotalBudget (queue : WorkQueue) (budget : Option Nat) : WorkQueue :=
  { queue with totalBudget := budget }

-- Only an open session can be over its budget.
def isOverSession (queue : WorkQueue) : Bool :=
  queue.active && queue.sessionBudget ≤ queue.sessionSpent

def isOverTotal (queue : WorkQueue) : Bool :=
  queue.totalBudget.any (· ≤ queue.totalSpent)

def expenseLimit : Nat := Nat.pow 2 64 - 1

def expend (queue : WorkQueue) (cost : Nat) : WorkQueue :=
  { queue with
    sessionSpent := min (queue.sessionSpent + cost) expenseLimit
    totalSpent := min (queue.totalSpent + cost) expenseLimit }

def considerActive (queue : WorkQueue) : WorkQueue :=
  if queue.active then queue else { queue with active := true, sessionSpent := 0 }

def deactivate (queue : WorkQueue) : WorkQueue :=
  { queue with active := false }

def noteExhausted (queue : WorkQueue) : WorkQueue :=
  { queue with exhausted := queue.exhausted + 1 }

def setWakeTime (queue : WorkQueue) (wake : Option Time.Instant) : WorkQueue :=
  { queue with wakeTime := wake }

def recordDispatch (queue : WorkQueue) (moment : Time.Timestamp) : WorkQueue :=
  { queue with
    counters := { queue.counters with dispatched := queue.counters.dispatched + 1 }
    lastDispatched := some moment }

def recordOutcome (queue : WorkQueue) (status : FetchStatus) (moment : Time.Timestamp) :
    WorkQueue :=
  { queue with
    counters := queue.counters.count status
    lastCompleted := some moment }

def snapshot (queue : WorkQueue) (now : Time.Instant) : QueueSnapshot :=
  { key := queue.key
    state := queue.state
    precedence := queue.precedence
    queued := queue.length
    active := queue.active
    sessionBudget := queue.sessionBudget
    sessionSpent := queue.sessionSpent
    totalBudget := queue.totalBudget
    totalSpent := queue.totalSpent
    wakeInMs := queue.wakeTime.map fun wake => Time.wholeMillis (wake - now)
    enqueued := queue.counters.enqueued
    dispatched := queue.counters.dispatched
    succeeded := queue.counters.succeeded
    failed := queue.counters.failed
    disregarded := queue.counters.disregarded
    retried := queue.counters.retried
    exhausted := queue.exhausted
    lastDispatched := queue.lastDispatched
    lastCompleted := queue.lastCompleted }

end WorkQueue

end PoliteCrawl
