import PoliteCrawl.CrawlState
import PoliteCrawl.QueueState
import PoliteCrawl.Time.Timestamp

set_option autoImplicit false

namespace PoliteCrawl

structure QueueSnapshot where
  key : String
  state : QueueState
  precedence : Nat
  queued : Nat
  active : Bool
  sessionBudget : Nat
  sessionSpent : Nat
  totalBudget : Option Nat
  totalSpent : Nat
  wakeInMs : Option Nat
  enqueued : Nat
  dispatched : Nat
  succeeded : Nat
  failed : Nat
  disregarded : Nat
  retried : Nat
  exhausted : Nat
  lastDispatched : Option Time.Timestamp
  lastCompleted : Option Time.Timestamp
deriving DecidableEq, Repr

structure FrontierSnapshot where
  generatedAt : Time.Timestamp
  targetState : CrawlState
  reachedState : Option CrawlState
  queued : Nat
  ready : Nat
  inactive : Nat
  inactiveByTier : List (String × Nat)
  snoozed : Nat
  retired : Nat
  inProcess : Nat
  totalQueues : Nat
  exhaustedQueues : Nat
  dispatched : Nat
  succeeded : Nat
  failed : Nat
  disregarded : Nat
  retried : Nat
  reclassified : Nat
  queuesReadied : Nat
  candidateUris : Nat
  highestPrecedenceWaiting : Option Nat
  queues : List QueueSnapshot
deriving DecidableEq, Repr

end PoliteCrawl
