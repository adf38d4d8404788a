import PoliteCrawl.Gateway
import PoliteCrawl.Politeness
import PoliteCrawl.Register.Retired
import PoliteCrawl.Register.Snoozed
import PoliteCrawl.Register.Tiers
import PoliteCrawl.Routing
import PoliteCrawl.Signal
import PoliteCrawl.WorkQueue

set_option autoImplicit false

namespace PoliteCrawl

structure Budgets where
  session : Nat
  total : Option Nat
deriving DecidableEq, Repr

structure Stats where
  queued : Nat
  dispatched : Nat
  succeeded : Nat
  failed : Nat
  disregarded : Nat
  retried : Nat
  reclassified : Nat
  queuesReadied : Nat
deriving DecidableEq, Repr

namespace Stats

def zero : Stats :=
  { queued := 0, dispatched := 0, succeeded := 0, failed := 0, disregarded := 0, retried := 0
    reclassified := 0, queuesReadied := 0 }

-- A retry that is not granted counts as a failure.
def count (stats : Stats) : FetchStatus → Stats
  | .success _ => { stats with succeeded := stats.succeeded + 1 }
  | .failure _ => { stats with failed := stats.failed + 1 }
  | .retry _ => { stats with failed := stats.failed + 1 }
  | .disregarded => { stats with disregarded := stats.disregarded + 1 }

end Stats

structure Frontier where
  config : FrontierConfig
  budgets : Budgets
  routing : Routing
  politeness : Politeness
  gateway : Gateway
  queues : List WorkQueue
  ready : List String
  tiers : Tiers
  snoozed : Snoozed
  retired : Retired
  claims : List String
  cell : StateCell
  pulling : Bool
  stats : Stats
  readySignal : Signal
  snoozeSignal : Signal
  origin : Time.Timestamp
  now : Time.Instant
deriving DecidableEq, Repr

namespace Frontier

def new (config : FrontierConfig) (routing : Routing) (politeness : Politeness)
    (gateway : Gateway) (origin : Time.Timestamp) : Frontier :=
  { config
    budgets := { session := config.balanceReplenishAmount, total := config.totalBudget }
    routing
    politeness
    gateway
    queues := []
    ready := []
    tiers := Tiers.empty
    snoozed := []
    retired := []
    claims := []
    cell := StateCell.new .pause
    pulling := false
    stats := Stats.zero
    readySignal := Signal.new
    snoozeSignal := Signal.new
    origin
    now := 0 }

def target (frontier : Frontier) : CrawlState :=
  frontier.cell.target

def reached (frontier : Frontier) : Option CrawlState :=
  frontier.cell.reached

def moment (frontier : Frontier) : Time.Timestamp :=
  frontier.origin.add frontier.now

def isEmpty (frontier : Frontier) : Bool :=
  frontier.stats.queued = 0

def queue? (frontier : Frontier) (key : String) : Option WorkQueue :=
  frontier.queues.find? (·.key = key)

def store (frontier : Frontier) (queue : WorkQueue) : Frontier :=
  { frontier with
    queues := frontier.queues.map fun old => if old.key = queue.key then queue else old }

def countQueued (frontier : Frontier) : Frontier :=
  { frontier with stats := { frontier.stats with queued := frontier.stats.queued + 1 } }

def discountQueued (frontier : Frontier) : Frontier :=
  { frontier with stats := { frontier.stats with queued := frontier.stats.queued - 1 } }

def release (frontier : Frontier) (key : String) : Frontier :=
  { frontier with claims := frontier.claims.erase key }

end Frontier

end PoliteCrawl
