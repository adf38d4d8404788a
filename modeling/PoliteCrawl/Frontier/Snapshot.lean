import PoliteCrawl.Frontier.Basic
import PoliteCrawl.Report.Text

set_option autoImplicit false

namespace PoliteCrawl.Frontier

def insertByKey (queue : QueueSnapshot) : List QueueSnapshot → List QueueSnapshot
  | [] => [queue]
  | first :: rest =>
      if queue.key < first.key then queue :: first :: rest else first :: insertByKey queue rest

def queueSnapshots (frontier : Frontier) : List QueueSnapshot :=
  frontier.queues.foldr (fun queue sorted => insertByKey (queue.snapshot frontier.now) sorted) []

-- Tiers stand in the order of their texts.
def insertByText (entry : String × Nat) : List (String × Nat) → List (String × Nat)
  | [] => [entry]
  | first :: rest =>
      if entry.1 < first.1 then entry :: first :: rest else first :: insertByText entry rest

def tierTexts (frontier : Frontier) : List (String × Nat) :=
  frontier.tiers.counts.foldr (fun (tier, count) sorted => insertByText (toString tier, count) sorted)
    []

def highestWaiting? (frontier : Frontier) : Option Nat :=
  if frontier.tiers.watermark = Tiers.noTier then none else some frontier.tiers.watermark

def queueState? (frontier : Frontier) (key : String) : Option QueueState :=
  (frontier.queue? key).map (·.state)

def queueSnapshot? (frontier : Frontier) (key : String) : Option QueueSnapshot :=
  (frontier.queue? key).map (·.snapshot frontier.now)

def snapshot (frontier : Frontier) : FrontierSnapshot :=
  { generatedAt := frontier.moment
    targetState := frontier.target
    reachedState := frontier.reached
    queued := frontier.stats.queued
    ready := frontier.ready.length
    inactive := frontier.tiers.size
    inactiveByTier := frontier.tierTexts
    snoozed := frontier.snoozed.length
    retired := frontier.retired.length
    inProcess := frontier.claims.length
    totalQueues := frontier.queues.length
    exhaustedQueues := (frontier.queues.filter (·.state = .empty)).length
    dispatched := frontier.stats.dispatched
    succeeded := frontier.stats.succeeded
    failed := frontier.stats.failed
    disregarded := frontier.stats.disregarded
    retried := frontier.stats.retried
    reclassified := frontier.stats.reclassified
    queuesReadied := frontier.stats.queuesReadied
    candidateUris := frontier.gateway.added
    highestPrecedenceWaiting := frontier.highestWaiting?
    queues := frontier.queueSnapshots }

end PoliteCrawl.Frontier
