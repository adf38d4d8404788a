import PoliteCrawl.Report.Document

set_option autoImplicit false

namespace PoliteCrawl.FrontierSnapshot

def legend : String :=
  "total: in-process ready snoozed inactive retired exhausted; queued dispatched"

def line (snapshot : FrontierSnapshot) : String :=
  toString snapshot.totalQueues ++ " queues: " ++ toString snapshot.inProcess ++ " in-process, " ++
    toString snapshot.ready ++ " ready, " ++ toString snapshot.snoozed ++ " snoozed, " ++
    toString snapshot.inactive ++ " inactive, " ++ toString snapshot.retired ++ " retired, " ++
    toString snapshot.exhaustedQueues ++ " exhausted; " ++ toString snapshot.queued ++
    " queued, " ++ toString snapshot.dispatched ++ " dispatched"

def countLine (label : String) (value : Nat) : String :=
  "  " ++ label ++ ": " ++ toString value

def reachedName (snapshot : FrontierSnapshot) : String :=
  match snapshot.reachedState with
  | some state => state.name
  | none => "(none)"

def headLines (snapshot : FrontierSnapshot) : List String :=
  ["=== Frontier Report ===", "Generated: " ++ snapshot.generatedAt.offsetText,
    "State: target " ++ snapshot.targetState.name ++ ", reached " ++ snapshot.reachedName, ""]

def queueLines (snapshot : FrontierSnapshot) : List String :=
  ["Queues:", countLine "Total" snapshot.totalQueues, countLine "In-process" snapshot.inProcess,
    countLine "Ready" snapshot.ready, countLine "Snoozed" snapshot.snoozed,
    countLine "Inactive" snapshot.inactive] ++
  snapshot.inactiveByTier.map (fun (tier, count) => "    tier " ++ tier ++ ": " ++ toString count) ++
  [countLine "Retired" snapshot.retired, countLine "Exhausted" snapshot.exhaustedQueues] ++
  snapshot.highestPrecedenceWaiting.toList.map (countLine "Highest precedence waiting") ++ [""]

def uriLines (snapshot : FrontierSnapshot) : List String :=
  ["URIs:", countLine "Queued" snapshot.queued,
    countLine "Candidates accepted" snapshot.candidateUris,
    countLine "Dispatched" snapshot.dispatched, countLine "Succeeded" snapshot.succeeded,
    countLine "Failed" snapshot.failed, countLine "Disregarded" snapshot.disregarded,
    countLine "Retried" snapshot.retried, countLine "Reclassified" snapshot.reclassified,
    countLine "Queues readied" snapshot.queuesReadied]

def totalText (queue : QueueSnapshot) : String :=
  match queue.totalBudget with
  | some budget => toString queue.totalSpent ++ "/" ++ toString budget
  | none => toString queue.totalSpent

def wakeText (queue : QueueSnapshot) : String :=
  match queue.wakeInMs with
  | some ms => " wakes-in=" ++ toString ms ++ "ms"
  | none => ""

def queueLine (queue : QueueSnapshot) : String :=
  "  " ++ queue.key ++ " [" ++ queue.state.name ++ "] p" ++ toString queue.precedence ++
    " queued=" ++ toString queue.queued ++ " dispatched=" ++ toString queue.dispatched ++
    " ok=" ++ toString queue.succeeded ++ " failed=" ++ toString queue.failed ++
    " disregarded=" ++ toString queue.disregarded ++ " retried=" ++ toString queue.retried ++
    " session=" ++ toString queue.sessionSpent ++ "/" ++ toString queue.sessionBudget ++
    " total=" ++ totalText queue ++ wakeText queue

def perQueueLines (snapshot : FrontierSnapshot) : List String :=
  if snapshot.queues.isEmpty then []
  else ["", "Per queue:"] ++ snapshot.queues.map queueLine

def text (snapshot : FrontierSnapshot) : String :=
  String.join ((snapshot.headLines ++ snapshot.queueLines ++ snapshot.uriLines ++
    snapshot.perQueueLines).map (· ++ "\n"))

def toToml (snapshot : FrontierSnapshot) : Except Report.TooGreat String :=
  (Report.ofFrontier snapshot).text

end PoliteCrawl.FrontierSnapshot
