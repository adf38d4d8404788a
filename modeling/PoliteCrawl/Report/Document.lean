import PoliteCrawl.Report.Snapshot
import PoliteCrawl.Toml.Writer

set_option autoImplicit false

namespace PoliteCrawl.Report

inductive Scalar where
  | text (text : String)
  | count (value : Nat)
  | flag (value : Bool)
deriving DecidableEq, Repr

abbrev Row := List (String × Scalar)

inductive Field where
  | scalar (scalar : Scalar)
  | counts (entries : List (String × Nat))
  | rows (rows : List Row)
deriving DecidableEq, Repr

abbrev Document := List (String × Field)

def optional {α : Type} (name : String) (scalar : α → Scalar) (value : Option α) : Row :=
  match value with
  | some value => [(name, scalar value)]
  | none => []

def moment (stamp : Time.Timestamp) : Scalar :=
  .text stamp.zuluText

def ofQueue (queue : QueueSnapshot) : Row :=
  [("key", .text queue.key), ("state", .text queue.state.name),
    ("precedence", .count queue.precedence), ("queued", .count queue.queued),
    ("active", .flag queue.active), ("session-budget", .count queue.sessionBudget),
    ("session-spent", .count queue.sessionSpent)] ++
  optional "total-budget" .count queue.totalBudget ++
  [("total-spent", .count queue.totalSpent)] ++
  optional "wake-in-ms" .count queue.wakeInMs ++
  [("enqueued", .count queue.enqueued), ("dispatched", .count queue.dispatched),
    ("succeeded", .count queue.succeeded), ("failed", .count queue.failed),
    ("disregarded", .count queue.disregarded), ("retried", .count queue.retried),
    ("exhausted", .count queue.exhausted)] ++
  optional "last-dispatched" moment queue.lastDispatched ++
  optional "last-completed" moment queue.lastCompleted

def scalars (row : Row) : Document :=
  row.map fun (name, scalar) => (name, .scalar scalar)

def ofFrontier (snapshot : FrontierSnapshot) : Document :=
  scalars (
    [("generated-at", moment snapshot.generatedAt),
      ("target-state", .text snapshot.targetState.slug)] ++
    optional "reached-state" (fun state => .text (CrawlState.slug state)) snapshot.reachedState ++
    [("queued", .count snapshot.queued), ("ready", .count snapshot.ready),
      ("inactive", .count snapshot.inactive)]) ++
  [("inactive-by-tier", .counts snapshot.inactiveByTier)] ++
  scalars (
    [("snoozed", .count snapshot.snoozed), ("retired", .count snapshot.retired),
      ("in-process", .count snapshot.inProcess), ("total-queues", .count snapshot.totalQueues),
      ("exhausted-queues", .count snapshot.exhaustedQueues),
      ("dispatched", .count snapshot.dispatched), ("succeeded", .count snapshot.succeeded),
      ("failed", .count snapshot.failed), ("disregarded", .count snapshot.disregarded),
      ("retried", .count snapshot.retried), ("reclassified", .count snapshot.reclassified),
      ("queues-readied", .count snapshot.queuesReadied),
      ("candidate-uris", .count snapshot.candidateUris)] ++
    optional "highest-precedence-waiting" .count snapshot.highestPrecedenceWaiting) ++
  [("queues", .rows (snapshot.queues.map ofQueue))]

structure TooGreat where
deriving DecidableEq, Repr

def TooGreat.message : String := "out-of-range value for u64 type"

def countText (value : Nat) : Except TooGreat String :=
  if value ≤ Toml.greatestInteger then .ok (toString value) else .error {}

def scalarText : Scalar → Except TooGreat String
  | .text text => .ok (Toml.textValue text)
  | .count value => countText value
  | .flag value => .ok (toString value)

def lineText (name : String) (scalar : Scalar) : Except TooGreat String := do
  let value ← scalarText scalar
  .ok (Toml.keyText name ++ " = " ++ value ++ "\n")

def rowText (row : Row) : Except TooGreat String := do
  let lines ← row.mapM fun (name, scalar) => lineText name scalar
  .ok (String.join lines)

def valueText (name : String) : Field → Except TooGreat String
  | .scalar scalar => lineText name scalar
  | .counts _ => .ok ""
  | .rows [] => .ok (Toml.keyText name ++ " = []\n")
  | .rows _ => .ok ""

def tableText (name : String) : Field → Except TooGreat String
  | .scalar _ => .ok ""
  | .counts entries => do
      let body ← rowText (entries.map fun (key, value) => (key, .count value))
      .ok ("\n[" ++ Toml.keyText name ++ "]\n" ++ body)
  | .rows rows => do
      let bodies ← rows.mapM rowText
      .ok (String.join (bodies.map fun body => "\n[[" ++ Toml.keyText name ++ "]]\n" ++ body))

def Document.text (document : Document) : Except TooGreat String := do
  let values ← document.mapM fun (name, field) => valueText name field
  let tables ← document.mapM fun (name, field) => tableText name field
  .ok (String.join values ++ String.join tables)

end PoliteCrawl.Report
