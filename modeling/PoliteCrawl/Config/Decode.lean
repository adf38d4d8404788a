import PoliteCrawl.Config.Basic
import PoliteCrawl.Toml.Value

set_option autoImplicit false

namespace PoliteCrawl.Config

open Toml (Value)

-- The fields of a record are found by name in a table, or by place in an array.
inductive Fields where
  | named (entries : Toml.Entries)
  | listed (values : List Value)

namespace Fields

def ofValue? : Value → Option Fields
  | .table entries => some (.named entries)
  | .array values => some (.listed values)
  | .moment => some (.named [])
  | _ => none

def get? (fields : Fields) (place : Nat) (name : String) : Option Value :=
  match fields with
  | .named entries => entries.get? name
  | .listed values => values[place]?

-- Keys that mean nothing are left aside, a key that is missing stands for its default, and a value
-- of the wrong kind makes the whole configuration void.
def decode? {α : Type} (fields : Fields) (place : Nat) (name : String) (decode : Value → Option α)
    (default : α) : Option α :=
  match fields.get? place name with
  | some value => decode value
  | none => some default

end Fields

def decodeNat? (bound : Nat) : Value → Option Nat
  | .integer value => if 0 ≤ value && value < bound then some value.toNat else none
  | _ => none

def decodeWord? : Value → Option Nat := decodeNat? (Nat.pow 2 64)

def decodeHalfWord? : Value → Option Nat := decodeNat? (Nat.pow 2 32)

def decodeInt? : Value → Option Int
  | .integer value => some value
  | _ => none

def decodeNumber? : Value → Option Number.Binary64
  | .integer value => some (Number.Binary64.ofInt value)
  | .float value => some value
  | _ => none

def decodeBool? : Value → Option Bool
  | .boolean value => some value
  | _ => none

def decodeText? : Value → Option String
  | .string text => some text
  | _ => none

def decodeList? {α : Type} (decode : Value → Option α) : Value → Option (List α)
  | .array values => values.mapM decode
  | _ => none

def decodeFrontier? (value : Value) : Option FrontierConfig := do
  let fields ← Fields.ofValue? value
  let base := FrontierConfig.default
  some {
    pullTriggerLevel := ← fields.decode? 0 "pull-trigger-level" decodeWord? base.pullTriggerLevel
    balanceReplenishAmount :=
      ← fields.decode? 1 "balance-replenish-amount" decodeWord? base.balanceReplenishAmount
    queueTotalBudget := ← fields.decode? 2 "queue-total-budget" decodeInt? base.queueTotalBudget
    precedenceFloor := ← fields.decode? 3 "precedence-floor" decodeHalfWord? base.precedenceFloor
    defaultPrecedence :=
      ← fields.decode? 4 "default-precedence" decodeHalfWord? base.defaultPrecedence
    maxSleepMs := ← fields.decode? 5 "max-sleep-ms" decodeWord? base.maxSleepMs
    holdQueues := ← fields.decode? 6 "hold-queues" decodeBool? base.holdQueues
    readyBacklogTarget :=
      ← fields.decode? 7 "ready-backlog-target" decodeWord? base.readyBacklogTarget
    maxRetries := ← fields.decode? 8 "max-retries" decodeHalfWord? base.maxRetries
    retryDelayMs := ← fields.decode? 9 "retry-delay-ms" decodeWord? base.retryDelayMs
    flushTimeoutMs := ← fields.decode? 10 "flush-timeout-ms" decodeWord? base.flushTimeoutMs
    flushBatchSize := ← fields.decode? 11 "flush-batch-size" decodeWord? base.flushBatchSize
    pullContentionRetries :=
      ← fields.decode? 12 "pull-contention-retries" decodeHalfWord? base.pullContentionRetries
    pullContentionBackoffMs :=
      ← fields.decode? 13 "pull-contention-backoff-ms" decodeWord? base.pullContentionBackoffMs }

def decodePoliteness? (value : Value) : Option PolitenessConfig := do
  let fields ← Fields.ofValue? value
  let base := PolitenessConfig.default
  some {
    delayFactor := ← fields.decode? 0 "delay-factor" decodeNumber? base.delayFactor
    minDelayMs := ← fields.decode? 1 "min-delay-ms" decodeWord? base.minDelayMs
    maxDelayMs := ← fields.decode? 2 "max-delay-ms" decodeWord? base.maxDelayMs }

def decodeWorkers? (value : Value) : Option WorkerConfig := do
  let fields ← Fields.ofValue? value
  let base := WorkerConfig.default
  some {
    count := ← fields.decode? 0 "count" decodeWord? base.count
    simulatedFetchMs := ← fields.decode? 1 "simulated-fetch-ms" decodeWord? base.simulatedFetchMs
    linksPerPage := ← fields.decode? 2 "links-per-page" decodeWord? base.linksPerPage
    maxDepth := ← fields.decode? 3 "max-depth" decodeHalfWord? base.maxDepth }

def decodeSite? (value : Value) : Option SiteConfig := do
  let fields ← Fields.ofValue? value
  some {
    domain := ← (fields.get? 0 "domain").bind decodeText?
    precedence := ← fields.decode? 1 "precedence" (fun value => (decodeHalfWord? value).map some) none
    seeds := ← fields.decode? 2 "seeds" (decodeList? decodeText?) [] }

def decode? (entries : Toml.Entries) : Option Config := do
  let fields := Fields.named entries
  some {
    frontier := ← fields.decode? 0 "frontier" decodeFrontier? FrontierConfig.default
    politeness := ← fields.decode? 1 "politeness" decodePoliteness? PolitenessConfig.default
    workers := ← fields.decode? 2 "workers" decodeWorkers? WorkerConfig.default
    sites := ← fields.decode? 3 "site" (decodeList? decodeSite?) [] }

end PoliteCrawl.Config
