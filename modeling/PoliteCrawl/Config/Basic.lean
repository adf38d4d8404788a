import PoliteCrawl.Number.Binary64
import PoliteCrawl.Time.Span

set_option autoImplicit false

namespace PoliteCrawl

structure FrontierConfig where
  pullTriggerLevel : Nat
  balanceReplenishAmount : Nat
  -- The budget of a queue's lifetime; below zero there is none.
  queueTotalBudget : Int
  precedenceFloor : Nat
  defaultPrecedence : Nat
  maxSleepMs : Nat
  -- Park queues that get their first URI while enough keys are ready.
  holdQueues : Bool
  readyBacklogTarget : Nat
  maxRetries : Nat
  retryDelayMs : Nat
  flushTimeoutMs : Nat
  flushBatchSize : Nat
  pullContentionRetries : Nat
  pullContentionBackoffMs : Nat
deriving DecidableEq, Repr

namespace FrontierConfig

def default : FrontierConfig :=
  { pullTriggerLevel := 100
    balanceReplenishAmount := 3000
    queueTotalBudget := -1
    precedenceFloor := 255
    defaultPrecedence := 1
    maxSleepMs := 1000
    holdQueues := false
    readyBacklogTarget := 0
    maxRetries := 30
    retryDelayMs := 900000
    flushTimeoutMs := 30000
    flushBatchSize := 1000
    pullContentionRetries := 3
    pullContentionBackoffMs := 10 }

def totalBudget (config : FrontierConfig) : Option Nat :=
  if config.queueTotalBudget < 0 then none else some config.queueTotalBudget.toNat

def maxSleep (config : FrontierConfig) : Time.Span :=
  Time.millis config.maxSleepMs

def retryDelay (config : FrontierConfig) : Time.Span :=
  Time.millis config.retryDelayMs

def flushTimeout (config : FrontierConfig) : Time.Span :=
  Time.millis config.flushTimeoutMs

def pullContentionBackoff (config : FrontierConfig) : Time.Span :=
  Time.millis config.pullContentionBackoffMs

end FrontierConfig

structure PolitenessConfig where
  delayFactor : Number.Binary64
  minDelayMs : Nat
  maxDelayMs : Nat
deriving DecidableEq, Repr

def PolitenessConfig.default : PolitenessConfig :=
  { delayFactor := Number.Binary64.ofNat 5, minDelayMs := 3000, maxDelayMs := 30000 }

structure WorkerConfig where
  count : Nat
  simulatedFetchMs : Nat
  linksPerPage : Nat
  maxDepth : Nat
deriving DecidableEq, Repr

def WorkerConfig.default : WorkerConfig :=
  { count := 8, simulatedFetchMs := 50, linksPerPage := 0, maxDepth := 0 }

structure SiteConfig where
  domain : String
  precedence : Option Nat
  seeds : List String
deriving DecidableEq, Repr

structure Config where
  frontier : FrontierConfig
  politeness : PolitenessConfig
  workers : WorkerConfig
  sites : List SiteConfig
deriving DecidableEq, Repr

namespace Config

def default : Config :=
  { frontier := FrontierConfig.default
    politeness := PolitenessConfig.default
    workers := WorkerConfig.default
    sites := [] }

def seeds (config : Config) : List String :=
  config.sites.flatMap (·.seeds)

end Config

end PoliteCrawl
