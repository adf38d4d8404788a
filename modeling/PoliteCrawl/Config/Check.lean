import PoliteCrawl.Config.Basic
import PoliteCrawl.Config.Error
import PoliteCrawl.Number.Shortest
import PoliteCrawl.Text.Alphanumeric
import PoliteCrawl.Url.Parser

set_option autoImplicit false

namespace PoliteCrawl.Config

def require (condition : Bool) (fault : ConfigError) : Except ConfigError Unit :=
  if condition then .ok () else .error fault

def checkFrontier (config : FrontierConfig) : Except ConfigError Unit := do
  require (1 ≤ config.maxSleepMs && config.maxSleepMs ≤ 60000)
    (.invalid ("max_sleep_ms must be between 1 and 60000, got " ++ toString config.maxSleepMs))
  require (1 ≤ config.balanceReplenishAmount)
    (.invalid ("balance_replenish_amount must be >= 1, got " ++
      toString config.balanceReplenishAmount))
  require (1 ≤ config.precedenceFloor)
    (.invalid ("precedence_floor must be >= 1, got " ++ toString config.precedenceFloor))
  require (config.defaultPrecedence < config.precedenceFloor)
    (.invalid ("default_precedence (" ++ toString config.defaultPrecedence ++
      ") must be below precedence_floor (" ++ toString config.precedenceFloor ++ ")"))
  require (1 ≤ config.flushBatchSize) (.invalid "flush_batch_size must be >= 1")

def checkPoliteness (config : PolitenessConfig) : Except ConfigError Unit := do
  require (config.delayFactor.isFinite && !config.delayFactor.isBelowZero)
    (.invalid ("delay_factor must be a finite non-negative number, got " ++
      config.delayFactor.text))
  require (config.minDelayMs ≤ config.maxDelayMs)
    (.invalid ("min_delay_ms (" ++ toString config.minDelayMs ++
      ") cannot exceed max_delay_ms (" ++ toString config.maxDelayMs ++ ")"))

def checkWorkers (config : WorkerConfig) : Except ConfigError Unit :=
  require (1 ≤ config.count && config.count ≤ 1024)
    (.invalid ("workers.count must be between 1 and 1024, got " ++ toString config.count))

def isDomainCharacter (c : Char) : Bool :=
  Text.isAlphanumeric c || c == '.' || c == '-'

def isDotOrHyphen (c : Char) : Bool :=
  c == '.' || c == '-'

def hasTwoDots : List Char → Bool
  | '.' :: '.' :: _ => true
  | _ :: rest => hasTwoDots rest
  | [] => false

def checkDomain (domain : String) : Except ConfigError Unit := do
  let letters := domain.toList
  require (!letters.isEmpty) (.badDomain "Domain cannot be empty")
  require (letters.all isDomainCharacter)
    (.badDomain ("Domain '" ++ domain ++ "' contains invalid characters"))
  require (!letters.head?.any isDotOrHyphen && !letters.getLast?.any isDotOrHyphen)
    (.badDomain ("Domain '" ++ domain ++ "' cannot start or end with '.' or '-'"))
  require (!hasTwoDots letters)
    (.badDomain ("Domain '" ++ domain ++ "' cannot contain consecutive dots"))

def checkSeed (seed : String) : Except ConfigError Unit :=
  match Url.parse seed with
  | .error cause =>
      .error (.badUrl ("Invalid seed URL '" ++ seed ++ "': " ++ cause.message))
  | .ok url =>
      require url.isWeb
        (.invalid ("Seed URL '" ++ seed ++ "' must use the http or https scheme"))

def checkSite (floor : Nat) (site : SiteConfig) : Except ConfigError Unit := do
  checkDomain site.domain
  match site.precedence with
  | some precedence =>
      require (precedence < floor)
        (.invalid ("Site '" ++ site.domain ++ "' precedence " ++ toString precedence ++
          " is at or beyond the precedence floor " ++ toString floor))
  | none => .ok ()
  site.seeds.forM checkSeed

-- The first fault found is the one reported.
def check (config : Config) : Except ConfigError Unit := do
  checkFrontier config.frontier
  checkPoliteness config.politeness
  checkWorkers config.workers
  config.sites.forM (checkSite config.frontier.precedenceFloor)

end PoliteCrawl.Config
