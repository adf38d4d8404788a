import PoliteCrawl.Config.Basic
import PoliteCrawl.Number.Shortest

set_option autoImplicit false

namespace PoliteCrawl.Command

def unlines (lines : List String) : String :=
  String.join (lines.map (· ++ "\n"))

def helpText : String :=
  unlines
    [ "A polite URI frontier with pull-based replenishment"
    , ""
    , "Usage: pull-frontier [OPTIONS] <CONFIG>"
    , ""
    , "Arguments:"
    , "  <CONFIG>  Path to TOML configuration file"
    , ""
    , "Options:"
    , "  -v, --verbose...       Increase logging verbosity (-v, -vv, -vvv)"
    , "  -q, --quiet            Suppress non-error output"
    , "      --dry-run          " ++
        "Validate the config and show what would be crawled without crawling"
    , "      --format <FORMAT>  " ++
        "Format of the final report [default: text] [possible values: text, toml]"
    , "  -h, --help             Print help"
    , "  -V, --version          Print version" ]

def versionText : String :=
  unlines ["pull-frontier 0.1.0"]

def totalBudgetText (config : FrontierConfig) : String :=
  match config.totalBudget with
  | some total => toString total
  | none => "unlimited"

def frontierLines (config : FrontierConfig) : List String :=
  [ "Frontier:"
  , "  Pull trigger level: " ++ toString config.pullTriggerLevel
  , "  Session budget: " ++ toString config.balanceReplenishAmount
  , "  Total budget: " ++ totalBudgetText config
  , "  Precedence floor: " ++ toString config.precedenceFloor
  , "  Default precedence: " ++ toString config.defaultPrecedence
  , "  Max sleep: " ++ toString config.maxSleepMs ++ "ms"
  , "  Hold queues: " ++ toString config.holdQueues ++ " (backlog target " ++
      toString config.readyBacklogTarget ++ ")"
  , "  Retries: " ++ toString config.maxRetries ++ " (delay " ++ toString config.retryDelayMs ++ "ms)"
  , "  Flush: timeout " ++ toString config.flushTimeoutMs ++ "ms, batch " ++
      toString config.flushBatchSize ]

def politenessLines (config : PolitenessConfig) : List String :=
  [ "Politeness:"
  , "  Delay factor: " ++ config.delayFactor.text
  , "  Delay bounds: " ++ toString config.minDelayMs ++ "ms - " ++ toString config.maxDelayMs ++
      "ms" ]

def workerLines (config : WorkerConfig) : List String :=
  [ "Workers:"
  , "  Count: " ++ toString config.count
  , "  Simulated fetch: " ++ toString config.simulatedFetchMs ++ "ms"
  , "  Links per page: " ++ toString config.linksPerPage ++ " (max depth " ++
      toString config.maxDepth ++ ")" ]

def siteLines (defaultPrecedence : Nat) (site : SiteConfig) : List String :=
  ("  - " ++ site.domain ++ " (precedence " ++
    toString (site.precedence.getD defaultPrecedence) ++ ", " ++ toString site.seeds.length ++
    " seeds)") :: site.seeds.map ("    * " ++ ·)

def dryRunText (config : Config) : String :=
  unlines
    (["=== Pull-Frontier Dry Run ===", ""] ++ frontierLines config.frontier ++ [""] ++
      politenessLines config.politeness ++ [""] ++ workerLines config.workers ++
      ["", "Sites (" ++ toString config.sites.length ++ "):"] ++
      config.sites.flatMap (siteLines config.frontier.defaultPrecedence) ++
      ["", "✓ Configuration is valid",
        "✓ Would start crawling with " ++ toString config.seeds.length ++ " seed URLs"])

end PoliteCrawl.Command
