import PoliteCrawl.Config.Error
import PoliteCrawl.CrawlUri
import PoliteCrawl.QueueState

set_option autoImplicit false

namespace PoliteCrawl

inductive GatewayError where
  | unavailable (reason : String)
  | timedOut (ms : Nat)
  | closed
deriving DecidableEq, Repr

def GatewayError.message : GatewayError → String
  | .unavailable reason => "Dedup service unavailable: " ++ reason
  | .timedOut ms => "Dedup flush timed out after " ++ toString ms ++ "ms"
  | .closed => "Dedup gateway is closed"

inductive FrontierError where
  | config (cause : ConfigError)
  | gateway (cause : GatewayError)
  | uri (cause : UriError)
  | missingQueue (siteKey : String)
  | notInProcess (siteKey : String)
  | unknownItem (text : String) (siteKey : String)
  | illegalMove (siteKey : String) (source target : QueueState)
  | finalization (reason : String)
deriving DecidableEq, Repr

def FrontierError.message : FrontierError → String
  | .config cause => "Configuration error: " ++ cause.message
  | .gateway cause => "Dedup gateway error: " ++ cause.message
  | .uri cause => "URI error: " ++ cause.message
  | .missingQueue siteKey => "No work queue registered for site key " ++ siteKey
  | .notInProcess siteKey => "Queue " ++ siteKey ++ " is not claimed in-process"
  | .unknownItem text siteKey => text ++ " is not the head of queue " ++ siteKey
  | .illegalMove siteKey source target =>
      "Invalid queue state transition for " ++ siteKey ++ ": " ++ source.title ++ " -> " ++
        target.title
  | .finalization reason => "Finalization failed: " ++ reason

end PoliteCrawl
