import PoliteCrawl.Outcome
import PoliteCrawl.UniqFilter

set_option autoImplicit false

namespace PoliteCrawl

-- What one flush brings, and how much it is said to be.
structure Handover where
  uris : List CrawlUri
  count : Nat
deriving DecidableEq, Repr

-- A service of which nothing is known: it prepares handovers as it likes, and each flush gets the
-- next one.
structure RemoteService where
  prepared : List Handover
  supplied : Nat
  latency : Time.Span
  failsFlush : Bool
  failsClose : Bool
  told : List (CrawlUri × Outcome) := []
deriving DecidableEq, Repr

inductive Gateway where
  | memory (filter : UniqFilter)
  | remote (service : RemoteService)
deriving DecidableEq, Repr

namespace Gateway

def latency : Gateway → Time.Span
  | .memory _ => 0
  | .remote service => if service.failsFlush then 0 else service.latency

def unavailable : GatewayError := .unavailable "service unavailable"

def takeBatch : Gateway → Except GatewayError (Gateway × Handover)
  | .memory filter => do
      let (filter, batch) ← filter.takeBatch
      .ok (.memory filter, { uris := batch, count := batch.length })
  | .remote service =>
      if service.failsFlush then .error unavailable
      else
        .ok (.remote { service with prepared := service.prepared.drop 1 },
          service.prepared.headD { uris := [], count := 0 })

def pending : Gateway → List CrawlUri
  | .memory filter => filter.pending
  | .remote service => service.prepared.flatMap (·.uris)

def added : Gateway → Nat
  | .memory filter => filter.added
  | .remote service => service.supplied

-- Tells that a URI is done with for good. The filter only counts.
def noteFinished (uri : CrawlUri) (outcome : Outcome) : Gateway → Gateway
  | .memory filter => .memory filter.noteFinished
  | .remote service => .remote { service with told := service.told ++ [(uri, outcome)] }

def close : Gateway → Except GatewayError Gateway
  | .memory filter => .ok (.memory filter.close)
  | .remote service => if service.failsClose then .error unavailable else .ok (.remote service)

def supply (uris : List CrawlUri) (count : Nat) : Gateway → Gateway
  | .memory filter => .memory filter
  | .remote service =>
      .remote { service with
        prepared := service.prepared ++ [{ uris, count }]
        supplied := service.supplied + uris.length }

end Gateway

end PoliteCrawl
