import PoliteCrawl.CrawlUri
import PoliteCrawl.FrontierError

set_option autoImplicit false

namespace PoliteCrawl

-- Remembers every URI ever offered, and buffers the new ones until they are pulled.
structure UniqFilter where
  seen : List String
  pending : List CrawlUri
  closed : Bool
  added : Nat
  finished : Nat
  batchSize : Nat
deriving DecidableEq, Repr

namespace UniqFilter

def new (batchSize : Nat) : UniqFilter :=
  { seen := [], pending := [], closed := false, added := 0, finished := 0
    batchSize := max batchSize 1 }

def hasSeen (filter : UniqFilter) (uri : CrawlUri) : Bool :=
  filter.seen.contains uri.uniqKey

def note (filter : UniqFilter) (uri : CrawlUri) : UniqFilter :=
  if filter.hasSeen uri then filter else { filter with seen := uri.uniqKey :: filter.seen }

def forget (filter : UniqFilter) (uri : CrawlUri) : UniqFilter :=
  { filter with seen := filter.seen.filter (· ≠ uri.uniqKey) }

def buffer (filter : UniqFilter) (uri : CrawlUri) : UniqFilter :=
  { filter with pending := filter.pending ++ [uri], added := filter.added + 1 }

def add (filter : UniqFilter) (uri : CrawlUri) : UniqFilter × Bool :=
  if filter.closed || filter.hasSeen uri then (filter, false)
  else ((filter.note uri).buffer uri, true)

def addForce (filter : UniqFilter) (uri : CrawlUri) : UniqFilter × Bool :=
  if filter.closed then (filter, false) else ((filter.note uri).buffer uri, true)

def takeBatch (filter : UniqFilter) : Except GatewayError (UniqFilter × List CrawlUri) :=
  if filter.closed then .error .closed
  else
    .ok ({ filter with pending := filter.pending.drop filter.batchSize },
      filter.pending.take filter.batchSize)

def noteFinished (filter : UniqFilter) : UniqFilter :=
  { filter with finished := filter.finished + 1 }

-- What is still pending stays behind.
def close (filter : UniqFilter) : UniqFilter :=
  { filter with closed := true }

def count (filter : UniqFilter) : Nat :=
  filter.seen.length

end UniqFilter

end PoliteCrawl
