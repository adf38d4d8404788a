import PoliteCrawl.Assoc
import PoliteCrawl.Config.Basic
import PoliteCrawl.CrawlUri

set_option autoImplicit false

namespace PoliteCrawl

structure Routing where
  reassigned : Assoc String String
  precedences : Assoc String Nat
  defaultPrecedence : Nat
  -- Which of the next questions about precedence will fail, in order; after these, none.
  faults : List Bool
deriving DecidableEq, Repr

namespace Routing

def new (defaultPrecedence : Nat) : Routing :=
  { reassigned := [], precedences := [], defaultPrecedence, faults := [] }

def setPrecedence (routing : Routing) (siteKey : String) (precedence : Nat) : Routing :=
  { routing with precedences := Assoc.put siteKey precedence routing.precedences }

def addSite (routing : Routing) (site : SiteConfig) : Routing :=
  match site.precedence with
  | some precedence => routing.setPrecedence (Text.toLower site.domain) precedence
  | none => routing

def ofConfig (config : Config) : Routing :=
  config.sites.foldl addSite (new config.frontier.defaultPrecedence)

def reassign (routing : Routing) (host siteKey : String) : Routing :=
  { routing with reassigned := Assoc.put (Text.toLower host) siteKey routing.reassigned }

def clear (routing : Routing) (host : String) : Routing :=
  { routing with reassigned := Assoc.remove (Text.toLower host) routing.reassigned }

-- A URL without a host goes by its scheme.
def siteKey (routing : Routing) (url : Url) : String :=
  let hostKey := url.siteKey?.getD url.scheme
  (Assoc.get? routing.reassigned hostKey).getD hostKey

def precedence (routing : Routing) (siteKey : String) : Nat :=
  (Assoc.get? routing.precedences siteKey).getD routing.defaultPrecedence

def arm (routing : Routing) (count : Nat) : Routing :=
  { routing with faults := List.replicate count true }

def ask (routing : Routing) (siteKey : String) : Routing × Option Nat :=
  match routing.faults with
  | [] => (routing, some (routing.precedence siteKey))
  | fault :: faults =>
      ({ routing with faults }, if fault then none else some (routing.precedence siteKey))

end Routing

end PoliteCrawl
