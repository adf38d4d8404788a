import PoliteCrawl.Text.LowerCase
import PoliteCrawl.Url.Parser

set_option autoImplicit false

namespace PoliteCrawl

-- The part of a URL that names its site: its host in lower case, with the port if it is not the
-- scheme's own.
def Url.siteKey? (url : Url) : Option String :=
  url.hostText?.map fun host => Text.toLower host ++ url.portText

-- Two URLs that differ by their fragments alone are the same candidate.
def Url.uniqKey (url : Url) : String :=
  url.withoutFragment.text

inductive UriError where
  | notAUrl (cause : Url.UrlError)
  | wrongScheme (scheme : String)
  | noHost (text : String)
deriving DecidableEq, Repr

def UriError.message : UriError → String
  | .notAUrl cause => "Failed to parse URI: " ++ cause.message
  | .wrongScheme scheme => "Invalid URI scheme: " ++ scheme
  | .noHost text => "Missing host in URI: " ++ text

abbrev Payload := List (String × String)

namespace Payload

def get? (payload : Payload) (key : String) : Option String :=
  (payload.find? (·.1 == key)).map (·.2)

def insert (key value : String) : Payload → Payload
  | [] => [(key, value)]
  | (other, old) :: rest =>
      if key < other then (key, value) :: (other, old) :: rest
      else if key = other then (key, value) :: rest
      else (other, old) :: insert key value rest

end Payload

structure CrawlUri where
  url : Url
  siteKey : String
  hint : Option Nat
  cost : Nat
  retries : Nat
  data : Payload
deriving DecidableEq, Repr

namespace CrawlUri

def new (url : Url) : CrawlUri :=
  { url, siteKey := "", hint := none, cost := 1, retries := 0, data := [] }

def parse (text : String) : Except UriError CrawlUri :=
  match Url.parse text with
  | .error cause => .error (.notAUrl cause)
  | .ok url =>
      if !url.isWeb then .error (.wrongScheme url.scheme)
      else if url.hostText?.isNone then .error (.noHost text)
      else .ok (new url)

def text (uri : CrawlUri) : String :=
  uri.url.text

def uniqKey (uri : CrawlUri) : String :=
  uri.url.uniqKey

end CrawlUri

end PoliteCrawl
