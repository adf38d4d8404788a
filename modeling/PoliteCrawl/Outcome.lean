import PoliteCrawl.Digest.Sha256
import PoliteCrawl.Text.Blank
import PoliteCrawl.Time.MailDate

set_option autoImplicit false

namespace PoliteCrawl

inductive FetchStatus where
  | success (code : Nat)
  | failure (code : Nat)
  | retry (reason : String)
  | disregarded
deriving DecidableEq, Repr

structure Outcome where
  status : FetchStatus
  duration : Time.Span
  digest : Option String
  etag : Option String
  lastModified : Option Time.Timestamp
deriving DecidableEq, Repr

namespace Outcome

-- Nothing was fetched of a URI that was disregarded, so that took no time.
def new (status : FetchStatus) (duration : Time.Span) : Outcome :=
  { status
    duration := if status = .disregarded then 0 else duration
    digest := none
    etag := none
    lastModified := none }

def unquote (text : List Char) : List Char :=
  match text with
  | '"' :: rest => if rest.getLast? = some '"' then rest.dropLast else text
  | _ => text

def withEtag (outcome : Outcome) (header : String) : Outcome :=
  { outcome with etag := some (String.ofList (unquote (Text.trim header.toList))) }

def withContent (outcome : Outcome) (body : List UInt8) : Outcome :=
  { outcome with digest := some ("sha256:" ++ Digest.Sha256.text body) }

def withLastModified (outcome : Outcome) (header : String) : Outcome :=
  match Time.MailDate.parse? (Text.trim header.toList) with
  | some stamp => { outcome with lastModified := some stamp }
  | none => outcome

end Outcome

end PoliteCrawl
