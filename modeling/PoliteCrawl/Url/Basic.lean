import PoliteCrawl.Url.Host

set_option autoImplicit false

namespace PoliteCrawl

namespace Url

inductive Path where
  | segments (names : List String)
  | verbatim (text : String)
deriving DecidableEq, Repr

def Path.text : Path → String
  | .segments names => String.join (names.map ("/" ++ ·))
  | .verbatim text => text

end Url

open Url in
structure Url where
  scheme : String
  username : String
  password : String
  host : Option Host
  port : Option Nat
  path : Path
  query : Option String
  fragment : Option String
deriving DecidableEq, Repr

namespace Url

def credentialsText (url : Url) : String :=
  if url.username == "" && url.password == "" then ""
  else if url.password == "" then url.username ++ "@"
  else url.username ++ ":" ++ url.password ++ "@"

def portText (url : Url) : String :=
  match url.port with
  | some port => ":" ++ toString port
  | none => ""

-- What stands between the colon of the scheme and the path. Without a host, a path that starts with
-- an empty segment is kept apart from it by `/.`.
def authorityText (url : Url) : String :=
  match url.host, url.path with
  | some host, _ => "//" ++ url.credentialsText ++ host.text ++ url.portText
  | none, .segments ("" :: _ :: _) => "/."
  | none, _ => ""

def queryText (url : Url) : String :=
  match url.query with
  | some query => "?" ++ query
  | none => ""

def fragmentText (url : Url) : String :=
  match url.fragment with
  | some fragment => "#" ++ fragment
  | none => ""

def text (url : Url) : String :=
  url.scheme ++ ":" ++ url.authorityText ++ url.path.text ++ url.queryText ++ url.fragmentText

def hostText? (url : Url) : Option String :=
  match url.host with
  | some (.domain "") => none
  | some host => some host.text
  | none => none

def isWeb (url : Url) : Bool :=
  url.scheme == "http" || url.scheme == "https"

def trimFinalSpaces (text : String) : String :=
  String.ofList ((text.toList.reverse.dropWhile (· == ' ')).reverse)

-- The URL without its fragment. Spaces that would then end it are dropped from a path kept as it
-- is.
def withoutFragment (url : Url) : Url :=
  match url.path, url.query with
  | .verbatim text, none =>
      { url with path := .verbatim (trimFinalSpaces text), fragment := none }
  | _, _ => { url with fragment := none }

end Url

end PoliteCrawl
