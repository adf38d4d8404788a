import PoliteCrawl.Config.Basic
import PoliteCrawl.CrawlUri

set_option autoImplicit false

namespace PoliteCrawl.Crawl

def depthKey : String := "depth"

def digitsValue (digits : List Char) : Nat :=
  digits.foldl (fun value c => value * 10 + (c.toNat - '0'.toNat)) 0

def readDepth? (text : String) : Option Nat :=
  let digits := match text.toList with
    | '+' :: rest => rest
    | letters => letters
  if !digits.isEmpty && digits.all Char.isDigit && digitsValue digits < Nat.pow 2 32 then
    some (digitsValue digits)
  else none

-- A seed is at depth zero, and so is a URI whose payload does not say.
def depthOf (uri : CrawlUri) : Nat :=
  ((uri.data.get? depthKey).bind readDepth?).getD 0

def dropEmptyEnd (names : List String) : List String :=
  (names.reverse.dropWhile (· == "")).reverse

-- The address of a child: the slashes at the end of the parent's path do not count.
def childUrl (url : Url) (index : Nat) : Url :=
  let path := match url.path with
    | .segments names => Url.Path.segments (dropEmptyEnd names ++ [toString index])
    | .verbatim text => .verbatim text
  { url with path, query := none, fragment := none }

def child (url : Url) (depth index : Nat) : CrawlUri :=
  { CrawlUri.new (childUrl url index) with data := [(depthKey, toString depth)] }

def discoverLinks (workers : WorkerConfig) (uri : CrawlUri) : List CrawlUri :=
  let depth := depthOf uri
  if workers.maxDepth ≤ depth then []
  else (List.range workers.linksPerPage).map (child uri.url (depth + 1))

end PoliteCrawl.Crawl
