import PoliteCrawl.Url.Basic

set_option autoImplicit false

namespace PoliteCrawl.Url

inductive SchemeKind where
  | web
  | file
  | other
deriving DecidableEq

def defaultPort? (scheme : String) : Option Nat :=
  match scheme with
  | "http" => some 80
  | "ws" => some 80
  | "https" => some 443
  | "wss" => some 443
  | "ftp" => some 21
  | _ => none

def schemeKind (scheme : String) : SchemeKind :=
  if scheme == "file" then .file
  else if (defaultPort? scheme).isSome then .web
  else .other

def SchemeKind.isSpecial : SchemeKind → Bool
  | .web => true
  | .file => true
  | .other => false

def isControlOrSpace (c : Char) : Bool :=
  c.toNat ≤ 0x20

def isTabOrNewline (c : Char) : Bool :=
  c == '\t' || c == '\n' || c == '\r'

-- Controls and spaces at the ends do not count, nor do tabs and newlines anywhere.
def significant (text : List Char) : List Char :=
  (((text.dropWhile isControlOrSpace).reverse.dropWhile isControlOrSpace).reverse).filter
    (!isTabOrNewline ·)

def isSchemeCharacter (c : Char) : Bool :=
  c.isAlphanum || c == '+' || c == '-' || c == '.'

def splitScheme? (text : List Char) : Option (String × List Char) :=
  let name := text.takeWhile isSchemeCharacter
  match name, text.dropWhile isSchemeCharacter with
  | first :: _, ':' :: rest =>
      if first.isAlpha then some (String.ofList (name.map Char.toLower), rest) else none
  | _, _ => none

def SchemeKind.isSlash (kind : SchemeKind) (c : Char) : Bool :=
  c == '/' || (c == '\\' && kind.isSpecial)

def SchemeKind.endsAuthority (kind : SchemeKind) (c : Char) : Bool :=
  kind.isSlash c || c == '?' || c == '#'

def endsPath (c : Char) : Bool :=
  c == '?' || c == '#'

structure Credentials where
  username : String
  password : String

def noCredentials : Credentials := { username := "", password := "" }

def encodeCredential (text : List Char) : String :=
  String.ofList (Percent.encode Percent.credentials text)

def readCredentials (text : List Char) : Credentials :=
  { username := encodeCredential (text.takeWhile (· != ':'))
    password := encodeCredential ((text.dropWhile (· != ':')).drop 1) }

def splitAtLastAt (text : List Char) : Option (List Char × List Char) :=
  let tail := (text.reverse.takeWhile (· != '@')).reverse
  let head := text.take (text.length - tail.length - 1)
  if text.any (· == '@') then some (head, tail) else none

-- The credentials before the last at sign of the authority, and the text from the host on. An at
-- sign right before a slash, a query or a fragment leaves no host.
def takeCredentials (kind : SchemeKind) (text : List Char) :
    Except UrlError (Credentials × List Char) :=
  let authority := text.takeWhile (!kind.endsAuthority ·)
  let rest := text.dropWhile (!kind.endsAuthority ·)
  match splitAtLastAt authority with
  | none => .ok (noCredentials, text)
  | some ([], []) => if rest.isEmpty then .ok (noCredentials, []) else .error .emptyHost
  | some (credentials, host) => .ok (readCredentials credentials, host ++ rest)

def takeHost (kind : SchemeKind) : Bool → List Char → List Char × List Char
  | _, [] => ([], [])
  | inBrackets, c :: rest =>
      if kind.endsAuthority c || (c == ':' && !inBrackets) then ([], c :: rest)
      else
        let inside := if c == '[' then true else if c == ']' then false else inBrackets
        let (host, after) := takeHost kind inside rest
        (c :: host, after)

def endsPort (c : Char) : Bool :=
  c == '/' || c == '\\' || c == '?' || c == '#'

def decimal (digits : List Char) : Nat :=
  digits.foldl (fun value c => value * 10 + (c.toNat - '0'.toNat)) 0

-- The port after a colon; none if it is missing or the scheme's own.
def takePort (scheme : String) : List Char → Except UrlError (Option Nat × List Char)
  | ':' :: text =>
      let digits := text.takeWhile Char.isDigit
      let rest := text.dropWhile Char.isDigit
      let port := decimal digits
      if port > 65535 then .error .badPort
      else if !rest.isEmpty && !rest.head?.any endsPort then .error .badPort
      else if digits.isEmpty || defaultPort? scheme == some port then .ok (none, rest)
      else .ok (some port, rest)
  | text => .ok (none, text)

def isSingleDot (name : List Char) : Bool :=
  let text := String.ofList (name.map Char.toLower)
  text == "." || text == "%2e"

def isDoubleDot (name : List Char) : Bool :=
  let text := String.ofList (name.map Char.toLower)
  text == ".." || text == ".%2e" || text == "%2e." || text == "%2e%2e"

def encodeSegment (name : List Char) : String :=
  String.ofList (Percent.encode Percent.paths name)

def isDriveLetter : List Char → Bool
  | [letter, mark] => letter.isAlpha && (mark == ':' || mark == '|')
  | _ => false

-- The first segment of a file path may name a drive, which dots do not climb over.
def climb (kind : SchemeKind) : List String → List String
  | [] => []
  | [first] =>
      if kind == .file && isDriveLetter first.toList then [first] else []
  | _ :: parents => parents

def addSegment (kind : SchemeKind) (path : List String) (name : List Char) : List String :=
  match kind, path, name with
  | .file, [], [letter, mark] =>
      if isDriveLetter [letter, mark] then [String.ofList [letter, ':']]
      else [encodeSegment [letter, mark]]
  | _, path, name => encodeSegment name :: path

-- Resolves the dots; the path is kept reversed. A path that ends in dots ends in a slash.
def resolve (kind : SchemeKind) : List String → List (List Char) → List String
  | path, [] => path
  | path, [name] =>
      if isDoubleDot name then "" :: climb kind path
      else if isSingleDot name then "" :: path
      else addSegment kind path name
  | path, name :: rest =>
      if isDoubleDot name then resolve kind (climb kind path) rest
      else if isSingleDot name then resolve kind path rest
      else resolve kind (addSegment kind path name) rest

def segments (kind : SchemeKind) (text : List Char) : List (List Char) :=
  text.foldr
    (fun c parts =>
      match kind.isSlash c, parts with
      | true, _ => [] :: parts
      | false, part :: rest => (c :: part) :: rest
      | false, [] => [[c]])
    [[]]

def withoutFirstSlash (kind : SchemeKind) : List Char → List Char
  | c :: rest => if kind.isSlash c then rest else c :: rest
  | [] => []

def dropEmptySegments : List String → List String
  | "" :: name :: rest => dropEmptySegments (name :: rest)
  | names => names

-- A path after an authority. Only a scheme of no kind of its own may leave it empty.
def readPath (kind : SchemeKind) (text : List Char) : Path :=
  if text.isEmpty && !kind.isSpecial then .segments []
  else
    let names := (resolve kind [] (segments kind (withoutFirstSlash kind text))).reverse
    .segments (if kind == .file then dropEmptySegments names else names)

def readQuery (kind : SchemeKind) : List Char → Option String
  | '?' :: text =>
      let set := if kind.isSpecial then Percent.specialQueries else Percent.queries
      some (String.ofList (Percent.encode set (text.takeWhile (· != '#'))))
  | _ => none

def readFragment (text : List Char) : Option String :=
  match text.dropWhile (· != '#') with
  | '#' :: fragment => some (String.ofList (Percent.encode Percent.fragments fragment))
  | _ => none

def finish (kind : SchemeKind) (scheme : String) (credentials : Credentials) (host : Option Host)
    (port : Option Nat) (text : List Char) : Url :=
  let rest := text.dropWhile (!endsPath ·)
  { scheme
    username := credentials.username
    password := credentials.password
    host
    port
    path := readPath kind (text.takeWhile (!endsPath ·))
    query := readQuery kind rest
    fragment := readFragment rest }

def isEmptyHost : Host → Bool
  | .domain "" => true
  | _ => false

def readHost (kind : SchemeKind) (text : List Char) : Except UrlError Host :=
  if kind.isSpecial then
    if text.isEmpty then .error .emptyHost else Host.parse text
  else Host.parseVerbatim text

def parseAuthority (scheme : String) (text : List Char) : Except UrlError Url := do
  let kind := schemeKind scheme
  let (credentials, afterAt) ← takeCredentials kind text
  let (hostName, afterHost) := takeHost kind false afterAt
  let host ← readHost kind hostName
  if isEmptyHost host &&
      (afterHost.head? == some ':' || credentials.username != "" || credentials.password != "") then
    .error .emptyHost
  let (port, rest) ← takePort scheme afterHost
  .ok (finish kind scheme credentials (some host) port rest)

def isSlash (c : Char) : Bool :=
  c == '/' || c == '\\'

def endsFileHost (c : Char) : Bool :=
  isSlash c || c == '?' || c == '#'

def emptyHost : Host := .domain ""

-- The host of a file: the machine itself is written as no host at all.
def readFileHost (text : List Char) : Except UrlError Host :=
  if text.isEmpty then .ok emptyHost
  else do
    let host ← Host.parse text
    .ok (if host == .domain "localhost" then emptyHost else host)

def finishFile (host : Host) (text : List Char) : Url :=
  let url := finish .file "file" noCredentials (some host) none text
  match url.path with
  | .segments (first :: _) =>
      if isDriveLetter first.toList then { url with host := some emptyHost } else url
  | _ => url

def parseFile (text : List Char) : Except UrlError Url :=
  match text with
  | first :: second :: rest =>
      if isSlash first && isSlash second then
        let name := rest.takeWhile (!endsFileHost ·)
        if isDriveLetter name then .ok (finishFile emptyHost rest)
        else do
          let host ← readFileHost name
          .ok (finishFile host (rest.dropWhile (!endsFileHost ·)))
      else .ok (finishFile emptyHost text)
  | _ => .ok (finishFile emptyHost text)

def parseBare (scheme : String) (text : List Char) : Url :=
  match text with
  | '/' :: _ => finish .other scheme noCredentials none none text
  | _ =>
      let rest := text.dropWhile (!endsPath ·)
      { scheme
        username := ""
        password := ""
        host := none
        port := none
        path := .verbatim
          (String.ofList (Percent.encode Percent.controls (text.takeWhile (!endsPath ·))))
        query := readQuery .other rest
        fragment := readFragment rest }

def parse (text : String) : Except UrlError Url :=
  match splitScheme? (significant text.toList) with
  | none => .error .noScheme
  | some (scheme, rest) =>
      match schemeKind scheme with
      | .file => parseFile rest
      | .web => parseAuthority scheme (rest.dropWhile isSlash)
      | .other =>
          match rest with
          | '/' :: '/' :: authority => parseAuthority scheme authority
          | rest => .ok (parseBare scheme rest)

end PoliteCrawl.Url
