import PoliteCrawl.Time.Calendar
import PoliteCrawl.Toml.Value

set_option autoImplicit false

namespace PoliteCrawl.Toml

abbrev Reader (α : Type) := List Char → Option (α × List Char)

def isBlank (c : Char) : Bool :=
  c == ' ' || c == '\t'

def skipBlanks (text : List Char) : List Char :=
  text.dropWhile isBlank

def isPrintable (c : Char) : Bool :=
  c == '\t' || (' ' ≤ c && c ≤ '~') || c.toNat ≥ 0x80

def isNotQuote (quote : Char) (c : Char) : Bool :=
  isPrintable c && c != quote

def isPlain (c : Char) : Bool :=
  isPrintable c && c != '"' && c != '\\'

def takeNewline? : List Char → Option (List Char)
  | '\n' :: rest => some rest
  | '\r' :: '\n' :: rest => some rest
  | _ => none

def takeLineEnd? (text : List Char) : Option (List Char) :=
  let rest := match skipBlanks text with
    | '#' :: comment => comment.dropWhile isPrintable
    | rest => rest
  if rest.isEmpty then some [] else takeNewline? rest

-- Blanks, line ends and comments. A comment here needs a line end.
def skipLines : Nat → List Char → List Char
  | 0, text => text
  | fuel + 1, text =>
      match skipBlanks text with
      | '#' :: comment =>
          match takeNewline? (comment.dropWhile isPrintable) with
          | some rest => skipLines fuel rest
          | none => '#' :: comment
      | rest =>
          match takeNewline? rest with
          | some rest => skipLines fuel rest
          | none => rest

def hexValue? (c : Char) : Option Nat :=
  if c.isDigit then some (c.toNat - '0'.toNat)
  else if 'a' ≤ c && c ≤ 'f' then some (c.toNat - 'a'.toNat + 10)
  else if 'A' ≤ c && c ≤ 'F' then some (c.toNat - 'A'.toNat + 10)
  else none

def takeCode (width : Nat) : Reader Char := fun text => do
  let digits ← (text.take width).mapM hexValue?
  let code := digits.foldl (fun value digit => value * 16 + digit) 0
  if digits.length = width && code.isValidChar then
    some (Char.ofNat code, text.drop width)
  else none

def takeEscape : Reader Char
  | 'b' :: rest => some ('\x08', rest)
  | 't' :: rest => some ('\t', rest)
  | 'n' :: rest => some ('\n', rest)
  | 'f' :: rest => some ('\x0c', rest)
  | 'r' :: rest => some ('\r', rest)
  | '"' :: rest => some ('"', rest)
  | '\\' :: rest => some ('\\', rest)
  | 'u' :: rest => takeCode 4 rest
  | 'U' :: rest => takeCode 8 rest
  | _ => none

def takeBasicBody : Nat → Reader (List Char)
  | 0, _ => none
  | fuel + 1, text =>
      match text with
      | '"' :: rest => some ([], rest)
      | '\\' :: rest => do
          let (c, rest) ← takeEscape rest
          let (body, rest) ← takeBasicBody fuel rest
          some (c :: body, rest)
      | c :: rest =>
          if isPlain c then do
            let (body, rest) ← takeBasicBody fuel rest
            some (c :: body, rest)
          else none
      | [] => none

def takeLiteralBody (text : List Char) : Option (List Char × List Char) :=
  match text.dropWhile (isNotQuote '\x27') with
  | '\x27' :: rest => some (text.takeWhile (isNotQuote '\x27'), rest)
  | _ => none

def skipBlankLines : List Char → List Char
  | '\r' :: '\n' :: rest => skipBlankLines rest
  | c :: rest => if isBlank c || c == '\n' then skipBlankLines rest else c :: rest
  | [] => []

-- A backslash at the end of a line leaves out all up to the next character that is no blank.
def takeContinuation? (text : List Char) : Option (List Char) :=
  (takeNewline? (skipBlanks text)).map skipBlankLines

-- The rest of a text of several lines. Up to two quotes before the three that close it belong to
-- it.
def takeLongBody (quote : Char) : Nat → Reader (List Char)
  | 0, _ => none
  | fuel + 1, text =>
      let run := text.takeWhile (· == quote)
      if run.length ≥ 3 then
        let kept := min (run.length - 3) 2
        some (run.take kept, text.drop (kept + 3))
      else
        match text with
        | '\r' :: '\n' :: rest => more fuel '\n' rest
        | '\n' :: rest => more fuel '\n' rest
        | '\\' :: rest =>
            if quote == '"' then
              match takeContinuation? rest with
              | some after => takeLongBody quote fuel after
              | none => do
                  let (c, rest) ← takeEscape rest
                  more fuel c rest
            else more fuel '\\' rest
        | c :: rest => if isPrintable c then more fuel c rest else none
        | [] => none
where
  more (fuel : Nat) (c : Char) (rest : List Char) : Option (List Char × List Char) := do
    let (body, rest) ← takeLongBody quote fuel rest
    some (c :: body, rest)

-- A line end right after the opening quotes does not count.
def takeLong (quote : Char) (text : List Char) : Option (List Char × List Char) :=
  takeLongBody quote (text.length + 1) ((takeNewline? text).getD text)

def takeText : Reader String := fun text => do
  let (body, rest) ← match text with
    | '"' :: '"' :: '"' :: rest => takeLong '"' rest
    | '"' :: rest => takeBasicBody (rest.length + 1) rest
    | '\x27' :: '\x27' :: '\x27' :: rest => takeLong '\x27' rest
    | '\x27' :: rest => takeLiteralBody rest
    | _ => none
  some (String.ofList body, rest)

def isBare (c : Char) : Bool :=
  c.isAlphanum || c == '_' || c == '-'

def takeSimpleKey : Reader String
  | '"' :: rest => do
      let (body, rest) ← takeBasicBody (rest.length + 1) rest
      some (String.ofList body, rest)
  | '\x27' :: rest => do
      let (body, rest) ← takeLiteralBody rest
      some (String.ofList body, rest)
  | text =>
      let name := text.takeWhile isBare
      if name.isEmpty then none else some (String.ofList name, text.drop name.length)

def takeKeys : Nat → Reader (List String)
  | 0, _ => none
  | fuel + 1, text => do
      let (key, rest) ← takeSimpleKey (skipBlanks text)
      match skipBlanks rest with
      | '.' :: rest => do
          let (keys, rest) ← takeKeys fuel rest
          some (key :: keys, rest)
      | rest => some ([key], rest)

def depthLimit : Nat := 80

def takePath : Reader (List String × String) := fun text => do
  let (keys, rest) ← takeKeys (text.length + 1) text
  let last ← keys.getLast?
  if keys.length < depthLimit then some ((keys.dropLast, last), rest) else none

-- Digits of which each underscore stands between two. The answer is without them.
def takeDigits (isDigit : Char → Bool) : Reader (List Char)
  | c :: rest => if isDigit c then some (go c rest) else none
  | [] => none
where
  go (c : Char) : List Char → List Char × List Char
    | '_' :: d :: rest =>
        if isDigit d then
          let (digits, after) := go d rest
          (c :: digits, after)
        else ([c], '_' :: d :: rest)
    | d :: rest =>
        if isDigit d then
          let (digits, after) := go d rest
          (c :: digits, after)
        else ([c], d :: rest)
    | [] => ([c], [])

def takeSign : List Char → Bool × List Char
  | '+' :: rest => (false, rest)
  | '-' :: rest => (true, rest)
  | text => (false, text)

def takeWhole : Reader (List Char) := fun text =>
  match text with
  | '0' :: rest => some (['0'], rest)
  | _ => takeDigits Char.isDigit text

def decimal (digits : List Char) : Nat :=
  digits.foldl (fun value c => value * 10 + (c.toNat - '0'.toNat)) 0

def takeFraction : List Char → Option (List Char × List Char)
  | '.' :: rest => takeDigits Char.isDigit rest
  | _ => none

def takeExponent (text : List Char) : Option (Int × List Char) :=
  match text with
  | mark :: rest =>
      if mark == 'e' || mark == 'E' then
        let (negative, rest) := takeSign rest
        (takeDigits Char.isDigit rest).map fun (digits, rest) =>
          (if negative then -(decimal digits : Int) else (decimal digits : Int), rest)
      else none
  | [] => none

-- A number too great to be held is refused unless it is negative.
def finite? (value : Number.Binary64) : Option Value :=
  if value = .infinite false then none else some (.float value)

def takeFloat : Reader Value := fun text => do
  let (negative, rest) := takeSign text
  let (whole, rest) ← takeWhole rest
  match takeFraction rest with
  | some (fraction, rest) =>
      let (exponent, rest) := (takeExponent rest).getD (0, rest)
      let value ← finite?
        (Number.Binary64.ofDecimal negative (decimal (whole ++ fraction))
          (exponent - fraction.length))
      some (value, rest)
  | none =>
      let (exponent, rest) ← takeExponent rest
      let value ← finite? (Number.Binary64.ofDecimal negative (decimal whole) exponent)
      some (value, rest)

def takeNamedFloat : Reader Value := fun text =>
  match takeSign text with
  | (negative, 'i' :: 'n' :: 'f' :: rest) => some (.float (.infinite negative), rest)
  | (_, 'n' :: 'a' :: 'n' :: rest) => some (.float .nan, rest)
  | _ => none

def inRange? (value : Int) : Option Value :=
  if -Int.pow 2 63 ≤ value && value < Int.pow 2 63 then some (.integer value) else none

def takeBased (base : Nat) (isDigit : Char → Bool) : Reader Value := fun text => do
  let (digits, rest) ← takeDigits isDigit text
  let value := digits.foldl (fun value c => value * base + (hexValue? c).getD 0) 0
  let value ← inRange? value
  some (value, rest)

def takeInteger : Reader Value
  | '0' :: 'x' :: rest => takeBased 16 (fun c => (hexValue? c).isSome) rest
  | '0' :: 'o' :: rest => takeBased 8 (fun c => '0' ≤ c && c ≤ '7') rest
  | '0' :: 'b' :: rest => takeBased 2 (fun c => c == '0' || c == '1') rest
  | text => do
      let (negative, rest) := takeSign text
      let (digits, rest) ← takeWhole rest
      let value ← inRange? (if negative then -(decimal digits : Int) else (decimal digits : Int))
      some (value, rest)

def takeFigures (width : Nat) : Reader Nat := fun text =>
  let digits := text.take width
  if digits.length = width && digits.all Char.isDigit then
    some (decimal digits, text.drop width)
  else none

def takeMark (mark : Char) : Reader Unit
  | c :: rest => if c == mark then some ((), rest) else none
  | [] => none

def takeDate : Reader Unit := fun text => do
  let (year, rest) ← takeFigures 4 text
  let (_, rest) ← takeMark '-' rest
  let (month, rest) ← takeFigures 2 rest
  let (_, rest) ← takeMark '-' rest
  let (day, rest) ← takeFigures 2 rest
  let date : Time.Date := { year, month, day }
  if date.isValid then some ((), rest) else none

def takeTime : Reader Unit := fun text => do
  let (hour, rest) ← takeFigures 2 text
  let (_, rest) ← takeMark ':' rest
  let (minute, rest) ← takeFigures 2 rest
  let (_, rest) ← takeMark ':' rest
  let (second, rest) ← takeFigures 2 rest
  if hour ≤ 23 && minute ≤ 59 && second ≤ 60 then
    match rest with
    | '.' :: fraction =>
        let digits := fraction.takeWhile Char.isDigit
        if digits.isEmpty then some ((), rest) else some ((), fraction.drop digits.length)
    | rest => some ((), rest)
  else none

def takeOffset : Reader Unit := fun text =>
  match text with
  | mark :: rest =>
      if mark == 'Z' || mark == 'z' then some ((), rest)
      else if mark == '+' || mark == '-' then do
        let (hour, rest) ← takeFigures 2 rest
        let (_, rest) ← takeMark ':' rest
        let (minute, rest) ← takeFigures 2 rest
        if hour ≤ 23 && minute ≤ 59 then some ((), rest) else none
      else none
  | [] => none

def takeTimeOfDate (text : List Char) : Option (List Char) :=
  match text with
  | mark :: rest =>
      if mark == 'T' || mark == 't' || mark == ' ' then
        (takeTime rest).map fun (_, rest) => ((takeOffset rest).map (·.2)).getD rest
      else none
  | [] => none

def takeMoment : Reader Value := fun text =>
  match takeDate text with
  | some (_, rest) => some (.moment, (takeTimeOfDate rest).getD rest)
  | none => (takeTime text).map fun (_, rest) => (.moment, rest)

def takeNumber : Reader Value := fun text =>
  ((takeMoment text).or (takeFloat text)).or ((takeNamedFloat text).or (takeInteger text))

end PoliteCrawl.Toml
