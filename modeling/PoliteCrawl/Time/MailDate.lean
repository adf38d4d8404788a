import PoliteCrawl.Text.Blank
import PoliteCrawl.Time.Timestamp

set_option autoImplicit false

namespace PoliteCrawl.Time.MailDate

open Text (trimStart)

abbrev Step (α : Type) := List Char → Option (α × List Char)

def weekdayNames : List String := ["mon", "tue", "wed", "thu", "fri", "sat", "sun"]

def monthNames : List String :=
  ["jan", "feb", "mar", "apr", "may", "jun", "jul", "aug", "sep", "oct", "nov", "dec"]

def takeName (names : List String) : Step Nat := fun text =>
  let word := String.ofList ((text.take 3).map Char.toLower)
  (names.findIdx? (· == word)).map fun index => (index, text.drop 3)

def decimal (digits : List Char) : Nat :=
  digits.foldl (fun value c => value * 10 + (c.toNat - '0'.toNat)) 0

def takeNumber (least : Nat) (most : Option Nat) : Step (Nat × Nat) := fun text =>
  let run := text.takeWhile Char.isDigit
  let digits := match most with
    | some count => run.take count
    | none => run
  if digits.length < least then none
  else some ((decimal digits, digits.length), text.drop digits.length)

def takeBlanks : Step Unit := fun text =>
  let rest := trimStart text
  if rest.length < text.length then some ((), rest) else none

def takeColon : Step Unit
  | ':' :: rest => some ((), rest)
  | _ => none

-- Years of two and three digits are short for years of the last century or this one.
def fullYear (value width : Nat) : Nat :=
  if width = 2 then (if value ≤ 49 then value + 2000 else value + 1900)
  else if width = 3 then value + 1900
  else value

def isZoneLetter (c : Char) : Bool :=
  ('a' ≤ c && c ≤ 'i') || ('k' ≤ c && c ≤ 'y')

-- The hours east of Greenwich of a named zone; single letters have lost their meaning.
def zoneHours? (name : String) : Option Int :=
  match name with
  | "gmt" => some 0
  | "ut" => some 0
  | "z" => some 0
  | "edt" => some (-4)
  | "est" => some (-5)
  | "cdt" => some (-5)
  | "cst" => some (-6)
  | "mdt" => some (-6)
  | "mst" => some (-7)
  | "pdt" => some (-7)
  | "pst" => some (-8)
  | _ =>
      match name.toList with
      | [letter] => if isZoneLetter letter then some 0 else none
      | _ => none

def offsetSeconds (negative : Bool) (hours minutes : Nat) : Int :=
  let seconds : Int := (hours * 3600 + minutes * 60 : Nat)
  if negative then -seconds else seconds

def takeFigures (negative : Bool) : Step Int := fun text => do
  let ((hours, _), rest) ← takeNumber 2 (some 2) text
  let ((minutes, _), rest) ← takeNumber 2 (some 2) rest
  if minutes ≤ 59 then some (offsetSeconds negative hours minutes, rest) else none

def takeZone : Step Int := fun text =>
  let name := text.takeWhile Char.isAlpha
  if name.isEmpty then
    match text with
    | '+' :: rest => takeFigures false rest
    | '-' :: rest => takeFigures true rest
    | _ => none
  else
    (zoneHours? (String.ofList (name.map Char.toLower))).map fun hours =>
      (hours * 3600, text.drop name.length)

def skipComment : Nat → List Char → Option (List Char)
  | _, [] => none
  | depth, '\\' :: _ :: rest => skipComment depth rest
  | depth, '(' :: rest => skipComment (depth + 1) rest
  | depth, ')' :: rest => if depth ≤ 1 then some rest else skipComment (depth - 1) rest
  | depth, _ :: rest => skipComment depth rest

-- Drops comments as long as there are any. Each is at least two characters long, so the length of
-- the text bounds their number.
def skipComments : Nat → List Char → List Char
  | 0, text => text
  | bound + 1, text =>
      match trimStart text with
      | '(' :: rest =>
          match skipComment 1 rest with
          | some after => skipComments bound after
          | none => text
      | _ => text

def takeWeekday (text : List Char) : Option (Option Nat × List Char) :=
  match takeName weekdayNames text with
  | none => some (none, text)
  | some (day, ',' :: rest) => some (some day, rest)
  | some _ => none

def takeSeconds (text : List Char) : Option (Nat × List Char) :=
  match takeColon (trimStart text) with
  | none => some (0, text)
  | some (_, rest) => (takeNumber 2 (some 2) rest).map fun ((value, _), rest) => (value, rest)

-- Second sixty is the leap second that draws out second fifty-nine.
def stamp? (date : Date) (hour minute second : Nat) (offset : Int) : Option Timestamp :=
  let whole := if second = 60 then 59 else second
  let nanos := if second = 60 then nanosPerSecond else 0
  let local_ : Timestamp :=
    { seconds := date.dayNumber * 86400 + (hour * 3600 + minute * 60 + whole : Nat), nanos }
  let stamp : Timestamp := { local_ with seconds := local_.seconds - offset }
  if hour ≤ 23 && minute ≤ 59 && second ≤ 60 && offset.natAbs < 86400 && local_.isInRange &&
      stamp.isInRange then
    some stamp
  else none

def parse? (text : List Char) : Option Timestamp := do
  let (weekday, rest) ← takeWeekday (trimStart text)
  let ((day, _), rest) ← takeNumber 1 (some 2) (trimStart rest)
  let (_, rest) ← takeBlanks rest
  let (month, rest) ← takeName monthNames rest
  let (_, rest) ← takeBlanks rest
  let ((value, width), rest) ← takeNumber 2 none rest
  let (_, rest) ← takeBlanks rest
  let ((hour, _), rest) ← takeNumber 2 (some 2) rest
  let (_, rest) ← takeColon (trimStart rest)
  let ((minute, _), rest) ← takeNumber 2 (some 2) (trimStart rest)
  let (second, rest) ← takeSeconds rest
  let (_, rest) ← takeBlanks rest
  let (offset, rest) ← takeZone rest
  let date : Date := { year := fullYear value width, month := month + 1, day }
  let isNamed := match weekday with
    | some named => date.weekday == named
    | none => true
  if (skipComments rest.length rest).isEmpty && date.isValid && isNamed then
    stamp? date hour minute second offset
  else none

end PoliteCrawl.Time.MailDate
