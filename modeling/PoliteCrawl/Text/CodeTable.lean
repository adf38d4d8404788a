set_option autoImplicit false

namespace PoliteCrawl.Text

-- The code points from `first` to `last` in steps of `step`. An image of one code point belongs to
-- `first` and moves along with the row; a longer image belongs to a row of one code point.
structure CodeRow where
  first : Nat
  last : Nat
  step : Nat
  image : List Nat

namespace CodeRow

def holds (row : CodeRow) (code : Nat) : Bool :=
  row.first ≤ code && code ≤ row.last && (code - row.first) % row.step == 0

def imageOf (row : CodeRow) (code : Nat) : List Nat :=
  match row.image with
  | [single] => [single + (code - row.first)]
  | image => image

end CodeRow

abbrev CodeTable := List CodeRow

namespace CodeTable

def row? (table : CodeTable) (code : Nat) : Option CodeRow :=
  table.find? (·.holds code)

def holds (table : CodeTable) (code : Nat) : Bool :=
  (row? table code).isSome

def image? (table : CodeTable) (code : Nat) : Option (List Nat) :=
  (row? table code).map (·.imageOf code)

def hexValue (c : Char) : Nat :=
  if c.isDigit then c.toNat - '0'.toNat else c.toNat - 'A'.toNat + 10

def readHex (digits : List Char) : Nat :=
  digits.foldl (fun value digit => value * 16 + hexValue digit) 0

def partsAt (mark : Char → Bool) (text : List Char) : List (List Char) :=
  text.foldr
    (fun c parts =>
      match mark c, parts with
      | true, _ => [] :: parts
      | false, part :: rest => (c :: part) :: rest
      | false, [] => [[c]])
    [[]]

-- A row is written `first-last/step:image.image` in upper-case hexadecimal; each part after the
-- first may be missing.
def readRow (word : List Char) : CodeRow :=
  let codes := word.takeWhile (· != ':')
  let image := (word.dropWhile (· != ':')).drop 1
  let range := codes.takeWhile (· != '/')
  let step := (codes.dropWhile (· != '/')).drop 1
  let first := readHex (range.takeWhile (· != '-'))
  let last := (range.dropWhile (· != '-')).drop 1
  { first
    last := if last.isEmpty then first else readHex last
    step := if step.isEmpty then 1 else readHex step
    image := if image.isEmpty then [] else (partsAt (· == '.') image).map readHex }

def read (text : String) : CodeTable :=
  ((partsAt (fun c => c == ' ' || c == '\n') text.toList).filter (!·.isEmpty)).map readRow

end CodeTable

end PoliteCrawl.Text
