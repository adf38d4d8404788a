import PoliteCrawl.Url.Ipv4

set_option autoImplicit false

namespace PoliteCrawl.Url.Ipv6

-- The pieces read so far, those before the left-out run once it has been met, each reversed.
structure Reading where
  pieces : List Nat
  beforeGap : Option (List Nat)

namespace Reading

def places (reading : Reading) : Nat :=
  reading.pieces.length +
    match reading.beforeGap with
    | some before => before.length + 1
    | none => 0

def push (reading : Reading) (piece : Nat) : Reading :=
  { reading with pieces := piece :: reading.pieces }

def gap (reading : Reading) : Reading :=
  { pieces := [], beforeGap := some reading.pieces }

def finish? (reading : Reading) : Option (List Nat) :=
  match reading.beforeGap with
  | none => if reading.pieces.length == 8 then some reading.pieces.reverse else none
  | some before =>
      some (before.reverse ++
        List.replicate (8 - before.length - reading.pieces.length) 0 ++ reading.pieces.reverse)

end Reading

def byte? (digits : List Char) : Option Nat :=
  match digits with
  | [] => none
  | ['0'] => some 0
  | '0' :: _ => none
  | digits => (Ipv4.readDigits? 10 0 digits).bind fun value => if value < 256 then some value else none

def bytes? (text : List Char) : Option (Nat × Nat) :=
  match (Ipv4.pieces text).mapM byte? with
  | some [a, b, c, d] => some (a * 256 + b, c * 256 + d)
  | _ => none

def isHex (c : Char) : Bool :=
  (Ipv4.digitValue? 16 c).isSome

def takeHex (text : List Char) : List Char × List Char :=
  let digits := (text.take 4).takeWhile isHex
  (digits, text.drop digits.length)

-- Reads the pieces. Every step takes a character, so the length of the text is enough steps.
def readPieces : Nat → List Char → Reading → Option Reading
  | _, [], reading => some reading
  | 0, _ :: _, _ => none
  | steps + 1, text, reading =>
      if reading.places ≥ 8 then none
      else match text with
        | ':' :: rest =>
            if reading.beforeGap.isSome then none else readPieces steps rest reading.gap
        | text =>
            let (digits, rest) := takeHex text
            let piece := (Ipv4.readDigits? 16 0 digits).getD 0
            match rest with
            | [] => if digits.isEmpty then none else some (reading.push piece)
            | ':' :: more =>
                if more.isEmpty then none else readPieces steps more (reading.push piece)
            | '.' :: _ =>
                if digits.isEmpty || reading.places > 6 then none
                else (bytes? text).map fun (high, low) => (reading.push high).push low
            | _ :: _ => none

def parse? (text : List Char) : Option (List Nat) :=
  let start : Reading := { pieces := [], beforeGap := none }
  match text with
  | ':' :: ':' :: rest => (readPieces rest.length rest start.gap).bind Reading.finish?
  | ':' :: _ => none
  | _ :: _ :: _ => (readPieces text.length text start).bind Reading.finish?
  | _ => none

def hexText (value : Nat) : String :=
  String.ofList (Nat.toDigits 16 value)

def zeroRun (pieces : List Nat) : Nat :=
  (pieces.takeWhile (· == 0)).length

def longestRun : Nat → List Nat → Nat × Nat
  | _, [] => (0, 0)
  | place, piece :: rest =>
      let run := zeroRun (piece :: rest)
      let later := longestRun (place + 1) rest
      if run ≥ later.2 then (place, run) else later

def joinPieces : List String → String
  | [] => ""
  | [piece] => piece
  | piece :: rest => piece ++ ":" ++ joinPieces rest

-- The longest run of two or more zero pieces is left out.
def text (pieces : List Nat) : String :=
  let (place, run) := longestRun 0 pieces
  if run ≥ 2 then
    joinPieces ((pieces.take place).map hexText) ++ "::" ++
      joinPieces ((pieces.drop (place + run)).map hexText)
  else joinPieces (pieces.map hexText)

end PoliteCrawl.Url.Ipv6
