set_option autoImplicit false

namespace PoliteCrawl.Url.Punycode

def base : Nat := 36
def leastThreshold : Nat := 1
def mostThreshold : Nat := 26
def skew : Nat := 38
def damp : Nat := 700
def firstBias : Nat := 72
def firstCode : Nat := 0x80

def adaptFrom (steps : Nat) (delta : Nat) (k : Nat) : Nat :=
  match steps with
  | 0 => k
  | steps + 1 =>
      if delta > (base - leastThreshold) * mostThreshold / 2 then
        adaptFrom steps (delta / (base - leastThreshold)) (k + base)
      else k + (base - leastThreshold + 1) * delta / (delta + skew)

def adapt (delta count : Nat) (isFirst : Bool) : Nat :=
  let scaled := if isFirst then delta / damp else delta / 2
  let spread := scaled + scaled / count
  adaptFrom (spread + 1) spread 0

def threshold (k bias : Nat) : Nat :=
  if k ≤ bias then leastThreshold
  else if k ≥ bias + mostThreshold then mostThreshold
  else k - bias

theorem threshold_positive (k bias : Nat) : 0 < threshold k bias := by
  unfold threshold leastThreshold mostThreshold
  split
  · decide
  · split
    · decide
    · omega

def digitChar (digit : Nat) : Char :=
  if digit < 26 then Char.ofNat ('a'.toNat + digit) else Char.ofNat ('0'.toNat + (digit - 26))

def digitValue? (c : Char) : Option Nat :=
  if 'a' ≤ c && c ≤ 'z' then some (c.toNat - 'a'.toNat)
  else if 'A' ≤ c && c ≤ 'Z' then some (c.toNat - 'A'.toNat)
  else if c.isDigit then some (c.toNat - '0'.toNat + 26)
  else none

def encodeDelta (delta k bias : Nat) : List Char :=
  let t := threshold k bias
  if _small : delta < t then [digitChar delta]
  else digitChar (t + (delta - t) % (base - t)) ::
    encodeDelta ((delta - t) / (base - t)) (k + base) bias
termination_by delta
decreasing_by
  have positive := threshold_positive k bias
  have shrinks := Nat.div_le_self (delta - threshold k bias) (base - threshold k bias)
  omega

-- The encoder between two characters: the last code point written, how many characters are
-- written, the delta so far, the bias and the digits so far.
structure Encoder where
  code : Nat
  written : Nat
  delta : Nat
  bias : Nat
  digits : List Char

namespace Encoder

def visit (basic target : Nat) (encoder : Encoder) (code : Nat) : Encoder :=
  if code < target then { encoder with delta := encoder.delta + 1 }
  else if code == target then
    { encoder with
      digits := encoder.digits ++ encodeDelta encoder.delta base encoder.bias
      bias := adapt encoder.delta (encoder.written + 1) (encoder.written == basic)
      delta := 0
      written := encoder.written + 1 }
  else encoder

def pass (basic : Nat) (codes : List Nat) (encoder : Encoder) (target : Nat) : Encoder :=
  let reached := { encoder with
    delta := encoder.delta + (target - encoder.code) * (encoder.written + 1) }
  let done := codes.foldl (visit basic target) reached
  { done with delta := done.delta + 1, code := target + 1 }

end Encoder

def sortedDistinct (codes : List Nat) : List Nat :=
  (codes.mergeSort (· ≤ ·)).foldr
    (fun code rest => if rest.head? == some code then rest else code :: rest) []

def encode (codes : List Nat) : List Char :=
  let basic := codes.filter (· < firstCode)
  let start : Encoder :=
    { code := firstCode, written := basic.length, delta := 0, bias := firstBias, digits := [] }
  let targets := sortedDistinct (codes.filter (· ≥ firstCode))
  let done := targets.foldl (Encoder.pass basic.length codes) start
  basic.map Char.ofNat ++ (if basic.isEmpty then [] else ['-']) ++ done.digits

def decodeDelta (bias : Nat) : List Char → Nat → Nat → Nat → Option (Nat × List Char)
  | [], _, _, _ => none
  | c :: rest, k, weight, sum =>
      match digitValue? c with
      | none => none
      | some digit =>
          let total := sum + digit * weight
          let t := threshold k bias
          if digit < t then some (total, rest)
          else decodeDelta bias rest (k + base) (weight * (base - t)) total

-- Inserts one character per delta. Every delta has a digit, so the length of the text is enough
-- steps.
def decodeFrom : Nat → List Char → Nat → Nat → Nat → List Nat → Option (List Nat)
  | _, [], _, _, _, codes => some codes
  | 0, _ :: _, _, _, _, _ => none
  | steps + 1, text, code, index, bias, codes =>
      match decodeDelta bias text base 1 index with
      | none => none
      | some (total, rest) =>
          let count := codes.length + 1
          let next := code + total / count
          let place := total % count
          if next > 0x10FFFF then none
          else decodeFrom steps rest next (place + 1) (adapt (total - index) count (index == 0))
            (codes.take place ++ next :: codes.drop place)

def decode (text : List Char) : Option (List Nat) :=
  let reversed := text.reverse
  let digits := (reversed.takeWhile (· != '-')).reverse
  let basic := ((reversed.dropWhile (· != '-')).drop 1).reverse
  if text.head? == some '-' && basic.isEmpty then none
  else if basic.any (·.toNat ≥ firstCode) then none
  else decodeFrom digits.length digits firstCode 0 firstBias (basic.map Char.toNat)

end PoliteCrawl.Url.Punycode
