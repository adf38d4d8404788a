import PoliteCrawl.Number.Binary64

set_option autoImplicit false

namespace PoliteCrawl.Number

structure Decimal where
  digits : Nat
  power : Int
deriving DecidableEq, Repr

namespace Shortest

-- The quotients that round to a number: between `low` and `high` over `den`, the ends included if
-- `closed`; the number itself is `value` over `den`.
structure Interval where
  low : Nat
  value : Nat
  high : Nat
  den : Nat
  closed : Bool

-- Half the way to each neighbour. Below a power of two the numbers lie twice as close.
def interval (mantissa : Nat) (exponent : Int) : Interval :=
  let scale := Nat.pow 2 (exponent - 2).toNat
  let below := if mantissa = Nat.pow 2 52 && exponent > Binary64.leastExponent then 1 else 2
  { low := (4 * mantissa - below) * scale
    value := 4 * mantissa * scale
    high := (4 * mantissa + 2) * scale
    den := Nat.pow 2 (2 - exponent).toNat
    closed := mantissa % 2 = 0 }

namespace Interval

def holds (range : Interval) (decimal : Decimal) : Bool :=
  let point := decimal.digits * Nat.pow 10 decimal.power.toNat * range.den
  let unit := Nat.pow 10 (-decimal.power).toNat
  if range.closed then range.low * unit ≤ point && point ≤ range.high * unit
  else range.low * unit < point && point < range.high * unit

def floorAt (range : Interval) (power : Int) : Nat :=
  range.value * Nat.pow 10 (-power).toNat / (range.den * Nat.pow 10 power.toNat)

def isNearFloor (range : Interval) (power : Int) : Bool :=
  2 * (range.value * Nat.pow 10 (-power).toNat % (range.den * Nat.pow 10 power.toNat)) <
    range.den * Nat.pow 10 power.toNat

-- The point of the grid of a power of ten that is nearest to the value, or the other neighbour, if
-- the interval holds it.
def pointAt? (range : Interval) (power : Int) : Option Decimal :=
  let floor := range.floorAt power
  let down : Decimal := { digits := floor, power }
  let up : Decimal := { digits := floor + 1, power }
  match range.isNearFloor power with
  | true => [down, up].find? range.holds
  | false => [up, down].find? range.holds

def firstPower (range : Interval) : Int :=
  if range.den ≤ range.value then
    ((Nat.toDigits 10 (range.value / range.den)).length : Int) - 1
  else
    match (List.range 400).find? fun k => range.den ≤ range.value * Nat.pow 10 (k + 1) with
    | some k => -(k + 1 : Int)
    | none => -400

end Interval

def decimal (mantissa : Nat) (exponent : Int) : Decimal :=
  let range := interval mantissa exponent
  let first := range.firstPower
  let found := (List.range 17).findSome? fun (places : Nat) =>
    range.pointAt? (first - (places : Int))
  found.getD { digits := 0, power := 0 }

end Shortest

def Decimal.text (decimal : Decimal) : String :=
  let digits := Nat.toDigits 10 decimal.digits
  if decimal.power ≥ 0 then
    String.ofList (digits ++ List.replicate decimal.power.toNat '0')
  else
    let places := (-decimal.power).toNat
    let padded := List.replicate (places + 1 - digits.length) '0' ++ digits
    let whole := padded.take (padded.length - places)
    let part := padded.drop (padded.length - places)
    let trimmed := (part.reverse.dropWhile (· == '0')).reverse
    String.ofList (if trimmed.isEmpty then whole else whole ++ '.' :: trimmed)

def signText (negative : Bool) : String :=
  if negative then "-" else ""

-- The fewest decimal digits that read back as the same number, the nearest to it of those, and
-- never an exponent.
def Binary64.text : Binary64 → String
  | .finite negative mantissa exponent =>
      if mantissa = 0 then signText negative ++ "0"
      else signText negative ++ (Shortest.decimal mantissa exponent).text
  | .infinite negative => signText negative ++ "inf"
  | .nan => "NaN"

end PoliteCrawl.Number
