set_option autoImplicit false

namespace PoliteCrawl.Number

-- A finite number is `mantissa * 2 ^ exponent`. The mantissa has at most 53 bits, the exponent is at
-- least -1074, and a mantissa of fewer than 53 bits goes with that exponent alone.
inductive Binary64 where
  | finite (negative : Bool) (mantissa : Nat) (exponent : Int)
  | infinite (negative : Bool)
  | nan
deriving DecidableEq, Repr

namespace Binary64

def leastExponent : Int := -1074

def greatestExponent : Int := 971

def ofBits (bits : Nat) : Binary64 :=
  let negative := bits / Nat.pow 2 63 % 2 == 1
  let power : Nat := bits / Nat.pow 2 52 % Nat.pow 2 11
  let fraction : Nat := bits % Nat.pow 2 52
  if power = Nat.pow 2 11 - 1 then (if fraction = 0 then .infinite negative else .nan)
  else if power = 0 then .finite negative fraction leastExponent
  else .finite negative (Nat.pow 2 52 + fraction) (leastExponent + ((power - 1 : Nat) : Int))

def signBit (negative : Bool) : Nat :=
  if negative then Nat.pow 2 63 else 0

def toBits : Binary64 → Nat
  | .finite negative mantissa exponent =>
      if mantissa < Nat.pow 2 52 then signBit negative + mantissa
      else
        signBit negative + ((exponent - leastExponent).toNat + 1) * Nat.pow 2 52 +
          (mantissa - Nat.pow 2 52)
  | .infinite negative => signBit negative + (Nat.pow 2 11 - 1) * Nat.pow 2 52
  | .nan => (Nat.pow 2 12 - 1) * Nat.pow 2 51

def isNan : Binary64 → Bool
  | .nan => true
  | _ => false

def isFinite : Binary64 → Bool
  | .finite _ _ _ => true
  | _ => false

-- A zero is not below zero, whatever its sign.
def isBelowZero : Binary64 → Bool
  | .finite negative mantissa _ => negative && mantissa != 0
  | .infinite negative => negative
  | .nan => false

-- The whole number nearest to `num / den`; of two, the even one.
def divideToEven (num den : Nat) : Nat :=
  let quotient := num / den
  let rest := 2 * (num % den)
  if rest < den then quotient
  else if rest = den then quotient + quotient % 2
  else quotient + 1

-- The whole number nearest to `num / den`; of two, the greater one.
def divideAway (num den : Nat) : Nat :=
  (2 * num + den) / (2 * den)

def firstBit (num den : Nat) : Int :=
  let guess : Int := (Nat.log2 num : Int) - (Nat.log2 den : Int)
  if num * Nat.pow 2 (-guess).toNat < den * Nat.pow 2 guess.toNat then guess - 1 else guess

def finiteOrInfinite (negative : Bool) (mantissa : Nat) (exponent : Int) : Binary64 :=
  if exponent > greatestExponent then .infinite negative else .finite negative mantissa exponent

def ofQuotient (negative : Bool) (num den : Nat) : Binary64 :=
  if num = 0 then .finite negative 0 leastExponent
  else
    let exponent := max (firstBit num den - 52) leastExponent
    let mantissa :=
      divideToEven (num * Nat.pow 2 (-exponent).toNat) (den * Nat.pow 2 exponent.toNat)
    if mantissa = Nat.pow 2 53 then finiteOrInfinite negative (Nat.pow 2 52) (exponent + 1)
    else finiteOrInfinite negative mantissa exponent

def ofNat (value : Nat) : Binary64 :=
  ofQuotient false value 1

def ofInt (value : Int) : Binary64 :=
  ofQuotient (value < 0) value.natAbs 1

-- The number nearest to `digits * 10 ^ power`. Powers far beyond the range are cut down to its
-- edge, where they make no difference.
def ofDecimal (negative : Bool) (digits : Nat) (power : Int) : Binary64 :=
  let width : Int := (Nat.toDigits 10 digits).length
  if digits = 0 || power + width < -400 then .finite negative 0 leastExponent
  else if power + width > 400 then .infinite negative
  else ofQuotient negative (digits * Nat.pow 10 power.toNat) (Nat.pow 10 (-power).toNat)

def mul : Binary64 → Binary64 → Binary64
  | .finite s m p, .finite t n q =>
      ofQuotient (s != t) (m * n * Nat.pow 2 (p + q).toNat) (Nat.pow 2 (-(p + q)).toNat)
  | .infinite s, .finite t n _ => if n = 0 then .nan else .infinite (s != t)
  | .finite s m _, .infinite t => if m = 0 then .nan else .infinite (s != t)
  | .infinite s, .infinite t => .infinite (s != t)
  | .nan, _ => .nan
  | _, .nan => .nan

def round? : Binary64 → Option Nat
  | .finite negative mantissa exponent =>
      let whole := divideAway (mantissa * Nat.pow 2 exponent.toNat) (Nat.pow 2 (-exponent).toNat)
      if negative && whole != 0 then none else some whole
  | _ => none

end Binary64

end PoliteCrawl.Number
