set_option autoImplicit false

namespace PoliteCrawl.Url.Ipv4

def pieces (text : List Char) : List (List Char) :=
  text.foldr
    (fun c parts =>
      match c == '.', parts with
      | true, _ => [] :: parts
      | false, part :: rest => (c :: part) :: rest
      | false, [] => [[c]])
    [[]]

def digitValue? (radix : Nat) (c : Char) : Option Nat :=
  let value :=
    if c.isDigit then c.toNat - '0'.toNat
    else if 'a' ≤ c && c ≤ 'f' then c.toNat - 'a'.toNat + 10
    else if 'A' ≤ c && c ≤ 'F' then c.toNat - 'A'.toNat + 10
    else radix
  if value < radix then some value else none

def readDigits? (radix : Nat) : Nat → List Char → Option Nat
  | value, [] => some value
  | value, c :: rest =>
      match digitValue? radix c with
      | some digit => readDigits? radix (value * radix + digit) rest
      | none => none

-- The number a piece spells; a radix mark alone spells zero.
def number? : List Char → Option Nat
  | [] => none
  | '0' :: 'x' :: digits => readDigits? 16 0 digits
  | '0' :: 'X' :: digits => readDigits? 16 0 digits
  | '0' :: c :: digits => readDigits? 8 0 (c :: digits)
  | digits => readDigits? 10 0 digits

-- One empty piece at the end, that of a final dot, does not count.
def withoutFinalDot (parts : List (List Char)) : List (List Char) :=
  if parts.getLast? == some [] then parts.dropLast else parts

-- A name whose last piece is a number is an address or an error, never a domain.
def endsInNumber (name : List Char) : Bool :=
  match (withoutFinalDot (pieces name)).getLast? with
  | none => false
  | some last => (!last.isEmpty && last.all Char.isDigit) || (number? last).isSome

def combine : Nat → List Nat → Option Nat
  | _, [] => none
  | places, [last] => if last < Nat.pow 256 places then some last else none
  | places, byte :: rest =>
      match combine (places - 1) rest with
      | some value => if byte < 256 then some (byte * Nat.pow 256 (places - 1) + value) else none
      | none => none

-- One to four numbers, decimal, octal or hexadecimal, the last of which fills the bytes that are
-- left.
def parse? (name : List Char) : Option Nat :=
  let parts := withoutFinalDot (pieces name)
  if parts.length > 4 then none
  else (parts.mapM number?).bind (combine 4)

def text (address : Nat) : String :=
  toString (address / Nat.pow 256 3 % 256) ++ "." ++
    toString (address / Nat.pow 256 2 % 256) ++ "." ++
    toString (address / 256 % 256) ++ "." ++ toString (address % 256)

end PoliteCrawl.Url.Ipv4
