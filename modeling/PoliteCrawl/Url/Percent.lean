set_option autoImplicit false

namespace PoliteCrawl.Url.Percent

def hexDigit (value : Nat) : Char :=
  if value < 10 then Char.ofNat ('0'.toNat + value) else Char.ofNat ('A'.toNat + (value - 10))

def hexValue? (c : Char) : Option Nat :=
  if c.isDigit then some (c.toNat - '0'.toNat)
  else if 'a' ≤ c && c ≤ 'f' then some (c.toNat - 'a'.toNat + 10)
  else if 'A' ≤ c && c ≤ 'F' then some (c.toNat - 'A'.toNat + 10)
  else none

def encodeByte (byte : UInt8) : List Char :=
  ['%', hexDigit (byte.toNat / 16), hexDigit (byte.toNat % 16)]

def encode (set : Char → Bool) (text : List Char) : List Char :=
  text.flatMap fun c =>
    if c.toNat ≥ 0x80 || set c then (String.utf8EncodeChar c).flatMap encodeByte else [c]

def decode : List Char → List UInt8
  | [] => []
  | '%' :: high :: low :: rest =>
      match hexValue? high, hexValue? low with
      | some h, some l => UInt8.ofNat (h * 16 + l) :: decode rest
      | _, _ => String.utf8EncodeChar '%' ++ decode (high :: low :: rest)
  | c :: rest => String.utf8EncodeChar c ++ decode rest
termination_by text => text.length

def controls (c : Char) : Bool :=
  c.toNat < 0x20 || c.toNat == 0x7F

def fragments (c : Char) : Bool :=
  controls c || c == ' ' || c == '"' || c == '<' || c == '>' || c == '\x60'

def paths (c : Char) : Bool :=
  fragments c || c == '#' || c == '?' || c == '\x7b' || c == '\x7d'

def credentials (c : Char) : Bool :=
  paths c || c == '/' || c == ':' || c == ';' || c == '=' || c == '@' || c == '[' || c == '\\' ||
    c == ']' || c == '^' || c == '|'

def queries (c : Char) : Bool :=
  controls c || c == ' ' || c == '"' || c == '#' || c == '<' || c == '>'

def specialQueries (c : Char) : Bool :=
  queries c || c == '\x27'

end PoliteCrawl.Url.Percent
