import PoliteCrawl.Url.Domain
import PoliteCrawl.Url.Error
import PoliteCrawl.Url.Ipv6
import PoliteCrawl.Url.Percent

set_option autoImplicit false

namespace PoliteCrawl.Url

inductive Host where
  | domain (name : String)
  | ipv4 (address : Nat)
  | ipv6 (pieces : List Nat)
deriving DecidableEq, Repr

namespace Host

def text : Host → String
  | .domain name => name
  | .ipv4 address => Ipv4.text address
  | .ipv6 pieces => "[" ++ Ipv6.text pieces ++ "]"

def parseBracketed (text : List Char) : Except UrlError Host :=
  if text.getLast? == some ']' then
    match Ipv6.parse? text.dropLast with
    | some pieces => .ok (.ipv6 pieces)
    | none => .error .badIpv6
  else .error .badIpv6

-- The schemes of the web read a host as a domain name or an address; any other scheme keeps the
-- text as it is.
def parse : List Char → Except UrlError Host
  | '[' :: text => parseBracketed text
  | text =>
      match String.fromUTF8? ⟨(Percent.decode text).toArray⟩ with
      | none => .error .badDomain
      | some name =>
          match Domain.toAscii? name.toList with
          | none => .error .badDomain
          | some [] => .error .emptyHost
          | some ascii =>
              if Ipv4.endsInNumber ascii then
                match Ipv4.parse? ascii with
                | some address => .ok (.ipv4 address)
                | none => .error .badIpv4
              else .ok (.domain (String.ofList ascii))

def isForbidden (c : Char) : Bool :=
  c == '\x00' || c == '\t' || c == '\n' || c == '\r' || c == ' ' || c == '#' || c == '/' ||
    c == ':' || c == '<' || c == '>' || c == '?' || c == '@' || c == '[' || c == '\\' || c == ']' ||
    c == '^' || c == '|'

def parseVerbatim : List Char → Except UrlError Host
  | '[' :: text => parseBracketed text
  | text =>
      if text.any isForbidden then .error .badHostCharacter
      else .ok (.domain (String.ofList (Percent.encode Percent.controls text)))

end Host

end PoliteCrawl.Url
