import PoliteCrawl.Toml.Lexeme

set_option autoImplicit false

namespace PoliteCrawl.Toml

def isControl (c : Char) : Bool :=
  (c.toNat < 0x20 && c != '\t' && c != '\n') || c.toNat == 0x7F

def longestRun (mark : Char) : Nat → List Char → Nat
  | _, [] => 0
  | run, c :: rest =>
      if c == mark then max (run + 1) (longestRun mark (run + 1) rest)
      else longestRun mark 0 rest

def hexDigit (value : Nat) : Char :=
  if value < 10 then Char.ofNat ('0'.toNat + value) else Char.ofNat ('A'.toNat + (value - 10))

def escape (c : Char) : List Char :=
  if c == '\x08' then ['\\', 'b']
  else if c == '\t' then ['\\', 't']
  else if c == '\n' then ['\\', 'n']
  else if c == '\x0c' then ['\\', 'f']
  else if c == '\r' then ['\\', 'r']
  else if c == '"' then ['\\', '"']
  else if c == '\\' then ['\\', '\\']
  else if isControl c then
    ['\\', 'u', '0', '0', hexDigit (c.toNat / 16), hexDigit (c.toNat % 16)]
  else [c]

-- Between three double quotes a line end stands for itself, and so do up to two quotes in a row.
def escapeLong : Nat → List Char → List Char
  | _, [] => []
  | run, c :: rest =>
      if c == '\n' then c :: escapeLong 0 rest
      else if c == '"' && run < 2 then c :: escapeLong (run + 1) rest
      else escape c ++ escapeLong 0 rest

inductive Quoting where
  | basic
  | literal
  | longBasic
  | longLiteral
deriving DecidableEq, Repr

-- Each text takes the plainest quotes it can do with.
def quotingOf (text : List Char) : Quoting :=
  let hasLines := text.contains '\n'
  let hasControls := text.any isControl
  if !hasControls && !hasLines && !text.contains '"' && !text.contains '\\' then .basic
  else if !hasControls && !hasLines && !text.contains '\x27' then .literal
  else if !hasControls && !text.contains '\\' && longestRun '"' 0 text ≤ 2 then .longBasic
  else if !hasControls && longestRun '\x27' 0 text ≤ 2 then .longLiteral
  else if hasLines then .longBasic
  else .basic

def opening (text : List Char) : List Char :=
  if text.contains '\n' then ['\n'] else []

def quote (quoting : Quoting) (text : List Char) : List Char :=
  match quoting with
  | .basic => ['"'] ++ text.flatMap escape ++ ['"']
  | .literal => ['\x27'] ++ text ++ ['\x27']
  | .longBasic => ['"', '"', '"'] ++ opening text ++ escapeLong 0 text ++ ['"', '"', '"']
  | .longLiteral =>
      ['\x27', '\x27', '\x27'] ++ opening text ++ text ++ ['\x27', '\x27', '\x27']

def textValue (text : String) : String :=
  String.ofList (quote (quotingOf text.toList) text.toList)

def keyQuotingOf (text : List Char) : Quoting :=
  let hasControls := text.any fun c => isControl c || c == '\n'
  if !hasControls && !text.contains '"' && !text.contains '\\' then .basic
  else if !hasControls && !text.contains '\x27' then .literal
  else .basic

def keyText (key : String) : String :=
  let letters := key.toList
  if !letters.isEmpty && letters.all isBare then key
  else String.ofList (quote (keyQuotingOf letters) letters)

def greatestInteger : Nat := Nat.pow 2 63 - 1

end PoliteCrawl.Toml
