import PoliteCrawl.Text.NormalForm
import PoliteCrawl.Url.Domain.MappingTable
import PoliteCrawl.Url.Domain.ScriptTable
import PoliteCrawl.Url.Punycode

set_option autoImplicit false

namespace PoliteCrawl.Url.Domain

open PoliteCrawl.Text

def isForbidden (c : Char) : Bool :=
  c.toNat ≤ 0x20 || c.toNat == 0x7F || c == '%' || c == '#' || c == '/' || c == ':' || c == '<' ||
    c == '>' || c == '?' || c == '@' || c == '[' || c == '\\' || c == ']' || c == '^' || c == '|'

def isAscii (codes : List Nat) : Bool :=
  codes.all (· < 0x80)

def fold? (code : Nat) : Option (List Nat) :=
  if code < 0x80 then some [(Char.ofNat code).toLower.toNat]
  else if keptTable.holds code then some [code]
  else if droppedTable.holds code then some []
  else foldedTable.image? code

def foldAll? : List Nat → Option (List Nat)
  | [] => some []
  | code :: rest =>
      match fold? code, foldAll? rest with
      | some image, some images => some (image ++ images)
      | _, _ => none

def labels (codes : List Nat) : List (List Nat) :=
  codes.foldr
    (fun code parts =>
      match code == '.'.toNat, parts with
      | true, _ => [] :: parts
      | false, part :: rest => (code :: part) :: rest
      | false, [] => [[code]])
    [[]]

def punycodeMark : List Nat := "xn--".toList.map Char.toNat

-- A punycode label stands for a text with a character beyond ASCII that folding and composing
-- leave as it is.
def revealLabel? (label : List Nat) : Option (List Nat) :=
  if punycodeMark.isPrefixOf label then
    if isAscii label then
      match Punycode.decode ((label.drop punycodeMark.length).map Char.ofNat) with
      | some codes =>
          if !isAscii codes && foldAll? codes == some codes && NormalForm.normalize codes == codes
          then some codes else none
      | none => none
    else none
  else some label

def isVirama (code : Nat) : Bool :=
  code ≥ 0x80 && NormalForm.combiningClass code == 9

def joins (table : CodeTable) (codes : List Nat) : Bool :=
  match codes.dropWhile joinTransparentTable.holds with
  | code :: _ => table.holds code
  | [] => false

-- A joiner follows a virama; a non-joiner may also stand between two letters that would join.
def joinersFit (before : List Nat) : List Nat → Bool
  | [] => true
  | code :: rest =>
      let afterVirama := before.head?.any isVirama
      let fits :=
        if code == 0x200C then
          afterVirama || (joins joinsNextTable before && joins joinsPreviousTable rest)
        else if code == 0x200D then afterVirama
        else true
      fits && joinersFit (code :: before) rest

def isRightToLeft (code : Nat) : Bool :=
  rightToLeftTable.holds code || arabicNumberTable.holds code

def directionFits (label : List Nat) : Bool :=
  let letters := label.reverse.dropWhile nonspacingTable.holds
  match label.head?, letters.head? with
  | none, _ => true
  | some _, none => false
  | some first, some last =>
      if rightToLeftTable.holds first then
        label.all (fun code =>
          isRightToLeft code || europeanNumberTable.holds code || neutralTable.holds code ||
            nonspacingTable.holds code) &&
          (isRightToLeft last || europeanNumberTable.holds last) &&
          !(label.any europeanNumberTable.holds && label.any arabicNumberTable.holds)
      else if leftToRightTable.holds first then
        label.all (fun code =>
          leftToRightTable.holds code || europeanNumberTable.holds code ||
            neutralTable.holds code || nonspacingTable.holds code) &&
          (leftToRightTable.holds last || europeanNumberTable.holds last)
      else false

def labelFits (label : List Nat) : Bool :=
  !label.head?.any markTable.holds && joinersFit [] label &&
    label.all (fun code => !isForbidden (Char.ofNat code))

def asciiLabel (label : List Nat) : List Char :=
  if isAscii label then label.map Char.ofNat
  else "xn--".toList ++ Punycode.encode label

def joinLabels : List (List Char) → List Char
  | [] => []
  | [label] => label
  | label :: rest => label ++ '.' :: joinLabels rest

def isPlain (name : List Char) : Bool :=
  name.all (·.toNat < 0x80) &&
    (labels (name.map (·.toLower.toNat))).all (fun label => !punycodeMark.isPrefixOf label)

-- The characters are folded, each label is checked, and a label beyond ASCII is written in
-- punycode.
def toAscii? (name : List Char) : Option (List Char) :=
  if isPlain name then
    if name.any isForbidden then none else some (name.map Char.toLower)
  else
    match foldAll? (name.map Char.toNat) with
    | none => none
    | some folded =>
        match (labels (NormalForm.normalize folded)).mapM revealLabel? with
        | none => none
        | some revealed =>
            let directed := !(revealed.any (·.any isRightToLeft)) || revealed.all directionFits
            if revealed.all labelFits && directed then
              some (joinLabels (revealed.map asciiLabel))
            else none

end PoliteCrawl.Url.Domain
