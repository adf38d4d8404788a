import PoliteCrawl.Text.LowerCase.Table

set_option autoImplicit false

namespace PoliteCrawl.Text

def isCased (c : Char) : Bool :=
  if c.toNat < 0x80 then c.isAlpha else casedTable.holds c.toNat

def isCaseIgnorable (c : Char) : Bool :=
  caseIgnorableTable.holds c.toNat

def reachesCased (text : List Char) : Bool :=
  match text.dropWhile isCaseIgnorable with
  | c :: _ => isCased c
  | [] => false

def lowerChar (c : Char) : List Char :=
  if c.toNat < 0x80 then [c.toLower]
  else match lowerTable.image? c.toNat with
    | some codes => codes.map Char.ofNat
    | none => [c]

def lowerFrom (before : List Char) : List Char → List Char
  | [] => []
  | c :: rest =>
      let lower :=
        if c == 'Σ' then
          if reachesCased before && !reachesCased rest then ['ς'] else ['σ']
        else lowerChar c
      lower ++ lowerFrom (c :: before) rest

-- A capital sigma at the end of a word turns into the final sigma; every other character is mapped
-- on its own.
def toLower (text : String) : String :=
  String.ofList (lowerFrom [] text.toList)

end PoliteCrawl.Text
