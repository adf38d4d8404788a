import PoliteCrawl.Text.NormalForm.Table

set_option autoImplicit false

namespace PoliteCrawl.Text.NormalForm

def hangulBase : Nat := 0xAC00
def leadBase : Nat := 0x1100
def vowelBase : Nat := 0x1161
def trailBase : Nat := 0x11A7
def leadCount : Nat := 19
def vowelCount : Nat := 21
def trailCount : Nat := 28

def isHangulSyllable (code : Nat) : Bool :=
  hangulBase ≤ code && code < hangulBase + leadCount * vowelCount * trailCount

def combiningClass (code : Nat) : Nat :=
  if code < 0x300 then 0
  else ((combiningTable.row? code).bind (·.image.head?)).getD 0

-- Takes a code point apart. No decomposition is deeper than the given number of steps.
def decompose : Nat → Nat → List Nat
  | 0, code => [code]
  | steps + 1, code =>
      if code < 0xC0 then [code]
      else if isHangulSyllable code then
        let index := code - hangulBase
        let trail := index % trailCount
        [leadBase + index / (vowelCount * trailCount),
          vowelBase + index % (vowelCount * trailCount) / trailCount] ++
          (if trail == 0 then [] else [trailBase + trail])
      else match decompositionTable.image? code with
        | some parts => parts.flatMap (decompose steps)
        | none => [code]

def addMark (code : Nat) : List Nat → List Nat
  | [] => [code]
  | last :: rest =>
      if combiningClass last > combiningClass code then last :: addMark code rest
      else code :: last :: rest

def addInOrder (reversed : List Nat) (code : Nat) : List Nat :=
  if combiningClass code == 0 then code :: reversed else addMark code reversed

def putInOrder (codes : List Nat) : List Nat :=
  (codes.foldl addInOrder []).reverse

def composePair (first second : Nat) : Option Nat :=
  if leadBase ≤ first && first < leadBase + leadCount &&
      vowelBase ≤ second && second < vowelBase + vowelCount then
    some (hangulBase + ((first - leadBase) * vowelCount + (second - vowelBase)) * trailCount)
  else if isHangulSyllable first && (first - hangulBase) % trailCount == 0 &&
      trailBase < second && second < trailBase + trailCount then
    some (first + (second - trailBase))
  else
    (decompositionTable.find? fun row =>
      row.image == [first, second] && !notComposedTable.holds row.first).map (·.first)

-- A text under composition: what is settled, the character that may still grow, and the marks that
-- follow it, the settled text and the marks reversed.
structure Composing where
  settled : List Nat
  starter : Option Nat
  marks : List Nat

namespace Composing

def start : Composing := { settled := [], starter := none, marks := [] }

def finish (state : Composing) : List Nat :=
  (state.marks ++ state.starter.toList ++ state.settled).reverse

-- A character is blocked from the starter by a mark of its own class or a higher one.
def blocks (state : Composing) (code : Nat) : Bool :=
  match state.marks with
  | [] => false
  | last :: _ => combiningClass last ≥ combiningClass code

def keep (state : Composing) (code : Nat) : Composing :=
  if combiningClass code == 0 then
    { settled := state.marks ++ state.starter.toList ++ state.settled
      starter := some code
      marks := [] }
  else { state with marks := code :: state.marks }

def add (state : Composing) (code : Nat) : Composing :=
  match state.starter with
  | none => state.keep code
  | some starter =>
      if state.blocks code then state.keep code
      else match composePair starter code with
        | some whole => { state with starter := some whole }
        | none => state.keep code

end Composing

def compose (codes : List Nat) : List Nat :=
  (codes.foldl Composing.add Composing.start).finish

-- Characters are taken apart, the marks on each are put in order, and what can be put together
-- again is.
def normalize (codes : List Nat) : List Nat :=
  if codes.all (· < 0x300) then codes
  else compose (putInOrder (codes.flatMap (decompose 8)))

end PoliteCrawl.Text.NormalForm
