set_option autoImplicit false

namespace PoliteCrawl

inductive CrawlState where
  | empty
  | run
  | hold
  | pause
  | finish
deriving DecidableEq, Repr

namespace CrawlState

def name : CrawlState → String
  | .empty => "EMPTY"
  | .run => "RUN"
  | .hold => "HOLD"
  | .pause => "PAUSE"
  | .finish => "FINISH"

def slug : CrawlState → String
  | .empty => "empty"
  | .run => "run"
  | .hold => "hold"
  | .pause => "pause"
  | .finish => "finish"

def all : List CrawlState := [.empty, .run, .hold, .pause, .finish]

def ofName? (text : String) : Option CrawlState :=
  all.find? (·.name == text)

def allowsDispatch : CrawlState → Bool
  | .empty => true
  | .run => true
  | .hold => false
  | .pause => false
  | .finish => false

end CrawlState

-- The target is what was asked for, the reached state what the supervisor has achieved. The version
-- counts the changes of the reached state.
structure StateCell where
  target : CrawlState
  reached : Option CrawlState
  version : Nat
deriving DecidableEq, Repr

namespace StateCell

def new (target : CrawlState) : StateCell :=
  { target, reached := none, version := 0 }

def replaceTarget (cell : StateCell) (expected state : CrawlState) : StateCell × Bool :=
  if cell.target = expected then ({ cell with target := state }, true) else (cell, false)

def markReached (cell : StateCell) (state : CrawlState) : StateCell × Bool :=
  if cell.reached = some state then (cell, false)
  else ({ cell with reached := some state, version := cell.version + 1 }, true)

def hasReached (cell : StateCell) (state : CrawlState) : Bool :=
  cell.reached = some state

def hasChanged (cell : StateCell) (seen : Nat) : Bool :=
  cell.version != seen

end StateCell

namespace StateCell

inductive Event where
  | replace (expected state : CrawlState)
  | mark (state : CrawlState)
  | wait (state : CrawlState)
  | changed
deriving DecidableEq, Repr

structure Observed where
  cell : StateCell
  seen : Nat
deriving DecidableEq, Repr

def Observed.new (target : CrawlState) : Observed :=
  { cell := StateCell.new target, seen := 0 }

def Observed.apply (observed : Observed) : Event → Observed × Bool
  | .replace expected state =>
      let (cell, answer) := observed.cell.replaceTarget expected state
      ({ observed with cell }, answer)
  | .mark state =>
      let (cell, answer) := observed.cell.markReached state
      ({ observed with cell }, answer)
  | .wait state => (observed, observed.cell.hasReached state)
  | .changed =>
      ({ observed with seen := observed.cell.version }, observed.cell.hasChanged observed.seen)

end StateCell

end PoliteCrawl
