import PoliteCrawl.Frontier.Basic

set_option autoImplicit false

namespace PoliteCrawl.Frontier

def setTarget (frontier : Frontier) (state : CrawlState) : Frontier :=
  { frontier with cell := { frontier.cell with target := state } }

def announce (frontier : Frontier) (state : CrawlState) : Frontier :=
  match state with
  | .run => { frontier with readySignal := frontier.readySignal.notifyOne }
  | .finish => { frontier with readySignal := frontier.readySignal.notifyAll }
  | _ => frontier

def requestState (frontier : Frontier) (state : CrawlState) : Frontier :=
  if frontier.target = .finish ∧ state ≠ .finish then frontier
  else
    let changed := frontier.setTarget state
    let announced := if frontier.target = state then changed else changed.announce state
    { announced with snoozeSignal := announced.snoozeSignal.notifyOne }

-- Changes the budgets that queues get at their next claim. A session budget of zero would park every
-- queue at its first claim.
def setBudgets (frontier : Frontier) (session : Nat) (total : Option Nat) : Frontier :=
  { frontier with budgets := { session := max session 1, total } }

def hasReached (frontier : Frontier) (state : CrawlState) : Bool :=
  frontier.cell.hasReached state

end PoliteCrawl.Frontier
