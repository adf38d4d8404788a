import PoliteCrawl.Time.Span

set_option autoImplicit false

namespace PoliteCrawl

structure SnoozeEntry where
  wake : Time.Instant
  key : String
deriving DecidableEq, Repr

abbrev Snoozed := List SnoozeEntry

namespace Snoozed

-- A new entry stands behind all that wake no later.
def insert (entry : SnoozeEntry) : Snoozed → Snoozed
  | [] => [entry]
  | first :: rest =>
      if entry.wake < first.wake then entry :: first :: rest else first :: insert entry rest

def isEarliest (snoozed : Snoozed) (wake : Time.Instant) : Bool :=
  match snoozed with
  | [] => true
  | first :: _ => wake < first.wake

def nextWake? (snoozed : Snoozed) : Option Time.Instant :=
  snoozed.head?.map (·.wake)

end Snoozed

end PoliteCrawl
