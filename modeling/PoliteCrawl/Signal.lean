set_option autoImplicit false

namespace PoliteCrawl

inductive Wake where
  | waiting
  -- Took the permit, and so need not wait.
  | permitted
  -- Woken alone; this wakeup is not to be lost.
  | picked
  | called
deriving DecidableEq, Repr

-- Wakes those who wait, the oldest first. A wakeup that finds nobody waiting is kept as a permit
-- for the next who comes; there is at most one.
structure Signal where
  permit : Bool
  enrolled : List (Nat × Wake)
deriving DecidableEq, Repr

namespace Signal

def new : Signal :=
  { permit := false, enrolled := [] }

def enrol (signal : Signal) (waiter : Nat) : Signal :=
  if signal.permit then
    { permit := false, enrolled := signal.enrolled ++ [(waiter, .permitted)] }
  else { signal with enrolled := signal.enrolled ++ [(waiter, .waiting)] }

def pickFirst? : List (Nat × Wake) → Option (List (Nat × Wake))
  | [] => none
  | (waiter, .waiting) :: rest => some ((waiter, .picked) :: rest)
  | other :: rest => (pickFirst? rest).map (other :: ·)

def notifyOne (signal : Signal) : Signal :=
  match pickFirst? signal.enrolled with
  | some enrolled => { signal with enrolled }
  | none => { signal with permit := true }

def call : Nat × Wake → Nat × Wake
  | (waiter, .waiting) => (waiter, .called)
  | other => other

def notifyAll (signal : Signal) : Signal :=
  { signal with enrolled := signal.enrolled.map call }

def wakeOf? (signal : Signal) (waiter : Nat) : Option Wake :=
  (signal.enrolled.find? (·.1 = waiter)).map (·.2)

def isAwake (signal : Signal) (waiter : Nat) : Bool :=
  match signal.wakeOf? waiter with
  | some .waiting => false
  | some _ => true
  | none => false

def consume (signal : Signal) (waiter : Nat) : Signal :=
  { signal with enrolled := signal.enrolled.filter (·.1 ≠ waiter) }

-- Strikes out a waiter that gives up. A wakeup meant for it alone goes to the next.
def leave (signal : Signal) (waiter : Nat) : Signal :=
  if signal.wakeOf? waiter = some .picked then (signal.consume waiter).notifyOne
  else signal.consume waiter

end Signal

end PoliteCrawl
