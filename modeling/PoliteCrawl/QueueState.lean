set_option autoImplicit false

namespace PoliteCrawl

-- Names the one register, if any, that holds the key of the queue.
inductive QueueState where
  | empty
  | ready
  | inProcess
  | snoozed
  | inactive
  | retired
deriving DecidableEq, Repr

namespace QueueState

def name : QueueState → String
  | .empty => "empty"
  | .ready => "ready"
  | .inProcess => "in-process"
  | .snoozed => "snoozed"
  | .inactive => "inactive"
  | .retired => "retired"

def title : QueueState → String
  | .empty => "Empty"
  | .ready => "Ready"
  | .inProcess => "InProcess"
  | .snoozed => "Snoozed"
  | .inactive => "Inactive"
  | .retired => "Retired"

def all : List QueueState := [.empty, .ready, .inProcess, .snoozed, .inactive, .retired]

def ofName? (text : String) : Option QueueState :=
  all.find? (·.name == text)

def allows : QueueState → QueueState → Bool
  | .empty, .ready => true
  | .empty, .inactive => true
  | .ready, .inProcess => true
  | .ready, .empty => true
  | .inProcess, .ready => true
  | .inProcess, .snoozed => true
  | .inProcess, .inactive => true
  | .inProcess, .retired => true
  | .inProcess, .empty => true
  | .snoozed, .ready => true
  | .snoozed, .inactive => true
  | .snoozed, .empty => true
  | .inactive, .ready => true
  | .retired, .ready => true
  | .retired, .inactive => true
  | _, _ => false

end QueueState

end PoliteCrawl
