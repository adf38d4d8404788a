set_option autoImplicit false

namespace PoliteCrawl

-- The pairs stand in the order in which their keys were first put.
abbrev Assoc (κ α : Type) := List (κ × α)

namespace Assoc

variable {κ α : Type} [DecidableEq κ]

def get? (table : Assoc κ α) (key : κ) : Option α :=
  match table with
  | [] => none
  | (other, value) :: rest => if other = key then some value else get? rest key

def put (key : κ) (value : α) : Assoc κ α → Assoc κ α
  | [] => [(key, value)]
  | (other, old) :: rest =>
      if other = key then (key, value) :: rest else (other, old) :: put key value rest

def remove (key : κ) (table : Assoc κ α) : Assoc κ α :=
  table.filter (·.1 ≠ key)

end Assoc

end PoliteCrawl
