import PoliteCrawl.Toml.Value

set_option autoImplicit false

namespace PoliteCrawl.Toml

structure Assignment where
  path : List String
  key : String
  value : Value

-- A header names a table, or the next element of a list of tables, by the path that leads to it
-- and its key.
inductive Line where
  | table (path : List String) (key : String)
  | element (path : List String) (key : String)
  | assignment (assignment : Assignment)

inductive Opening where
  | header
  | step
  | dotted
deriving DecidableEq

inductive Node where
  | value (value : Value)
  | table (opening : Opening) (entries : List (String × Node))
  | elements (tables : List (List (String × Node)))

abbrev Nodes := List (String × Node)

namespace Nodes

def get? (nodes : Nodes) (key : String) : Option Node :=
  (nodes.find? (·.1 == key)).map (·.2)

def set (key : String) (node : Node) : Nodes → Nodes
  | [] => [(key, node)]
  | (other, old) :: rest =>
      if other == key then (key, node) :: rest else (other, old) :: set key node rest

def addNew? (nodes : Nodes) (key : String) (node : Node) : Option Nodes :=
  if (get? nodes key).isSome then none else some (nodes ++ [(key, node)])

def changeLast? (change : Nodes → Option Nodes) (tables : List Nodes) : Option (List Nodes) := do
  let last ← tables.getLast?
  let changed ← change last
  some (tables.dropLast ++ [changed])

-- Adds a key behind a dotted path. The path opens tables, and may lead through those that no header
-- opened; the table it ends in must be one that dotted keys opened.
def assign? : List String → String → Value → Nodes → Option Nodes
  | [], key, value, nodes => addNew? nodes key (.value value)
  | step :: path, key, value, nodes =>
      match get? nodes step with
      | none => do
          let inner ← assign? path key value []
          some (nodes ++ [(step, .table .dotted inner)])
      | some (.value _) => none
      | some (.elements tables) =>
          if path.isEmpty then none
          else do
            let tables ← changeLast? (assign? path key value) tables
            some (set step (.elements tables) nodes)
      | some (.table .header _) => none
      | some (.table .step inner) =>
          if path.isEmpty then none
          else do
            let inner ← assign? path key value inner
            some (set step (.table .step inner) nodes)
      | some (.table .dotted inner) => do
          let inner ← assign? path key value inner
          some (set step (.table .dotted inner) nodes)

def changeAt? : List String → (Nodes → Option Nodes) → Nodes → Option Nodes
  | [], change, nodes => change nodes
  | step :: path, change, nodes =>
      match get? nodes step with
      | none => do
          let inner ← changeAt? path change []
          some (nodes ++ [(step, .table .step inner)])
      | some (.value _) => none
      | some (.elements tables) => do
          let tables ← changeLast? (changeAt? path change) tables
          some (set step (.elements tables) nodes)
      | some (.table opening inner) => do
          let inner ← changeAt? path change inner
          some (set step (.table opening inner) nodes)

def openTable? (key : String) (nodes : Nodes) : Option Nodes :=
  match get? nodes key with
  | none => some (nodes ++ [(key, .table .header [])])
  | some (.table .step inner) => some (set key (.table .header inner) nodes)
  | some _ => none

def openElement? (key : String) (nodes : Nodes) : Option Nodes :=
  match get? nodes key with
  | none => some (nodes ++ [(key, .elements [[]])])
  | some (.elements tables) => some (set key (.elements (tables ++ [[]])) nodes)
  | some _ => none

end Nodes

mutual

def Node.toValue : Node → Value
  | .value value => value
  | .table _ entries => .table (nodesToEntries entries)
  | .elements tables => .array (tablesToValues tables)

def nodesToEntries : List (String × Node) → Entries
  | [] => []
  | (key, node) :: rest => (key, node.toValue) :: nodesToEntries rest

def tablesToValues : List (List (String × Node)) → List Value
  | [] => []
  | table :: rest => .table (nodesToEntries table) :: tablesToValues rest

end

structure Draft where
  nodes : Nodes
  current : List String

def Draft.add? (draft : Draft) : Line → Option Draft
  | .table path key => do
      let nodes ← Nodes.changeAt? path (Nodes.openTable? key) draft.nodes
      some { nodes, current := path ++ [key] }
  | .element path key => do
      let nodes ← Nodes.changeAt? path (Nodes.openElement? key) draft.nodes
      some { nodes, current := path ++ [key] }
  | .assignment assignment => do
      let nodes ← Nodes.changeAt? draft.current
        (Nodes.assign? assignment.path assignment.key assignment.value) draft.nodes
      some { draft with nodes }

def ofLines? (lines : List Line) : Option Entries := do
  let draft ← lines.foldlM Draft.add? { nodes := [], current := [] }
  some (nodesToEntries draft.nodes)

def ofAssignments? (assignments : List Assignment) : Option Entries := do
  let nodes ← assignments.foldlM
    (fun nodes assignment => Nodes.assign? assignment.path assignment.key assignment.value nodes)
    ([] : Nodes)
  some (nodesToEntries nodes)

end PoliteCrawl.Toml
