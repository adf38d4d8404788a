import PoliteCrawl.Toml.Document
import PoliteCrawl.Toml.Lexeme

set_option autoImplicit false

namespace PoliteCrawl.Toml

def takeWord (word : String) (value : Value) : Reader Value := fun text =>
  let letters := word.toList
  if letters.isPrefixOf text then some (value, text.drop letters.length) else none

def takeEquals : Reader Unit
  | '=' :: rest => some ((), skipBlanks rest)
  | _ => none

mutual

def takeValue : Nat → Nat → Reader Value
  | 0, _, _ => none
  | fuel + 1, depth, text =>
      match text with
      | '[' :: rest =>
          if depth + 1 < depthLimit then do
            let (values, rest) ← takeItems fuel (depth + 1) (skipLines rest.length rest)
            some (.array values, rest)
          else none
      | '\x7b' :: rest =>
          if depth + 1 < depthLimit then do
            let (assignments, rest) ← takeAssignments fuel (depth + 1) (skipBlanks rest)
            let entries ← ofAssignments? assignments
            some (.table entries, rest)
          else none
      | 't' :: _ => takeWord "true" (.boolean true) text
      | 'f' :: _ => takeWord "false" (.boolean false) text
      | '"' :: _ => (takeText text).map fun (body, rest) => (.string body, rest)
      | '\x27' :: _ => (takeText text).map fun (body, rest) => (.string body, rest)
      | _ => takeNumber text

def takeItems : Nat → Nat → Reader (List Value)
  | 0, _, _ => none
  | fuel + 1, depth, text =>
      match text with
      | ']' :: rest => some ([], rest)
      | _ => do
          let (value, rest) ← takeValue fuel depth text
          match skipLines rest.length rest with
          | ',' :: rest => do
              let (values, rest) ← takeItems fuel depth (skipLines rest.length rest)
              some (value :: values, rest)
          | ']' :: rest => some ([value], rest)
          | _ => none

-- The assignments of a table on one line, up to its brace. No comma follows the last of them.
def takeAssignments : Nat → Nat → Reader (List Assignment)
  | 0, _, _ => none
  | fuel + 1, depth, text =>
      match text with
      | '\x7d' :: rest => some ([], rest)
      | _ => do
          let (assignment, rest) ← takeAssignment fuel depth text
          match skipBlanks rest with
          | ',' :: rest =>
              match skipBlanks rest with
              | '\x7d' :: _ => none
              | rest => do
                  let (assignments, rest) ← takeAssignments fuel depth rest
                  some (assignment :: assignments, rest)
          | '\x7d' :: rest => some ([assignment], rest)
          | _ => none

def takeAssignment : Nat → Nat → Reader Assignment
  | 0, _, _ => none
  | fuel + 1, depth, text => do
      let ((path, key), rest) ← takePath text
      let (_, rest) ← takeEquals rest
      let (value, rest) ← takeValue fuel depth rest
      some ({ path, key, value }, rest)

end

def takeHeader (text : List Char) : Option (Line × List Char) :=
  match text with
  | '[' :: '[' :: rest => do
      let ((path, key), rest) ← takePath rest
      match rest with
      | ']' :: ']' :: rest => some (.element path key, rest)
      | _ => none
  | '[' :: rest => do
      let ((path, key), rest) ← takePath rest
      match rest with
      | ']' :: rest => some (.table path key, rest)
      | _ => none
  | _ => none

def takeLine (text : List Char) : Option (Line × List Char) := do
  let (line, rest) ← match text with
    | '[' :: _ => takeHeader text
    | _ => (takeAssignment (2 * text.length + 2) 0 text).map fun (assignment, rest) =>
        (Line.assignment assignment, rest)
  let rest ← takeLineEnd? rest
  some (line, rest)

def takeLines : Nat → List Char → Option (List Line)
  | 0, _ => none
  | fuel + 1, text =>
      match skipBlanks text with
      | [] => some []
      | '#' :: comment => do
          let rest ← takeLineEnd? ('#' :: comment)
          takeLines fuel rest
      | c :: rest =>
          match takeNewline? (c :: rest) with
          | some rest => takeLines fuel rest
          | none => do
              let (line, rest) ← takeLine (c :: rest)
              let lines ← takeLines fuel rest
              some (line :: lines)

-- A mark of the byte order at the very start does not count.
def withoutMark : List Char → List Char
  | '\uFEFF' :: rest => rest
  | text => text

def read? (text : String) : Option Entries := do
  let significant := withoutMark text.toList
  let lines ← takeLines (significant.length + 1) significant
  ofLines? lines

end PoliteCrawl.Toml
