import PoliteCrawl.Text.CodeTable

set_option autoImplicit false

namespace PoliteCrawl.Text.CodeTable

def rowsOf (letters : List Char) : CodeTable :=
  ((partsAt (fun c => c == ' ' || c == '\n') letters).filter (!·.isEmpty)).map readRow

-- A literal is the text of its letters by definition, and it is on these that a fact can be computed.
theorem read_fact (fact : CodeTable → Prop) (text : String) (letters : List Char)
    (same : text = String.ofList letters) (found : fact (rowsOf letters)) : fact (read text) := by
  rw [read, same, String.toList_ofList]
  exact found

theorem row_found (table : CodeTable) (code : Nat) (row : CodeRow) (found : row? table code = some row) :
    row ∈ table ∧ row.holds code = true := by
  rw [row?] at found
  have held := List.find?_some found
  exact ⟨List.mem_of_find?_eq_some found, held⟩

theorem holds_none (table : CodeTable) (least : Nat)
    (high : table.all (fun row => least ≤ row.first) = true) (code : Nat) (below : code < least) :
    table.holds code = false := by
  have row : row? table code = none := by
    refine List.find?_eq_none.mpr fun row member held => ?_
    have first := of_decide_eq_true (List.all_eq_true.mp high row member)
    simp only [CodeRow.holds, Bool.and_eq_true, decide_eq_true_eq] at held
    omega
  rw [holds, row]
  rfl

end PoliteCrawl.Text.CodeTable
