import PoliteCrawl.Register.Retired
import PoliteCrawl.Register.Snoozed

set_option autoImplicit false

namespace PoliteCrawl

theorem Retired.insert_other (key sought : String) (retired : Retired) (different : sought ≠ key) :
    (Retired.insert key retired).count sought = retired.count sought := by
  induction retired with
  | nil => simp [Retired.insert, Ne.symm different]
  | cons first rest ih =>
      simp only [Retired.insert]
      split
      · simp [Ne.symm different]
      · split
        · rfl
        · simp [List.count_cons, ih]

theorem Retired.insert_fresh (key : String) (retired : Retired) (fresh : retired.count key = 0) :
    (Retired.insert key retired).count key = 1 := by
  induction retired with
  | nil => simp [Retired.insert]
  | cons first rest ih =>
      have different : first ≠ key := by
        intro same
        simp [same] at fresh
      have absent : rest.count key = 0 := by simpa [different] using fresh
      simp only [Retired.insert]
      split
      · simp [different, absent]
      · rw [if_neg (Ne.symm different)]
        simp [different, ih absent]

namespace Snoozed

theorem insert_perm (entry : SnoozeEntry) (snoozed : Snoozed) :
    (insert entry snoozed).Perm (entry :: snoozed) := by
  induction snoozed with
  | nil => exact .refl _
  | cons first rest ih =>
      simp only [insert]
      split
      · exact .refl _
      · exact (ih.cons first).trans (.swap entry first rest)

theorem insert_filter_other (entry : SnoozeEntry) (key : String) (snoozed : Snoozed)
    (different : key ≠ entry.key) :
    (insert entry snoozed).filter (·.key = key) = snoozed.filter (·.key = key) := by
  induction snoozed with
  | nil => simp [insert, Ne.symm different]
  | cons first rest ih =>
      simp only [insert]
      split
      · simp [Ne.symm different]
      · simp [List.filter_cons, ih]

theorem insert_filter_fresh (entry : SnoozeEntry) (snoozed : Snoozed)
    (fresh : snoozed.filter (·.key = entry.key) = []) :
    (insert entry snoozed).filter (·.key = entry.key) = [entry] := by
  have whole := (insert_perm entry snoozed).filter (fun other => decide (other.key = entry.key))
  simp only [List.filter_cons, decide_true, if_true, fresh] at whole
  exact List.perm_singleton.mp whole

end Snoozed

end PoliteCrawl
