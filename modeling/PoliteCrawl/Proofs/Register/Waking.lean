import PoliteCrawl.Proofs.Register.Sorted

set_option autoImplicit false

namespace PoliteCrawl.Snoozed

def Ascending (snoozed : Snoozed) : Prop :=
  snoozed.Pairwise (·.wake ≤ ·.wake)

theorem insert_pairwise {related : SnoozeEntry → SnoozeEntry → Prop} (entry : SnoozeEntry)
    (snoozed : Snoozed) (ascending : Ascending snoozed) (pairs : snoozed.Pairwise related)
    (behind : ∀ other ∈ snoozed, other.wake ≤ entry.wake → related other entry)
    (ahead : ∀ other ∈ snoozed, entry.wake < other.wake → related entry other) :
    (insert entry snoozed).Pairwise related := by
  induction snoozed with
  | nil => exact List.pairwise_singleton _ _
  | cons first rest ih =>
      obtain ⟨least, later⟩ := List.pairwise_cons.mp ascending
      obtain ⟨firsts, others⟩ := List.pairwise_cons.mp pairs
      rw [insert]
      by_cases before : entry.wake < first.wake
      · rw [if_pos before]
        refine List.pairwise_cons.mpr ⟨fun other listed => ahead other listed ?_, pairs⟩
        rcases List.mem_cons.mp listed with rfl | last
        · exact before
        · exact Nat.lt_of_lt_of_le before (least other last)
      · rw [if_neg before]
        have inserted := ih later others
          (fun other listed => behind other (List.mem_cons_of_mem first listed))
          (fun other listed => ahead other (List.mem_cons_of_mem first listed))
        refine List.pairwise_cons.mpr ⟨fun other listed => ?_, inserted⟩
        rcases List.mem_cons.mp ((insert_perm entry rest).mem_iff.mp listed) with rfl | last
        · exact behind first List.mem_cons_self (Nat.not_lt.mp before)
        · exact firsts other last

theorem insert_ascending (entry : SnoozeEntry) (snoozed : Snoozed) (ascending : Ascending snoozed) :
    Ascending (insert entry snoozed) :=
  insert_pairwise entry snoozed ascending ascending (fun _ _ => id) fun _ _ => Nat.le_of_lt

theorem insert_late (entry : SnoozeEntry) (snoozed : Snoozed)
    (late : isEarliest snoozed entry.wake = false) :
    ∃ first ∈ snoozed, first.wake ≤ entry.wake := by
  cases snoozed with
  | nil => cases late
  | cons first rest => exact ⟨first, List.mem_cons_self, by simpa [isEarliest] using late⟩

theorem head_least (snoozed : Snoozed) (ascending : Ascending snoozed) (first entry : SnoozeEntry)
    (head : snoozed.head? = some first) (listed : entry ∈ snoozed) : first.wake ≤ entry.wake := by
  cases snoozed with
  | nil => cases head
  | cons other rest =>
      cases head
      rcases List.mem_cons.mp listed with same | later
      · exact same ▸ Nat.le_refl _
      · exact (List.pairwise_cons.mp ascending).1 entry later

def asleep (snoozed : Snoozed) (now : Time.Instant) : Snoozed :=
  snoozed.dropWhile (·.wake ≤ now)

theorem asleep_ascending (snoozed : Snoozed) (now : Time.Instant) (ascending : Ascending snoozed) :
    Ascending (snoozed.asleep now) :=
  ascending.sublist (List.dropWhile_sublist _)

theorem asleep_early (snoozed : Snoozed) (now : Time.Instant) (ascending : Ascending snoozed) :
    ∀ entry ∈ snoozed.asleep now, now < entry.wake := by
  induction snoozed with
  | nil => intro entry listed; cases listed
  | cons first rest ih =>
      intro entry listed
      by_cases due : first.wake ≤ now
      · rw [asleep, List.dropWhile_cons_of_pos (by simpa using due)] at listed
        exact ih (List.pairwise_cons.mp ascending).2 entry listed
      · rw [asleep, List.dropWhile_cons_of_neg (by simpa using due)] at listed
        exact Nat.lt_of_lt_of_le (Nat.not_le.mp due)
          (head_least _ ascending first entry rfl listed)

theorem due_front (snoozed : Snoozed) (now : Time.Instant) (ascending : Ascending snoozed) :
    snoozed.filter (·.wake ≤ now) = snoozed.takeWhile (·.wake ≤ now) ∧
      snoozed.filter (now < ·.wake) = snoozed.asleep now := by
  have early := asleep_early snoozed now ascending
  have due (entry : SnoozeEntry) (listed : entry ∈ snoozed.takeWhile (·.wake ≤ now)) :
      entry.wake ≤ now := by
    simpa using List.all_eq_true.mp List.all_takeWhile entry listed
  have whole : snoozed = snoozed.takeWhile (·.wake ≤ now) ++ snoozed.asleep now :=
    List.takeWhile_append_dropWhile.symm
  generalize snoozed.takeWhile (·.wake ≤ now) = front at due whole ⊢
  generalize snoozed.asleep now = left at early whole ⊢
  rw [whole, List.filter_append, List.filter_append]
  constructor
  · rw [List.filter_eq_self.mpr (by simpa using due), List.filter_eq_nil_iff.mpr (by simpa using early),
      List.append_nil]
  · rw [List.filter_eq_nil_iff.mpr (by simpa using due), List.filter_eq_self.mpr (by simpa using early),
      List.nil_append]

end PoliteCrawl.Snoozed
