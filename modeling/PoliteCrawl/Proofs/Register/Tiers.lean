import PoliteCrawl.Register.Tiers

set_option autoImplicit false

namespace PoliteCrawl

namespace Filed

def Ascending (filed : Filed) : Prop :=
  filed.Pairwise (·.1 < ·.1)

def tiers (filed : Filed) : List Nat :=
  filed.map (·.1)

@[simp] theorem keys_cons (tier : Nat) (held : List String) (filed : Filed) :
    keys ((tier, held) :: filed) = held ++ keys filed := by
  simp [keys]

theorem append_count (tier : Nat) (key sought : String) (filed : Filed) :
    (keys (append tier key filed)).count sought =
      (keys filed).count sought + [key].count sought := by
  induction filed with
  | nil => simp [append, keys]
  | cons first rest ih =>
      obtain ⟨other, held⟩ := first
      simp only [append]
      split
      · simp [List.count_cons, Nat.add_assoc]
      · split
        · simp [List.count_cons]
          omega
        · simp [ih, List.count_cons]
          omega

theorem append_tiers (tier : Nat) (key : String) (filed : Filed) (other : Nat)
    (member : other ∈ tiers (append tier key filed)) : other = tier ∨ other ∈ tiers filed := by
  induction filed with
  | nil => simpa [append, tiers] using member
  | cons first rest ih =>
      obtain ⟨lowest, held⟩ := first
      simp only [append] at member
      split at member
      · simpa [tiers] using member
      · split at member
        · exact .inr (by simpa [tiers] using member)
        · rcases List.mem_cons.mp member with same | later
          · exact .inr (by simp [tiers, same])
          · rcases ih later with same | old
            · exact .inl same
            · exact .inr (List.mem_cons_of_mem _ old)

theorem ascending_iff (filed : Filed) :
    Ascending filed ↔ (tiers filed).Pairwise (· < ·) :=
  List.pairwise_map.symm

theorem append_ascending (tier : Nat) (key : String) (filed : Filed) (ascending : Ascending filed) :
    Ascending (append tier key filed) := by
  rw [ascending_iff] at ascending ⊢
  induction filed with
  | nil => simp [append, tiers]
  | cons first rest ih =>
      obtain ⟨lowest, held⟩ := first
      obtain ⟨below, others⟩ := List.pairwise_cons.mp ascending
      simp only [append]
      split
      · rename_i less
        refine List.pairwise_cons.mpr ⟨?_, ascending⟩
        intro other member
        rcases List.mem_cons.mp member with same | later
        · simpa [same] using less
        · exact Nat.lt_trans less (below other later)
      · split
        · exact ascending
        · rename_i notLess notSame
          refine List.pairwise_cons.mpr ⟨?_, ih others⟩
          intro other member
          rcases append_tiers tier key rest other member with same | old
          · show lowest < other
            omega
          · exact below other old

theorem append_keys_at (tier other : Nat) (key : String) (filed : Filed) (different : tier ≠ other) :
    keysAt (append tier key filed) other = keysAt filed other := by
  induction filed with
  | nil => simp [append, keysAt, different]
  | cons first rest ih =>
      obtain ⟨lowest, held⟩ := first
      simp only [append]
      split
      · simp [keysAt, different]
      · split
        · rename_i same
          simp [keysAt, ← same, different]
        · simp [keysAt, ih]

theorem set_keys_tiers (tier : Nat) (held : List String) (filed : Filed) :
    tiers (setKeys tier held filed) = tiers filed := by
  simp only [tiers, setKeys, List.map_map]
  apply List.map_congr_left
  intro entry _
  simp only [Function.comp]
  split <;> rfl

theorem set_keys_ascending (tier : Nat) (held : List String) (filed : Filed)
    (ascending : Ascending filed) : Ascending (setKeys tier held filed) := by
  rw [ascending_iff] at ascending ⊢
  rwa [set_keys_tiers]

theorem set_keys_absent (tier : Nat) (held : List String) (filed : Filed)
    (absent : tier ∉ tiers filed) : setKeys tier held filed = filed := by
  simp only [setKeys]
  refine List.map_congr_left (g := id) ?_ |>.trans (List.map_id _)
  intro entry member
  have different : entry.1 ≠ tier := fun same =>
    absent (List.mem_map.mpr ⟨entry, member, same⟩)
  simp [different]

theorem set_keys_at (tier : Nat) (held : List String) (filed : Filed) (present : tier ∈ tiers filed) :
    keysAt (setKeys tier held filed) tier = held := by
  induction filed with
  | nil => cases present
  | cons first rest ih =>
      obtain ⟨lowest, old⟩ := first
      by_cases same : lowest = tier
      · simp [setKeys, keysAt, same]
      · have later : tier ∈ tiers rest := by
          simpa [tiers, Ne.symm same] using present
        simpa [setKeys, keysAt, same] using ih later

theorem keys_at_present (tier : Nat) (key : String) (filed : Filed)
    (member : key ∈ keysAt filed tier) : tier ∈ tiers filed := by
  induction filed with
  | nil => cases member
  | cons first rest ih =>
      obtain ⟨lowest, held⟩ := first
      by_cases same : lowest = tier
      · simp [tiers, same]
      · exact List.mem_cons_of_mem _ (ih (by simpa [keysAt, same] using member))

theorem set_keys_count (tier : Nat) (key sought : String) (rest : List String) (filed : Filed)
    (ascending : Ascending filed) (first : keysAt filed tier = key :: rest) :
    (keys (setKeys tier rest filed)).count sought + [key].count sought =
      (keys filed).count sought := by
  induction filed with
  | nil => cases first
  | cons entry others ih =>
      obtain ⟨lowest, held⟩ := entry
      obtain ⟨below, later⟩ := List.pairwise_cons.mp ascending
      by_cases same : lowest = tier
      · have absent : tier ∉ tiers others := by
          intro member
          obtain ⟨other, found, equal⟩ := List.mem_map.mp member
          have less := below other found
          simp only at less
          omega
        have kept := set_keys_absent tier rest others absent
        have whole : held = key :: rest := by simpa [keysAt, same] using first
        simp only [setKeys] at kept
        simp [setKeys, same, kept, whole, List.count_cons]
      · have inside := ih later (by simpa [keysAt, same] using first)
        simp only [setKeys] at inside
        simp [setKeys, same] at inside ⊢
        omega

theorem occupied_keys (filed : Filed) : keys (occupied filed) = keys filed := by
  induction filed with
  | nil => rfl
  | cons first rest ih =>
      obtain ⟨tier, held⟩ := first
      simp only [occupied, keys] at ih ⊢
      cases held with
      | nil => simpa using ih
      | cons key held => simpa using ih

theorem occupied_ascending (filed : Filed) (ascending : Ascending filed) :
    Ascending (occupied filed) :=
  List.Pairwise.filter _ ascending

end Filed

end PoliteCrawl
