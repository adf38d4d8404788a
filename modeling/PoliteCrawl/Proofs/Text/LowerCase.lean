import PoliteCrawl.Proofs.Text.CodeTable
import PoliteCrawl.Text.LowerCase

set_option autoImplicit false

namespace PoliteCrawl.Text

theorem ascii_all {fact : Char → Prop} (all : ∀ code < 0x80, fact (Char.ofNat code)) (c : Char)
    (low : c.toNat < 0x80) : fact c := by
  have here := all c.toNat low
  rw [Char.ofNat_toNat] at here
  exact here

theorem ascii_letters (text : String) (all : text.toList.all (·.toNat < 0x80) = true) :
    ∀ c ∈ text.toList, c.toNat < 0x80 :=
  fun c member => of_decide_eq_true (List.all_eq_true.mp all c member)

def kelvin : Nat := 0x212A

def lowerLetter (c : Char) : Char :=
  if c.toNat < 0x80 then c.toLower else 'k'

def LowersToAscii (text : List Char) : Prop :=
  ∀ c ∈ text, c.toNat < 0x80 ∨ c.toNat = kelvin

-- Of a row beyond ASCII, but for the kelvin, some character of each image is beyond it too.
def staysHigh (row : CodeRow) : Bool :=
  row.last < 0x80 || (row.first == kelvin && row.last == kelvin && row.image == [0x6B]) ||
    match row.image with
    | [single] => 0x80 ≤ single && (single + (row.last - row.first) < 0xD800 || 0xE000 ≤ single &&
        single + (row.last - row.first) < 0x110000)
    | image => image.any fun code => 0x80 ≤ code && code < 0xD800

set_option maxRecDepth 10000 in
theorem lower_table_high : lowerTable.all staysHigh = true := by
  apply CodeTable.read_fact (fun table => table.all staysHigh = true)
  · with_reducible rfl
  · decide +kernel

theorem of_nat_high (code : Nat) (above : 0x80 ≤ code)
    (valid : code < 0xD800 ∨ 0xE000 ≤ code ∧ code < 0x110000) : 0x80 ≤ (Char.ofNat code).toNat := by
  have fits : code.isValidChar := valid
  rw [Char.ofNat, dif_pos fits]
  exact above

theorem image_high (row : CodeRow) (high : staysHigh row = true) (code : Nat)
    (held : row.holds code = true) (above : 0x80 ≤ code)
    (ascii : ∀ other ∈ row.imageOf code, (Char.ofNat other).toNat < 0x80) :
    code = kelvin ∧ row.imageOf code = [0x6B] := by
  simp only [CodeRow.holds, Bool.and_eq_true, decide_eq_true_eq] at held
  simp only [staysHigh, Bool.or_eq_true, Bool.and_eq_true, decide_eq_true_eq, beq_iff_eq] at high
  rcases high with (low | ⟨⟨first, last⟩, image⟩) | other
  · omega
  · have here : code = kelvin := by omega
    refine ⟨here, ?_⟩
    rw [CodeRow.imageOf, image, here, first, Nat.sub_self]
  · exfalso
    rw [CodeRow.imageOf] at ascii
    split at other
    · rename_i single image
      rw [image] at ascii
      have below := ascii (single + (code - row.first)) (List.mem_singleton_self _)
      simp only [Bool.and_eq_true, Bool.or_eq_true, decide_eq_true_eq] at other
      have high := of_nat_high (single + (code - row.first)) (by omega) (by omega)
      omega
    · rename_i several
      obtain ⟨part, listed, between⟩ := List.any_eq_true.mp other
      simp only [Bool.and_eq_true, decide_eq_true_eq] at between
      split at ascii
      · rename_i single image
        exact several single image
      · have high := of_nat_high part between.1 (.inl between.2)
        exact Nat.not_lt.mpr high (ascii part listed)

theorem lower_char_ascii (c : Char) (ascii : ∀ other ∈ lowerChar c, other.toNat < 0x80) :
    (c.toNat < 0x80 ∨ c.toNat = kelvin) ∧ lowerChar c = [lowerLetter c] := by
  rw [lowerChar] at ascii ⊢
  by_cases low : c.toNat < 0x80
  · rw [if_pos low, lowerLetter, if_pos low]
    exact ⟨.inl low, rfl⟩
  · rw [if_neg low] at ascii ⊢
    rw [CodeTable.image?] at ascii ⊢
    cases found : CodeTable.row? lowerTable c.toNat with
    | none =>
        rw [found] at ascii
        exact absurd (ascii c (List.mem_singleton_self c)) low
    | some row =>
        rw [found] at ascii
        obtain ⟨listed, held⟩ := CodeTable.row_found lowerTable c.toNat row found
        have high := List.all_eq_true.mp lower_table_high row listed
        obtain ⟨here, image⟩ := image_high row high c.toNat held (Nat.not_lt.mp low)
          fun other member => ascii _ (List.mem_map_of_mem member)
        refine ⟨.inr here, ?_⟩
        simp only [Option.map_some, image, lowerLetter, if_neg low]
        rfl

theorem lower_from_ascii (before text : List Char)
    (ascii : ∀ c ∈ lowerFrom before text, c.toNat < 0x80) :
    LowersToAscii text ∧ lowerFrom before text = text.map lowerLetter := by
  induction text generalizing before with
  | nil => exact ⟨fun c member => (by cases member), rfl⟩
  | cons c rest ih =>
      rw [lowerFrom] at ascii ⊢
      simp only [List.forall_mem_append] at ascii
      obtain ⟨here, later⟩ := ascii
      obtain ⟨letters, lowered⟩ := ih (c :: before) later
      by_cases sigma : (c == 'Σ') = true
      · exfalso
        rw [if_pos sigma] at here
        split at here
        · exact absurd (here 'ς' (List.mem_singleton_self _)) (by decide)
        · exact absurd (here 'σ' (List.mem_singleton_self _)) (by decide)
      · rw [if_neg sigma] at here ⊢
        obtain ⟨letter, lower⟩ := lower_char_ascii c here
        rw [lowered, lower]
        exact ⟨List.forall_mem_cons.mpr ⟨letter, letters⟩, rfl⟩

theorem to_lower_ascii (text : String) (ascii : ∀ c ∈ (toLower text).toList, c.toNat < 0x80) :
    LowersToAscii text.toList ∧ (toLower text).toList = text.toList.map lowerLetter := by
  rw [toLower, String.toList_ofList] at ascii ⊢
  exact lower_from_ascii [] text.toList ascii

end PoliteCrawl.Text
