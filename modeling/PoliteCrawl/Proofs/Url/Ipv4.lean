import PoliteCrawl.Proofs.Url.Host

set_option autoImplicit false

namespace PoliteCrawl.Url.Ipv4

theorem pieces_last (text : List Char) (plain : ∀ c ∈ text, c ≠ '.') : pieces text = [text] := by
  induction text with
  | nil => rfl
  | cons c rest ih =>
      have later := ih fun d member => plain d (List.mem_cons_of_mem c member)
      have other : (c == '.') = false := beq_eq_false_iff_ne.mpr (plain c List.mem_cons_self)
      rw [pieces] at later ⊢
      rw [List.foldr_cons, later, other]

theorem pieces_next (text rest : List Char) (plain : ∀ c ∈ text, c ≠ '.') :
    pieces (text ++ '.' :: rest) = text :: pieces rest := by
  induction text with
  | nil => rfl
  | cons c others ih =>
      have later := ih fun d member => plain d (List.mem_cons_of_mem c member)
      have other : (c == '.') = false := beq_eq_false_iff_ne.mpr (plain c List.mem_cons_self)
      rw [pieces] at later ⊢
      rw [List.cons_append, List.foldr_cons, later, other]

def digits (byte : Nat) : List Char :=
  (toString byte).toList

theorem digits_plain (byte : Nat) : ∀ c ∈ digits byte, c ≠ '.' := by
  rintro c member rfl
  exact absurd (number_digits byte '.' member) (by decide)

theorem digits_number (byte : Nat) (small : byte < 256) :
    digits byte ≠ [] ∧ number? (digits byte) = some byte := by
  have all : ∀ byte ∈ List.range 256,
      Nat.toDigits 10 byte ≠ [] ∧ number? (Nat.toDigits 10 byte) = some byte := by decide +kernel
  rw [digits, Nat.toString_eq_repr, Nat.toList_repr]
  exact all byte (List.mem_range.mpr small)

theorem text_letters (address : Nat) :
    (text address).toList = digits (address / Nat.pow 256 3 % 256) ++ '.' ::
      (digits (address / Nat.pow 256 2 % 256) ++ '.' ::
        (digits (address / 256 % 256) ++ '.' :: digits (address % 256))) := by
  simp only [text, digits, String.toList_append, List.append_assoc]
  rfl

theorem combine_next (places byte : Nat) (rest : List Nat) (value : Nat) (small : byte < 256)
    (read : combine places rest = some value) :
    combine (places + 1) (byte :: rest) = some (byte * Nat.pow 256 places + value) := by
  cases rest with
  | nil => cases read
  | cons next others =>
      rw [combine, Nat.add_sub_cancel, read]
      · simp only [if_pos small]
      · simp

theorem combine_bytes (address : Nat) (small : address < Nat.pow 256 4) :
    combine 4 [address / Nat.pow 256 3 % 256, address / Nat.pow 256 2 % 256, address / 256 % 256,
      address % 256] = some address := by
  have byte (value : Nat) : value % 256 < 256 := Nat.mod_lt _ (by decide)
  have last : combine 1 [address % 256] = some (address % 256) := if_pos (byte address)
  have whole := combine_next 3 _ _ _ (byte (address / Nat.pow 256 3))
    (combine_next 2 _ _ _ (byte (address / Nat.pow 256 2))
      (combine_next 1 _ _ _ (byte (address / 256)) last))
  refine whole.trans (congrArg some ?_)
  simp only [Nat.pow_eq, Nat.reducePow] at small ⊢
  omega

theorem parse_text (address : Nat) (small : address < Nat.pow 256 4) :
    parse? (text address).toList = some address := by
  have parts : pieces (text address).toList =
      [digits (address / Nat.pow 256 3 % 256), digits (address / Nat.pow 256 2 % 256),
        digits (address / 256 % 256), digits (address % 256)] := by
    rw [text_letters, pieces_next _ _ (digits_plain _), pieces_next _ _ (digits_plain _),
      pieces_next _ _ (digits_plain _), pieces_last _ (digits_plain _)]
  have number (value : Nat) := digits_number (value % 256) (Nat.mod_lt _ (by decide))
  have final : withoutFinalDot (pieces (text address).toList) = pieces (text address).toList := by
    rw [withoutFinalDot, parts, if_neg]
    simpa using (number address).1
  have numbers : (pieces (text address).toList).mapM number? =
      some [address / Nat.pow 256 3 % 256, address / Nat.pow 256 2 % 256, address / 256 % 256,
        address % 256] := by
    simp only [parts, List.mapM_cons, List.mapM_nil, (number _).2, bind, pure, Option.bind_some]
  simp only [parse?, final, numbers]
  rw [parts, if_neg (by simp), Option.bind_some, combine_bytes address small]

theorem combine_bound (places : Nat) (parts : List Nat) (short : parts.length ≤ places)
    (address : Nat) (read : combine places parts = some address) : address < Nat.pow 256 places := by
  induction parts generalizing places address with
  | nil => cases read
  | cons byte rest ih =>
      cases rest with
      | nil =>
          rw [combine, Option.ite_none_right_eq_some] at read
          cases read.2
          exact read.1
      | cons next others =>
          obtain ⟨left, rfl⟩ : ∃ left, places = left + 1 :=
            ⟨places - 1, by rw [List.length_cons] at short; omega⟩
          rw [combine, Nat.add_sub_cancel] at read
          · cases later : combine left (next :: others) with
            | none =>
                rw [later] at read
                cases read
            | some value =>
                have bound := ih left (Nat.le_of_succ_le_succ short) value later
                simp only [later, Option.ite_none_right_eq_some, Option.some.injEq] at read
                obtain ⟨small, rfl⟩ := read
                simp only [Nat.pow_eq, Nat.pow_succ] at bound ⊢
                have most := Nat.mul_le_mul_right (256 ^ left) (Nat.le_of_lt_succ small)
                omega
          · simp

theorem numbers_length (parts : List (List Char)) (numbers : List Nat)
    (read : parts.mapM number? = some numbers) : numbers.length = parts.length := by
  induction parts generalizing numbers with
  | nil =>
      cases read
      rfl
  | cons part rest ih =>
      simp only [List.mapM_cons, Option.bind_eq_bind, Option.bind_eq_some_iff] at read
      obtain ⟨number, _, others, later, whole⟩ := read
      cases whole
      rw [List.length_cons, List.length_cons, ih others later]

theorem parse_bound (name : List Char) (address : Nat) (read : parse? name = some address) :
    address < Nat.pow 256 4 := by
  simp only [parse?, Option.ite_none_left_eq_some, Option.bind_eq_some_iff] at read
  obtain ⟨short, parts, numbers, whole⟩ := read
  exact combine_bound 4 parts (by rw [numbers_length _ _ numbers]; omega) address whole

end PoliteCrawl.Url.Ipv4
