import Mathlib.Data.List.Sort
import PoliteCrawl.Proofs.Text.LowerCase
import PoliteCrawl.Proofs.Url.Host

set_option autoImplicit false

namespace PoliteCrawl.Url.Punycode

theorem digit_low (c : Char) (digit : Nat) (value : digitValue? c = some digit) :
    c.toNat < 0x80 := by
  rw [digitValue?] at value
  split at value
  · rename_i small
    simp only [Bool.and_eq_true, decide_eq_true_eq, Char.le_def, UInt32.le_iff_toNat_le] at small
    exact Nat.lt_of_le_of_lt small.2 (by decide)
  · split at value
    · rename_i large
      simp only [Bool.and_eq_true, decide_eq_true_eq, Char.le_def, UInt32.le_iff_toNat_le] at large
      exact Nat.lt_of_le_of_lt large.2 (by decide)
    · split at value
      · rename_i decimal
        exact plain_low (decimal_plain c decimal)
      · cases value

theorem lower_digit (c : Char) (lower : c.toLower = c) (digit : Nat)
    (value : digitValue? c = some digit) : digit < base ∧ digitChar digit = c := by
  have all : ∀ c : Char, c.toNat < 0x80 → c.toLower = c → ∀ digit ∈ digitValue? c,
      digit < base ∧ digitChar digit = c := Text.ascii_all (by decide +kernel)
  exact all c (digit_low c digit value) lower digit value

theorem encode_delta_large (delta k bias : Nat) (large : threshold k bias ≤ delta) :
    encodeDelta delta k bias =
      digitChar (threshold k bias + (delta - threshold k bias) % (base - threshold k bias)) ::
        encodeDelta ((delta - threshold k bias) / (base - threshold k bias)) (k + base) bias := by
  rw [encodeDelta, dif_neg (Nat.not_lt.mpr large)]

theorem delta_read (bias : Nat) (text : List Char) (lower : ∀ c ∈ text, c.toLower = c)
    (k weight sum total : Nat) (rest : List Char)
    (reads : decodeDelta bias text k weight sum = some (total, rest)) :
    ∃ delta, total = sum + delta * weight ∧ text = encodeDelta delta k bias ++ rest := by
  induction text generalizing k weight sum with
  | nil => cases reads
  | cons c text ih =>
      cases value : digitValue? c with
      | none => simp only [decodeDelta, value, reduceCtorEq] at reads
      | some digit =>
          obtain ⟨small, shown⟩ := lower_digit c (lower c List.mem_cons_self) digit value
          simp only [decodeDelta, value] at reads
          by_cases last : digit < threshold k bias
          · rw [if_pos last] at reads
            cases reads
            refine ⟨digit, rfl, ?_⟩
            rw [encodeDelta, dif_pos last, shown]
            rfl
          · rw [if_neg last] at reads
            obtain ⟨delta, rfl, rfl⟩ :=
              ih (fun c member => lower c (List.mem_cons_of_mem _ member)) _ _ _ reads
            -- A digit of at least the threshold is the remainder, and the digits after it the quotient.
            have room : 0 < base - threshold k bias := by omega
            have past : digit + delta * (base - threshold k bias) - threshold k bias =
                digit - threshold k bias + delta * (base - threshold k bias) := by omega
            have part : digit - threshold k bias < base - threshold k bias := by omega
            refine ⟨digit + delta * (base - threshold k bias), ?_, ?_⟩
            · rw [Nat.add_mul, ← Nat.add_assoc, Nat.mul_assoc, Nat.mul_comm weight]
            · rw [encode_delta_large _ k bias (by omega), past, Nat.add_mul_mod_self_right,
                Nat.mod_eq_of_lt part, Nat.add_mul_div_right _ _ room, Nat.div_eq_of_lt part,
                Nat.zero_add, Nat.add_sub_cancel' (by omega), shown]
              rfl

def collapse (codes : List Nat) : List Nat :=
  codes.foldr (fun code rest => if rest.head? == some code then rest else code :: rest) []

theorem collapse_sorted (codes : List Nat) (sorted : codes.Pairwise (· ≤ ·)) :
    (collapse codes).Pairwise (· < ·) ∧ ∀ code, code ∈ collapse codes ↔ code ∈ codes := by
  induction codes with
  | nil => exact ⟨.nil, fun code => Iff.rfl⟩
  | cons code rest ih =>
      obtain ⟨least, others⟩ := List.pairwise_cons.mp sorted
      obtain ⟨ascending, same⟩ := ih others
      have opened : collapse (code :: rest) =
          if (collapse rest).head? == some code then collapse rest else code :: collapse rest := rfl
      rw [opened]
      by_cases repeated : ((collapse rest).head? == some code) = true
      · rw [if_pos repeated]
        have listed : code ∈ rest := (same code).mp (List.mem_of_head? (eq_of_beq repeated))
        refine ⟨ascending, fun other => (same other).trans ?_⟩
        rw [List.mem_cons, iff_or_self]
        rintro rfl
        exact listed
      · rw [if_neg repeated]
        refine ⟨List.pairwise_cons.mpr ⟨fun other member => ?_, ascending⟩, fun other => ?_⟩
        · cases shape : collapse rest with
          | nil => rw [shape] at member; cases member
          | cons first later =>
              have bound : code ≤ first := least first ((same first).mp (shape ▸ List.mem_cons_self))
              have apart : first ≠ code := by
                rintro rfl
                exact repeated (by rw [shape]; exact beq_self_eq_true _)
              rw [shape] at member ascending
              rcases List.mem_cons.mp member with rfl | after
              · omega
              · have beyond := (List.pairwise_cons.mp ascending).1 other after
                omega
        · rw [List.mem_cons, List.mem_cons, same]

theorem distinct_sorted (codes : List Nat) :
    (sortedDistinct codes).Pairwise (· < ·) ∧
      ∀ code, code ∈ sortedDistinct codes ↔ code ∈ codes := by
  have order : (codes.mergeSort (· ≤ ·)).Pairwise (· ≤ ·) := List.pairwise_mergeSort' (· ≤ ·) codes
  obtain ⟨ascending, same⟩ := collapse_sorted _ order
  exact ⟨ascending, fun code => (same code).trans (List.mem_mergeSort)⟩

theorem ascending_unique (first second : List Nat) (one : first.Pairwise (· < ·))
    (two : second.Pairwise (· < ·)) (same : ∀ code, code ∈ first ↔ code ∈ second) :
    first = second := by
  have perm : first.Perm second :=
    (List.perm_ext_iff_of_nodup (one.imp Nat.ne_of_lt) (two.imp Nat.ne_of_lt)).mpr same
  exact perm.eq_of_pairwise (fun a b _ _ below above => absurd below (Nat.lt_asymm above)) one two

def beyond (code : Nat) (codes : List Nat) : List Nat :=
  sortedDistinct (codes.filter (· > code))

theorem beyond_sorted (code : Nat) (codes : List Nat) :
    (beyond code codes).Pairwise (· < ·) ∧
      ∀ other, other ∈ beyond code codes ↔ other ∈ codes ∧ code < other := by
  obtain ⟨ascending, same⟩ := distinct_sorted (codes.filter (· > code))
  refine ⟨ascending, fun other => (same other).trans ?_⟩
  rw [List.mem_filter, decide_eq_true_eq, gt_iff_lt]

theorem beyond_none (code : Nat) (codes : List Nat) (low : ∀ other ∈ codes, other ≤ code) :
    beyond code codes = [] := by
  refine List.eq_nil_iff_forall_not_mem.mpr fun other member => ?_
  obtain ⟨listed, above⟩ := ((beyond_sorted code codes).2 other).mp member
  exact Nat.not_lt.mpr (low other listed) above

theorem beyond_next (code next : Nat) (codes : List Nat) (after : code < next)
    (listed : next ∈ codes) (gap : ∀ other ∈ codes, other ≤ next → other ≤ code ∨ other = next) :
    beyond code codes = next :: beyond next codes := by
  obtain ⟨ascending, same⟩ := beyond_sorted code codes
  obtain ⟨later, others⟩ := beyond_sorted next codes
  refine ascending_unique _ _ ascending
    (.cons (fun other member => ((others other).mp member).2) later) fun other => ?_
  rw [same, List.mem_cons, others]
  constructor
  · rintro ⟨member, above⟩
    rcases Nat.lt_or_ge next other with far | near
    · exact .inr ⟨member, far⟩
    · rcases gap other member near with low | rfl
      · omega
      · exact .inl rfl
  · rintro (rfl | ⟨member, far⟩)
    · exact ⟨listed, after⟩
    · exact ⟨member, Nat.lt_trans after far⟩

theorem from_listed (code : Nat) (codes : List Nat) (listed : code ∈ codes) :
    sortedDistinct (codes.filter (· ≥ code)) = code :: beyond code codes := by
  obtain ⟨ascending, same⟩ := distinct_sorted (codes.filter (· ≥ code))
  obtain ⟨later, others⟩ := beyond_sorted code codes
  refine ascending_unique _ _ ascending
    (.cons (fun other member => ((others other).mp member).2) later) fun other => ?_
  rw [same, List.mem_filter, List.mem_cons, others, decide_eq_true_eq]
  constructor
  · rintro ⟨member, least⟩
    rcases Nat.eq_or_lt_of_le least with first | above
    · exact .inl first.symm
    · exact .inr ⟨member, above⟩
  · rintro (rfl | ⟨member, above⟩)
    · exact ⟨listed, Nat.le_refl _⟩
    · exact ⟨member, Nat.le_of_lt above⟩

theorem from_absent (code : Nat) (codes : List Nat) (absent : code ∉ codes) :
    sortedDistinct (codes.filter (· ≥ code)) = beyond code codes := by
  refine congrArg sortedDistinct (List.filter_congr fun other member => ?_)
  have apart : code ≠ other := by
    rintro rfl
    exact absent member
  rw [decide_eq_decide, ge_iff_le, gt_iff_lt]
  exact ⟨fun least => Nat.lt_of_le_of_ne least apart, Nat.le_of_lt⟩

namespace Encoder

def turn (target : Nat) (encoder : Encoder) : Encoder :=
  { encoder with delta := encoder.delta + 1, code := target + 1 }

def put (basic : Nat) (encoder : Encoder) : Encoder :=
  { encoder with
    digits := encoder.digits ++ encodeDelta encoder.delta base encoder.bias
    bias := adapt encoder.delta (encoder.written + 1) (encoder.written == basic)
    delta := 0
    written := encoder.written + 1 }

def skip (count : Nat) (encoder : Encoder) : Encoder :=
  { encoder with delta := encoder.delta + count }

-- The encoder at the end, where so much of a pass is left to go.
def finish (basic : Nat) (codes : List Nat) (target : Nat) (left : List Nat) (encoder : Encoder) :
    Encoder :=
  (beyond target codes).foldl (pass basic codes)
    ((left.foldl (visit basic target) encoder).turn target)

theorem visits_skip (basic target : Nat) (codes : List Nat) (absent : target ∉ codes)
    (encoder : Encoder) :
    codes.foldl (visit basic target) encoder =
      encoder.skip (codes.filter (· < target)).length := by
  induction codes generalizing encoder with
  | nil => rfl
  | cons code rest ih =>
      obtain ⟨apart, others⟩ := not_or.mp (List.mem_cons.not.mp absent)
      rw [List.foldl_cons, ih others, visit, List.filter_cons]
      by_cases below : code < target
      · rw [if_pos below, if_pos (decide_eq_true below), skip, skip, List.length_cons]
        simp only [Nat.add_assoc, Nat.add_comm 1]
      · rw [if_neg below, if_neg (by simpa using Ne.symm apart), if_neg (by simpa using below)]

theorem visits_put (basic target : Nat) (first middle last : List Nat) (absent : target ∉ first)
    (far : ∀ other ∈ middle, target < other) (encoder : Encoder) :
    (first ++ target :: (middle ++ last)).foldl (visit basic target) encoder =
      last.foldl (visit basic target)
        ((encoder.skip (first.filter (· < target)).length).put basic) := by
  have here (encoder : Encoder) : encoder.visit basic target target = encoder.put basic := by
    rw [visit, if_neg (Nat.lt_irrefl target), if_pos (beq_self_eq_true target)]
    rfl
  have apart : target ∉ middle := fun member => Nat.lt_irrefl target (far target member)
  have none : middle.filter (· < target) = [] :=
    List.filter_eq_nil_iff.mpr fun other member => by simpa using Nat.le_of_lt (far other member)
  rw [List.foldl_append, visits_skip basic target first absent, List.foldl_cons, here,
    List.foldl_append, visits_skip basic target middle apart, none]
  rfl

theorem visits_code (basic target : Nat) (codes : List Nat) (encoder : Encoder) (code : Nat) :
    codes.foldl (visit basic target) { encoder with code } =
      { codes.foldl (visit basic target) encoder with code } := by
  induction codes generalizing encoder with
  | nil => rfl
  | cons first rest ih =>
      have here : visit basic target { encoder with code } first =
          { visit basic target encoder first with code } := by
        rw [visit, visit]
        split
        · rfl
        · split <;> rfl
      rw [List.foldl_cons, List.foldl_cons, here, ih]

theorem pass_turn (basic target : Nat) (codes : List Nat) (encoder : Encoder) :
    encoder.pass basic codes target =
      turn target (codes.foldl (visit basic target)
        (encoder.skip ((target - encoder.code) * (encoder.written + 1)))) :=
  rfl

-- Going round once at a code point that is not in the text is no different from going past it.
theorem pass_past (basic target : Nat) (codes : List Nat) (encoder : Encoder)
    (above : encoder.code < target) :
    ((encoder.skip encoder.written).turn encoder.code).pass basic codes target =
      encoder.pass basic codes target := by
  have amount : (target - encoder.code) * (encoder.written + 1) =
      encoder.written + 1 + (target - (encoder.code + 1)) * (encoder.written + 1) := by
    rw [Nat.add_comm (encoder.written + 1), ← Nat.succ_mul]
    congr 1
    omega
  have moved : ((encoder.skip encoder.written).turn encoder.code).skip
        ((target - (encoder.code + 1)) * (encoder.written + 1)) =
      { encoder.skip ((target - encoder.code) * (encoder.written + 1)) with
        code := encoder.code + 1 } := by
    simp only [skip, turn, amount, Nat.add_assoc]
  rw [pass_turn, pass_turn]
  refine (congrArg (fun encoder => turn target (codes.foldl _ encoder)) moved).trans ?_
  rw [visits_code]
  rfl

end Encoder

theorem cut_at_last (codes first : List Nat) (code : Nat)
    (up : codes.filter (· ≤ code) = first ++ [code]) :
    ∃ before after, codes = before ++ code :: after ∧ before.filter (· ≤ code) = first ∧
      ∀ other ∈ after, code < other := by
  obtain ⟨front, back, rfl, fronts, backs⟩ := List.filter_eq_append_iff.mp up
  obtain ⟨gap, after, rfl, large, _, none⟩ := List.filter_eq_cons_iff.mp backs
  refine ⟨front ++ gap, after, (List.append_assoc _ _ _).symm, ?_, fun other member => ?_⟩
  · rw [List.filter_append, fronts, List.filter_eq_nil_iff.mpr large, List.append_nil]
  · simpa using List.filter_eq_nil_iff.mp none other member

theorem filter_narrow (codes : List Nat) (wide narrow : Nat → Bool) (kept : List Nat)
    (filtered : codes.filter wide = kept) (within : ∀ code, narrow code = true → wide code = true)
    (all : ∀ code ∈ kept, narrow code = true) : codes.filter narrow = kept := by
  have twice : (codes.filter wide).filter narrow = codes.filter narrow := by
    rw [List.filter_filter]
    refine List.filter_congr fun code _ => ?_
    cases fits : narrow code with
    | false => rfl
    | true => rw [within code fits]; rfl
  rw [← twice, filtered, List.filter_eq_self.mpr all]

theorem filter_below (codes kept : List Nat) (code : Nat) (filtered : codes.filter (· ≤ code) = kept)
    (small : ∀ other ∈ kept, other < code) : codes.filter (· < code) = kept ∧ code ∉ codes := by
  refine ⟨filter_narrow codes _ _ _ filtered (by simpa using fun _ => Nat.le_of_lt)
    (by simpa using small), fun member => ?_⟩
  have listed : code ∈ codes.filter (· ≤ code) :=
    List.mem_filter.mpr ⟨member, decide_eq_true (Nat.le_refl code)⟩
  rw [filtered] at listed
  exact Nat.lt_irrefl code (small code listed)

-- What the decoder has put together so far, at a code point and a place: the code points up to that
-- one, of which those from the place on are smaller.
structure Placed (code index : Nat) (known : List Nat) : Prop where
  low : ∀ other ∈ known, other ≤ code
  past : ∀ other ∈ known.drop index, other < code
  inside : index ≤ known.length

-- The decoded text cut where the decoder stands.
structure Cut (code index : Nat) (known codes front back : List Nat) : Prop where
  whole : codes = front ++ back
  before : front.filter (· ≤ code) = known.take index
  after : back.filter (· < code) = known.drop index

-- An encoder that has just written the code points that the decoder knows.
structure Encoder.Level (basic index bias : Nat) (known : List Nat) (encoder : Encoder) : Prop where
  written : encoder.written = known.length
  delta : encoder.delta = 0
  bias : encoder.bias = bias
  first : (encoder.written == basic) = (index == 0)
  basic : basic ≤ known.length

def inserted (next place : Nat) (known : List Nat) : List Nat :=
  known.take place ++ next :: known.drop place

section Inserted

variable {next place : Nat} {known : List Nat} (inside : place ≤ known.length)

include inside

theorem inserted_take : (inserted next place known).take (place + 1) = known.take place ++ [next] := by
  have length : (known.take place ++ [next]).length = place + 1 := by
    rw [List.length_append, List.length_take_of_le inside, List.length_singleton]
  rw [inserted, List.append_cons, List.take_left' length]

theorem inserted_drop : (inserted next place known).drop (place + 1) = known.drop place := by
  have length : (known.take place ++ [next]).length = place + 1 := by
    rw [List.length_append, List.length_take_of_le inside, List.length_singleton]
  rw [inserted, List.append_cons, List.drop_left' length]

theorem inserted_length : (inserted next place known).length = known.length + 1 := by
  rw [inserted, List.length_append, List.length_cons, List.length_take_of_le inside,
    List.length_drop]
  omega

theorem placed_inserted (low : ∀ other ∈ known, other ≤ next)
    (past : ∀ other ∈ known.drop place, other < next) :
    Placed next (place + 1) (inserted next place known) where
  low other member := by
    rcases List.mem_append.mp member with early | late
    · exact low other (List.mem_of_mem_take early)
    · rcases List.mem_cons.mp late with rfl | late
      · exact Nat.le_refl _
      · exact low other (List.mem_of_mem_drop late)
  past := by
    rw [inserted_drop inside]
    exact past
  inside := by
    rw [inserted_length inside]
    omega

theorem put_level (basic index : Nat) (encoder : Encoder) (written : encoder.written = known.length)
    (first : (encoder.written == basic) = (index == 0)) (fits : basic ≤ known.length) :
    Encoder.Level basic (place + 1) (adapt encoder.delta (known.length + 1) (index == 0))
      (inserted next place known) (encoder.put basic) where
  written := by rw [inserted_length inside, ← written]; rfl
  delta := rfl
  bias := by rw [← first, ← written]; rfl
  first := by
    have more : (encoder.put basic).written = known.length + 1 := congrArg (· + 1) written
    rw [more, beq_eq_false_iff_ne.mpr (by omega), beq_eq_false_iff_ne.mpr (by omega)]
  basic := by rw [inserted_length inside]; omega

end Inserted

-- The decoded text around the code point that was put in last, and up to where the decoder stands.
structure Last (next place : Nat) (known codes back before after : List Nat) : Prop where
  whole : codes = before ++ next :: (after ++ back)
  before : before.filter (· ≤ next) = known.take place
  after : ∀ other ∈ after, next < other
  back : back.filter (· < next) = known.drop place

section Last

variable {code index next place : Nat} {known codes front back before after : List Nat}

theorem Cut.last (inside : place ≤ known.length)
    (cut : Cut next (place + 1) (inserted next place known) codes front back) :
    ∃ before after, Last next place known codes back before after := by
  have up := cut.before
  have down := cut.after
  rw [inserted_take inside] at up
  rw [inserted_drop inside] at down
  obtain ⟨before, after, rfl, kept, far⟩ := cut_at_last front _ next up
  exact ⟨before, after, by rw [cut.whole, List.append_assoc, List.cons_append], kept, far, down⟩

theorem Last.same_code (placed : Placed code index known) (inside : place ≤ known.length)
    (onward : index ≤ place) (last : Last code place known codes back before after) :
    ∃ earlier between,
      Cut code index known codes earlier (between ++ code :: (after ++ back)) ∧
      code ∉ between ∧ (between.filter (· < code)).length = place - index := by
  have parts : known.take place =
      known.take index ++ (known.drop index).take (place - index) := by
    rw [← List.take_add, Nat.add_sub_cancel' onward]
  obtain ⟨earlier, between, rfl, earlier_known, between_known⟩ :=
    List.filter_eq_append_iff.mp (last.before.trans parts)
  obtain ⟨below, absent⟩ := filter_below between _ code between_known
    fun other member => placed.past other (List.mem_of_mem_take member)
  refine ⟨earlier, between, ⟨?_, earlier_known, ?_⟩, absent, ?_⟩
  · rw [last.whole, List.append_assoc]
  · have none : after.filter (· < code) = [] :=
      List.filter_eq_nil_iff.mpr fun other member => by
        simpa using Nat.le_of_lt (last.after other member)
    rw [List.filter_append, List.filter_cons_of_neg (by simp), List.filter_append, none, below,
      last.back, List.nil_append]
    conv_rhs => rw [← List.take_append_drop (place - index) (known.drop index), List.drop_drop,
      Nat.add_sub_cancel' onward]
  · rw [below, List.length_take, List.length_drop]
    omega

theorem Last.smaller (placed : Placed code index known) (above : code < next)
    (last : Last next place known codes back before after) : codes.filter (· ≤ code) = known := by
  have first : before.filter (· ≤ code) = known.take place :=
    filter_narrow before _ _ _ last.before
      (by simpa using fun _ low => Nat.le_trans low (Nat.le_of_lt above))
      (by simpa using fun other member => placed.low other (List.mem_of_mem_take member))
  have none : after.filter (· ≤ code) = [] :=
    List.filter_eq_nil_iff.mpr fun other member => by
      simpa using Nat.lt_trans above (last.after other member)
  have rest : back.filter (· ≤ code) = known.drop place :=
    filter_narrow back _ _ _ last.back (by simpa using fun _ low => Nat.lt_of_le_of_lt low above)
      (by simpa using fun other member => placed.low other (List.mem_of_mem_drop member))
  rw [last.whole, List.filter_append, List.filter_cons_of_neg (by simpa using above),
    List.filter_append, first, none, rest, List.nil_append, List.take_append_drop]

theorem Last.resume (placed : Placed code index known) (above : code < next)
    (last : Last next place known codes back before after) :
    ∃ earlier later, Cut code index known codes earlier later ∧ code ∉ later ∧
      (later.filter (· < code)).length = known.length - index := by
  have old : codes.filter (· ≤ code) = known.take index ++ known.drop index := by
    rw [last.smaller placed above, List.take_append_drop]
  obtain ⟨earlier, later, whole, earlier_known, later_known⟩ := List.filter_eq_append_iff.mp old
  obtain ⟨below, absent⟩ := filter_below later _ code later_known placed.past
  exact ⟨earlier, later, ⟨whole, earlier_known, below⟩, absent, by rw [below, List.length_drop]⟩

theorem Last.fresh (placed : Placed code index known) (inside : place ≤ known.length)
    (above : code < next) (last : Last next place known codes back before after) :
    next ∉ before ∧ (before.filter (· < next)).length = place := by
  obtain ⟨below, absent⟩ := filter_below before _ next last.before fun other member =>
    Nat.lt_of_le_of_lt (placed.low other (List.mem_of_mem_take member)) above
  exact ⟨absent, by rw [below, List.length_take_of_le inside]⟩

theorem Last.line (placed : Placed code index known) (above : code < next)
    (last : Last next place known codes back before after) :
    beyond code codes = next :: beyond next codes := by
  refine beyond_next code next codes above (last.whole ▸ by simp) fun other member near => ?_
  rw [last.whole, List.mem_append, List.mem_cons, List.mem_append] at member
  rcases member with early | rfl | between | late
  · have listed : other ∈ before.filter (· ≤ next) :=
      List.mem_filter.mpr ⟨early, decide_eq_true near⟩
    rw [last.before] at listed
    exact .inl (placed.low other (List.mem_of_mem_take listed))
  · exact .inr rfl
  · exact absurd (last.after other between) (Nat.not_lt.mpr near)
  · rcases Nat.lt_or_eq_of_le near with below | same
    · have listed : other ∈ back.filter (· < next) :=
        List.mem_filter.mpr ⟨late, decide_eq_true below⟩
      rw [last.back] at listed
      exact .inl (placed.low other (List.mem_of_mem_drop listed))
    · exact .inr same

end Last

theorem finish_end (basic : Nat) {code index : Nat} {known : List Nat}
    (placed : Placed code index known) (encoder : Encoder) :
    (encoder.finish basic known code (known.drop index)).digits = encoder.digits := by
  have apart : code ∉ known.drop index := fun member => Nat.lt_irrefl code (placed.past code member)
  rw [Encoder.finish, beyond_none code known placed.low, Encoder.visits_skip basic code _ apart]
  rfl

structure Encoder.Reaches (encoder moved : Encoder) (delta : Nat) : Prop where
  written : moved.written = encoder.written
  bias : moved.bias = encoder.bias
  digits : moved.digits = encoder.digits
  delta : moved.delta = delta

-- What the decoder puts in place by one delta is what the encoder comes upon next, by that delta.
theorem delta_reaches {code index delta : Nat} {known codes front back : List Nat}
    (placed : Placed code index known)
    (cut : Cut (code + (index + delta) / (known.length + 1)) ((index + delta) % (known.length + 1) + 1)
      (inserted (code + (index + delta) / (known.length + 1)) ((index + delta) % (known.length + 1))
        known) codes front back) :
    ∃ earlier left, Cut code index known codes earlier left ∧
      ∀ basic (encoder : Encoder), encoder.written = known.length → encoder.delta = 0 →
        ∃ moved, encoder.Reaches moved delta ∧
          encoder.finish basic codes code left =
            (moved.put basic).finish basic codes (code + (index + delta) / (known.length + 1)) back := by
  have inside : (index + delta) % (known.length + 1) ≤ known.length :=
    Nat.le_of_lt_succ (Nat.mod_lt _ (Nat.succ_pos _))
  have total := Nat.div_add_mod (index + delta) (known.length + 1)
  generalize (index + delta) / (known.length + 1) = turns at cut total ⊢
  generalize (index + delta) % (known.length + 1) = place at cut total inside
  cases turns with
  | zero =>
      have reached : index + delta = place := by omega
      obtain ⟨before, after, last⟩ := cut.last inside
      obtain ⟨earlier, between, here, absent, count⟩ := last.same_code placed inside (by omega)
      refine ⟨earlier, _, here, fun basic encoder written begun => ⟨encoder.skip delta, ?_, ?_⟩⟩
      · exact ⟨rfl, rfl, rfl, by rw [Encoder.skip, begun, Nat.zero_add]⟩
      · have jump : place - index = delta := by omega
        rw [Encoder.finish, Encoder.visits_put basic code between after back absent last.after, count,
          jump]
        rfl
  | succ turns =>
      have above : code < code + (turns + 1) := Nat.lt_add_of_pos_right (Nat.succ_pos turns)
      obtain ⟨before, after, last⟩ := cut.last inside
      obtain ⟨earlier, left, here, absent, count⟩ := last.resume placed above
      obtain ⟨fresh, early⟩ := last.fresh placed inside above
      refine ⟨earlier, left, here, fun basic encoder written begun => ?_⟩
      have sum : known.length - index + 1 + turns * (known.length + 1) + place = delta := by
        have part := placed.inside
        rw [Nat.mul_comm, Nat.add_mul, Nat.one_mul] at total
        omega
      let turned := (encoder.skip (known.length - index)).turn code
      have stretch : (code + (turns + 1) - turned.code) * (turned.written + 1) =
          turns * (known.length + 1) := by
        have gap : code + (turns + 1) - (code + 1) = turns := by omega
        change (code + (turns + 1) - (code + 1)) * (encoder.written + 1) = _
        rw [gap, written]
      have visited := Encoder.visits_put basic (code + (turns + 1)) before after back fresh last.after
        (turned.skip (turns * (known.length + 1)))
      rw [early, ← last.whole] at visited
      refine ⟨(turned.skip (turns * (known.length + 1))).skip place, ⟨rfl, rfl, rfl, ?_⟩, ?_⟩
      · simp only [turned, Encoder.skip, Encoder.turn, begun, Nat.zero_add]
        exact sum
      · rw [Encoder.finish, Encoder.visits_skip basic code left absent, count,
          last.line placed above, List.foldl_cons, Encoder.pass_turn, stretch, visited]
        rfl

theorem delta_placed {code index delta : Nat} {known : List Nat} (placed : Placed code index known) :
    Placed (code + (index + delta) / (known.length + 1)) ((index + delta) % (known.length + 1) + 1)
      (inserted (code + (index + delta) / (known.length + 1)) ((index + delta) % (known.length + 1))
        known) := by
  have inside : (index + delta) % (known.length + 1) ≤ known.length :=
    Nat.le_of_lt_succ (Nat.mod_lt _ (Nat.succ_pos _))
  refine placed_inserted inside
    (fun other member => Nat.le_add_right_of_le (placed.low other member)) fun other member => ?_
  rcases Nat.lt_or_ge (index + delta) (known.length + 1) with same | further
  · rw [Nat.mod_eq_of_lt same, ← List.drop_drop] at member
    exact Nat.lt_add_right _ (placed.past other (List.mem_of_mem_drop member))
  · exact Nat.lt_of_le_of_lt (placed.low other (List.mem_of_mem_drop member))
      (Nat.lt_add_of_pos_right (Nat.div_pos further (Nat.succ_pos _)))

theorem decode_from_read (steps : Nat) (text : List Char) (lower : ∀ c ∈ text, c.toLower = c)
    (code index bias : Nat) (known codes : List Nat) (placed : Placed code index known)
    (reads : decodeFrom steps text code index bias known = some codes) :
    ∃ front back, Cut code index known codes front back ∧
      ∀ basic encoder, Encoder.Level basic index bias known encoder →
        (encoder.finish basic codes code back).digits = encoder.digits ++ text := by
  fun_induction decodeFrom steps text code index bias known with
  | case1 _ code index bias =>
      cases reads
      refine ⟨codes.take index, codes.drop index, ⟨?_, ?_, ?_⟩, fun basic encoder _ => ?_⟩
      · exact (List.take_append_drop index codes).symm
      · exact List.filter_eq_self.mpr fun other member =>
          decide_eq_true (placed.low other (List.mem_of_mem_take member))
      · exact List.filter_eq_self.mpr fun other member => decide_eq_true (placed.past other member)
      · rw [finish_end basic placed, List.append_nil]
  | case2 => cases reads
  | case3 => cases reads
  | case4 => cases reads
  | case5 steps text code index bias known _ total rest drawn count next place _ ih =>
      obtain ⟨delta, sum, rfl⟩ := delta_read bias text lower base 1 index total rest drawn
      rw [Nat.mul_one] at sum
      subst sum
      obtain ⟨front, back, cut, written⟩ :=
        ih (fun c member => lower c (List.mem_append_right _ member)) (delta_placed placed) reads
      obtain ⟨earlier, left, here, reaches⟩ := delta_reaches placed cut
      refine ⟨earlier, left, here, fun basic encoder level => ?_⟩
      obtain ⟨moved, reached, onward⟩ := reaches basic encoder level.written level.delta
      have inside : place ≤ known.length := Nat.le_of_lt_succ (Nat.mod_lt _ (Nat.succ_pos _))
      have again : Encoder.Level basic (place + 1) (adapt moved.delta count (index == 0))
          (inserted next place known) (moved.put basic) :=
        put_level inside basic index moved (reached.written.trans level.written)
          (by rw [reached.written, level.first]) level.basic
      rw [reached.delta, ← Nat.add_sub_cancel_left (n := index) (m := delta)] at again
      rw [onward]
      refine (written basic _ again).trans ?_
      rw [Encoder.put]
      simp only [reached.digits, reached.delta, reached.bias, level.bias, List.append_assoc]

theorem text_shape (text : List Char) (basic digits : List Char)
    (some_basic : basic = ((text.reverse.dropWhile (· != '-')).drop 1).reverse)
    (some_digits : digits = (text.reverse.takeWhile (· != '-')).reverse)
    (begun : ¬(text.head? == some '-' && basic.isEmpty) = true) :
    text = basic ++ (if basic.isEmpty then [] else ['-']) ++ digits := by
  have whole : text = (text.reverse.dropWhile (· != '-')).reverse ++ digits := by
    rw [some_digits, ← List.reverse_append, List.takeWhile_append_dropWhile, List.reverse_reverse]
  cases tail : text.reverse.dropWhile (· != '-') with
  | nil =>
      rw [tail] at some_basic whole
      rw [some_basic]
      exact whole
  | cons c rest =>
      have hyphen : c = '-' := by
        have stops := List.head?_dropWhile_not (· != '-') text.reverse
        rw [tail] at stops
        simpa using stops
      subst hyphen
      rw [tail] at some_basic whole
      have cut : text = basic ++ '-' :: digits := by
        rw [some_basic]
        simpa using whole
      cases basic with
      | nil => exact absurd (by rw [cut]; rfl) begun
      | cons first others => rw [cut]; simp

theorem passes_finish (basic : Nat) (start : Encoder) {known codes front back : List Nat}
    (cut : Cut start.code 0 known codes front back) (written : start.written = known.length) :
    ((sortedDistinct (codes.filter (· ≥ start.code))).foldl (Encoder.pass basic codes) start).digits =
      (start.finish basic codes start.code back).digits := by
  have far : ∀ other ∈ front, start.code < other := fun other member => by
    simpa using List.filter_eq_nil_iff.mp cut.before other member
  have apart : start.code ∉ front := fun member => Nat.lt_irrefl _ (far _ member)
  have none : front.filter (· < start.code) = [] :=
    List.filter_eq_nil_iff.mpr fun other member => by simpa using Nat.le_of_lt (far other member)
  by_cases listed : start.code ∈ back
  · have visited : codes.foldl (Encoder.visit basic start.code) start =
        back.foldl (Encoder.visit basic start.code) start := by
      rw [cut.whole, List.foldl_append, Encoder.visits_skip basic _ front apart, none]
      rfl
    rw [from_listed _ codes (cut.whole ▸ List.mem_append_right _ listed), List.foldl_cons,
      Encoder.pass_turn, Nat.sub_self, Nat.zero_mul, Encoder.finish, ← visited]
    rfl
  · have absent : start.code ∉ codes := by
      rw [cut.whole, List.mem_append]
      exact fun member => member.elim apart listed
    rw [from_absent _ codes absent, Encoder.finish, Encoder.visits_skip basic _ back listed,
      cut.after, List.drop_zero, ← written]
    cases rest : beyond start.code codes with
    | nil => rfl
    | cons target targets =>
        have above : start.code < target :=
          (((beyond_sorted start.code codes).2 target).mp (rest ▸ List.mem_cons_self)).2
        rw [List.foldl_cons, List.foldl_cons, Encoder.pass_past basic target codes start above]

theorem encode_decode (text : List Char) (lower : ∀ c ∈ text, c.toLower = c) (codes : List Nat)
    (decoded : decode text = some codes) : encode codes = text := by
  simp only [decode] at decoded
  by_cases begun : (text.head? == some '-' &&
      ((text.reverse.dropWhile (· != '-')).drop 1).reverse.isEmpty) = true
  · rw [if_pos begun] at decoded
    cases decoded
  · rw [if_neg begun] at decoded
    have shape := text_shape text _ _ rfl rfl begun
    generalize ((text.reverse.dropWhile (· != '-')).drop 1).reverse = basic at decoded shape
    generalize (text.reverse.takeWhile (· != '-')).reverse = digits at decoded shape
    rw [Option.ite_none_left_eq_some] at decoded
    obtain ⟨ascii, reads⟩ := decoded
    have low : ∀ code ∈ basic.map Char.toNat, code < firstCode := by
      simpa [List.mem_map] using ascii
    have placed : Placed firstCode 0 (basic.map Char.toNat) :=
      ⟨fun code member => Nat.le_of_lt (low code member), low, Nat.zero_le _⟩
    obtain ⟨front, back, cut, written⟩ := decode_from_read _ digits
      (fun c member => lower c (shape ▸ List.mem_append_right _ member)) _ _ _ _ codes placed reads
    have kept : codes.filter (· < firstCode) = basic.map Char.toNat := by
      have none : front.filter (· < firstCode) = [] :=
        filter_narrow front _ _ _ cut.before (by simpa using fun _ => Nat.le_of_lt) (by simp)
      rw [cut.whole, List.filter_append, none, cut.after]
      rfl
    have spelled : (basic.map Char.toNat).map Char.ofNat = basic := by
      simp [List.map_map, Function.comp_def, Char.ofNat_toNat]
    have level : Encoder.Level (basic.map Char.toNat).length 0 firstBias (basic.map Char.toNat)
        { code := firstCode, written := (basic.map Char.toNat).length, delta := 0, bias := firstBias,
          digits := [] } :=
      ⟨rfl, rfl, rfl, beq_self_eq_true _, Nat.le_refl _⟩
    have passed := passes_finish (basic.map Char.toNat).length _ cut level.written
    simp only [encode, kept, spelled]
    rw [passed, written _ _ level, List.isEmpty_map, shape]
    rfl

end PoliteCrawl.Url.Punycode
