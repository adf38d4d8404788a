import PoliteCrawl.Proofs.Text.LowerCase
import PoliteCrawl.Proofs.Url.Punycode

set_option autoImplicit false

namespace PoliteCrawl.Url.Domain

open PoliteCrawl.Text

set_option maxRecDepth 100000 in
theorem kelvin_folded : keptTable.holds kelvin = false ∧ droppedTable.holds kelvin = false ∧
    foldedTable.image? kelvin = some ['k'.toNat] := by
  refine ⟨?kept, ?dropped, ?folded⟩
  case kept =>
    apply CodeTable.read_fact (fun table => table.holds kelvin = false)
    · with_reducible rfl
    · decide +kernel
  case dropped =>
    apply CodeTable.read_fact (fun table => table.holds kelvin = false)
    · with_reducible rfl
    · decide +kernel
  case folded =>
    apply CodeTable.read_fact (fun table => table.image? kelvin = some ['k'.toNat])
    · with_reducible rfl
    · decide +kernel

theorem lower_letter_ascii (c : Char) :
    (lowerLetter c).toNat < 0x80 ∧ (lowerLetter c).toLower = lowerLetter c := by
  rw [lowerLetter]
  by_cases low : c.toNat < 0x80
  · rw [if_pos low]
    revert c
    exact ascii_all (by decide +kernel)
  · rw [if_neg low]
    decide

theorem fold_letter (c : Char) (letter : c.toNat < 0x80 ∨ c.toNat = kelvin) :
    fold? c.toNat = some [(lowerLetter c).toNat] := by
  rcases letter with low | sign
  · rw [fold?, if_pos low, Char.ofNat_toNat, lowerLetter, if_pos low]
  · have high : ¬kelvin < 0x80 := by decide
    obtain ⟨kept, dropped, folded⟩ := kelvin_folded
    rw [fold?, lowerLetter, sign, if_neg high, if_neg high, kept, dropped, folded]
    rfl

theorem fold_all_letters (name : List Char) (letters : LowersToAscii name) :
    foldAll? (name.map Char.toNat) = some ((name.map lowerLetter).map Char.toNat) := by
  induction name with
  | nil => rfl
  | cons c rest ih =>
      have here := fold_letter c (letters c List.mem_cons_self)
      have later := ih fun d member => letters d (List.mem_cons_of_mem c member)
      rw [List.map_cons, foldAll?, here, later]
      rfl

theorem labels_some (codes : List Nat) : ∃ first rest, labels codes = first :: rest := by
  cases codes with
  | nil => exact ⟨[], [], rfl⟩
  | cons code codes =>
      rw [labels, List.foldr_cons]
      split
      · exact ⟨_, _, rfl⟩
      · exact ⟨_, _, rfl⟩
      · exact ⟨_, _, rfl⟩

theorem labels_cons (code : Nat) (codes first : List Nat) (rest : List (List Nat))
    (parts : labels codes = first :: rest) :
    labels (code :: codes) =
      if code = '.'.toNat then [] :: first :: rest else (code :: first) :: rest := by
  rw [labels] at parts ⊢
  rw [List.foldr_cons, parts]
  by_cases dot : code = '.'.toNat
  · rw [if_pos dot, dot, beq_self_eq_true]
  · rw [if_neg dot, beq_eq_false_iff_ne.mpr dot]

theorem labels_codes (codes : List Nat) : ∀ label ∈ labels codes, ∀ code ∈ label, code ∈ codes := by
  induction codes with
  | nil => simp [labels]
  | cons code rest ih =>
      obtain ⟨first, others, parts⟩ := labels_some rest
      rw [labels_cons code rest first others parts]
      rw [parts] at ih
      obtain ⟨early, late⟩ := List.forall_mem_cons.mp ih
      have kept {label : List Nat} (all : ∀ other ∈ label, other ∈ rest) :
          ∀ other ∈ label, other ∈ code :: rest :=
        fun other member => List.mem_cons_of_mem code (all other member)
      split
      · refine List.forall_mem_cons.mpr ⟨by simp, List.forall_mem_cons.mpr ⟨kept early, ?_⟩⟩
        exact fun label member => kept (late label member)
      · refine List.forall_mem_cons.mpr ⟨?_, fun label member => kept (late label member)⟩
        exact List.forall_mem_cons.mpr ⟨List.mem_cons_self, kept early⟩

def letters (label : List Nat) : List Char :=
  label.map Char.ofNat

theorem join_labels (codes : List Nat) : joinLabels ((labels codes).map letters) = letters codes := by
  induction codes with
  | nil => rfl
  | cons code rest ih =>
      obtain ⟨first, others, parts⟩ := labels_some rest
      rw [labels_cons code rest first others parts]
      rw [parts] at ih
      split
      · rename_i dot
        rw [List.map_cons, List.map_cons, joinLabels, ← List.map_cons, ih, dot]
        · rfl
        · simp
      · cases others with
        | nil =>
            rw [List.map_cons, List.map_nil, joinLabels] at ih ⊢
            rw [letters, List.map_cons, ← letters, ih]
            rfl
        | cons second more =>
            rw [List.map_cons, List.map_cons, joinLabels] at ih ⊢
            · rw [letters, List.map_cons, ← letters, List.cons_append, ih]
              rfl
            · simp
            · simp

def AllLower (codes : List Nat) : Prop :=
  ∀ code ∈ codes, code < 0x80 ∧ (Char.ofNat code).toLower = Char.ofNat code

theorem lowered_lower (name : List Char) : AllLower ((name.map lowerLetter).map Char.toNat) := by
  intro code member
  obtain ⟨lower, listed, rfl⟩ := List.mem_map.mp member
  obtain ⟨c, _, rfl⟩ := List.mem_map.mp listed
  rw [Char.ofNat_toNat]
  exact lower_letter_ascii c

theorem ascii_lower (codes : List Nat) (lower : AllLower codes) : isAscii codes = true :=
  List.all_eq_true.mpr fun code member => decide_eq_true (lower code member).1

theorem normalize_lower (codes : List Nat) (lower : AllLower codes) :
    NormalForm.normalize codes = codes := by
  rw [NormalForm.normalize, if_pos]
  exact List.all_eq_true.mpr fun code member =>
    decide_eq_true (Nat.lt_trans (lower code member).1 (by decide))

theorem reveal_written (label revealed : List Nat) (lower : AllLower label)
    (shown : revealLabel? label = some revealed) : asciiLabel revealed = letters label := by
  rw [revealLabel?] at shown
  split at shown
  · rename_i marked
    rw [if_pos (ascii_lower label lower)] at shown
    cases decoded : Punycode.decode ((label.drop punycodeMark.length).map Char.ofNat) with
    | none =>
        rw [decoded] at shown
        cases shown
    | some codes =>
        simp only [decoded, Option.ite_none_right_eq_some, Bool.and_eq_true, Bool.not_eq_true',
          Option.some.injEq] at shown
        obtain ⟨⟨⟨beyond, _⟩, _⟩, rfl⟩ := shown
        obtain ⟨rest, rfl⟩ := List.isPrefixOf_iff_prefix.mp marked
        have lower_rest : ∀ c ∈ rest.map Char.ofNat, c.toLower = c := by
          intro c member
          obtain ⟨code, listed, rfl⟩ := List.mem_map.mp member
          exact (lower code (List.mem_append_right _ listed)).2
        rw [List.drop_left] at decoded
        rw [asciiLabel, beyond, Punycode.encode_decode _ lower_rest codes decoded, letters,
          List.map_append]
        rfl
  · cases shown
    rw [asciiLabel, if_pos (ascii_lower label lower), letters]

theorem reveal_all_written (parts revealed : List (List Nat)) (lower : ∀ label ∈ parts, AllLower label)
    (shown : parts.mapM revealLabel? = some revealed) : revealed.map asciiLabel = parts.map letters := by
  induction parts generalizing revealed with
  | nil =>
      cases shown
      rfl
  | cons label rest ih =>
      simp only [List.mapM_cons, Option.bind_eq_bind, Option.bind_eq_some_iff] at shown
      obtain ⟨first, here, others, later, whole⟩ := shown
      cases whole
      obtain ⟨lower_first, lower_rest⟩ := List.forall_mem_cons.mp lower
      rw [List.map_cons, List.map_cons, reveal_written label first lower_first here,
        ih others lower_rest later]

-- The ASCII name for code points in lower case, by way of their labels.
def spelled? (codes : List Nat) : Option (List Char) :=
  match (labels codes).mapM revealLabel? with
  | none => none
  | some revealed =>
      let directed := !(revealed.any (·.any isRightToLeft)) || revealed.all directionFits
      if revealed.all labelFits && directed then some (joinLabels (revealed.map asciiLabel)) else none

theorem spelled_same (codes : List Nat) (lower : AllLower codes) (ascii : List Char)
    (spelled : spelled? codes = some ascii) : ascii = letters codes := by
  rw [spelled?] at spelled
  cases shown : (labels codes).mapM revealLabel? with
  | none =>
      rw [shown] at spelled
      cases spelled
  | some revealed =>
      have parts : ∀ label ∈ labels codes, AllLower label :=
        fun label member code listed => lower code (labels_codes codes label member code listed)
      simp only [shown, Option.ite_none_right_eq_some, Option.some.injEq] at spelled
      rw [← spelled.2, reveal_all_written _ revealed parts shown, join_labels]

theorem reveal_unmarked (parts : List (List Nat))
    (plain : ∀ label ∈ parts, punycodeMark.isPrefixOf label = false) :
    parts.mapM revealLabel? = some parts := by
  induction parts with
  | nil => rfl
  | cons label rest ih =>
      obtain ⟨first, others⟩ := List.forall_mem_cons.mp plain
      have here : revealLabel? label = some label := by
        rw [revealLabel?, first]
        rfl
      rw [List.mapM_cons, here, ih others]
      rfl

set_option maxRecDepth 10000 in
theorem script_tables_high : ∀ table ∈ [markTable, rightToLeftTable, arabicNumberTable],
    table.all (fun row => 0x300 ≤ row.first) = true := by
  simp only [List.forall_mem_cons]
  refine ⟨?mark, ?rightToLeft, ?arabicNumber, List.forall_mem_nil _⟩
  all_goals
    apply CodeTable.read_fact (fun table => table.all (fun row => 0x300 ≤ row.first) = true)
    · with_reducible rfl
    · decide +kernel

theorem low_outside (table : CodeTable)
    (listed : table ∈ [markTable, rightToLeftTable, arabicNumberTable]) (code : Nat)
    (low : code < 0x300) : table.holds code = false :=
  CodeTable.holds_none table 0x300 (script_tables_high table listed) code low

theorem joiners_low (before label : List Nat) (low : ∀ code ∈ label, code < 0x300) :
    joinersFit before label = true := by
  induction label generalizing before with
  | nil => rfl
  | cons code rest ih =>
      obtain ⟨first, others⟩ := List.forall_mem_cons.mp low
      have joiner : (code == 0x200C) = false := beq_eq_false_iff_ne.mpr (by omega)
      have nonjoiner : (code == 0x200D) = false := beq_eq_false_iff_ne.mpr (by omega)
      simp only [joinersFit, joiner, nonjoiner, ih (code :: before) others, Bool.and_true]
      rfl

theorem label_low (label : List Nat) (low : ∀ code ∈ label, code < 0x300)
    (permitted : ∀ code ∈ label, isForbidden (Char.ofNat code) = false) : labelFits label = true := by
  have mark : label.head?.any markTable.holds = false := by
    cases label with
    | nil => rfl
    | cons code rest =>
        rw [List.head?_cons, Option.any_some]
        exact low_outside markTable (by simp) code (low code List.mem_cons_self)
  have free : label.all (fun code => !isForbidden (Char.ofNat code)) = true :=
    List.all_eq_true.mpr fun code member => by rw [permitted code member]; rfl
  rw [labelFits, mark, joiners_low [] label low, free]
  rfl

theorem left_to_right (code : Nat) (low : code < 0x300) : isRightToLeft code = false := by
  rw [isRightToLeft, low_outside rightToLeftTable (by simp) code low,
    low_outside arabicNumberTable (by simp) code low]
  rfl

theorem spelled_plain (codes : List Nat) (lower : AllLower codes)
    (permitted : ∀ code ∈ codes, isForbidden (Char.ofNat code) = false)
    (plain : ∀ label ∈ labels codes, punycodeMark.isPrefixOf label = false) :
    spelled? codes = some (letters codes) := by
  have parts : ∀ label ∈ labels codes, AllLower label :=
    fun label member code listed => lower code (labels_codes codes label member code listed)
  have low : ∀ label ∈ labels codes, ∀ code ∈ label, code < 0x300 :=
    fun label member code listed => Nat.lt_trans (parts label member code listed).1 (by decide)
  have shown := reveal_unmarked (labels codes) plain
  have fit : (labels codes).all labelFits = true :=
    List.all_eq_true.mpr fun label member =>
      label_low label (low label member) fun code listed =>
        permitted code (labels_codes codes label member code listed)
  have direct : (labels codes).any (·.any isRightToLeft) = false := by
    simp only [List.any_eq_false, Bool.not_eq_true]
    exact fun label member code listed => left_to_right code (low label member code listed)
  simp only [spelled?, shown, fit, direct, reveal_all_written _ _ parts shown, join_labels]
  rfl

theorem to_ascii_spelled (name : List Char) (within : LowersToAscii name)
    (permitted : ∀ c ∈ name, isForbidden c = false)
    (permitted_lower : ∀ c ∈ name, isForbidden (lowerLetter c) = false) :
    toAscii? name = spelled? ((name.map lowerLetter).map Char.toNat) := by
  have lower := lowered_lower name
  rw [toAscii?]
  by_cases plain : isPlain name = true
  · have free : name.any isForbidden = false := by
      simpa only [List.any_eq_false, Bool.not_eq_true] using permitted
    obtain ⟨ascii, unmarked⟩ := Bool.and_eq_true_iff.mp plain
    have same : name.map Char.toLower = name.map lowerLetter :=
      List.map_congr_left fun c member => by
        rw [lowerLetter, if_pos (of_decide_eq_true (List.all_eq_true.mp ascii c member))]
    have codes : (name.map lowerLetter).map Char.toNat = name.map (·.toLower.toNat) := by
      rw [← same, List.map_map]
      rfl
    have spell : letters ((name.map lowerLetter).map Char.toNat) = name.map Char.toLower := by
      rw [letters, List.map_map, same]
      exact List.map_id'' Char.ofNat_toNat _
    have permitted_codes : ∀ code ∈ (name.map lowerLetter).map Char.toNat,
        isForbidden (Char.ofNat code) = false := by
      intro code member
      obtain ⟨letter, listed, rfl⟩ := List.mem_map.mp member
      obtain ⟨c, here, rfl⟩ := List.mem_map.mp listed
      rw [Char.ofNat_toNat]
      exact permitted_lower c here
    rw [if_pos plain, free, spelled_plain _ lower permitted_codes, spell]
    · rfl
    · rw [codes]
      simpa using unmarked
  · rw [if_neg plain, fold_all_letters name within]
    simp only [normalize_lower _ lower]
    rfl

end PoliteCrawl.Url.Domain
