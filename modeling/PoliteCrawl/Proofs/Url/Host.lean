import PoliteCrawl.Url.Host

set_option autoImplicit false

namespace PoliteCrawl.Url

def isPlain (c : Char) : Bool :=
  c.toNat < 0x80 && !(c == '/' || c == '?' || c == '#' || c == '@')

def AllPlain (text : List Char) : Prop :=
  ∀ c ∈ text, isPlain c = true

theorem AllPlain.append {first second : List Char} (one : AllPlain first) (two : AllPlain second) :
    AllPlain (first ++ second) :=
  fun c member => (List.mem_append.mp member).elim (one c) (two c)

theorem AllPlain.cons {c : Char} {rest : List Char} (first : isPlain c = true)
    (others : AllPlain rest) : AllPlain (c :: rest) :=
  AllPlain.append (fun _ member => List.mem_singleton.mp member ▸ first) others

theorem AllPlain.nil : AllPlain [] := by
  simp [AllPlain]

theorem digit_code (c : Char) (digit : c.isDigit = true) :
    ∃ value ∈ List.range 10, c = Char.ofNat (48 + value) := by
  have range : 48 ≤ c.toNat ∧ c.toNat ≤ 57 := by
    simpa [Char.isDigit, Char.le_def, UInt32.le_iff_toNat_le] using digit
  refine ⟨c.toNat - 48, List.mem_range.mpr (by omega), ?_⟩
  rw [Nat.add_sub_cancel' range.1, Char.ofNat_toNat]

theorem decimal_plain (c : Char) (digit : c.isDigit = true) : isPlain c = true := by
  have all : ∀ value ∈ List.range 10, isPlain (Char.ofNat (48 + value)) = true := by decide
  obtain ⟨value, small, same⟩ := digit_code c digit
  exact same ▸ all value small

theorem decimal_lower (c : Char) (digit : c.isDigit = true) : c.toLower = c := by
  have all : ∀ value ∈ List.range 10,
      (Char.ofNat (48 + value)).toLower = Char.ofNat (48 + value) := by decide
  obtain ⟨value, small, same⟩ := digit_code c digit
  exact same ▸ all value small

theorem number_digits (number : Nat) (c : Char) (member : c ∈ (toString number).toList) :
    c.isDigit = true := by
  rw [Nat.toString_eq_repr, Nat.toList_repr] at member
  exact Nat.isDigit_of_mem_toDigits (by decide) (by decide) member

theorem number_plain (number : Nat) : AllPlain (toString number).toList :=
  fun c member => decimal_plain c (number_digits number c member)

theorem hexadecimal_plain (number : Nat) : AllPlain (Nat.toDigits 16 number) := by
  have digits : ∀ digit ∈ List.range 16, isPlain digit.digitChar = true := by decide
  induction number using Nat.strongRecOn with
  | ind number ih =>
      rw [Nat.toDigits_eq_if (by decide)]
      split
      · exact .cons (digits number (List.mem_range.mpr (by assumption))) .nil
      · refine (ih (number / 16) (by omega)).append (.cons ?_ .nil)
        exact digits (number % 16) (List.mem_range.mpr (Nat.mod_lt _ (by decide)))

theorem encode_byte_plain (byte : UInt8) : AllPlain (Percent.encodeByte byte) := by
  have digits : ∀ value ∈ List.range 16, isPlain (Percent.hexDigit value) = true := by decide
  have size := byte.toNat_lt
  refine .cons (by decide) (.cons ?_ (.cons ?_ .nil))
  · exact digits _ (List.mem_range.mpr (by omega))
  · exact digits _ (List.mem_range.mpr (by omega))

theorem encode_plain (set : Char → Bool)
    (covers : ∀ c : Char, c.toNat < 0x80 → set c = false → isPlain c = true) (text : List Char) :
    AllPlain (Percent.encode set text) := by
  intro c member
  obtain ⟨origin, _, written⟩ := List.mem_flatMap.mp member
  by_cases encoded : (origin.toNat ≥ 0x80 || set origin) = true
  · rw [if_pos encoded] at written
    obtain ⟨byte, _, digit⟩ := List.mem_flatMap.mp written
    exact encode_byte_plain byte c digit
  · rw [if_neg encoded, List.mem_singleton] at written
    simp only [Bool.or_eq_true, decide_eq_true_eq, not_or, Nat.not_le, Bool.not_eq_true] at encoded
    exact written ▸ covers origin encoded.1 encoded.2

theorem credentials_plain (text : List Char) :
    AllPlain (Percent.encode Percent.credentials text) := by
  refine encode_plain _ (fun c low free => ?_) text
  simp only [Percent.credentials, Percent.paths, Bool.or_eq_false_iff] at free
  simp only [isPlain, low, decide_true, Bool.true_and, Bool.not_eq_true', Bool.or_eq_false_iff]
  grind

theorem ipv4_plain (address : Nat) : AllPlain (Ipv4.text address).toList := by
  have dot : AllPlain ".".toList := .cons (by decide) .nil
  simp only [Ipv4.text, String.toList_append]
  exact ((((((number_plain _).append dot).append (number_plain _)).append dot).append
    (number_plain _)).append dot).append (number_plain _)

theorem join_pieces_plain (pieces : List Nat) :
    AllPlain (Ipv6.joinPieces (pieces.map Ipv6.hexText)).toList := by
  have piece (value : Nat) : AllPlain (Ipv6.hexText value).toList := by
    simpa [Ipv6.hexText] using hexadecimal_plain value
  induction pieces with
  | nil => simp [Ipv6.joinPieces, AllPlain]
  | cons first rest ih =>
      cases rest with
      | nil => exact piece first
      | cons second others =>
          simp only [List.map_cons, Ipv6.joinPieces, String.toList_append] at ih ⊢
          exact ((piece first).append (.cons (by decide) .nil)).append ih

theorem ipv6_plain (pieces : List Nat) : AllPlain (Ipv6.text pieces).toList := by
  simp only [Ipv6.text]
  split
  · simp only [String.toList_append]
    refine ((join_pieces_plain _).append ?_).append (join_pieces_plain _)
    exact .cons (by decide) (.cons (by decide) .nil)
  · exact join_pieces_plain pieces

theorem plain_low {c : Char} (plain : isPlain c = true) : c.toNat < 0x80 := by
  simp only [isPlain, Bool.and_eq_true, decide_eq_true_eq] at plain
  exact plain.1

theorem lower_plain (c : Char) (plain : isPlain c = true) : isPlain c.toLower = true := by
  have all : ∀ code ∈ List.range 0x80, isPlain (Char.ofNat code) = true →
      isPlain (Char.ofNat code).toLower = true := by decide +kernel
  have whole := all c.toNat (List.mem_range.mpr (plain_low plain))
  rw [Char.ofNat_toNat] at whole
  exact whole plain

theorem permitted_plain (c : Char) (low : c.toNat < 0x80) (free : Domain.isForbidden c = false) :
    isPlain c = true := by
  simp only [Domain.isForbidden, Bool.or_eq_false_iff] at free
  simp only [isPlain, low, decide_true, Bool.true_and, Bool.not_eq_true', Bool.or_eq_false_iff]
  grind

theorem code_plain (code : Nat) (low : code < 0x80)
    (free : Domain.isForbidden (Char.ofNat code) = false) : isPlain (Char.ofNat code) = true := by
  have all : ∀ code ∈ List.range 0x80, (Char.ofNat code).toNat < 0x80 := by decide +kernel
  exact permitted_plain (Char.ofNat code) (all code (List.mem_range.mpr low)) free

theorem digit_plain (digit : Nat) (small : digit < 36) : isPlain (Punycode.digitChar digit) = true := by
  have all : ∀ digit ∈ List.range 36, isPlain (Punycode.digitChar digit) = true := by decide
  exact all digit (List.mem_range.mpr small)

theorem threshold_most (k bias : Nat) : Punycode.threshold k bias ≤ 26 := by
  have least : Punycode.leastThreshold = 1 := rfl
  have most : Punycode.mostThreshold = 26 := rfl
  rw [Punycode.threshold]
  by_cases low : k ≤ bias
  · rw [if_pos low]
    omega
  · rw [if_neg low]
    by_cases high : k ≥ bias + Punycode.mostThreshold
    · rw [if_pos high]
      omega
    · rw [if_neg high]
      omega

theorem encode_delta_plain (delta k bias : Nat) : AllPlain (Punycode.encodeDelta delta k bias) := by
  induction delta, k using Punycode.encodeDelta.induct bias with
  | case1 delta k t small =>
      have most : t ≤ 26 := threshold_most k bias
      rw [Punycode.encodeDelta, dif_pos small]
      exact .cons (digit_plain delta (by omega)) .nil
  | case2 delta k t large ih =>
      have most : t ≤ 26 := threshold_most k bias
      have base : Punycode.base = 36 := rfl
      have rest : (delta - t) % (Punycode.base - t) < Punycode.base - t :=
        Nat.mod_lt _ (by omega)
      rw [Punycode.encodeDelta, dif_neg large]
      refine .cons (digit_plain _ ?_) ih
      change t + (delta - t) % (Punycode.base - t) < 36
      omega

theorem visit_plain (basic target code : Nat) (encoder : Punycode.Encoder)
    (plain : AllPlain encoder.digits) : AllPlain (encoder.visit basic target code).digits := by
  rw [Punycode.Encoder.visit]
  split
  · exact plain
  · split
    · exact plain.append (encode_delta_plain _ _ _)
    · exact plain

theorem pass_plain (basic target : Nat) (codes : List Nat) (encoder : Punycode.Encoder)
    (plain : AllPlain encoder.digits) : AllPlain (encoder.pass basic codes target).digits := by
  have visited (others : List Nat) (from_ : Punycode.Encoder) (kept : AllPlain from_.digits) :
      AllPlain (others.foldl (Punycode.Encoder.visit basic target) from_).digits := by
    induction others generalizing from_ with
    | nil => exact kept
    | cons code rest ih => exact ih _ (visit_plain basic target code from_ kept)
  exact visited codes _ plain

theorem punycode_plain (codes : List Nat)
    (permitted : ∀ code ∈ codes, Domain.isForbidden (Char.ofNat code) = false) :
    AllPlain (Punycode.encode codes) := by
  have passed (targets : List Nat) (basic : Nat) (from_ : Punycode.Encoder)
      (kept : AllPlain from_.digits) :
      AllPlain (targets.foldl (Punycode.Encoder.pass basic codes) from_).digits := by
    induction targets generalizing from_ with
    | nil => exact kept
    | cons target rest ih => exact ih _ (pass_plain basic target codes from_ kept)
  simp only [Punycode.encode]
  refine (AllPlain.append ?_ ?_).append (passed _ _ _ .nil)
  · intro c member
    obtain ⟨code, basic, same⟩ := List.mem_map.mp member
    obtain ⟨listed, low⟩ := List.mem_filter.mp basic
    have below : code < 0x80 := of_decide_eq_true low
    exact same ▸ code_plain code below (permitted code listed)
  · split
    · simp [AllPlain]
    · exact .cons (by decide) .nil

theorem join_labels_plain (labels : List (List Char)) (plain : ∀ label ∈ labels, AllPlain label) :
    AllPlain (Domain.joinLabels labels) := by
  induction labels with
  | nil => exact .nil
  | cons first rest ih =>
      cases rest with
      | nil => exact plain first List.mem_cons_self
      | cons second others =>
          have later := ih fun label member => plain label (List.mem_cons_of_mem _ member)
          rw [Domain.joinLabels]
          · exact (plain first List.mem_cons_self).append (.cons (by decide) later)
          · simp

theorem ascii_label_plain (label : List Nat) (fits : Domain.labelFits label = true) :
    AllPlain (Domain.asciiLabel label) := by
  have permitted : ∀ code ∈ label, Domain.isForbidden (Char.ofNat code) = false := by
    simp only [Domain.labelFits, Bool.and_eq_true, List.all_eq_true] at fits
    intro code member
    simpa using fits.2 code member
  rw [Domain.asciiLabel]
  by_cases ascii : Domain.isAscii label = true
  · rw [if_pos ascii]
    simp only [Domain.isAscii, List.all_eq_true, decide_eq_true_eq] at ascii
    intro c member
    obtain ⟨code, listed, same⟩ := List.mem_map.mp member
    exact same ▸ code_plain code (ascii code listed) (permitted code listed)
  · rw [if_neg ascii]
    have mark : AllPlain "xn--".toList :=
      .cons (by decide) (.cons (by decide) (.cons (by decide) (.cons (by decide) .nil)))
    exact mark.append (punycode_plain label permitted)

theorem ascii_plain (name ascii : List Char) (written : Domain.toAscii? name = some ascii) :
    AllPlain ascii := by
  rw [Domain.toAscii?] at written
  by_cases plain : Domain.isPlain name = true
  · rw [if_pos plain] at written
    by_cases forbidden : name.any Domain.isForbidden = true
    · rw [if_pos forbidden] at written
      cases written
    · rw [if_neg forbidden, Option.some.injEq] at written
      simp only [Domain.isPlain, Bool.and_eq_true, List.all_eq_true, decide_eq_true_eq] at plain
      simp only [List.any_eq_true, not_exists, not_and, Bool.not_eq_true] at forbidden
      intro c member
      rw [← written] at member
      obtain ⟨letter, listed, same⟩ := List.mem_map.mp member
      exact same ▸ lower_plain letter
        (permitted_plain letter (plain.1 letter listed) (forbidden letter listed))
  · rw [if_neg plain] at written
    cases folded : Domain.foldAll? (name.map Char.toNat) with
    | none =>
        rw [folded] at written
        cases written
    | some codes =>
        rw [folded] at written
        simp only at written
        cases shown : (Domain.labels (Text.NormalForm.normalize codes)).mapM Domain.revealLabel? with
        | none =>
            rw [shown] at written
            cases written
        | some revealed =>
            rw [shown] at written
            simp only [Option.ite_none_right_eq_some, Bool.and_eq_true, List.all_eq_true,
              Option.some.injEq] at written
            obtain ⟨⟨fits, _⟩, same⟩ := written
            rw [← same]
            refine join_labels_plain _ fun label member => ?_
            obtain ⟨codes, listed, whole⟩ := List.mem_map.mp member
            exact whole ▸ ascii_label_plain codes (fits codes listed)

theorem bracketed_plain (inside : List Char) (host : Host)
    (read : Host.parseBracketed inside = .ok host) :
    AllPlain host.text.toList ∧ host ≠ .domain "" := by
  rw [Host.parseBracketed] at read
  by_cases closed : (inside.getLast? == some ']') = true
  · rw [if_pos closed] at read
    cases parsed : Ipv6.parse? inside.dropLast with
    | none =>
        rw [parsed] at read
        cases read
    | some pieces =>
        rw [parsed] at read
        cases read
        refine ⟨?_, by simp⟩
        simp only [Host.text, String.toList_append]
        exact ((AllPlain.cons (by decide) .nil).append (ipv6_plain pieces)).append
          (.cons (by decide) .nil)
  · rw [if_neg closed] at read
    cases read

theorem ascii_host_plain (name : List Char) (host : Host)
    (read : (match Domain.toAscii? name with
      | none => Except.error UrlError.badDomain
      | some [] => .error .emptyHost
      | some ascii =>
          if Ipv4.endsInNumber ascii then
            match Ipv4.parse? ascii with
            | some address => .ok (Host.ipv4 address)
            | none => .error .badIpv4
          else .ok (Host.domain (String.ofList ascii))) = .ok host) :
    AllPlain host.text.toList ∧ host ≠ .domain "" := by
  cases written : Domain.toAscii? name with
  | none =>
      rw [written] at read
      cases read
  | some ascii =>
      rw [written] at read
      cases ascii with
      | nil => cases read
      | cons first rest =>
          by_cases number : Ipv4.endsInNumber (first :: rest) = true
          · simp only [if_pos number] at read
            cases parsed : Ipv4.parse? (first :: rest) with
            | none =>
                rw [parsed] at read
                cases read
            | some address =>
                rw [parsed] at read
                cases read
                exact ⟨ipv4_plain address, by simp⟩
          · simp only [if_neg number] at read
            cases read
            refine ⟨?_, by simp⟩
            simpa only [Host.text, String.toList_ofList] using ascii_plain name _ written

theorem host_plain (text : List Char) (host : Host) (read : Host.parse text = .ok host) :
    AllPlain host.text.toList ∧ host ≠ .domain "" := by
  unfold Host.parse at read
  split at read
  · exact bracketed_plain _ host read
  · cases decoded : String.fromUTF8? ⟨(Percent.decode text).toArray⟩ with
    | none =>
        rw [decoded] at read
        cases read
    | some name =>
        rw [decoded] at read
        exact ascii_host_plain name.toList host read

end PoliteCrawl.Url
