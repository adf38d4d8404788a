import PoliteCrawl.Proofs.Url.Site

set_option autoImplicit false

namespace PoliteCrawl.Url

-- The characters that a name must not hold to be the whole of an authority.
def authorityMarks : List Char :=
  ['/', '\\', '?', '#', ':', '[', ']', '@', '%']

def Unmarked (name : List Char) : Prop :=
  ∀ c ∈ name, c ∉ authorityMarks

-- A text of the web with the domain for its whole authority.
def NamesHost (text domain : String) : Prop :=
  ∃ scheme slashes tail,
    splitScheme? (significant text.toList) = some (scheme, slashes ++ (domain.toList ++ tail)) ∧
    (scheme = "http" ∨ scheme = "https") ∧ (∀ c ∈ slashes, isSlash c = true) ∧
    ∀ c ∈ tail.head?, SchemeKind.web.endsAuthority c = true

theorem decode_unmarked (name : List Char) (plain : Unmarked name) :
    Percent.decode name = name.flatMap String.utf8EncodeChar := by
  induction name with
  | nil => rw [Percent.decode, List.flatMap_nil]
  | cons c rest ih =>
      have later := ih fun d member => plain d (List.mem_cons_of_mem c member)
      rw [Percent.decode, later, List.flatMap_cons]
      rintro high low others rfl
      exact absurd (plain '%' List.mem_cons_self) (by decide)

theorem utf8_unmarked (name : List Char) (plain : Unmarked name) :
    String.fromUTF8? ⟨(Percent.decode name).toArray⟩ = some (String.ofList name) := by
  have bytes : (⟨(Percent.decode name).toArray⟩ : ByteArray) = name.utf8Encode := by
    apply ByteArray.ext
    rw [decode_unmarked name plain, List.utf8Encode, List.data_toByteArray]
  rw [bytes, String.fromUTF8?, dif_pos ByteArray.isValidUTF8_utf8Encode]
  rfl

def hostNamed : Option (List Char) → Except UrlError Host
  | none => .error .badDomain
  | some [] => .error .emptyHost
  | some ascii =>
      if Ipv4.endsInNumber ascii then
        match Ipv4.parse? ascii with
        | some address => .ok (.ipv4 address)
        | none => .error .badIpv4
      else .ok (.domain (String.ofList ascii))

theorem host_unmarked (name : List Char) (plain : Unmarked name) :
    Host.parse name = hostNamed (Domain.toAscii? name) := by
  unfold Host.parse
  split
  · exact absurd (plain '[' List.mem_cons_self) (by decide)
  · rw [utf8_unmarked name plain]
    simp only [String.toList_ofList]
    cases Domain.toAscii? name with
    | none => rfl
    | some ascii => cases ascii <;> rfl

theorem unmarked_inside {c : Char} (plain : c ∉ authorityMarks) :
    SchemeKind.web.endsAuthority c = false ∧ isSlash c = false ∧ c ≠ ':' ∧ c ≠ '[' ∧ c ≠ ']' ∧
      c ≠ '@' := by
  simp only [authorityMarks, List.mem_cons, List.not_mem_nil, not_or] at plain
  simp only [SchemeKind.endsAuthority, SchemeKind.isSlash, SchemeKind.isSpecial, isSlash]
  grind

section Named

variable {name tail : List Char} (plain : Unmarked name)
  (ends : ∀ c ∈ tail.head?, SchemeKind.web.endsAuthority c = true)

include plain ends

theorem take_host_named : takeHost .web false (name ++ tail) = (name, tail) := by
  induction name with
  | nil =>
      cases tail with
      | nil => rfl
      | cons c rest => rw [List.nil_append, takeHost, ends c rfl]; rfl
  | cons c rest ih =>
      obtain ⟨inside, _, colon, opening, closing, _⟩ := unmarked_inside (plain c List.mem_cons_self)
      have later := ih fun d member => plain d (List.mem_cons_of_mem c member)
      rw [List.cons_append, takeHost, inside, beq_eq_false_iff_ne.mpr colon,
        beq_eq_false_iff_ne.mpr opening, beq_eq_false_iff_ne.mpr closing]
      simp only [Bool.false_and, Bool.or_false, Bool.false_eq_true, if_false, later]

theorem take_credentials_named :
    takeCredentials .web (name ++ tail) = .ok (noCredentials, name ++ tail) := by
  have stops : tail.takeWhile (!SchemeKind.web.endsAuthority ·) = [] := by
    cases tail with
    | nil => rfl
    | cons c rest => rw [List.takeWhile_cons, ends c rfl]; rfl
  have authority : (name ++ tail).takeWhile (!SchemeKind.web.endsAuthority ·) = name := by
    rw [List.takeWhile_append_of_pos fun c member => by rw [(unmarked_inside (plain c member)).1]; rfl,
      stops, List.append_nil]
  have none : name.any (· == '@') = false := by
    simp only [List.any_eq_false, beq_iff_eq]
    exact fun c member => (unmarked_inside (plain c member)).2.2.2.2.2
  rw [takeCredentials, authority, splitAtLastAt, none]
  rfl

theorem authority_named (scheme : String) (kind : schemeKind scheme = .web) (some_name : name ≠ []) :
    parseAuthority scheme (name ++ tail) =
      (Host.parse name).map fun host => finish .web scheme noCredentials (some host) none tail := by
  have port : takePort scheme tail = .ok (none, tail) := by
    unfold takePort
    split
    · exact absurd (ends ':' rfl) (by decide)
    · rfl
  have named : readHost .web name = Host.parse name := by
    rw [readHost, List.isEmpty_eq_false_iff.mpr some_name]
    rfl
  have colon : (tail.head? == some ':') = false := by
    refine beq_eq_false_iff_ne.mpr fun same => ?_
    exact absurd (ends ':' same) (by decide)
  simp only [parseAuthority, kind, take_credentials_named plain ends, take_host_named plain ends, named,
    bind, Except.bind]
  cases Host.parse name with
  | error cause => rfl
  | ok host =>
      have nothing : (isEmptyHost host && (tail.head? == some ':' || noCredentials.username != "" ||
          noCredentials.password != "")) = false := by
        rw [colon]
        exact Bool.and_false _
      simp only [nothing, port]
      rfl

end Named

theorem parse_named (text domain : String) (some_name : domain.toList ≠ [])
    (plain : Unmarked domain.toList) (named : NamesHost text domain) :
    ∃ scheme tail, Url.parse text =
      (Host.parse domain.toList).map fun host =>
        finish .web scheme noCredentials (some host) none tail := by
  obtain ⟨scheme, slashes, tail, split, web, leading, ends⟩ := named
  have kind : schemeKind scheme = .web := by
    rcases web with rfl | rfl <;> decide
  have start : (slashes ++ (domain.toList ++ tail)).dropWhile isSlash = domain.toList ++ tail := by
    rw [List.dropWhile_append_of_pos leading]
    cases letters : domain.toList with
    | nil => exact absurd letters some_name
    | cons c rest =>
        have inside := (unmarked_inside (plain c (letters ▸ List.mem_cons_self))).2.1
        rw [List.cons_append, List.dropWhile_cons, inside]
        rfl
  refine ⟨scheme, tail, ?_⟩
  rw [Url.parse, split]
  simp only [kind, start]
  exact authority_named plain ends scheme kind some_name

theorem names_host (text domain : String) (some_name : domain.toList ≠ [])
    (plain : Unmarked domain.toList) (named : NamesHost text domain) (url : Url)
    (read : Url.parse text = .ok url) :
    ∃ host, Host.parse domain.toList = .ok host ∧ url.host = some host ∧ url.port = none := by
  obtain ⟨scheme, tail, reads⟩ := parse_named text domain some_name plain named
  rw [read] at reads
  cases parsed : Host.parse domain.toList with
  | error cause =>
      rw [parsed] at reads
      cases reads
  | ok host =>
      rw [parsed] at reads
      cases reads
      exact ⟨host, rfl, rfl, rfl⟩

theorem ending_visible (c : Char) (ends : SchemeKind.web.endsAuthority c = true) :
    isControlOrSpace c = false := by
  simp only [SchemeKind.endsAuthority, SchemeKind.isSlash, SchemeKind.isSpecial, Bool.and_true,
    Bool.or_eq_true, beq_iff_eq] at ends
  rcases ends with ((rfl | rfl) | rfl) | rfl <;> rfl

theorem visible_kept {c : Char} (visible : isControlOrSpace c = false) :
    (!isTabOrNewline c) = true := by
  rw [Bool.not_eq_true', isTabOrNewline]
  simp only [Bool.or_eq_false_iff, beq_eq_false_iff_ne]
  refine ⟨⟨?_, ?_⟩, ?_⟩ <;> rintro rfl <;> cases visible

theorem drop_before (before kept : List Char) (starts : ∀ c ∈ kept.head?, isControlOrSpace c = false) :
    (before ++ kept).dropWhile isControlOrSpace = before.dropWhile isControlOrSpace ++ kept := by
  rw [List.dropWhile_append]
  split
  · rename_i none
    rw [List.isEmpty_iff.mp none]
    cases kept with
    | nil => rfl
    | cons c rest => rw [List.dropWhile_cons, starts c rfl]; rfl
  · rfl

theorem significant_visible (front rest : List Char) (some_front : front ≠ [])
    (visible : ∀ c ∈ front, isControlOrSpace c = false)
    (starts : ∀ c ∈ rest.head?, isControlOrSpace c = false) :
    ∃ tail, significant (front ++ rest) = front ++ tail ∧ tail.head? = rest.head? := by
  have first : ∀ c ∈ (front ++ rest).head?, isControlOrSpace c = false := by
    cases front with
    | nil => exact absurd rfl some_front
    | cons c others =>
        rintro _ ⟨⟩
        exact visible c List.mem_cons_self
  have last : ∀ c ∈ front.reverse.head?, isControlOrSpace c = false :=
    fun c member => visible c (List.mem_reverse.mp (List.mem_of_mem_head? member))
  have kept : front.filter (!isTabOrNewline ·) = front :=
    List.filter_eq_self.mpr fun c member => visible_kept (visible c member)
  refine ⟨((rest.reverse.dropWhile isControlOrSpace).reverse).filter (!isTabOrNewline ·), ?_, ?_⟩
  · have begun := drop_before [] (front ++ rest) first
    rw [List.nil_append] at begun
    rw [significant, begun, List.dropWhile_nil, List.nil_append, List.reverse_append,
      drop_before _ _ last, List.reverse_append, List.reverse_reverse, List.filter_append, kept]
  · cases rest with
    | nil => rfl
    | cons c others =>
        have here := starts c rfl
        rw [List.reverse_cons, drop_before others.reverse [c] (by simpa using here),
          List.reverse_append, List.reverse_singleton, List.singleton_append, List.filter_cons,
          visible_kept here]
        rfl

end PoliteCrawl.Url
