import PoliteCrawl.Proofs.Config.Check
import PoliteCrawl.Proofs.Url.Authority
import PoliteCrawl.Proofs.Url.Domain
import PoliteCrawl.Proofs.Url.Ipv4

set_option autoImplicit false

namespace PoliteCrawl.Url

open PoliteCrawl.Text

structure Canonical (domain : String) : Prop where
  ascii : ∀ c ∈ (toLower domain).toList, c.toNat < 0x80
  address : Ipv4.endsInNumber (toLower domain).toList = true →
    ∃ address < Nat.pow 256 4, toLower domain = Ipv4.text address

theorem domain_unmarked (c : Char) (letter : Config.isDomainCharacter c = true) :
    c ∉ authorityMarks := by
  have marks : authorityMarks.all (!Config.isDomainCharacter ·) = true := by decide
  intro member
  have mark := List.all_eq_true.mp marks c member
  rw [letter] at mark
  cases mark

theorem domain_permitted (c : Char) (letter : Config.isDomainCharacter c = true)
    (within : c.toNat < 0x80 ∨ c.toNat = kelvin) :
    Domain.isForbidden c = false ∧ Domain.isForbidden (lowerLetter c) = false := by
  have all : ∀ c : Char, c.toNat < 0x80 → Config.isDomainCharacter c = true →
      Domain.isForbidden c = false ∧ Domain.isForbidden (lowerLetter c) = false :=
    ascii_all (by decide +kernel)
  rcases within with low | sign
  · exact all c low letter
  · rw [← Char.ofNat_toNat c, sign]
    decide

theorem domain_visible (c : Char) (letter : Config.isDomainCharacter c = true) :
    isControlOrSpace c = false := by
  have all : ∀ c : Char, c.toNat < 0x80 → Config.isDomainCharacter c = true →
      isControlOrSpace c = false := ascii_all (by decide +kernel)
  by_cases low : c.toNat < 0x80
  · exact all c low letter
  · exact decide_eq_false (by omega)

section Accepted

variable {domain : String} (accepted : Config.checkDomain domain = .ok ())

include accepted

theorem accepted_unmarked : Unmarked domain.toList :=
  fun c member => domain_unmarked c (((Config.domain_accepted domain).mp accepted).2.1 c member)

theorem host_lowered (ascii : ∀ c ∈ (toLower domain).toList, c.toNat < 0x80) :
    Host.parse domain.toList =
      hostNamed (Domain.spelled? ((toLower domain).toList.map Char.toNat)) := by
  obtain ⟨within, lowered⟩ := to_lower_ascii domain ascii
  have permitted (c : Char) (member : c ∈ domain.toList) :=
    domain_permitted c (((Config.domain_accepted domain).mp accepted).2.1 c member) (within c member)
  rw [host_unmarked _ (accepted_unmarked accepted), lowered,
    Domain.to_ascii_spelled _ within (fun c member => (permitted c member).1)
      fun c member => (permitted c member).2]

theorem host_of_lowered (ascii : ∀ c ∈ (toLower domain).toList, c.toNat < 0x80) (host : Host)
    (parsed : Host.parse domain.toList = .ok host) : hostNamed (some (toLower domain).toList) = .ok host := by
  obtain ⟨_, lowered⟩ := to_lower_ascii domain ascii
  rw [host_lowered accepted ascii] at parsed
  cases spelled : Domain.spelled? ((toLower domain).toList.map Char.toNat) with
  | none =>
      rw [spelled] at parsed
      cases parsed
  | some name =>
      rw [spelled] at parsed
      have lower : Domain.AllLower ((toLower domain).toList.map Char.toNat) := by
        rw [lowered]
        exact Domain.lowered_lower domain.toList
      have same := Domain.spelled_same _ lower name spelled
      have letters : name = (toLower domain).toList := by
        rw [same, Domain.letters, List.map_map]
        exact List.map_id'' Char.ofNat_toNat _
      rw [← letters]
      exact parsed

end Accepted

theorem same_host {first second : String} (one : Config.checkDomain first = .ok ())
    (two : Config.checkDomain second = .ok ()) (same : toLower first = toLower second)
    (ascii : ∀ c ∈ (toLower first).toList, c.toNat < 0x80) :
    Host.parse first.toList = Host.parse second.toList := by
  rw [host_lowered one ascii, host_lowered two (same ▸ ascii), same]

theorem web_text_names (scheme domain rest : String) (web : scheme = "http" ∨ scheme = "https")
    (accepted : Config.checkDomain domain = .ok ())
    (ends : ∀ c ∈ rest.toList.head?, SchemeKind.web.endsAuthority c = true) :
    NamesHost (scheme ++ "://" ++ domain ++ rest) domain := by
  have mark : (scheme ++ "://").toList.all (!isControlOrSpace ·) = true := by
    rcases web with rfl | rfl <;> decide +kernel
  have visible : ∀ c ∈ (scheme ++ "://" ++ domain).toList, isControlOrSpace c = false := by
    intro c member
    rw [String.toList_append] at member
    rcases List.mem_append.mp member with before | letter
    · simpa using List.all_eq_true.mp mark c before
    · exact domain_visible c (((Config.domain_accepted domain).mp accepted).2.1 c letter)
  obtain ⟨tail, kept, same⟩ := significant_visible (scheme ++ "://" ++ domain).toList rest.toList
    (by simp) visible fun c member => ending_visible c (ends c member)
  refine ⟨scheme, ['/', '/'], tail, ?_, web, List.all_eq_true.mp rfl, same ▸ ends⟩
  rw [String.toList_append, kept]
  simp only [String.toList_append]
  rcases web with rfl | rfl <;> rfl
theorem host_text_lower (host : Host) (plain : AllPlain host.text.toList) :
    ∀ c ∈ (toLower host.text).toList, c.toNat < 0x80 := by
  intro c member
  rw [to_lower_plain _ plain, String.toList_ofList] at member
  obtain ⟨letter, listed, rfl⟩ := List.mem_map.mp member
  exact plain_low (lower_plain letter (plain letter listed))

theorem lower_twice (domain text : String) (ascii : ∀ c ∈ (toLower domain).toList, c.toNat < 0x80)
    (same : text = toLower domain) (plain : AllPlain text.toList) : toLower text = toLower domain := by
  obtain ⟨_, lowered⟩ := to_lower_ascii domain ascii
  have kept : text.toList.map Char.toLower = text.toList := by
    rw [same, lowered, List.map_map]
    exact List.map_congr_left fun c _ => (Domain.lower_letter_ascii c).2
  rw [to_lower_plain _ plain, kept, String.ofList_toList, same]

theorem address_lower (address : Nat) : toLower (Ipv4.text address) = Ipv4.text address := by
  have kept : (Ipv4.text address).toList.map Char.toLower = (Ipv4.text address).toList := by
    have number (byte : Nat) : (Ipv4.digits byte).map Char.toLower = Ipv4.digits byte :=
      (List.map_congr_left fun c member => decimal_lower c (number_digits byte c member)).trans
        (List.map_id _)
    simp only [Ipv4.text_letters, List.map_append, List.map_cons, number]
    rfl
  rw [to_lower_plain _ (ipv4_plain address), kept, String.ofList_toList]

theorem host_named_text (name : List Char) (host : Host) (named : hostNamed (some name) = .ok host) :
    (∃ address, Ipv4.endsInNumber name = true ∧ Ipv4.parse? name = some address ∧
        host = .ipv4 address) ∨
      (Ipv4.endsInNumber name = false ∧ host = .domain (String.ofList name)) := by
  cases name with
  | nil => cases named
  | cons c rest =>
      rw [hostNamed] at named
      · cases number : Ipv4.endsInNumber (c :: rest) with
        | false =>
            rw [number] at named
            cases named
            exact .inr ⟨rfl, rfl⟩
        | true =>
            rw [number, if_pos rfl] at named
            cases read : Ipv4.parse? (c :: rest) with
            | none =>
                rw [read] at named
                cases named
            | some address =>
                rw [read] at named
                cases named
                exact .inl ⟨address, rfl, rfl, rfl⟩
      · simp

theorem key_spelled {domain : String} (accepted : Config.checkDomain domain = .ok ()) (host : Host)
    (parsed : Host.parse domain.toList = .ok host) :
    toLower host.text = toLower domain ↔ Canonical domain := by
  have plain := (host_plain _ host parsed).1
  constructor
  · intro same
    have ascii : ∀ c ∈ (toLower domain).toList, c.toNat < 0x80 := same ▸ host_text_lower host plain
    refine ⟨ascii, fun number => ?_⟩
    rcases host_named_text _ host (host_of_lowered accepted ascii host parsed) with
      ⟨address, _, read, rfl⟩ | ⟨other, _⟩
    · exact ⟨address, Ipv4.parse_bound _ address read, same.symm.trans (address_lower address)⟩
    · rw [number] at other
      cases other
  · rintro ⟨ascii, spelled⟩
    refine lower_twice domain host.text ascii ?_ plain
    rcases host_named_text _ host (host_of_lowered accepted ascii host parsed) with
      ⟨address, number, read, rfl⟩ | ⟨_, rfl⟩
    · obtain ⟨written, small, text⟩ := spelled number
      rw [text, Ipv4.parse_text written small] at read
      cases read
      exact text.symm
    · rw [Host.text, String.ofList_toList]

end PoliteCrawl.Url
