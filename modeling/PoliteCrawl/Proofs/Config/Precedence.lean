import PoliteCrawl.Proofs.Crawl.Confluence
import PoliteCrawl.Proofs.Url.Spelling

set_option autoImplicit false

namespace PoliteCrawl

section Tables

variable {κ α : Type} [DecidableEq κ]

theorem Assoc.get_put (key other : κ) (value : α) (table : Assoc κ α) :
    Assoc.get? (Assoc.put key value table) other =
      if key = other then some value else Assoc.get? table other := by
  induction table with
  | nil => rfl
  | cons pair rest ih =>
      obtain ⟨first, old⟩ := pair
      by_cases here : first = key
      · subst here
        rw [Assoc.put, if_pos rfl, Assoc.get?, Assoc.get?]
        split <;> rfl
      · rw [Assoc.put, if_neg here, Assoc.get?, Assoc.get?, ih]
        by_cases same : first = other
        · rw [if_pos same, if_pos same, if_neg fun clash => here (same.trans clash.symm)]
        · rw [if_neg same, if_neg same]

end Tables

namespace Routing

open PoliteCrawl.Url

def told (routing : Routing) (key : String) : Option Nat :=
  Assoc.get? routing.precedences key

theorem add_site_told (routing : Routing) (site : SiteConfig) (key : String) :
    (routing.addSite site).told key =
      if Text.toLower site.domain = key then site.precedence.or (routing.told key)
      else routing.told key := by
  rw [addSite]
  cases site.precedence with
  | none => rw [Option.none_or, ite_self]
  | some precedence => exact Assoc.get_put _ key precedence routing.precedences

theorem add_site_default (routing : Routing) (site : SiteConfig) :
    (routing.addSite site).defaultPrecedence = routing.defaultPrecedence := by
  rw [addSite]
  split <;> rfl

theorem add_sites_default (sites : List SiteConfig) (routing : Routing) :
    (sites.foldl addSite routing).defaultPrecedence = routing.defaultPrecedence := by
  induction sites generalizing routing with
  | nil => rfl
  | cons site rest ih => exact (ih _).trans (add_site_default routing site)

-- What later sites make of a key depends on what was told of it before, and on nothing else.
theorem add_sites_congr (sites : List SiteConfig) (first second : Routing) (key : String)
    (same : first.told key = second.told key) :
    (sites.foldl addSite first).told key = (sites.foldl addSite second).told key := by
  induction sites generalizing first second with
  | nil => exact same
  | cons site rest ih =>
      refine ih _ _ ?_
      rw [add_site_told, add_site_told, same]

theorem add_sites_keep (sites : List SiteConfig) (routing : Routing) (key : String) (precedence : Nat)
    (told : routing.told key = some precedence)
    (last : ∀ site ∈ sites, Text.toLower site.domain = key →
      ∀ another ∈ site.precedence, another = precedence) :
    (sites.foldl addSite routing).told key = some precedence := by
  induction sites generalizing routing with
  | nil => exact told
  | cons site rest ih =>
      obtain ⟨here, later⟩ := List.forall_mem_cons.mp last
      refine ih _ ?_ later
      rw [add_site_told, told]
      split
      · rename_i same
        cases given : site.precedence with
        | none => rfl
        | some another => exact congrArg some (here same another given)
      · rfl

theorem of_config_key (config : Config) (url : Url) (host : Host) (named : url.host = some host)
    (real : host ≠ .domain "") (bare : url.port = none) :
    (ofConfig config).siteKey url = Text.toLower host.text := by
  have key : url.siteKey? = some (Text.toLower host.text) := by
    rw [siteKey?, url.named_text host named real, portText, bare]
    exact congrArg some String.append_empty
  rw [siteKey, key, (Crawl.of_config_calm config).2]
  rfl

/-- A precedence that a valid configuration gives to a site, where no later entry for the same host gives
another, and the URLs of the web whose authority is the domain of that site. Such a URL has the key under
which the precedence is filed if and only if the domain is canonical: its lower case is ASCII, and not an
address spelled in some other way. Then the precedence of its key is the one that was given; otherwise it
is what it would be without the entry. -/
theorem precedences_heed_spelling (config : Config) (before after : List SiteConfig)
    (site : SiteConfig) (precedence : Nat) (text : String) (url : Url)
    (valid : Config.check config = .ok ()) (sites : config.sites = before ++ site :: after)
    (given : site.precedence = some precedence)
    (last : ∀ other ∈ after, Host.parse other.domain.toList = Host.parse site.domain.toList →
      ∀ another ∈ other.precedence, another = precedence)
    (named : NamesHost text site.domain) (read : Url.parse text = .ok url) :
    let routing := ofConfig config
    let without := ofConfig { config with sites := before ++ after }
    let key := routing.siteKey url
    (key = Text.toLower site.domain ↔ Canonical site.domain) ∧
      (Canonical site.domain → routing.precedence key = precedence) ∧
      (¬Canonical site.domain → routing.precedence key = without.precedence key) := by
  intro routing without key
  have accepted (entry : SiteConfig) (member : entry ∈ config.sites) :
      Config.checkDomain entry.domain = .ok () :=
    (Config.site_accepted _ entry (Config.sites_accepted config valid entry member)).1
  have here := accepted site (sites ▸ List.mem_append_right _ List.mem_cons_self)
  obtain ⟨host, parsed, owns, bare⟩ := names_host text site.domain
    ((Config.domain_accepted _).mp here).1 (accepted_unmarked here) named url read
  have keyed : key = Text.toLower host.text :=
    of_config_key config url host owns (host_plain _ host parsed).2 bare
  have spelled : key = Text.toLower site.domain ↔ Canonical site.domain := by
    rw [keyed]
    exact key_spelled here host parsed
  have whole : routing = after.foldl addSite
      ((before.foldl addSite (new config.frontier.defaultPrecedence)).addSite site) := by
    simp only [routing, ofConfig, sites, List.foldl_append, List.foldl_cons]
  refine ⟨spelled, fun canonical => ?_, fun foreign => ?_⟩
  · have same : Text.toLower site.domain = key := (spelled.mpr canonical).symm
    have kept : routing.told key = some precedence := by
      rw [whole]
      refine add_sites_keep after _ key precedence ?_ fun other member lower => ?_
      · rw [add_site_told, if_pos same, given, Option.some_or]
      · have listed : other ∈ config.sites :=
          sites ▸ List.mem_append_right _ (List.mem_cons_of_mem site member)
        refine last other member ?_
        exact (same_host here (accepted other listed) (same.trans lower.symm) canonical.ascii).symm
    rw [Routing.precedence, ← told, kept, Option.getD_some]
  · have apart : Text.toLower site.domain ≠ key := fun same => foreign (spelled.mp same.symm)
    have others : routing.told key = without.told key := by
      simp only [whole, without, ofConfig, List.foldl_append]
      refine add_sites_congr after _ _ key ?_
      rw [add_site_told, if_neg apart]
    have defaults : routing.defaultPrecedence = without.defaultPrecedence :=
      (add_sites_default _ _).trans (add_sites_default _ _).symm
    rw [Routing.precedence, Routing.precedence, ← told, ← told, others, defaults]

def capitalSite : Config :=
  { Config.default with sites := [{ domain := "A.com", precedence := some 7, seeds := [] }] }

theorem precedences_heed_spelling_capital_letter :
    Config.check capitalSite = .ok () ∧ NamesHost "http://A.com/x" "A.com" ∧ Canonical "A.com" ∧
      ∃ url, Url.parse "http://A.com/x" = .ok url ∧
        (ofConfig capitalSite).precedence ((ofConfig capitalSite).siteKey url) = 7 := by
  have valid : Config.check capitalSite = .ok () := by decide
  have named : NamesHost "http://A.com/x" "A.com" := by
    simpa using web_text_names "http" "A.com" "/x" (.inl rfl) (by decide) (by simp; rfl)
  have canonical : Canonical "A.com" :=
    ⟨Text.ascii_letters _ (by decide), fun number => absurd number (by decide)⟩
  have read : Url.parse "http://A.com/x" = .ok
      { scheme := "http", username := "", password := "", host := some (.domain "a.com"), port := none,
        path := .segments ["x"], query := none, fragment := none } := by
    decide +kernel
  have heeded := precedences_heed_spelling capitalSite [] [] _ 7 _ _ valid rfl rfl (by simp) named read
  exact ⟨valid, named, canonical, _, read, heeded.2.1 canonical⟩

def foreignSite : Config :=
  { Config.default with sites := [{ domain := "bücher.de", precedence := some 7, seeds := [] }] }

theorem foreign_letters : "bücher.de".toList = 'b' :: 'ü' :: "cher.de".toList :=
  rfl

set_option maxRecDepth 100000 in
theorem umlaut_letter : Config.isDomainCharacter 'ü' = true ∧
    Domain.fold? 'ü'.toNat = some ['ü'.toNat] := by
  have letter : Text.alphanumericTable.holds 'ü'.toNat = true := by
    apply Text.CodeTable.read_fact (fun table => table.holds 'ü'.toNat = true)
    · with_reducible rfl
    · decide +kernel
  have kept : Domain.keptTable.holds 'ü'.toNat = true := by
    apply Text.CodeTable.read_fact (fun table => table.holds 'ü'.toNat = true)
    · with_reducible rfl
    · decide +kernel
  rw [Config.isDomainCharacter, Text.isAlphanumeric, if_neg (by decide), letter,
    Domain.fold?, if_neg (by decide), if_pos kept]
  exact ⟨rfl, rfl⟩

theorem foreign_accepted : Config.checkDomain "bücher.de" = .ok () := by
  refine (Config.domain_accepted _).mpr ⟨by simp, ?_, by decide, by decide⟩
  rw [foreign_letters]
  exact List.forall_mem_cons.mpr
    ⟨by decide, List.forall_mem_cons.mpr ⟨umlaut_letter.1, List.all_eq_true.mp (by decide)⟩⟩

theorem foreign_folded : Domain.foldAll? ("bücher.de".toList.map Char.toNat) =
    some ("bücher.de".toList.map Char.toNat) := by
  have early := Domain.fold_letter 'b' (.inl (by decide))
  have late := Domain.fold_all_letters "cher.de".toList (by simp [Text.LowersToAscii])
  rw [foreign_letters, List.map_cons, List.map_cons, Domain.foldAll?, early, Domain.foldAll?,
    umlaut_letter.2, late]
  rfl

theorem foreign_ascii : Domain.toAscii? "bücher.de".toList = some "xn--bcher-kva.de".toList := by
  let first := "bücher".toList.map Char.toNat
  let second := "de".toList.map Char.toNat
  have plain : Domain.isPlain "bücher.de".toList = false := by decide
  have composed : Text.NormalForm.normalize ("bücher.de".toList.map Char.toNat) =
      "bücher.de".toList.map Char.toNat := if_pos (by decide)
  have parts : (Domain.labels ("bücher.de".toList.map Char.toNat)).mapM Domain.revealLabel? =
      some [first, second] := by decide
  have low : ∀ label ∈ [first, second], ∀ code ∈ label, code < 0x300 := by decide
  have free : ∀ label ∈ [first, second], ∀ code ∈ label,
      Domain.isForbidden (Char.ofNat code) = false := by decide
  have direct : [first, second].any (·.any Domain.isRightToLeft) = false := by
    simp only [List.any_eq_false, Bool.not_eq_true]
    exact fun label member code listed => Domain.left_to_right code (low label member code listed)
  have fit : [first, second].all Domain.labelFits = true :=
    List.all_eq_true.mpr fun label member =>
      Domain.label_low label (low label member) (free label member)
  have encoded : Punycode.encode first = "bcher-kva".toList :=
    Punycode.encode_decode _ (by simp) _ (by decide)
  rw [Domain.toAscii?, if_neg (by rw [plain]; decide), foreign_folded]
  simp only [composed, parts, direct, fit]
  simp only [List.map_cons, Domain.asciiLabel, encoded]
  decide

theorem foreign_precedence_unheeded :
    Config.check foreignSite = .ok () ∧ NamesHost "http://bücher.de/" "bücher.de" ∧
      ∃ url, Url.parse "http://bücher.de/" = .ok url ∧
        (ofConfig foreignSite).siteKey url = "xn--bcher-kva.de" ∧
        (ofConfig foreignSite).precedence "xn--bcher-kva.de" = 1 := by
  have unmarked := accepted_unmarked foreign_accepted
  have named : NamesHost "http://bücher.de/" "bücher.de" := by
    simpa using web_text_names "http" "bücher.de" "/" (.inl rfl) foreign_accepted (by simp; rfl)
  have parsed : Host.parse "bücher.de".toList = .ok (.domain "xn--bcher-kva.de") := by
    rw [host_unmarked _ unmarked, foreign_ascii]
    decide
  have valid : Config.check foreignSite = .ok () := by
    simp only [Config.check, Config.both_ok, Config.each_ok]
    refine ⟨by decide, by decide, by decide, fun site member => ?_⟩
    rw [List.mem_singleton.mp member, Config.checkSite, Config.both_ok]
    exact ⟨foreign_accepted, by decide⟩
  obtain ⟨scheme, tail, reads⟩ := parse_named _ _ (by simp) unmarked named
  rw [parsed] at reads
  have key : Text.toLower "xn--bcher-kva.de" = "xn--bcher-kva.de" := by decide
  refine ⟨valid, named, _, reads, ?_, ?_⟩
  · rw [of_config_key foreignSite _ (.domain "xn--bcher-kva.de") rfl (by decide) rfl]
    exact key
  · have apart : Text.toLower "bücher.de" ≠ "xn--bcher-kva.de" := by
      intro same
      have ascii : ∀ c ∈ (Text.toLower "bücher.de").toList, c.toNat < 0x80 :=
        same ▸ Text.ascii_letters "xn--bcher-kva.de" (by decide)
      have umlaut := (Text.to_lower_ascii "bücher.de" ascii).1 'ü' (by decide)
      exact absurd umlaut (by decide)
    have filed := add_site_told (new 1) { domain := "bücher.de", precedence := some 7, seeds := [] }
      "xn--bcher-kva.de"
    rw [if_neg apart] at filed
    rw [Routing.precedence, ← told]
    exact congrArg (Option.getD · 1) filed

end Routing

end PoliteCrawl
