import PoliteCrawl.Config.Load
import PoliteCrawl.Proofs.Url.Site

set_option autoImplicit false

namespace PoliteCrawl.Config

theorem require_ok (condition : Bool) (fault : ConfigError) :
    require condition fault = .ok () ↔ condition = true := by
  cases condition <;> simp [require]

theorem both_ok (first second : Except ConfigError Unit) :
    (first >>= fun _ => second) = .ok () ↔ first = .ok () ∧ second = .ok () := by
  cases first with
  | error fault => exact ⟨fun passed => (by cases passed), fun both => (by cases both.1)⟩
  | ok done => exact ⟨fun passed => ⟨rfl, passed⟩, fun both => both.2⟩

theorem each_ok {α : Type} (test : α → Except ConfigError Unit) (items : List α) :
    items.forM test = .ok () ↔ ∀ item ∈ items, test item = .ok () := by
  induction items with
  | nil => exact iff_of_true rfl (by simp)
  | cons item rest ih =>
      change (test item >>= fun _ => rest.forM test) = .ok () ↔ _
      rw [both_ok, ih, List.forall_mem_cons]

theorem domain_accepted (domain : String) :
    checkDomain domain = .ok () ↔
      domain.toList ≠ [] ∧ (∀ c ∈ domain.toList, isDomainCharacter c = true) ∧
        (domain.toList.head?.any isDotOrHyphen = false ∧
          domain.toList.getLast?.any isDotOrHyphen = false) ∧
        hasTwoDots domain.toList = false := by
  simp only [checkDomain, both_ok, require_ok, Bool.not_eq_true', List.isEmpty_eq_false_iff,
    List.all_eq_true, Bool.and_eq_true]

theorem named_host (url : Url) (rooted : url.Rooted) : url.hostText?.isSome = true := by
  obtain ⟨host, named, real, _⟩ := rooted.host
  rw [url.named_text host named real]
  rfl

theorem seed_accepted (seed : String) :
    checkSeed seed = .ok () ↔ ∃ uri, CrawlUri.parse seed = .ok uri := by
  rw [checkSeed, CrawlUri.parse]
  cases read : Url.parse seed with
  | error cause => simp
  | ok url =>
      simp only [require_ok]
      by_cases web : url.isWeb = true
      · have host := named_host url (Url.parse_rooted seed url read web)
        simp [web, Option.isNone_eq_false_iff.mpr host]
      · simp [web]

theorem site_accepted (floor : Nat) (site : SiteConfig) (passed : checkSite floor site = .ok ()) :
    checkDomain site.domain = .ok () ∧ (∀ precedence ∈ site.precedence, precedence < floor) ∧
      ∀ seed ∈ site.seeds, checkSeed seed = .ok () := by
  rw [checkSite, both_ok] at passed
  obtain ⟨domain, rest⟩ := passed
  cases given : site.precedence with
  | none =>
      rw [given, both_ok, each_ok] at rest
      exact ⟨domain, by simp, rest.2⟩
  | some precedence =>
      simp only [given, both_ok, each_ok, require_ok, decide_eq_true_eq] at rest
      exact ⟨domain, by simpa using rest.1, rest.2⟩

theorem sites_accepted (config : Config) (passed : check config = .ok ()) (site : SiteConfig)
    (member : site ∈ config.sites) :
    checkSite config.frontier.precedenceFloor site = .ok () := by
  simp only [check, both_ok, each_ok] at passed
  exact passed.2.2.2 site member

theorem parse_decoded (text : String) (config : Config) (accepted : parse text = .ok config) :
    check config = .ok () ∧ ∃ entries, decode? entries = some config := by
  rw [parse] at accepted
  split at accepted
  · cases accepted
  · rename_i entries _
    rw [ofEntries] at accepted
    split at accepted
    · cases accepted
    · rename_i found decoded
      cases passed : check found with
      | error fault =>
          rw [passed] at accepted
          cases accepted
      | ok done =>
          rw [passed] at accepted
          cases accepted
          exact ⟨passed, entries, decoded⟩

theorem half_word_fits (value : Toml.Value) (number : Nat)
    (read : decodeHalfWord? value = some number) : number < Nat.pow 2 32 := by
  cases value with
  | integer whole =>
      simp only [decodeHalfWord?, decodeNat?, Option.ite_none_right_eq_some, Bool.and_eq_true,
        decide_eq_true_eq, Option.some.injEq] at read
      omega
  | _ => cases read

theorem field_fits (fields : Fields) (place : Nat) (name : String) (default number : Nat)
    (small : default < Nat.pow 2 32)
    (read : fields.decode? place name decodeHalfWord? default = some number) :
    number < Nat.pow 2 32 := by
  rw [Fields.decode?] at read
  split at read
  · exact half_word_fits _ number read
  · cases read
    exact small

theorem workers_fit (value : Toml.Value) (workers : WorkerConfig)
    (read : decodeWorkers? value = some workers) : workers.maxDepth < Nat.pow 2 32 := by
  simp only [decodeWorkers?, Option.bind_eq_bind, Option.bind_eq_some_iff] at read
  obtain ⟨fields, _, _, _, _, _, _, _, depth, told, whole⟩ := read
  cases whole
  exact field_fits fields 3 "max-depth" _ depth (by decide) told

theorem parse_fits (text : String) (config : Config) (accepted : parse text = .ok config) :
    config.workers.maxDepth < Nat.pow 2 32 := by
  obtain ⟨_, entries, decoded⟩ := parse_decoded text config accepted
  simp only [decode?, Option.bind_eq_bind, Option.bind_eq_some_iff] at decoded
  obtain ⟨_, _, _, _, workers, told, _, _, whole⟩ := decoded
  have fits : workers.maxDepth < Nat.pow 2 32 := by
    rw [Fields.decode?] at told
    split at told
    · exact workers_fit _ workers told
    · cases told
      decide
  cases whole
  exact fits

end PoliteCrawl.Config
