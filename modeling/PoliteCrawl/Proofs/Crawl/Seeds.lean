import PoliteCrawl.Proofs.Config.Check
import PoliteCrawl.Proofs.Crawl.Confluence

set_option autoImplicit false

namespace PoliteCrawl.Crawl

def isFirst (uris : List CrawlUri) (entry : CrawlUri × Nat) : Bool :=
  entry.1.uniqKey ∉ (uris.take entry.2).map CrawlUri.uniqKey

def firsts (uris : List CrawlUri) : List CrawlUri :=
  (uris.zipIdx.filter (isFirst uris)).map (·.1)

def filledFilter (size : Nat) (uris : List CrawlUri) : UniqFilter :=
  { UniqFilter.new size with
    seen := ((firsts uris).map CrawlUri.uniqKey).reverse
    pending := firsts uris
    added := (firsts uris).length }

theorem unseen_places (before uris : List CrawlUri) :
    unseen (before.map CrawlUri.uniqKey) uris =
      ((uris.zipIdx before.length).filter (isFirst (before ++ uris))).map (·.1) := by
  induction uris generalizing before with
  | nil => rfl
  | cons uri rest ih =>
      have later := ih (before ++ [uri])
      rw [List.append_assoc, List.singleton_append, List.length_append, List.length_singleton] at later
      have first : isFirst (before ++ uri :: rest) (uri, before.length) =
          decide (uri.uniqKey ∉ before.map CrawlUri.uniqKey) := by
        rw [isFirst, List.take_left]
      rw [unseen, List.zipIdx_cons, List.filter_cons, first]
      by_cases met : uri.uniqKey ∈ before.map CrawlUri.uniqKey
      · have same : unseen (before.map CrawlUri.uniqKey) rest =
            unseen ((before ++ [uri]).map CrawlUri.uniqKey) rest := by
          refine unseen_congr _ _ _ fun other _ => ?_
          rw [List.map_append, List.mem_append, List.map_singleton, List.mem_singleton]
          exact ⟨.inl, fun either => either.elim id fun again => again ▸ met⟩
        rw [if_pos met, same, later, if_neg (by simpa using met)]
      · have same : unseen (uri.uniqKey :: before.map CrawlUri.uniqKey) rest =
            unseen ((before ++ [uri]).map CrawlUri.uniqKey) rest := by
          refine unseen_congr _ _ _ fun other _ => ?_
          rw [List.map_append, List.mem_append, List.map_singleton, List.mem_singleton,
            List.mem_cons]
          exact or_comm
        rw [if_neg met, same, later, if_pos (by simpa using met), List.map_cons]

theorem unseen_firsts (uris : List CrawlUri) : unseen [] uris = firsts uris :=
  unseen_places [] uris

theorem offer_unseen (uris : List CrawlUri) (filter : UniqFilter) (open_ : filter.closed = false) :
    offerAll filter uris =
      { filter with
        seen := ((unseen filter.seen uris).map CrawlUri.uniqKey).reverse ++ filter.seen
        pending := filter.pending ++ unseen filter.seen uris
        added := filter.added + (unseen filter.seen uris).length } := by
  induction uris generalizing filter with
  | nil => simp [offerAll, unseen]
  | cons uri rest ih =>
      change offerAll (filter.add uri).1 rest = _
      rw [unseen]
      by_cases met : uri.uniqKey ∈ filter.seen
      · rw [add_seen uri met, if_pos met]
        exact ih filter open_
      · have still : (filter.add uri).1.closed = false := by
          rw [add_new uri open_ met]
          exact open_
        rw [ih _ still, add_new uri open_ met, if_neg met]
        simp [Nat.add_assoc, Nat.add_comm 1]

theorem offer_filled (size : Nat) (uris : List CrawlUri) :
    offerAll (UniqFilter.new size) uris = filledFilter size uris := by
  rw [offer_unseen uris _ rfl]
  simp [UniqFilter.new, filledFilter, unseen_firsts]

theorem offer_seeds (seeds : List String) (uris : List CrawlUri) (filter : UniqFilter)
    (read : seeds.mapM CrawlUri.parse = .ok uris) :
    seeds.foldlM offerSeed filter = .ok (offerAll filter uris) := by
  induction seeds generalizing uris filter with
  | nil =>
      cases read
      rfl
  | cons seed rest ih =>
      rw [List.mapM_cons] at read
      cases first : CrawlUri.parse seed with
      | error cause =>
          rw [first] at read
          cases read
      | ok uri =>
          cases others : rest.mapM CrawlUri.parse with
          | error cause =>
              rw [first, others] at read
              cases read
          | ok later =>
              rw [first, others] at read
              cases read
              rw [List.foldlM_cons, offerSeed, first]
              exact ih later (filter.add uri).1 others

theorem read_all (seeds : List String)
    (each : ∀ seed ∈ seeds, ∃ uri, CrawlUri.parse seed = .ok uri) :
    ∃ uris, seeds.mapM CrawlUri.parse = .ok uris := by
  induction seeds with
  | nil => exact ⟨[], rfl⟩
  | cons seed rest ih =>
      obtain ⟨uri, first⟩ := each seed List.mem_cons_self
      obtain ⟨uris, later⟩ := ih fun other member => each other (List.mem_cons_of_mem seed member)
      refine ⟨uri :: uris, ?_⟩
      rw [List.mapM_cons, first, later]
      rfl

theorem parse_hosted (text kept : String) : CrawlUri.parse text ≠ .error (.noHost kept) := by
  intro refused
  rw [CrawlUri.parse] at refused
  cases read : Url.parse text with
  | error cause =>
      rw [read] at refused
      cases refused
  | ok url =>
      simp only [read] at refused
      by_cases web : url.isWeb = true
      · have host := Config.named_host url (Url.parse_rooted text url read web)
        simp [web, Option.isNone_eq_false_iff.mpr host] at refused
      · simp [web] at refused

theorem accepted_reads (text : String) (config : Config)
    (accepted : Config.parse text = .ok config) :
    ∃ uris, config.seeds.mapM CrawlUri.parse = .ok uris := by
  have checked := (Config.parse_decoded text config accepted).1
  refine read_all config.seeds fun seed member => ?_
  obtain ⟨site, listed, here⟩ := List.mem_flatMap.mp member
  have passed := Config.site_accepted _ site (Config.sites_accepted config checked site listed)
  exact (Config.seed_accepted seed).mp (passed.2.2 seed here)

theorem seeded_filled (config : Config) (origin : Time.Timestamp) (uris : List CrawlUri)
    (read : config.seeds.mapM CrawlUri.parse = .ok uris) :
    seededFrontier config origin = .ok (Frontier.new config.frontier (Routing.ofConfig config)
      (Politeness.ofConfig config.politeness)
      (.memory (filledFilter config.frontier.flushBatchSize uris)) origin) := by
  rw [seededFrontier, seedFilter, offer_seeds config.seeds uris _ read, offer_filled]
  rfl

/-- The check of a configuration and the crawl take the same texts for seeds: those that read as a URL of
the web, and none of these is without a host. So a crawl can be set up with every configuration that was
accepted: all of its seeds are read, the frontier is the empty one, and its filter holds, in the order of
the configuration, the first of the seeds with each key and nothing else, has seen these keys alone, and
counts them. -/
theorem accepted_seeds_fill_filter (text : String) (config : Config) (origin : Time.Timestamp)
    (accepted : Config.parse text = .ok config) :
    (∀ seed, Config.checkSeed seed = .ok () ↔ ∃ uri, CrawlUri.parse seed = .ok uri) ∧
      (∀ seed url, Url.parse seed = .ok url → url.isWeb = true → url.hostText?.isSome = true) ∧
      (∀ seed kept, CrawlUri.parse seed ≠ .error (.noHost kept)) ∧
      ∃ uris, config.seeds.mapM CrawlUri.parse = .ok uris ∧
        seededFrontier config origin = .ok (Frontier.new config.frontier (Routing.ofConfig config)
          (Politeness.ofConfig config.politeness)
          (.memory (filledFilter config.frontier.flushBatchSize uris)) origin) := by
  obtain ⟨uris, read⟩ := accepted_reads text config accepted
  exact ⟨Config.seed_accepted, fun seed url parsed web =>
    Config.named_host url (Url.parse_rooted seed url parsed web), parse_hosted, uris, read,
    seeded_filled config origin uris read⟩

-- Three seeds of one site, the second of which differs from the first by its fragment alone.
def seedText : String :=
  "[[site]]\ndomain = \"a.com\"\nseeds = [\"https://a.com/\", \"https://A.com/#top\", \"http://a.com/b\"]\n"

theorem accepted_seeds_fill_filter_three_seeds :
    ∃ config uris, Config.parse seedText = .ok config ∧
      config.seeds.mapM CrawlUri.parse = .ok uris ∧
      (firsts uris).map CrawlUri.text = ["https://a.com/", "http://a.com/b"] ∧
      seededFrontier config midnight = .ok (Frontier.new config.frontier (Routing.ofConfig config)
        (Politeness.ofConfig config.politeness)
        (.memory (filledFilter config.frontier.flushBatchSize uris)) midnight) := by
  have kept : ((Config.parse seedText).toOption.bind fun config =>
      (config.seeds.mapM CrawlUri.parse).toOption.map fun uris =>
        (firsts uris).map CrawlUri.text) = some ["https://a.com/", "http://a.com/b"] := by
    decide +kernel
  cases accepted : Config.parse seedText with
  | error fault =>
      rw [accepted] at kept
      cases kept
  | ok config =>
      obtain ⟨_, _, _, uris, read, seeded⟩ :=
        accepted_seeds_fill_filter seedText config midnight accepted
      rw [accepted] at kept
      simp only [Except.toOption, Option.bind_some, read, Option.map_some, Option.some.injEq] at kept
      exact ⟨config, uris, rfl, read, kept, seeded⟩

end PoliteCrawl.Crawl
