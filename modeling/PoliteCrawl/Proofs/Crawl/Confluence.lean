import PoliteCrawl.Proofs.Crawl.Schedule

set_option autoImplicit false

namespace PoliteCrawl.Crawl

open Simulation

def readSeeds (config : Config) : List CrawlUri :=
  config.seeds.filterMap fun seed => (CrawlUri.parse seed).toOption

theorem offered_seeds (seeds : List String) (filter after : UniqFilter)
    (offered : seeds.foldlM offerSeed filter = .ok after) :
    after = offerAll filter (seeds.filterMap fun seed => (CrawlUri.parse seed).toOption) := by
  induction seeds generalizing filter with
  | nil =>
      cases offered
      rfl
  | cons seed rest ih =>
      rw [List.foldlM_cons] at offered
      cases read : CrawlUri.parse seed with
      | error cause =>
          rw [offerSeed, read] at offered
          cases offered
      | ok uri =>
          rw [offerSeed, read] at offered
          have later := ih (filter.add uri).1 offered
          rw [later, List.filterMap_cons, read]
          rfl

theorem read_rooted (config : Config) (uri : CrawlUri) (member : uri ∈ readSeeds config) :
    uri.url.Rooted := by
  obtain ⟨seed, _, read⟩ := List.mem_filterMap.mp member
  cases parsed : CrawlUri.parse seed with
  | error cause =>
      rw [parsed] at read
      cases read
  | ok found =>
      rw [parsed] at read
      cases read
      exact parse_rooted seed uri parsed

theorem of_config_calm (config : Config) :
    (Routing.ofConfig config).faults = [] ∧ (Routing.ofConfig config).reassigned = [] := by
  have kept (sites : List SiteConfig) (routing : Routing) :
      (sites.foldl Routing.addSite routing).faults = routing.faults ∧
        (sites.foldl Routing.addSite routing).reassigned = routing.reassigned := by
    induction sites generalizing routing with
    | nil => exact ⟨rfl, rfl⟩
    | cons site rest ih =>
        have added : (routing.addSite site).faults = routing.faults ∧
            (routing.addSite site).reassigned = routing.reassigned := by
          rw [Routing.addSite]
          split <;> exact ⟨rfl, rfl⟩
        obtain ⟨faults, reassigned⟩ := ih (routing.addSite site)
        exact ⟨faults.trans added.1, reassigned.trans added.2⟩
  exact kept config.sites (Routing.new config.frontier.defaultPrecedence)

theorem new_remembers (size : Nat) : Remembers (fun _ => []) (UniqFilter.new size) :=
  ⟨rfl, by simp [UniqFilter.new], by simp [UniqFilter.new, known, pendingAt, atSite]⟩

theorem seeded_explored (config : Config) (origin : Time.Timestamp) (filter : UniqFilter)
    (seeded : seedFilter config = .ok filter) :
    Explored config.workers (fun key => atSite key (seedUris config))
      (Frontier.new config.frontier (Routing.ofConfig config) (Politeness.ofConfig config.politeness)
        (.memory filter) origin) [] [] := by
  have whole := offered_seeds config.seeds _ filter seeded
  obtain ⟨remembers, grown, added⟩ := offer_all (readSeeds config)
    (new_remembers config.frontier.flushBatchSize) (read_rooted config)
  have same : filter = offerAll (UniqFilter.new config.frontier.flushBatchSize) (readSeeds config) :=
    whole
  rw [← same] at remembers grown added
  have pending (key : String) : pendingAt key filter = unseen [] (atSite key (seedUris config)) :=
    grown key
  obtain ⟨calm, homes⟩ := of_config_calm config
  refine ⟨⟨calm, ⟨.nil, .nil, fun _ => rfl⟩, rfl, homes, fun _ => ?_, fun key uri member => ?_⟩,
    ⟨{ filter with pending := [], finished := 0, closed := false }, rfl, remembers.seen, ?_⟩,
    fun key => ⟨0, ?_⟩, fun key => rfl, rfl⟩
  · simp [Frontier.new, Gateway.isOpen, remembers.open_]
  · have waiting : uri ∈ atSite key (filter.pending.map addressed) := member
    obtain ⟨listed, site⟩ := at_site_site waiting
    obtain ⟨found, waits, named⟩ := List.mem_map.mp listed
    exact ⟨named ▸ remembers.rooted found waits, named ▸ rfl, site⟩
  · change filter.added = 0 + (0 + filter.pending.length)
    simp only [UniqFilter.new, List.length_nil] at added
    omega
  · rw [Exploration.after, Exploration.start, ← pending key]
    rfl

theorem start_calling (count id : Nat) (phase : WorkerPhase)
    (found : ((((List.range' 1 count).map Worker.start).find? (·.id = id)).map (·.phase)) =
      some phase) : ∃ id, phase = .calling (Call.start id) := by
  obtain ⟨worker, present, same⟩ := Option.map_eq_some_iff.mp found
  obtain ⟨number, _, started⟩ := List.mem_map.mp (List.mem_of_find?_eq_some present)
  exact ⟨number, by rw [← same, ← started, Worker.start]⟩

theorem start_progress (config : Config) (origin : Time.Timestamp) (begun : Simulation)
    (start : Simulation.start config origin = .ok begun) :
    Progress config.workers (fun key => atSite key (seedUris config)) begun [] [] := by
  rw [Simulation.start, seededFrontier] at start
  cases seeded : seedFilter config with
  | error cause =>
      rw [seeded] at start
      cases start
  | ok filter =>
      rw [seeded] at start
      cases start
      have explored := seeded_explored config origin filter seeded
      obtain ⟨keeps, target⟩ := Frontier.request_keeps _ .run explored.sound (by simp [Frontier.new,
        Frontier.target, StateCell.new])
      refine ⟨rfl, explored.keeps keeps, ⟨fun id uri until_ found => ?_,
        fun id other mine theirs now later found => ?_, fun id call found => ?_⟩,
        fun _ finish => ?_, fun stopped => ?_⟩
      · obtain ⟨_, same⟩ := start_calling config.workers.count id _ found
        cases same
      · obtain ⟨_, same⟩ := start_calling config.workers.count id _ found
        cases same
      · obtain ⟨_, same⟩ := start_calling config.workers.count id _ found
        cases same
        simp [Call.start]
      · rw [target] at finish
        cases finish
      · cases stopped

theorem perm_of_sites (first second : List CrawlUri)
    (same : ∀ key, atSite key first = atSite key second) : first.Perm second := by
  refine List.perm_iff_count.mpr fun uri => ?_
  have here (uris : List CrawlUri) : (atSite uri.siteKey uris).count uri = uris.count uri :=
    List.count_filter (decide_eq_true rfl)
  rw [← here first, ← here second, same]

-- What a crawl comes to: each site explored, all URIs done with, and all of them counted.
structure Complete (config : Config) (simulation : Simulation) (emitted : List CrawlUri) :
    Prop where
  sites : ∀ key, Explores config.workers (atSite key (seedUris config)) (atSite key emitted)
  queued : simulation.frontier.snapshot.queued = 0
  inProcess : simulation.frontier.snapshot.inProcess = 0
  failed : simulation.frontier.snapshot.failed = 0
  disregarded : simulation.frontier.snapshot.disregarded = 0
  retried : simulation.frontier.snapshot.retried = 0
  pending : ∃ filter, simulation.frontier.gateway = .memory filter ∧ filter.pending = []
  succeeded : simulation.frontier.snapshot.succeeded = emitted.length
  dispatched : simulation.frontier.snapshot.dispatched = emitted.length
  candidates : simulation.frontier.snapshot.candidateUris = emitted.length

theorem Progress.complete {config : Config} {simulation : Simulation}
    {dispatched finished : List CrawlUri}
    (progress : Progress config.workers (fun key => atSite key (seedUris config)) simulation
      dispatched finished)
    (stopped : simulation.monitor = .stopped) : Complete config simulation dispatched := by
  obtain ⟨total, empty⟩ := progress.drained stopped
  have explored := progress.explored
  have same (key : String) : atSite key dispatched = atSite key finished := by
    rw [explored.order key, flying, empty key]
    simp
  have lengths : dispatched.length = finished.length :=
    (perm_of_sites dispatched finished same).length_eq
  obtain ⟨bare, knows⟩ := explored.knows
  obtain ⟨filter, memory, shape⟩ := Frontier.record_memory simulation.frontier.gateway bare
    knows.record
  have none : simulation.frontier.stats.queued = 0 ∧ filter.pending = [] := by
    rw [Frontier.total, memory] at total
    have pending : filter.pending.length = 0 := (Nat.add_eq_zero_iff.mp total).2
    exact ⟨(Nat.add_eq_zero_iff.mp total).1, List.length_eq_zero_iff.mp pending⟩
  have claims : simulation.frontier.claims = [] := by
    refine List.eq_nil_iff_forall_not_mem.mpr fun key claimed => ?_
    obtain ⟨queue, found, _, _, _, some, _⟩ :=
      Frontier.claimed_queue simulation.frontier key explored.sound.registered claimed
    have items := (List.append_eq_nil_iff.mp (empty key)).1
    rw [Frontier.lane_of_queue simulation.frontier key queue found] at items
    exact some items
  have added : filter.added = finished.length := by
    have whole := knows.added
    rw [shape, total] at whole
    exact whole
  have score := explored.score
  refine ⟨fun key => ?_, none.1, congrArg List.length claims, congrArg Stats.failed score,
    congrArg Stats.disregarded score, congrArg Stats.retried score, ⟨filter, memory, none.2⟩,
    (congrArg Stats.succeeded score).trans lengths.symm, congrArg Stats.dispatched score, ?_⟩
  · obtain ⟨rounds, reached⟩ := explored.reached key
    exact ⟨rounds, by rw [reached, same key, empty key]⟩
  · rw [lengths, ← added]
    exact congrArg Gateway.added memory

theorem play_complete (config : Config) (origin : Time.Timestamp) (begun : Simulation)
    (turns : List Turn) (start : Simulation.start config origin = .ok begun)
    (ended : (begun.play turns).hasEnded = true) :
    Complete config (begun.play turns) (begun.dispatched turns) := by
  obtain ⟨finished, progress⟩ := (start_progress config origin begun start).play turns
  simp only [hasEnded, Bool.and_eq_true, decide_eq_true_eq] at ended
  exact progress.complete ended.1.1

theorem simulate_complete (config : Config) (origin : Time.Timestamp) (limit : Option Time.Instant)
    (last : Simulation) (simulated : simulate config origin limit = .ok last)
    (ended : last.hasEnded = true) : ∃ emitted, Complete config last emitted := by
  rw [simulate] at simulated
  cases start : Simulation.start config origin with
  | error cause =>
      rw [start] at simulated
      cases simulated
  | ok begun =>
      rw [start] at simulated
      by_cases restless : config.frontier.maxSleep = 0
      · simp only [if_pos restless] at simulated
        cases simulated
      · simp only [if_neg restless] at simulated
        obtain ⟨turns, played⟩ := finish_played roundBound begun limit
        have same : begun.play turns = last := played.symm.trans (Except.ok.inj simulated)
        rw [← same] at ended ⊢
        exact ⟨begun.dispatched turns, play_complete config origin begun turns start ended⟩

/-- However the turns of workers, supervisor and monitor are interleaved, wherever the workers are
interrupted in their calls and whenever the clock jumps: if a crawl comes to its end, then at every site
the URIs that were dispatched are, in their order, those that the exploration from the site's seeds
emits; nothing is queued, in flight or pending, nothing failed, and all that was dispatched was taken in
once and succeeded. Any other crawl with the same seeds and the same links, whatever else it is
configured by, comes to the same at every site and in all numbers. -/
theorem crawl_explores_sites (config : Config) (origin : Time.Timestamp) (begun : Simulation)
    (turns : List Turn) (start : Simulation.start config origin = .ok begun)
    (ended : (begun.play turns).hasEnded = true) :
    Complete config (begun.play turns) (begun.dispatched turns) ∧
      ∀ (other : Config) (time : Time.Timestamp) (started : Simulation) (others : List Turn),
        other.seeds = config.seeds →
        other.workers.linksPerPage = config.workers.linksPerPage →
        other.workers.maxDepth = config.workers.maxDepth →
        Simulation.start other time = .ok started →
        (started.play others).hasEnded = true →
        (∀ key, atSite key (started.dispatched others) = atSite key (begun.dispatched turns)) ∧
          (started.dispatched others).length = (begun.dispatched turns).length := by
  have whole := play_complete config origin begun turns start ended
  refine ⟨whole, fun other time started others seeds pages depth again last => ?_⟩
  have also := play_complete other time started others again last
  have same (key : String) :
      atSite key (started.dispatched others) = atSite key (begun.dispatched turns) := by
    have here := also.sites key
    have uris : seedUris other = seedUris config := by
      rw [seedUris, seedUris, seeds]
    rw [uris] at here
    exact here.unique ((whole.sites key).transfer pages depth)
  exact ⟨same, (perm_of_sites _ _ same).length_eq⟩

def smallCrawl : Config :=
  { Config.default with
    politeness := { PolitenessConfig.default with minDelayMs := 0, maxDelayMs := 0 }
    workers := { count := 1, simulatedFetchMs := 0, linksPerPage := 1, maxDepth := 1 }
    sites := [{ domain := "a.com", precedence := none, seeds := ["https://a.com/"] }] }

def patientCrawl : Config :=
  { smallCrawl with
    frontier :=
      { FrontierConfig.default with
        holdQueues := true, flushBatchSize := 1, balanceReplenishAmount := 1 }
    politeness := PolitenessConfig.default
    workers := { count := 2, simulatedFetchMs := 50, linksPerPage := 1, maxDepth := 1 }
    sites := [{ domain := "a.com", precedence := some 3, seeds := ["https://a.com/"] }] }

def smallTurns : List Turn :=
  (List.replicate 6 [.supervisor, .worker 1 Call.turnBound, .monitor]).flatten

def patientTurns : List Turn :=
  (List.range 20).flatMap fun second =>
    [.clock (Time.millis (1000 * second)), .worker 1 2, .supervisor, .worker 2 1, .worker 1 3,
      .monitor]

def midnight : Time.Timestamp :=
  { seconds := 0, nanos := 0 }

def endsWith (config : Config) (turns : List Turn) (pages : List String) : Bool :=
  match Simulation.start config midnight with
  | .ok begun => (begun.play turns).hasEnded && (begun.dispatched turns).map CrawlUri.text = pages
  | .error _ => false

theorem ends_with (config : Config) (turns : List Turn) (pages : List String)
    (ends : endsWith config turns pages = true) :
    ∃ begun, Simulation.start config midnight = .ok begun ∧ (begun.play turns).hasEnded = true ∧
      (begun.dispatched turns).map CrawlUri.text = pages := by
  rw [endsWith] at ends
  cases start : Simulation.start config midnight with
  | error cause =>
      rw [start] at ends
      cases ends
  | ok begun =>
      rw [start] at ends
      simp only [Bool.and_eq_true, decide_eq_true_eq] at ends
      exact ⟨begun, rfl, ends.1, ends.2⟩

theorem crawl_explores_sites_two_pages :
    ∃ begun started, Simulation.start smallCrawl midnight = .ok begun ∧
      Simulation.start patientCrawl midnight = .ok started ∧
      (begun.play smallTurns).hasEnded = true ∧ (started.play patientTurns).hasEnded = true ∧
      (begun.dispatched smallTurns).map CrawlUri.text = ["https://a.com/", "https://a.com/0"] ∧
      Complete smallCrawl (begun.play smallTurns) (begun.dispatched smallTurns) ∧
      ∀ key, atSite key (started.dispatched patientTurns) =
        atSite key (begun.dispatched smallTurns) := by
  obtain ⟨begun, start, ended, pages⟩ := ends_with smallCrawl smallTurns
    ["https://a.com/", "https://a.com/0"] (by decide +kernel)
  obtain ⟨started, again, last, _⟩ := ends_with patientCrawl patientTurns
    ["https://a.com/", "https://a.com/0"] (by decide +kernel)
  obtain ⟨complete, same⟩ :=
    crawl_explores_sites smallCrawl midnight begun smallTurns start ended
  exact ⟨begun, started, start, again, ended, last, pages, complete,
    (same patientCrawl midnight started patientTurns rfl rfl rfl again last).1⟩

end PoliteCrawl.Crawl
