import Mathlib.Algebra.BigOperators.Group.Finset.Basic
import Mathlib.Algebra.BigOperators.Ring.Finset
import Mathlib.Algebra.Order.BigOperators.Group.List
import Mathlib.Algebra.Order.Ring.Nat
import Mathlib.Data.Multiset.Count
import PoliteCrawl.Proofs.Crawl.Discovery
import PoliteCrawl.Proofs.Crawl.Seeds

set_option autoImplicit false

namespace PoliteCrawl.Crawl

open Simulation

-- A page and all below it, if every page has so many links of its own on each of the levels.
def pagesBelow (links : Nat) : Nat → Nat
  | 0 => 1
  | levels + 1 => 1 + links * pagesBelow links levels

theorem pages_below_sum (links levels : Nat) :
    pagesBelow links levels = ∑ level ∈ Finset.range (levels + 1), links ^ level := by
  induction levels with
  | zero => simp [pagesBelow]
  | succ levels ih =>
      rw [pagesBelow, ih, Finset.sum_range_succ' _ (levels + 1), Finset.mul_sum, pow_zero, Nat.add_comm]
      simp only [pow_succ, Nat.mul_comm]

theorem pages_below_positive (links levels : Nat) : 1 ≤ pagesBelow links levels := by
  cases levels with
  | zero => exact Nat.le_refl 1
  | succ levels => exact Nat.le_add_right 1 _

def worth (workers : WorkerConfig) (uri : CrawlUri) : Nat :=
  pagesBelow workers.linksPerPage (workers.maxDepth - depthOf uri)

def worthOf (workers : WorkerConfig) (uris : List CrawlUri) : Nat :=
  (uris.map (worth workers)).sum

section Worth

variable {workers : WorkerConfig}

theorem links_worth (narrow : workers.maxDepth < Nat.pow 2 32) (uri : CrawlUri) :
    1 + worthOf workers (links workers uri) = worth workers uri := by
  by_cases deep : workers.maxDepth ≤ depthOf uri
  · have last : workers.maxDepth - depthOf uri = 0 := Nat.sub_eq_zero_of_le deep
    rw [links, discover_none deep, worth, last]
    rfl
  · have above := Nat.lt_of_not_le deep
    obtain ⟨levels, rest⟩ : ∃ levels, workers.maxDepth - depthOf uri = levels + 1 :=
      ⟨workers.maxDepth - depthOf uri - 1, by omega⟩
    have each : ∀ link ∈ discoverLinks workers uri,
        (worth workers ∘ addressed) link = pagesBelow workers.linksPerPage levels := by
      intro link member
      have depth : depthOf (addressed link) = depthOf uri + 1 := (link_depth narrow link member).2
      rw [Function.comp_apply, worth, depth, ← Nat.sub_sub, rest, Nat.add_sub_cancel]
    have count : (discoverLinks workers uri).length = workers.linksPerPage := by
      rw [discover_some above, List.length_map, List.length_range]
    rw [worthOf, links, List.map_map, List.map_congr_left each, List.map_const',
      List.sum_replicate_nat, count, worth, rest, pagesBelow]

theorem unseen_sublist (seen : List String) (uris : List CrawlUri) :
    (unseen seen uris).Sublist uris := by
  induction uris generalizing seen with
  | nil => exact .slnil
  | cons uri rest ih =>
      rw [unseen]
      split
      · exact (ih seen).cons uri
      · exact (ih _).cons_cons uri

variable (workers) in
theorem unseen_worth (seen : List String) (uris : List CrawlUri) :
    worthOf workers (unseen seen uris) ≤ worthOf workers uris :=
  ((unseen_sublist seen uris).map _).sum_le_sum fun _ _ => Nat.zero_le _

theorem worth_append (first second : List CrawlUri) :
    worthOf workers (first ++ second) = worthOf workers first + worthOf workers second := by
  rw [worthOf, List.map_append, List.sum_append, worthOf, worthOf]

variable (workers) in
theorem length_worth (uris : List CrawlUri) : uris.length ≤ worthOf workers uris := by
  induction uris with
  | nil => exact Nat.le_refl 0
  | cons uri rest ih =>
      have here : 1 ≤ worth workers uri := pages_below_positive _ _
      rw [worthOf, List.map_cons, List.sum_cons, List.length_cons]
      rw [worthOf] at ih
      omega

-- What was emitted counts once, and what is yet to do with all that it may lead to.
def Exploration.worth (workers : WorkerConfig) (exploration : Exploration) : Nat :=
  exploration.emitted.length + worthOf workers exploration.todo

theorem advance_worth (narrow : workers.maxDepth < Nat.pow 2 32) (exploration : Exploration) :
    (exploration.advance workers).worth workers ≤ exploration.worth workers := by
  obtain ⟨emitted, todo⟩ := exploration
  cases todo with
  | nil => exact Nat.le_refl _
  | cons uri rest =>
      have fresh := unseen_worth workers
        (Exploration.seen { emitted, todo := uri :: rest }) (links workers uri)
      have paid := links_worth narrow uri
      have whole : worthOf workers (uri :: rest) = Crawl.worth workers uri + worthOf workers rest := by
        rw [worthOf, List.map_cons, List.sum_cons, worthOf]
      simp only [Exploration.advance, Exploration.worth, List.length_append, List.length_singleton,
        worth_append, whole]
      omega

theorem after_worth (narrow : workers.maxDepth < Nat.pow 2 32) (seeds : List CrawlUri)
    (top : ∀ seed ∈ seeds, depthOf seed = 0) (rounds : Nat) :
    (Exploration.after workers seeds rounds).worth workers ≤
      seeds.length * pagesBelow workers.linksPerPage workers.maxDepth := by
  induction rounds with
  | zero =>
      have each : ∀ seed ∈ seeds,
          Crawl.worth workers seed = pagesBelow workers.linksPerPage workers.maxDepth := by
        intro seed member
        rw [Crawl.worth, top seed member, Nat.sub_zero]
      have begun : worthOf workers seeds =
          seeds.length * pagesBelow workers.linksPerPage workers.maxDepth := by
        rw [worthOf, List.map_congr_left each, List.map_const', List.sum_replicate_nat]
      rw [Exploration.after, Exploration.start, Exploration.worth, List.length_nil, Nat.zero_add,
        ← begun]
      exact unseen_worth workers [] seeds
  | succ rounds ih =>
      rw [Exploration.after]
      exact Nat.le_trans (advance_worth narrow _) ih

theorem after_length (narrow : workers.maxDepth < Nat.pow 2 32) (seeds : List CrawlUri)
    (top : ∀ seed ∈ seeds, depthOf seed = 0) (rounds : Nat) (emitted todo : List CrawlUri)
    (reached : Exploration.after workers seeds rounds = { emitted, todo }) :
    emitted.length + todo.length ≤
      seeds.length * pagesBelow workers.linksPerPage workers.maxDepth := by
  have bound := after_worth narrow seeds top rounds
  have least := length_worth workers todo
  rw [reached] at bound
  exact Nat.le_trans (Nat.add_le_add_left least emitted.length) bound

theorem after_origin (seeds : List CrawlUri) (rounds : Nat) (emitted todo : List CrawlUri)
    (reached : Exploration.after workers seeds rounds = { emitted, todo }) :
    ∀ uri ∈ emitted ++ todo, uri ∈ seeds ∨ ∃ page ∈ emitted, uri ∈ links workers page := by
  induction rounds generalizing emitted todo with
  | zero =>
      cases reached
      exact fun uri member => .inl ((unseen_sublist [] seeds).subset member)
  | succ rounds ih =>
      obtain ⟨before, line, earlier⟩ : ∃ before line,
          Exploration.after workers seeds rounds = { emitted := before, todo := line } := ⟨_, _, rfl⟩
      have known := ih before line earlier
      rw [Exploration.after, earlier] at reached
      cases line with
      | nil =>
          cases reached
          exact known
      | cons page rest =>
          cases reached
          intro uri member
          rw [List.append_assoc, List.singleton_append, ← List.cons_append, ← List.append_assoc,
            List.mem_append] at member
          rcases member with old | new
          · rcases known uri old with seed | ⟨origin, listed, found⟩
            · exact .inl seed
            · exact .inr ⟨origin, List.mem_append_left _ listed, found⟩
          · exact .inr ⟨page, List.mem_append_right _ (List.mem_singleton_self page),
              (unseen_sublist _ _).subset new⟩

end Worth

theorem length_of_sites (first second : List CrawlUri) (times : Nat)
    (each : ∀ key, (atSite key first).length ≤ (atSite key second).length * times) :
    first.length ≤ second.length * times := by
  have counted (key : String) (uris : List CrawlUri) :
      Multiset.count key ((uris.map (·.siteKey) : List String) : Multiset String) =
        (atSite key uris).length := by
    rw [Multiset.coe_count, List.count_eq_countP, List.countP_map, atSite, List.countP_eq_length_filter]
    rfl
  have under : ((first.map (·.siteKey) : List String) : Multiset String) ≤
      times • ((second.map (·.siteKey) : List String) : Multiset String) := by
    refine Multiset.le_iff_count.mpr fun key => ?_
    rw [Multiset.count_nsmul, counted, counted, Nat.mul_comm]
    exact each key
  have cards := Multiset.card_le_card under
  rw [Multiset.card_nsmul, Multiset.coe_card, Multiset.coe_card, List.length_map,
    List.length_map] at cards
  rw [Nat.mul_comm]
  exact cards

theorem flat_at (queues : List WorkQueue) (key : String) (once : (queues.map (·.key)).Nodup)
    (home : ∀ queue ∈ queues, ∀ uri ∈ queue.items, uri.siteKey = queue.key) :
    atSite key (queues.flatMap (·.items)) = ((queues.find? (·.key = key)).map (·.items)).getD [] := by
  induction queues with
  | nil => rfl
  | cons first rest ih =>
      obtain ⟨fresh, others⟩ := List.nodup_cons.mp once
      have later := ih others fun queue member => home queue (List.mem_cons_of_mem first member)
      have mine := home first List.mem_cons_self
      rw [List.flatMap_cons, at_site_append, later]
      by_cases here : first.key = key
      · have all : atSite key first.items = first.items :=
          List.filter_eq_self.mpr fun uri member => decide_eq_true ((mine uri member).trans here)
        have none : rest.find? (·.key = key) = none := by
          refine List.find?_eq_none.mpr fun queue member same => ?_
          have twice : queue.key = first.key := (of_decide_eq_true same).trans here.symm
          exact fresh (List.mem_map.mpr ⟨queue, member, twice⟩)
        simp [all, none, here]
      · have none : atSite key first.items = [] :=
          List.filter_eq_nil_iff.mpr fun uri member same =>
            here ((mine uri member).symm.trans (of_decide_eq_true same))
        simp [none, here]

theorem contents_at (frontier : Frontier) (sound : frontier.Sound) (key : String) :
    atSite key frontier.contents = (frontier.lane key).items := by
  have home : ∀ queue ∈ frontier.queues, ∀ uri ∈ queue.items, uri.siteKey = queue.key := by
    intro queue listed uri member
    have found := Frontier.listed_queue sound.registered.once listed
    have lane := Frontier.lane_of_queue frontier queue.key queue found
    refine (sound.housed queue.key uri (List.mem_append_left _ ?_)).site
    rw [lane]
    exact member
  rw [Frontier.contents, flat_at frontier.queues key sound.registered.once home, Frontier.lane,
    Frontier.queue?]
  cases frontier.queues.find? (·.key = key) <;> rfl

-- All that the crawl knows of: what was done with, what is queued and what waits in the filter.
def heldWith (frontier : Frontier) (finished : List CrawlUri) : List CrawlUri :=
  finished ++ (frontier.contents ++ frontier.gateway.pending.map addressed)

theorem held_at (frontier : Frontier) (sound : frontier.Sound) (finished : List CrawlUri)
    (key : String) :
    atSite key (heldWith frontier finished) = atSite key finished ++ frontier.line key := by
  rw [heldWith, at_site_append, at_site_append, contents_at frontier sound, Frontier.line]

theorem parse_new (text : String) (uri : CrawlUri) (read : CrawlUri.parse text = .ok uri) :
    uri = CrawlUri.new uri.url := by
  rw [CrawlUri.parse] at read
  split at read
  · cases read
  · split at read
    · cases read
    · split at read
      · cases read
      · cases read
        rfl

theorem seeds_top (config : Config) : ∀ seed ∈ seedUris config, depthOf seed = 0 := by
  intro seed member
  obtain ⟨uri, listed, same⟩ := List.mem_map.mp member
  obtain ⟨text, _, found⟩ := List.mem_filterMap.mp listed
  cases read : CrawlUri.parse text with
  | error cause =>
      rw [read] at found
      cases found
  | ok new =>
      rw [read] at found
      cases found
      rw [← same, parse_new text uri read]
      rfl

theorem seeds_count (config : Config) : (seedUris config).length ≤ config.seeds.length := by
  rw [seedUris, List.length_map]
  exact List.length_filterMap_le _ _

section Moment

variable {workers : WorkerConfig} {seeds : List CrawlUri} {frontier : Frontier}
  {dispatched finished : List CrawlUri}

theorem Explored.extent
    (explored : Explored workers (fun key => atSite key seeds) frontier dispatched finished)
    (narrow : workers.maxDepth < Nat.pow 2 32) (top : ∀ seed ∈ seeds, depthOf seed = 0) :
    (heldWith frontier finished).length ≤
        seeds.length * pagesBelow workers.linksPerPage workers.maxDepth ∧
      dispatched.length ≤ seeds.length * pagesBelow workers.linksPerPage workers.maxDepth := by
  have site (key : String) : (atSite key finished).length + (frontier.line key).length ≤
      (atSite key seeds).length * pagesBelow workers.linksPerPage workers.maxDepth := by
    obtain ⟨rounds, reached⟩ := explored.reached key
    exact after_length narrow _ (fun seed member => top seed (at_site_site member).1) rounds _ _ reached
  have flight (key : String) : (flying frontier key).length ≤ (frontier.line key).length := by
    rw [flying]
    split
    · cases frontier.line key with
      | nil => exact Nat.le_refl 0
      | cons uri rest => exact Nat.le_add_left 1 rest.length
    · exact Nat.zero_le _
  refine ⟨length_of_sites _ seeds _ fun key => ?_, length_of_sites _ seeds _ fun key => ?_⟩
  · rw [held_at frontier explored.sound, List.length_append]
    exact site key
  · rw [explored.order key, List.length_append]
    exact Nat.le_trans (Nat.add_le_add_left (flight key) _) (site key)

theorem Explored.candidates
    (explored : Explored workers (fun key => atSite key seeds) frontier dispatched finished) :
    frontier.snapshot.candidateUris = (heldWith frontier finished).length := by
  obtain ⟨bare, knows⟩ := explored.knows
  obtain ⟨filter, memory, shape⟩ := Frontier.record_memory frontier.gateway bare knows.record
  have added : filter.added = finished.length + frontier.total := by
    have whole := knows.added
    rw [shape] at whole
    exact whole
  have counted : frontier.stats.queued = frontier.contents.length := explored.sound.counted
  have candidates : frontier.snapshot.candidateUris = filter.added := congrArg Gateway.added memory
  rw [candidates, added, Frontier.total, counted, heldWith, List.length_append, List.length_append,
    List.length_map]

end Moment

-- A URI of the web that, but for its address, is a seed, or else a link of one of these pages: of a page
-- right above it and on its own site.
structure Found (config : Config) (pages : List CrawlUri) (uri : CrawlUri) : Prop where
  rooted : uri.url.Rooted
  depth : depthOf uri ≤ config.workers.maxDepth
  origin : addressed uri ∈ seedUris config ∧ depthOf uri = 0 ∨
    ∃ page ∈ pages, addressed uri ∈ links config.workers page ∧ depthOf uri = depthOf page + 1 ∧
      (addressed uri).siteKey = page.siteKey

section Found

variable {config : Config} {frontier : Frontier} {dispatched finished : List CrawlUri}

theorem Explored.found
    (explored : Explored config.workers (fun key => atSite key (seedUris config)) frontier dispatched
      finished)
    (narrow : config.workers.maxDepth < Nat.pow 2 32) (uri : CrawlUri)
    (held : addressed uri ∈ frontier.line (addressed uri).siteKey) :
    Found config dispatched uri := by
  have rooted : uri.url.Rooted := (explored.sound.housed _ _ held).rooted
  obtain ⟨rounds, reached⟩ := explored.reached (addressed uri).siteKey
  rcases after_origin _ rounds _ _ reached (addressed uri) (List.mem_append_right _ held) with
    seed | ⟨page, emitted, link⟩
  · have seeded := (at_site_site seed).1
    have depth : depthOf uri = 0 := seeds_top config (addressed uri) seeded
    exact ⟨rooted, depth ▸ Nat.zero_le _, .inl ⟨seeded, depth⟩⟩
  · obtain ⟨found, listed, same⟩ := List.mem_map.mp link
    obtain ⟨above, deeper⟩ := link_depth narrow found listed
    have depth : depthOf uri = depthOf page + 1 := (congrArg depthOf same).symm.trans deeper
    have sent : page ∈ atSite (addressed uri).siteKey dispatched := by
      rw [explored.order]
      exact List.mem_append_left _ emitted
    exact ⟨rooted, depth ▸ above, .inr ⟨page, (at_site_site sent).1, link, depth,
      (at_site_site emitted).2.symm⟩⟩

theorem Explored.queued
    (explored : Explored config.workers (fun key => atSite key (seedUris config)) frontier dispatched
      finished)
    (uri : CrawlUri) (member : uri ∈ frontier.contents) :
    addressed uri = uri ∧ uri ∈ frontier.line uri.siteKey := by
  have here : uri ∈ atSite uri.siteKey frontier.contents :=
    List.mem_filter.mpr ⟨member, decide_eq_true rfl⟩
  rw [contents_at frontier explored.sound] at here
  have line := List.mem_append_left (atSite uri.siteKey (frontier.gateway.pending.map addressed)) here
  exact ⟨(explored.sound.housed _ uri line).address, line⟩

theorem pending_line (frontier : Frontier) (uri : CrawlUri) (member : uri ∈ frontier.gateway.pending) :
    addressed uri ∈ frontier.line (addressed uri).siteKey :=
  List.mem_append_right _ (List.mem_filter.mpr ⟨List.mem_map_of_mem member, decide_eq_true rfl⟩)

end Found

theorem crawl_extent (config : Config) (origin : Time.Timestamp) (begun : Simulation)
    (turns : List Turn) (narrow : config.workers.maxDepth < Nat.pow 2 32)
    (start : Simulation.start config origin = .ok begun) :
    let most := config.seeds.length *
      ∑ level ∈ Finset.range (config.workers.maxDepth + 1), config.workers.linksPerPage ^ level
    (begun.play turns).frontier.snapshot.candidateUris ≤ most ∧
      (begun.dispatched turns).length ≤ most := by
  intro most
  obtain ⟨finished, progress⟩ := (start_progress config origin begun start).play turns
  obtain ⟨held, sent⟩ := progress.explored.extent narrow (seeds_top config)
  have bound : (seedUris config).length *
      pagesBelow config.workers.linksPerPage config.workers.maxDepth ≤ most := by
    rw [pages_below_sum]
    exact Nat.mul_le_mul_right _ (seeds_count config)
  rw [progress.explored.candidates]
  exact ⟨Nat.le_trans held bound, Nat.le_trans sent bound⟩

theorem accepted_crawl_extent (text : String) (config : Config) (origin : Time.Timestamp)
    (accepted : Config.parse text = .ok config) :
    ∃ begun, Simulation.start config origin = .ok begun ∧ ∀ turns,
      let most := config.seeds.length *
        ∑ level ∈ Finset.range (config.workers.maxDepth + 1), config.workers.linksPerPage ^ level
      (begun.play turns).frontier.snapshot.candidateUris ≤ most ∧
        (begun.dispatched turns).length ≤ most := by
  obtain ⟨uris, read⟩ := accepted_reads text config accepted
  have starts : ∃ begun, Simulation.start config origin = .ok begun := by
    rw [Simulation.start, seeded_filled config origin uris read]
    exact ⟨_, rfl⟩
  obtain ⟨begun, start⟩ := starts
  exact ⟨begun, start, fun turns =>
    crawl_extent config origin begun turns (Config.parse_fits text config accepted) start⟩

/-- However the turns of workers, supervisor and monitor are interleaved, and at every moment: a crawl
has taken in, and has dispatched, no more URIs than its seeds times the pages of a tree in which each page
has so many links on every level. Each URI that it holds, in a queue or in its filter, is a URI of the web
at most at the greatest depth; it is a seed, or a link of a page that was dispatched, one level below it
and on the same site. And every page of the web above the greatest depth has just so many links, no two of
them the same to the filter, without a query or a fragment, one level deeper, where the number of the
level still fits its place, and on the same site. The greatest depth fits 32 bits, as that of every
configuration that is read does. -/
theorem crawl_is_finite (config : Config) (origin : Time.Timestamp) (begun : Simulation)
    (turns : List Turn) (narrow : config.workers.maxDepth < Nat.pow 2 32)
    (start : Simulation.start config origin = .ok begun) :
    let frontier := (begun.play turns).frontier
    let most := config.seeds.length *
      ∑ level ∈ Finset.range (config.workers.maxDepth + 1), config.workers.linksPerPage ^ level
    frontier.snapshot.candidateUris ≤ most ∧ (begun.dispatched turns).length ≤ most ∧
      (∀ uri ∈ frontier.contents ++ frontier.gateway.pending,
        Found config (begun.dispatched turns) uri) ∧
      (∀ uri ∈ frontier.contents, uri.siteKey = (addressed uri).siteKey) ∧
      (∀ text uri, CrawlUri.parse text = .ok uri → uri.url.Rooted) ∧
      ∀ page, page.url.Rooted → depthOf page < config.workers.maxDepth →
        Fans config.workers page ∧ depthOf page + 1 < Nat.pow 2 32 := by
  intro frontier most
  obtain ⟨finished, progress⟩ := (start_progress config origin begun start).play turns
  have explored := progress.explored
  obtain ⟨held, sent⟩ := crawl_extent config origin begun turns narrow start
  refine ⟨held, sent, fun uri member => ?_, fun uri member => ?_, parse_rooted,
    fun page rooted above => ⟨page_fans narrow rooted above, Nat.lt_of_le_of_lt above narrow⟩⟩
  · rcases List.mem_append.mp member with queued | waits
    · obtain ⟨address, line⟩ := explored.queued uri queued
      exact explored.found narrow uri (by rw [address]; exact line)
    · exact explored.found narrow uri (pending_line frontier uri waits)
  · exact congrArg CrawlUri.siteKey (explored.queued uri member).1.symm

theorem crawl_is_finite_two_pages :
    ∃ begun, Simulation.start smallCrawl midnight = .ok begun ∧
      smallCrawl.workers.maxDepth < Nat.pow 2 32 ∧
      (begun.play smallTurns).frontier.snapshot.candidateUris ≤ 2 ∧
      (begun.dispatched smallTurns).map CrawlUri.text = ["https://a.com/", "https://a.com/0"] := by
  obtain ⟨begun, start, _, pages⟩ := ends_with smallCrawl smallTurns
    ["https://a.com/", "https://a.com/0"] (by decide +kernel)
  obtain ⟨candidates, _⟩ := crawl_is_finite smallCrawl midnight begun smallTurns (by decide) start
  exact ⟨begun, start, by decide, candidates, pages⟩

end PoliteCrawl.Crawl
