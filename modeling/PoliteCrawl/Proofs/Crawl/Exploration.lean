import PoliteCrawl.Crawl.Simulation
import PoliteCrawl.Proofs.Url.Site

set_option autoImplicit false

namespace PoliteCrawl.Crawl

-- Those of the URIs whose keys were not seen before, each key once.
def unseen (seen : List String) : List CrawlUri → List CrawlUri
  | [] => []
  | uri :: rest =>
      if uri.uniqKey ∈ seen then unseen seen rest
      else uri :: unseen (uri.uniqKey :: seen) rest

def addressed (uri : CrawlUri) : CrawlUri :=
  { uri with siteKey := uri.url.siteKey?.getD uri.url.scheme }

def links (workers : WorkerConfig) (uri : CrawlUri) : List CrawlUri :=
  (discoverLinks workers uri).map addressed

-- What a crawl comes to at one site: a worklist of URIs in the order they were found, each of which
-- is emitted in its turn and adds its links that are new.
structure Exploration where
  emitted : List CrawlUri
  todo : List CrawlUri

namespace Exploration

def start (seeds : List CrawlUri) : Exploration :=
  { emitted := [], todo := unseen [] seeds }

def seen (exploration : Exploration) : List String :=
  (exploration.emitted ++ exploration.todo).map CrawlUri.uniqKey

def advance (workers : WorkerConfig) (exploration : Exploration) : Exploration :=
  match exploration.todo with
  | [] => exploration
  | uri :: rest =>
      { emitted := exploration.emitted ++ [uri]
        todo := rest ++ unseen exploration.seen (links workers uri) }

def after (workers : WorkerConfig) (seeds : List CrawlUri) : Nat → Exploration
  | 0 => start seeds
  | rounds + 1 => (after workers seeds rounds).advance workers

end Exploration

-- Does the exploration from these seeds end, with these URIs emitted?
def Explores (workers : WorkerConfig) (seeds emitted : List CrawlUri) : Prop :=
  ∃ rounds, Exploration.after workers seeds rounds = { emitted, todo := [] }

def seedUris (config : Config) : List CrawlUri :=
  (config.seeds.filterMap fun seed => (CrawlUri.parse seed).toOption).map addressed

def atSite (key : String) (uris : List CrawlUri) : List CrawlUri :=
  uris.filter (·.siteKey = key)

theorem after_ended (workers : WorkerConfig) (seeds emitted : List CrawlUri) (rounds more : Nat)
    (ended : Exploration.after workers seeds rounds = { emitted, todo := [] }) :
    Exploration.after workers seeds (rounds + more) = { emitted, todo := [] } := by
  induction more with
  | zero => exact ended
  | succ more ih =>
      rw [Nat.add_succ, Exploration.after, ih]
      rfl

theorem Explores.unique {workers : WorkerConfig} {seeds first second : List CrawlUri}
    (one : Explores workers seeds first) (two : Explores workers seeds second) : first = second := by
  obtain ⟨early, ended⟩ := one
  obtain ⟨late, also⟩ := two
  have here := after_ended workers seeds first early late ended
  have there := after_ended workers seeds second late early also
  rw [Nat.add_comm, there] at here
  exact (congrArg Exploration.emitted here).symm

theorem links_same (workers other : WorkerConfig) (uri : CrawlUri)
    (pages : other.linksPerPage = workers.linksPerPage) (depth : other.maxDepth = workers.maxDepth) :
    links other uri = links workers uri := by
  simp only [links, discoverLinks, pages, depth]

theorem Explores.transfer {workers other : WorkerConfig} {seeds emitted : List CrawlUri}
    (explores : Explores workers seeds emitted)
    (pages : other.linksPerPage = workers.linksPerPage) (depth : other.maxDepth = workers.maxDepth) :
    Explores other seeds emitted := by
  obtain ⟨rounds, ended⟩ := explores
  refine ⟨rounds, ?_⟩
  rw [← ended]
  clear ended
  induction rounds with
  | zero => rfl
  | succ rounds ih =>
      rw [Exploration.after, Exploration.after, ih, Exploration.advance, Exploration.advance]
      split
      · rfl
      · rw [links_same workers other _ pages depth]

theorem unseen_congr (first second : List String) (uris : List CrawlUri)
    (same : ∀ uri ∈ uris, uri.uniqKey ∈ first ↔ uri.uniqKey ∈ second) :
    unseen first uris = unseen second uris := by
  induction uris generalizing first second with
  | nil => rfl
  | cons uri rest ih =>
      have later : ∀ other ∈ rest, other.uniqKey ∈ first ↔ other.uniqKey ∈ second :=
        fun other member => same other (List.mem_cons_of_mem uri member)
      have here := same uri List.mem_cons_self
      rw [unseen, unseen]
      by_cases known : uri.uniqKey ∈ first
      · rw [if_pos known, if_pos (here.mp known)]
        exact ih first second later
      · rw [if_neg known, if_neg fun also => known (here.mpr also)]
        refine congrArg (uri :: ·) (ih _ _ fun other member => ?_)
        rw [List.mem_cons, List.mem_cons, later other member]

theorem at_site_append (key : String) (first second : List CrawlUri) :
    atSite key (first ++ second) = atSite key first ++ atSite key second :=
  List.filter_append first second

theorem at_site_site {key : String} {uri : CrawlUri} {uris : List CrawlUri}
    (member : uri ∈ atSite key uris) : uri ∈ uris ∧ uri.siteKey = key := by
  obtain ⟨listed, here⟩ := List.mem_filter.mp member
  exact ⟨listed, of_decide_eq_true here⟩

structure Housed (key : String) (uri : CrawlUri) : Prop where
  rooted : uri.url.Rooted
  address : addressed uri = uri
  site : uri.siteKey = key

theorem addressed_site (uri : CrawlUri) (rooted : uri.url.Rooted) :
    (addressed uri).siteKey = Url.siteIn uri.uniqKey := by
  rw [addressed, rooted.site]
  rfl

theorem parse_rooted (text : String) (uri : CrawlUri) (read : CrawlUri.parse text = .ok uri) :
    uri.url.Rooted := by
  rw [CrawlUri.parse] at read
  cases parsed : Url.parse text with
  | error cause =>
      rw [parsed] at read
      cases read
  | ok url =>
      rw [parsed] at read
      by_cases web : url.isWeb = true
      · simp only [web, Bool.not_true, Bool.false_eq_true, if_false] at read
        split at read
        · cases read
        · cases read
          exact Url.parse_rooted text url parsed web
      · simp only [web, Bool.not_false, if_true] at read
        cases read

theorem child_rooted (url : Url) (index : Nat) (rooted : url.Rooted) :
    (childUrl url index).Rooted ∧ (childUrl url index).siteKey? = url.siteKey? := by
  obtain ⟨names, path⟩ := rooted.path
  refine ⟨⟨rooted.web, ?_, rooted.username, rooted.password, rooted.host⟩, rfl⟩
  simp [childUrl, path]

theorem discovered_rooted (workers : WorkerConfig) (key : String) (uri link : CrawlUri)
    (housed : Housed key uri) (member : link ∈ discoverLinks workers uri) :
    link.url.Rooted ∧ (addressed link).siteKey = key := by
  simp only [discoverLinks] at member
  by_cases deep : workers.maxDepth ≤ depthOf uri
  · rw [if_pos deep] at member
    cases member
  · rw [if_neg deep] at member
    obtain ⟨index, _, same⟩ := List.mem_map.mp member
    obtain ⟨rooted, site⟩ := child_rooted uri.url index housed.rooted
    rw [← same]
    refine ⟨rooted, ?_⟩
    have here := housed.site
    rw [← housed.address] at here
    simp only [addressed, child, CrawlUri.new, site] at here ⊢
    exact here

theorem links_here (workers : WorkerConfig) (key : String) (uri : CrawlUri)
    (housed : Housed key uri) : atSite key (links workers uri) = links workers uri := by
  refine List.filter_eq_self.mpr fun link member => ?_
  obtain ⟨found, listed, same⟩ := List.mem_map.mp member
  exact same ▸ decide_eq_true (discovered_rooted workers key uri found housed listed).2

theorem links_elsewhere (workers : WorkerConfig) (key other : String) (uri : CrawlUri)
    (housed : Housed key uri) (different : other ≠ key) :
    atSite other (links workers uri) = [] := by
  refine List.filter_eq_nil_iff.mpr fun link member => ?_
  obtain ⟨found, listed, same⟩ := List.mem_map.mp member
  have site := (discovered_rooted workers key uri found housed listed).2
  rw [← same, decide_eq_true_eq, site]
  exact Ne.symm different

end PoliteCrawl.Crawl
