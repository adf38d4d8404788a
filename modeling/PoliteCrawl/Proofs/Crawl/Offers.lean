import PoliteCrawl.Proofs.Crawl.Exploration

set_option autoImplicit false

namespace PoliteCrawl.Crawl

def pendingAt (key : String) (filter : UniqFilter) : List CrawlUri :=
  atSite key (filter.pending.map addressed)

def known (base : String → List CrawlUri) (filter : UniqFilter) (key : String) : List String :=
  (base key ++ pendingAt key filter).map CrawlUri.uniqKey

-- A filter that has seen just what its sites hold and what still waits in it.
structure Remembers (base : String → List CrawlUri) (filter : UniqFilter) : Prop where
  open_ : filter.closed = false
  rooted : ∀ uri ∈ filter.pending, uri.url.Rooted
  seen : ∀ uri : CrawlUri, uri.url.Rooted →
    (uri.uniqKey ∈ filter.seen ↔ uri.uniqKey ∈ known base filter (Url.siteIn uri.uniqKey))

def offerAll (filter : UniqFilter) (uris : List CrawlUri) : UniqFilter :=
  uris.foldl (fun filter uri => (filter.add uri).1) filter

theorem addressed_at (key : String) (uri : CrawlUri) (rooted : uri.url.Rooted) :
    atSite key [addressed uri] = if Url.siteIn uri.uniqKey = key then [addressed uri] else [] := by
  have site := addressed_site uri rooted
  by_cases here : Url.siteIn uri.uniqKey = key
  · simp [atSite, site, here]
  · simp [atSite, site, here]

theorem unseen_append (seen : List String) (first second : List CrawlUri) :
    unseen seen (first ++ second) =
      unseen seen first ++ unseen (seen ++ (unseen seen first).map CrawlUri.uniqKey) second := by
  induction first generalizing seen with
  | nil => simp [unseen]
  | cons uri rest ih =>
      rw [List.cons_append, unseen, unseen]
      by_cases met : uri.uniqKey ∈ seen
      · rw [if_pos met, if_pos met]
        exact ih seen
      · rw [if_neg met, if_neg met, ih, List.cons_append]
        refine congrArg (uri :: _ ++ ·) (unseen_congr _ _ _ fun other _ => ?_)
        simp only [List.map_cons, List.mem_append, List.mem_cons]
        exact or_left_comm

section Offers

variable {base : String → List CrawlUri} {filter : UniqFilter}

theorem add_seen (uri : CrawlUri) (seen : uri.uniqKey ∈ filter.seen) :
    (filter.add uri).1 = filter := by
  have twice : (filter.closed || filter.hasSeen uri) = true := by
    simp [UniqFilter.hasSeen, seen]
  rw [UniqFilter.add, if_pos twice]

theorem add_new (uri : CrawlUri) (open_ : filter.closed = false)
    (new : uri.uniqKey ∉ filter.seen) :
    (filter.add uri).1 =
      { filter with
        seen := uri.uniqKey :: filter.seen
        pending := filter.pending ++ [uri]
        added := filter.added + 1 } := by
  have unknown : filter.hasSeen uri = false := by
    simp [UniqFilter.hasSeen, new]
  have once : ¬ (filter.closed || filter.hasSeen uri) = true := by
    simp [open_, unknown]
  rw [UniqFilter.add, if_neg once, UniqFilter.note, unknown]
  rfl

theorem add_pending (uri : CrawlUri) (open_ : filter.closed = false) (rooted : uri.url.Rooted)
    (new : uri.uniqKey ∉ filter.seen) (key : String) :
    pendingAt key (filter.add uri).1 =
      pendingAt key filter ++ if Url.siteIn uri.uniqKey = key then [addressed uri] else [] := by
  rw [add_new uri open_ new]
  simp only [pendingAt, List.map_append, at_site_append]
  exact congrArg _ (addressed_at key uri rooted)

theorem add_known (base : String → List CrawlUri) (uri : CrawlUri) (open_ : filter.closed = false)
    (rooted : uri.url.Rooted) (new : uri.uniqKey ∉ filter.seen) (key text : String) :
    text ∈ known base (filter.add uri).1 key ↔
      text ∈ known base filter key ∨ Url.siteIn uri.uniqKey = key ∧ text = uri.uniqKey := by
  rw [known, add_pending uri open_ rooted new key, ← List.append_assoc, List.map_append,
    List.mem_append]
  refine or_congr_right ?_
  by_cases here : Url.siteIn uri.uniqKey = key
  · rw [if_pos here, List.map_singleton, List.mem_singleton]
    exact ⟨fun same => ⟨here, same⟩, fun pair => pair.2⟩
  · rw [if_neg here]
    exact ⟨fun no => absurd no List.not_mem_nil, fun pair => absurd pair.1 here⟩

theorem add_remembers (remembers : Remembers base filter) (uri : CrawlUri)
    (rooted : uri.url.Rooted) : Remembers base (filter.add uri).1 := by
  by_cases seen : uri.uniqKey ∈ filter.seen
  · rw [add_seen uri seen]
    exact remembers
  · have shape := add_new uri remembers.open_ seen
    refine ⟨?_, fun other member => ?_, fun other at_home => ?_⟩
    · rw [shape]
      exact remembers.open_
    · rw [shape] at member
      rcases List.mem_append.mp member with old | last
      · exact remembers.rooted other old
      · rw [List.mem_singleton.mp last]
        exact rooted
    · rw [add_known base uri remembers.open_ rooted seen, ← remembers.seen other at_home, shape,
        List.mem_cons]
      constructor
      · rintro (same | old)
        · exact .inr ⟨congrArg Url.siteIn same.symm, same⟩
        · exact .inl old
      · rintro (old | ⟨_, same⟩)
        · exact .inr old
        · exact .inl same

theorem add_gives (remembers : Remembers base filter) (uri : CrawlUri) (rooted : uri.url.Rooted)
    (key : String) :
    pendingAt key (filter.add uri).1 =
      pendingAt key filter ++ unseen (known base filter key) (atSite key [addressed uri]) := by
  rw [addressed_at key uri rooted]
  by_cases here : Url.siteIn uri.uniqKey = key
  · have listed : uri.uniqKey ∈ filter.seen ↔ (addressed uri).uniqKey ∈ known base filter key :=
      here ▸ remembers.seen uri rooted
    rw [if_pos here, unseen]
    by_cases seen : uri.uniqKey ∈ filter.seen
    · rw [if_pos (listed.mp seen), add_seen uri seen]
      exact (List.append_nil _).symm
    · rw [if_neg fun known => seen (listed.mpr known), add_pending uri remembers.open_ rooted seen,
        if_pos here]
      rfl
  · rw [if_neg here]
    by_cases seen : uri.uniqKey ∈ filter.seen
    · rw [add_seen uri seen]
      exact (List.append_nil _).symm
    · rw [add_pending uri remembers.open_ rooted seen, if_neg here]
      rfl

theorem add_counts (uri : CrawlUri) (open_ : filter.closed = false) :
    (filter.add uri).1.added + filter.pending.length =
      filter.added + (filter.add uri).1.pending.length := by
  by_cases seen : uri.uniqKey ∈ filter.seen
  · rw [add_seen uri seen]
  · simp only [add_new uri open_ seen, List.length_append, List.length_singleton]
    omega

theorem offer_all (uris : List CrawlUri) (remembers : Remembers base filter)
    (rooted : ∀ uri ∈ uris, uri.url.Rooted) :
    Remembers base (offerAll filter uris) ∧
      (∀ key, pendingAt key (offerAll filter uris) = pendingAt key filter ++
        unseen (known base filter key) (atSite key (uris.map addressed))) ∧
      (offerAll filter uris).added + filter.pending.length =
        filter.added + (offerAll filter uris).pending.length := by
  induction uris generalizing filter with
  | nil => exact ⟨remembers, fun key => (List.append_nil _).symm, rfl⟩
  | cons uri rest ih =>
      have first : uri.url.Rooted := rooted uri List.mem_cons_self
      obtain ⟨later, grown, added⟩ := ih (add_remembers remembers uri first)
        fun other member => rooted other (List.mem_cons_of_mem uri member)
      refine ⟨later, fun key => ?_, ?_⟩
      · have gives := add_gives remembers uri first key
        have knows : known base (filter.add uri).1 key = known base filter key ++
            (unseen (known base filter key) (atSite key [addressed uri])).map CrawlUri.uniqKey := by
          rw [known, gives, ← List.append_assoc, List.map_append, ← known]
        have split : atSite key ((uri :: rest).map addressed) =
            atSite key [addressed uri] ++ atSite key (rest.map addressed) :=
          at_site_append key [addressed uri] (rest.map addressed)
        rw [split, unseen_append, ← knows, ← List.append_assoc, ← gives]
        exact grown key
      · have counts := add_counts uri remembers.open_
        change (offerAll (filter.add uri).1 rest).added + _ =
          _ + (offerAll (filter.add uri).1 rest).pending.length
        omega

end Offers

end PoliteCrawl.Crawl
