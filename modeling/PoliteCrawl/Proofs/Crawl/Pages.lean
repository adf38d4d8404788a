import PoliteCrawl.Proofs.Crawl.Steps

set_option autoImplicit false

namespace PoliteCrawl.Frontier

open Crawl

-- A filter that has seen just the URIs that were done with and those in line, and took in each once.
structure Knows (frontier : Frontier) (finished : List CrawlUri) (filter : UniqFilter) : Prop where
  record : frontier.gateway.record = .memory filter
  seen : ∀ uri : CrawlUri, uri.url.Rooted →
    (uri.uniqKey ∈ filter.seen ↔
      uri.uniqKey ∈ (atSite (Url.siteIn uri.uniqKey) finished ++
        frontier.line (Url.siteIn uri.uniqKey)).map CrawlUri.uniqKey)
  added : filter.added = finished.length + frontier.total

theorem Keeps.knows {before after : Frontier} {finished : List CrawlUri} {filter : UniqFilter}
    (keeps : before.Keeps after) (knows : before.Knows finished filter) :
    after.Knows finished filter :=
  ⟨keeps.record.trans knows.record, by rw [keeps.line]; exact knows.seen,
    by rw [keeps.total]; exact knows.added⟩

theorem Hands.knows {before after : Frontier} {finished : List CrawlUri} {filter : UniqFilter}
    {uri : CrawlUri} (hands : before.Hands after uri) (knows : before.Knows finished filter) :
    after.Knows finished filter :=
  ⟨hands.record.trans knows.record, by rw [hands.line]; exact knows.seen,
    by rw [hands.total]; exact knows.added⟩

theorem offer_fold (frontier : Frontier) (filter : UniqFilter) (uris : List CrawlUri)
    (memory : frontier.gateway = .memory filter) :
    uris.foldl Simulation.offer frontier =
      { frontier with gateway := .memory (offerAll filter uris) } := by
  induction uris generalizing frontier filter with
  | nil =>
      change frontier = { frontier with gateway := .memory filter }
      rw [← memory]
  | cons uri rest ih =>
      have offered : Simulation.offer frontier uri =
          { frontier with gateway := .memory (filter.add uri).1 } := by
        rw [Simulation.offer, memory]
      rw [List.foldl_cons, offered, ih _ _ rfl]
      rfl

theorem record_memory (gateway : Gateway) (bare : UniqFilter)
    (record : gateway.record = .memory bare) :
    ∃ filter, gateway = .memory filter ∧
      bare = { filter with pending := [], finished := 0, closed := false } := by
  cases gateway with
  | memory filter => exact ⟨filter, rfl, (Gateway.memory.inj record).symm⟩
  | remote service => cases record

def settled (frontier : Frontier) (finished : List CrawlUri) (key : String) : List CrawlUri :=
  atSite key finished ++ (frontier.lane key).items

theorem settled_pending (frontier : Frontier) (finished : List CrawlUri) (filter : UniqFilter)
    (memory : frontier.gateway = .memory filter) (key : String) :
    frontier.settled finished key ++ pendingAt key filter =
      atSite key finished ++ frontier.line key := by
  rw [Frontier.line, memory]
  exact List.append_assoc _ _ _

theorem Knows.remembers {frontier : Frontier} {finished : List CrawlUri} {bare filter : UniqFilter}
    (knows : frontier.Knows finished bare) (sound : frontier.Sound)
    (unfinished : frontier.target ≠ .finish) (memory : frontier.gateway = .memory filter)
    (same : bare = { filter with pending := [], finished := 0, closed := false }) :
    Remembers (frontier.settled finished) filter where
  open_ := by
    have opened := sound.open_ unfinished
    rw [memory] at opened
    simpa [Gateway.isOpen] using opened
  rooted uri member := by
    have listed : addressed uri ∈ frontier.line (addressed uri).siteKey := by
      rw [Frontier.line, memory]
      exact List.mem_append_right _ (List.mem_filter.mpr
        ⟨List.mem_map_of_mem member, decide_eq_true rfl⟩)
    exact (sound.housed _ _ listed).rooted
  seen uri home := by
    have seen := knows.seen uri home
    rw [same] at seen
    rw [known, settled_pending frontier finished filter memory]
    exact seen

theorem Sound.refilter {frontier : Frontier} {base : String → List CrawlUri} {filter : UniqFilter}
    (sound : frontier.Sound) (remembers : Remembers base filter) :
    Sound { frontier with gateway := .memory filter } := by
  have proceeds : frontier.Proceeds [] { frontier with gateway := .memory filter } :=
    sound.registered.still rfl
  refine sound.next proceeds (fun _ => by simp [Gateway.isOpen, remembers.open_])
    fun key uri member => ?_
  rcases List.mem_append.mp member with old | waits
  · exact sound.housed key uri (List.mem_append_left _ old)
  · obtain ⟨listed, site⟩ := at_site_site waits
    obtain ⟨origin, found, named⟩ := List.mem_map.mp listed
    exact ⟨named ▸ remembers.rooted origin found, named ▸ rfl, site⟩

structure Gains (before after : Frontier) (finished uris : List CrawlUri) : Prop where
  sound : after.Sound
  line : ∀ key, after.line key = before.line key ++
    unseen ((atSite key finished ++ before.line key).map CrawlUri.uniqKey)
      (atSite key (uris.map addressed))
  lane : after.lane = before.lane
  score : after.stats.score = before.stats.score
  cell : after.cell = before.cell
  knows : ∃ filter, after.Knows finished filter

theorem offer_gains (frontier : Frontier) (finished uris : List CrawlUri) (bare : UniqFilter)
    (sound : frontier.Sound) (knows : frontier.Knows finished bare)
    (unfinished : frontier.target ≠ .finish) (rooted : ∀ uri ∈ uris, uri.url.Rooted) :
    frontier.Gains (uris.foldl Simulation.offer frontier) finished uris := by
  obtain ⟨filter, memory, same⟩ := record_memory frontier.gateway bare knows.record
  obtain ⟨later, grown, added⟩ :=
    offer_all uris (knows.remembers sound unfinished memory same) rooted
  rw [offer_fold frontier filter uris memory]
  refine ⟨sound.refilter later, fun key => ?_, rfl, rfl, rfl,
    { offerAll filter uris with pending := [], finished := 0, closed := false }, rfl,
    fun uri home => ?_, ?_⟩
  · have pending := grown key
    rw [known, settled_pending frontier finished filter memory] at pending
    change (frontier.lane key).items ++ pendingAt key (offerAll filter uris) = _
    rw [pending, Frontier.line, memory, ← List.append_assoc]
    rfl
  · have seen := later.seen uri home
    rw [known, settled, List.append_assoc] at seen
    exact seen
  · have counted : filter.added = finished.length +
        (frontier.stats.queued + filter.pending.length) := by
      have before := knows.added
      rw [same, total, memory] at before
      exact before
    change (offerAll filter uris).added = finished.length +
      (frontier.stats.queued + (offerAll filter uris).pending.length)
    omega

structure Completes (before after : Frontier) (uri : CrawlUri) : Prop where
  sound : after.Sound
  line : ∀ key, after.line key =
    if key = uri.siteKey then (before.line key).tail else before.line key
  busy : ∀ key, (after.lane key).busy =
    if key = uri.siteKey then false else (before.lane key).busy
  total : after.total + 1 = before.total
  score : after.stats.score =
    { before.stats.score with succeeded := before.stats.score.succeeded + 1 }
  record : after.gateway.record = before.gateway.record
  finish : after.target = .finish ↔ before.target = .finish

theorem drained_stats (frontier : Frontier) : frontier.noteDrained.stats = frontier.stats := by
  rw [noteDrained]
  split <;> rfl

theorem complete_score (frontier : Frontier) (uri : CrawlUri) (rest : List CrawlUri)
    (outcome : Outcome) (code : Nat) (queue : WorkQueue) (success : outcome.status = .success code)
    (reported : frontier.Reported uri queue uri rest)
    (done : (frontier.complete uri outcome).2 = .done) :
    (frontier.complete uri outcome).1.stats.score =
      { frontier.stats.score with succeeded := frontier.stats.score.succeeded + 1 } := by
  have final : frontier.grantsRetry uri outcome = false := by
    rw [grantsRetry, success]
  have billed : (frontier.billedStats queue uri outcome).score =
      { frontier.stats.score with succeeded := frontier.stats.score.succeeded + 1 } := by
    rw [billedStats, if_neg (by rw [final]; decide)]
    simp only [finishHead, success]
    rfl
  have settled := settle_dozed framed_dozing
    (frontier.givenUp (frontier.billed queue uri outcome) (frontier.billedStats queue uri outcome))
    (frontier.billed queue uri outcome) (frontier.pauseAfter uri outcome) (free_nobody _ _)
  rw [complete_shape frontier uri uri rest outcome queue reported] at done ⊢
  cases result : (frontier.givenUp (frontier.billed queue uri outcome)
      (frontier.billedStats queue uri outcome)).settle (frontier.billed queue uri outcome)
        (frontier.pauseAfter uri outcome) with
  | mk after answer =>
      rw [result] at done settled
      cases answer with
      | none => cases done
      | some placement =>
          have placed := framed_dozing.trans _ _ _ settled
            (place_placed framed_dozing.toPlacing after uri.siteKey placement)
          have told : ((after.place uri.siteKey placement).report
              (frontier.grantsRetry uri outcome) uri outcome).noteDrained.stats =
                (after.place uri.siteKey placement).stats := by
            rw [final, drained_stats]
            rfl
          rw [told, placed.score]
          exact billed

theorem flying_reported (frontier : Frontier) (uri : CrawlUri) (registered : frontier.Registered)
    (busy : (frontier.lane uri.siteKey).busy = true)
    (head : (frontier.line uri.siteKey).head? = some uri) :
    ∃ queue rest, frontier.Reported uri queue uri rest := by
  obtain ⟨queue, found, process, items⟩ := busy_queue frontier uri.siteKey busy
  obtain ⟨claimed, some, _⟩ :=
    process_claimed frontier uri.siteKey queue registered found process
  rw [Frontier.line, ← items, List.head?_append] at head
  cases line : queue.items with
  | nil => exact absurd line some
  | cons first rest =>
      rw [line] at head
      cases head
      exact ⟨queue, rest, found, process, claimed, line, rfl⟩

theorem Sound.completes {before after : Frontier} (sound : before.Sound) (uri : CrawlUri)
    (outcome : Outcome) (proceeds : before.Proceeds [⟨uri.siteKey, .finished uri⟩] after)
    (cell : after.cell = before.cell) (gateway : after.gateway = before.gateway.noteFinished uri outcome)
    (score : after.stats.score =
      { before.stats.score with succeeded := before.stats.score.succeeded + 1 }) :
    before.Completes after uri := by
  have target : after.target = before.target := congrArg StateCell.target cell
  obtain ⟨pending, record, opened⟩ := Gateway.note_draws before.gateway uri outcome
  rw [← gateway] at pending record opened
  obtain ⟨taken, elsewhere⟩ := proceeds.one
  obtain ⟨items, _, idle⟩ := Lane.take_finished _ _ uri taken
  have line (key : String) : after.line key =
      if key = uri.siteKey then (before.line key).tail else before.line key := by
    rw [Frontier.line, Frontier.line, pending]
    by_cases same : key = uri.siteKey
    · rw [if_pos same, same, items]
      rfl
    · rw [if_neg same, elsewhere key same]
  have housed (key : String) (other : CrawlUri) (member : other ∈ after.line key) :
      Housed key other := by
    rw [line key] at member
    by_cases same : key = uri.siteKey
    · rw [if_pos same] at member
      exact sound.housed key other (List.mem_of_mem_tail member)
    · rw [if_neg same] at member
      exact sound.housed key other member
  refine ⟨sound.next proceeds (fun unfinished => ?_) housed, line, fun key => ?_, ?_, score, record,
    by rw [target]⟩
  · rw [opened]
    exact sound.open_ (target ▸ unfinished)
  · by_cases same : key = uri.siteKey
    · rw [if_pos same, same]
      exact idle
    · rw [if_neg same, elsewhere key same]
  · have less : after.stats.queued + 1 = before.stats.queued :=
      proceeds.posted.queued sound.counted
    rw [total, total, pending]
    omega

theorem complete_takes (frontier : Frontier) (uri : CrawlUri) (outcome : Outcome) (code : Nat)
    (success : outcome.status = .success code) (sound : frontier.Sound)
    (busy : (frontier.lane uri.siteKey).busy = true)
    (head : (frontier.line uri.siteKey).head? = some uri) :
    frontier.Completes (frontier.complete uri outcome).1 uri := by
  obtain ⟨queue, rest, reported⟩ := flying_reported frontier uri sound.registered busy head
  have final : frontier.grantsRetry uri outcome = false := by
    rw [grantsRetry, success]
  obtain ⟨done, proceeds, gateway⟩ := complete_calm frontier uri uri rest outcome queue sound.calm
    sound.registered reported.found reported.process reported.line rfl
  rw [takeBack, final] at proceeds
  rw [final] at gateway
  exact sound.completes uri outcome proceeds (complete_yields frontier uri outcome).cell gateway
    (complete_score frontier uri rest outcome code queue success reported done)

end PoliteCrawl.Frontier
