import PoliteCrawl.Proofs.World.Kept

set_option autoImplicit false

namespace PoliteCrawl

theorem entries_split (entries : List Entry) (uri : CrawlUri) :
    ((entries.filterMap Entry.joined?).map CrawlUri.essence).count uri =
        ((entries.filterMap Entry.accepted?).map CrawlUri.essence).count uri +
          ((entries.filterMap Entry.arrived?).map CrawlUri.essence).count uri ∧
      ((entries.filterMap Entry.left?).map CrawlUri.essence).count uri =
        ((entries.filterMap Entry.departed?).map CrawlUri.essence).count uri +
          ((entries.filterMap Entry.finished?).map CrawlUri.essence).count uri := by
  induction entries with
  | nil => exact ⟨rfl, rfl⟩
  | cons entry rest ih =>
      obtain ⟨key, deed⟩ := entry
      simp only [Lane.filter_map_head, List.map_append, List.count_append]
      cases deed <;>
        simp only [Entry.joined?, Entry.left?, Entry.accepted?, Entry.arrived?, Entry.departed?,
          Entry.finished?, Deed.joined?, Deed.left?, Deed.accepted?, Deed.arrived?, Deed.departed?,
          Deed.finished?, Option.toList, List.map_nil, List.count_nil] <;> omega

theorem essence_bare (uris : List CrawlUri) :
    (uris.map CrawlUri.bare).map CrawlUri.essence = uris.map CrawlUri.essence := by
  simp [CrawlUri.bare, CrawlUri.essence]

theorem Ledger.Posted.conserved {after : Ledger} {entries : List Entry}
    (posted : Ledger.nothing.Posted entries after) (paired : Paired entries) :
    ((entries.filterMap Entry.accepted?).map CrawlUri.essence).Perm
      ((entries.filterMap Entry.finished? ++ after.contents).map CrawlUri.essence) := by
  refine List.perm_iff_count.mpr fun uri => ?_
  have moved := (posted.contents.map CrawlUri.essence).count_eq uri
  rw [essence_bare, essence_bare] at moved
  obtain ⟨joined, left⟩ := entries_split entries uri
  have same := congrArg (List.count uri) paired
  simp only [Ledger.nothing, List.nil_append, List.map_append, List.count_append] at moved ⊢
  omega

def Frontier.totalLength (frontier : Frontier) : Nat :=
  frontier.queues.foldr (fun queue total => queue.length + total) 0

theorem Frontier.contents_length (frontier : Frontier) :
    frontier.contents.length = frontier.totalLength := by
  unfold Frontier.contents Frontier.totalLength
  induction frontier.queues with
  | nil => rfl
  | cons first rest ih =>
      rw [List.flatMap_cons, List.length_append, ih]
      rfl

theorem Frontier.empty_counted (frontier : Frontier) (counted : frontier.ledger.Counted) :
    frontier.isEmpty = true ↔ ∀ queue ∈ frontier.queues, queue.items = [] := by
  have same : frontier.stats.queued = frontier.contents.length := counted
  rw [Frontier.isEmpty, decide_eq_true_iff, same, List.length_eq_zero_iff]
  simp [Frontier.contents]

/-- In every world that can be reached without a fault of the routing: each URI that was accepted, but
for its site and its attempts, is done with or stands in one queue, as often as it was accepted; the
gateway heard of those that are done with and of no others; the URIs that ever joined a queue are those
that left it and then those it holds, in this order, and those behind its head are as they joined; each
URI in a queue names its site; and the number of queued URIs is right. -/
theorem nothing_lost (setup : Setup) (events : List Event) (calm : Calm setup events) :
    let world := World.run setup events
    ((world.journal.filterMap Entry.accepted?).map CrawlUri.essence).Perm
        ((world.journal.filterMap Entry.finished? ++
          world.frontier.queues.flatMap (·.items)).map CrawlUri.essence) ∧
      setup.gateway.Heard (world.journal.filterMap Entry.finished?) world.frontier.gateway ∧
      (∀ key, Lane.empty.replay? (deedsOn key world.journal) = some (world.frontier.lane key)) ∧
      (∀ key queue, world.frontier.queue? key = some queue →
        ((deedsOn key world.journal).filterMap Deed.joined?).map CrawlUri.bare =
            ((deedsOn key world.journal).filterMap Deed.left? ++ queue.items).map CrawlUri.bare ∧
          queue.items.tail <:+ (deedsOn key world.journal).filterMap Deed.joined? ∧
          ∀ uri ∈ queue.items, uri.siteKey = key) ∧
      world.frontier.stats.queued = world.frontier.totalLength ∧
      (world.frontier.isEmpty = true ↔
        ∀ queue ∈ world.frontier.queues, queue.items = []) := by
  intro world
  have kept := World.run_kept setup events calm
  have counted := kept.posted.counted Ledger.nothing_counted
  have queued : world.frontier.stats.queued = world.frontier.contents.length := counted
  refine ⟨kept.posted.conserved kept.paired, kept.heard, kept.posted.lanes, ?_,
    queued.trans world.frontier.contents_length, world.frontier.empty_counted counted⟩
  intro key queue found
  have lane : world.frontier.lane key = queue.lane := world.frontier.lane_of_queue key queue found
  have replayed : Lane.empty.replay? (deedsOn key world.journal) = some queue.lane :=
    lane ▸ kept.posted.lanes key
  have line := Lane.replay_fifo Lane.empty queue.lane _ replayed
  have behind := Lane.replay_tail Lane.empty queue.lane _ replayed
  refine ⟨by simpa [Lane.empty, WorkQueue.lane] using line,
    by simpa [Lane.empty, WorkQueue.lane] using behind, fun uri member => ?_⟩
  refine kept.posted.addressed kept.addressed key uri ?_
  change uri ∈ (world.frontier.lane key).items
  rw [lane]
  exact member

theorem nothing_lost_first_call :
    Calm Setup.plain firstCall ∧
      (World.run Setup.plain firstCall).frontier.stats.queued = 2 ∧
      (World.run Setup.plain firstCall).frontier.stats.queued =
        (World.run Setup.plain firstCall).frontier.totalLength :=
  ⟨first_call_calm, rfl, (nothing_lost Setup.plain firstCall first_call_calm).2.2.2.2.1⟩

end PoliteCrawl
