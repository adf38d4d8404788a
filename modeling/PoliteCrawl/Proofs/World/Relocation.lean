import PoliteCrawl.Proofs.Frontier.Relocation
import PoliteCrawl.Proofs.World.Kept

set_option autoImplicit false

namespace PoliteCrawl

/-- In every world that can be reached without a fault of the routing, a dispatch that claims the queue
of the oldest ready key parts it in two: the longest first part of URIs that the routing sends elsewhere
by now, and the rest. The first part leaves. Each of its URIs goes, in order, to the end of the queue of
its site, and nothing of it changes but the site; no other queue changes. As many URIs are queued as
before, and those that left are counted. The answer is the first URI of the rest, which names its site as
the routing does, and the queue stays claimed and in process; if there is none, the queue is empty, and
its claim is given up. Another dispatch of the key changes nothing then, and another resolution gives the
same answer and moves nothing. -/
theorem dispatch_parts_queue (setup : Setup) (events : List Event) (calm : Calm setup events)
    (key : String) (rest : List String) (queue : WorkQueue)
    (first : (World.run setup events).frontier.ready = key :: rest)
    (found : (World.run setup events).frontier.queue? key = some queue)
    (claimed : ({ (World.run setup events).frontier with ready := rest }.claim queue).2 = .claimed) :
    let before := (World.run setup events).frontier
    let elsewhere := fun uri : CrawlUri => decide (before.routing.siteKey uri.url ≠ key)
    let gone := queue.items.takeWhile elsewhere
    let left := queue.items.dropWhile elsewhere
    let (after, answer) := { before with ready := rest }.dispatchFrom key
    answer = some left.head? ∧
      (after.lane key).items = left ∧
      (∀ other, other ≠ key →
        (after.lane other).items = (before.lane other).items ++
          (gone.filter (before.routing.siteKey ·.url = other)).map
            fun uri => { uri with siteKey := other }) ∧
      after.stats.queued = before.stats.queued ∧
      after.stats.reclassified = before.stats.reclassified + gone.length ∧
      (∀ head, left.head? = some head →
        head.siteKey = key ∧ before.routing.siteKey head.url = key ∧
          after.claims = key :: before.claims ∧
          ∃ now, after.queue? key = some now ∧ now.state = .inProcess ∧ now.items = left) ∧
      (left = [] → after.claims = before.claims ∧ key ∉ after.claims ∧
        ∃ now, after.queue? key = some now ∧ now.state = .empty ∧ now.items = []) ∧
      after.routing = before.routing ∧
      after.dispatchFrom key = (after, some none) ∧
      (after.resolve key left).2 = some left.head? ∧
      (after.resolve key left).1.stats.queued = after.stats.queued ∧
      (after.resolve key left).1.stats.reclassified = after.stats.reclassified ∧
      ∀ other, ((after.resolve key left).1.lane other).items = (after.lane other).items := by
  intro before elsewhere gone left
  have kept := World.run_kept setup events calm
  obtain ⟨answered, registered, routing, own, others, queued, counted, claims, now, present, state⟩ :=
    Frontier.dispatch_relocates before key rest queue kept.calm kept.registered first found claimed
  generalize { before with ready := rest }.dispatchFrom key = result at *
  obtain ⟨after, answer⟩ := result
  change answer = some left.head? at answered
  change (after.lane key).items = left at own
  change after.queue? key = some now at present
  change now.state = if left = [] then .empty else .inProcess at state
  change after.claims = if left = [] then before.claims else key :: before.claims at claims
  have items : now.items = left := by
    rw [after.lane_of_queue key now present] at own
    exact own
  have unready : now.state ≠ .ready := by
    rw [state]
    split <;> simp
  have home : ∀ head, left.head? = some head → before.routing.siteKey head.url = key :=
    Frontier.settling_home before.routing key queue.items
  obtain ⟨same, still, moved, lanes⟩ := after.resolve_again key left now present
    fun head first => routing.symm ▸ home head first
  refine ⟨answered, own, others, queued (kept.posted.counted Ledger.nothing_counted), counted,
    fun head first => ?_, fun none => ?_, routing, after.dispatch_passes key now present unready,
    same, still, moved, lanes⟩
  · have some : left ≠ [] := by
      intro none
      simp [none] at first
    have inside : head ∈ queue.items :=
      (List.dropWhile_suffix elsewhere).subset (List.mem_of_head? first)
    have site : head.siteKey = key := by
      apply kept.posted.addressed kept.addressed key
      change head ∈ (before.lane key).items
      rw [before.lane_of_queue key queue found]
      exact inside
    rw [if_neg some] at claims state
    exact ⟨site, home head first, claims, now, present, state, items⟩
  · rw [if_pos none] at claims state
    have unclaimed : key ∉ after.claims := by
      have stands := after.settled_queue key now registered present
      simp only [WorkQueue.StandsAt, state] at stands
      have nowhere := congrArg Standing.claimed stands.1
      simpa [Frontier.standing, Standing.nowhere, List.count_eq_zero] using nowhere
    exact ⟨claims, unclaimed, now, present, state, items.trans none⟩

-- Two hosts share a site, until one of them gets its own again.
def sharedSite : List Event :=
  [.reroute (((Routing.new 1).reassign "a.com" "shared").reassign "b.com" "shared"),
    .schedule (page "a.com" "1"), .schedule (page "b.com" "1"), .schedule (page "a.com" "2"),
    .reroute ((Routing.new 1).reassign "b.com" "shared")]

theorem dispatch_parts_queue_shared_site :
    let before := (World.run Setup.plain sharedSite).frontier
    let after := ({ before with ready := [] }.dispatchFrom "shared").1
    before.ready = ["shared"] ∧
      (after.lane "a.com").items = [{ page "a.com" "1" with siteKey := "a.com" }] ∧
      (after.lane "shared").items =
        [{ page "b.com" "1" with siteKey := "shared" },
          { page "a.com" "2" with siteKey := "shared" }] ∧
      after.stats.reclassified = 1 := by
  have calm : Calm Setup.plain sharedSite :=
    ⟨rfl, by simp [sharedSite, Event.Calm]; exact ⟨rfl, rfl⟩⟩
  obtain ⟨_, own, others, _, counted, _⟩ :=
    dispatch_parts_queue Setup.plain sharedSite calm "shared" [] _ rfl rfl rfl
  exact ⟨rfl, others "a.com" (by decide), own, counted⟩

end PoliteCrawl
