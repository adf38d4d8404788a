import PoliteCrawl.Proofs.World.Kept

set_option autoImplicit false

namespace PoliteCrawl

namespace Frontier

def verdict (frontier : Frontier) (flying : Option CrawlUri) (uri : CrawlUri) : Completion :=
  match frontier.queue? uri.siteKey, flying with
  | none, _ => .refused (.missingQueue uri.siteKey)
  | some _, none => .refused (.notInProcess uri.siteKey)
  | some _, some flown =>
      if flown.url = uri.url then .done else .refused (.unknownItem uri.text uri.siteKey)

theorem claimed_process (frontier : Frontier) (key : String) (registered : frontier.Registered) :
    key ∈ frontier.claims ↔
      ∃ queue, frontier.queue? key = some queue ∧ queue.state = .inProcess := by
  constructor
  · intro listed
    obtain ⟨queue, found, _, process, _⟩ := claimed_queue frontier key registered listed
    exact ⟨queue, found, process⟩
  · intro ⟨queue, found, process⟩
    exact (process_claimed frontier key queue registered found process).1

theorem claimed_once (frontier : Frontier) (key : String) (registered : frontier.Registered) :
    frontier.claims.count key ≤ 1 := by
  have settled := registered.settled key
  unfold Settled at settled
  change (frontier.standing key).claimed ≤ 1
  cases found : frontier.queue? key with
  | none =>
      rw [found] at settled
      simp [settled, Standing.nowhere]
  | some queue =>
      rw [found] at settled
      rw [(stands_counts queue _ settled).2.2.2.2]
      split <;> simp

theorem busy_process (frontier : Frontier) (key : String) :
    (frontier.lane key).busy = true ↔
      ∃ queue, frontier.queue? key = some queue ∧ queue.state = .inProcess := by
  constructor
  · intro busy
    obtain ⟨queue, found, process, _⟩ := busy_queue frontier key busy
    exact ⟨queue, found, process⟩
  · intro ⟨queue, found, process⟩
    simp [lane_of_queue frontier key queue found, WorkQueue.lane, process]

theorem complete_verdict (frontier : Frontier) (uri : CrawlUri) (outcome : Outcome)
    (flying : Option CrawlUri) (calm : frontier.Calm) (registered : frontier.Registered)
    (flies : (frontier.lane uri.siteKey).Flies flying) :
    (frontier.complete uri outcome).2 = frontier.verdict flying uri ∧
      ((frontier.complete uri outcome).2 ≠ .done →
        (frontier.complete uri outcome).1 = frontier) := by
  have flown (queue : WorkQueue) (head : CrawlUri) (rest : List CrawlUri)
      (found : frontier.queue? uri.siteKey = some queue) (process : queue.state = .inProcess)
      (line : queue.items = head :: rest) : flying = some head := by
    rw [frontier.lane_of_queue _ queue found] at flies
    obtain ⟨some, same⟩ := Option.isSome_iff_exists.mp
      (show flying.isSome = true by simpa [WorkQueue.lane, process] using flies.1.symm)
    have first := flies.2 some same
    simp only [WorkQueue.lane, line, List.head?_cons, Option.some.injEq] at first
    rw [same, first]
  rcases frontier.complete_cases uri outcome registered with
    ⟨missing, refused⟩ | ⟨queue, found, idle, refused⟩ |
    ⟨queue, head, rest, found, process, line, other, refused⟩ |
    ⟨queue, head, rest, found, process, line, same⟩
  · rw [refused]
    simp [verdict, missing]
  · have grounded : flying = none := by
      rw [frontier.lane_of_queue _ queue found] at flies
      simpa [WorkQueue.lane, idle] using flies.1
    rw [refused]
    simp [verdict, found, grounded]
  · rw [refused, flown queue head rest found process line]
    simp [verdict, found, other]
  · have done := (frontier.complete_calm uri head rest outcome queue calm registered found process
      line same).1
    rw [done, flown queue head rest found process line]
    simp [verdict, found, same]

end Frontier

theorem World.Kept.flying {origin : Gateway} {world : World}
    (kept : World.Kept origin world.frontier world.journal) (key : String) :
    (inFlight? (deedsOn key world.journal)).isSome = true ↔ key ∈ world.frontier.claims := by
  have replayed : Lane.empty.replay? (deedsOn key world.journal) =
      some (world.frontier.lane key) := kept.posted.lanes key
  have flies := Lane.replay_in_flight (world.frontier.lane key) _ replayed
  rw [← flies.1]
  exact (world.frontier.busy_process key).trans
    (world.frontier.claimed_process key kept.registered).symm

/-- In every world that can be reached without a fault of the routing, a site has handed out as many
URIs as came back, or one more. It is one more as long as its key is claimed and its queue in process,
and the one that was handed out is then the head of this queue. A report is accepted if it is about the
URI in flight, and changes nothing otherwise. -/
theorem one_in_flight (setup : Setup) (events : List Event) (calm : Calm setup events)
    (key : String) :
    let world := World.run setup events
    let deeds := deedsOn key world.journal
    (deeds.filterMap Deed.handed?).length =
        (deeds.filterMap Deed.returned?).length + (inFlight? deeds).toList.length ∧
      ((inFlight? deeds).isSome = true ↔ key ∈ world.frontier.claims) ∧
      (key ∈ world.frontier.claims ↔
        ∃ queue, world.frontier.queue? key = some queue ∧ queue.state = .inProcess) ∧
      world.frontier.claims.count key ≤ 1 ∧
      (∀ uri, inFlight? deeds = some uri →
        ∃ queue, world.frontier.queue? key = some queue ∧ queue.items.head? = some uri) ∧
      ∀ uri outcome, uri.siteKey = key →
        (world.frontier.complete uri outcome).2 = world.frontier.verdict (inFlight? deeds) uri ∧
          ((world.frontier.complete uri outcome).2 ≠ .done →
            (world.frontier.complete uri outcome).1 = world.frontier) := by
  intro world deeds
  have kept := World.run_kept setup events calm
  have replayed : Lane.empty.replay? deeds = some (world.frontier.lane key) := kept.posted.lanes key
  have flies := Lane.replay_in_flight (world.frontier.lane key) deeds replayed
  have flights := Lane.replay_flights Lane.empty (world.frontier.lane key) deeds replayed
  have busy := world.frontier.busy_process key
  have claimed := world.frontier.claimed_process key kept.registered
  rw [flies.1] at flights busy
  refine ⟨?_, kept.flying key, claimed, ?_, ?_, ?_⟩
  · have one : (inFlight? deeds).isSome.toNat = (inFlight? deeds).toList.length := by
      cases inFlight? deeds <;> rfl
    rw [one] at flights
    simpa [Lane.empty] using flights
  · exact world.frontier.claimed_once key kept.registered
  · intro uri same
    have head := flies.2 uri same
    obtain ⟨queue, found, _⟩ := busy.mp (by simp [same])
    rw [world.frontier.lane_of_queue key queue found] at head
    exact ⟨queue, found, head⟩
  · intro uri outcome named
    subst named
    exact world.frontier.complete_verdict uri outcome _ kept.calm kept.registered flies

theorem one_in_flight_first_call :
    Calm Setup.plain firstCall ∧
      inFlight? (deedsOn "a.com" (World.run Setup.plain firstCall).journal) =
        some { page "a.com" "1" with siteKey := "a.com" } ∧
      "a.com" ∈ (World.run Setup.plain firstCall).frontier.claims :=
  ⟨first_call_calm, rfl,
    (one_in_flight Setup.plain firstCall first_call_calm "a.com").2.1.mp rfl⟩

end PoliteCrawl
