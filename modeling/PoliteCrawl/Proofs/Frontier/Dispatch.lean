import PoliteCrawl.Frontier.Dispatch
import PoliteCrawl.Proofs.Frontier.Placement

set_option autoImplicit false

namespace PoliteCrawl.Frontier

def relocations (routing : Routing) (key : String) : List CrawlUri → List Entry
  | [] => []
  | head :: rest =>
      if routing.siteKey head.url = key then []
      else
        ⟨key, .departed head⟩ ::
          ⟨routing.siteKey head.url, .arrived { head with siteKey := routing.siteKey head.url }⟩ ::
          relocations routing key rest

def handOut (key : String) (answer : Option CrawlUri) : List Entry :=
  answer.toList.map fun uri => ⟨key, .handed uri⟩

theorem open_session_shape (budgets : Budgets) (queue : WorkQueue) :
    (openSession budgets queue).key = queue.key ∧
      (openSession budgets queue).items = queue.items ∧
      (openSession budgets queue).state = queue.state ∧
      (openSession budgets queue).wakeTime = none := by
  unfold openSession WorkQueue.considerActive
  split <;> exact ⟨rfl, rfl, rfl, rfl⟩

def opened (frontier : Frontier) (queue : WorkQueue) : WorkQueue :=
  openSession frontier.budgets { queue with state := .inProcess }

theorem opened_shape (frontier : Frontier) (queue : WorkQueue) :
    (frontier.opened queue).key = queue.key ∧ (frontier.opened queue).items = queue.items ∧
      (frontier.opened queue).state = .inProcess ∧ (frontier.opened queue).wakeTime = none :=
  open_session_shape frontier.budgets { queue with state := .inProcess }

inductive Claiming (frontier : Frontier) (queue : WorkQueue) : Frontier × Claim → Prop where
  | dry (none : queue.items = []) : Claiming frontier queue (frontier.markExhausted queue, .skipped)
  | parks (some : queue.items ≠ []) :
      Claiming frontier queue
        (frontier.store (parked (frontier.opened queue)),
          .parked (frontier.opened queue).precedence)
  | retires (some : queue.items ≠ []) :
      Claiming frontier queue
        ((frontier.store (frontier.opened queue)).retire (frontier.opened queue), .skipped)
  | claimed (some : queue.items ≠ []) :
      Claiming frontier queue
        ((frontier.store (frontier.opened queue)).hold (frontier.opened queue).key, .claimed)

theorem claim_cases (frontier : Frontier) (queue : WorkQueue) (ready : queue.state = .ready)
    (free : queue.key ∉ frontier.claims) : Claiming frontier queue (frontier.claim queue) := by
  rw [claim, if_neg (by simp [ready])]
  by_cases dry : queue.isEmpty = true
  · rw [if_pos dry]
    exact .dry (List.isEmpty_iff.mp dry)
  · have some : queue.items ≠ [] := by simpa [WorkQueue.isEmpty] using dry
    let process : WorkQueue := { queue with state := .inProcess }
    let held := ({ frontier with claims := queue.key :: frontier.claims }).store process
    obtain ⟨key, _, state, _⟩ := frontier.opened_shape queue
    have stored : held.store (frontier.opened queue) =
        (frontier.store (frontier.opened queue)).hold (frontier.opened queue).key := by
      rw [key]
      exact store_store { frontier with claims := queue.key :: frontier.claims } process
        (frontier.opened queue) key.symm
    have released : (held.store (frontier.opened queue)).release (frontier.opened queue).key =
        frontier.store (frontier.opened queue) := by
      rw [stored]
      simp [release, hold]
    rw [if_neg dry, if_neg (by simpa using free),
      queue.transition_allowed .inProcess (by simp [ready, QueueState.allows])]
    change Claiming frontier queue (held.applyBudgets process)
    have opens : openSession held.budgets process = frontier.opened queue := rfl
    simp only [applyBudgets, opens, released]
    by_cases spent : (frontier.opened queue).isOverSession = true
    · rw [if_pos spent, deactivate_allowed _ _ _ (by simp [state, QueueState.allows]),
        store_store frontier (frontier.opened queue) (parked (frontier.opened queue)) rfl]
      exact .parks some
    · rw [if_neg spent]
      by_cases exceeded : (frontier.opened queue).isOverTotal = true
      · rw [if_pos exceeded]
        exact .retires some
      · rw [if_neg exceeded, stored]
        exact .claimed some

-- A queue of which no URI is in flight yet, while its key is claimed.
structure Claimed (frontier : Frontier) (queue : WorkQueue) : Prop where
  registered : frontier.Registered
  found : frontier.queue? queue.key = some queue
  process : queue.state = .inProcess

theorem hold_opened (frontier : Frontier) (queue opened : WorkQueue)
    (loose : frontier.Loose queue.key) (found : frontier.queue? queue.key = some queue)
    (resting : queue.lane = { items := queue.items, busy := false }) (key : opened.key = queue.key)
    (items : opened.items = queue.items) (some : queue.items ≠ [])
    (state : opened.state = .inProcess) (awake : opened.wakeTime = none) :
    ((frontier.store opened).hold opened.key).Claimed opened ∧
      frontier.ledger.Posted []
        (((frontier.store opened).hold opened.key).ledger.idle queue.key) := by
  let after := (frontier.store opened).hold opened.key
  have registered : after.Registered :=
    land_held frontier opened (key.symm ▸ loose) state (items.symm ▸ some) awake
  have queues : after.queues = (frontier.store opened).queues := rfl
  obtain ⟨earlier, later, differs⟩ := store_differs frontier after queue opened loose.once
    (key.symm ▸ found) queues
  refine ⟨⟨registered, ?_, state⟩, ?_⟩
  · rw [queues_queue _ _ opened.key queues]
    exact store_same frontier opened queue (key.symm ▸ found)
  · rw [key] at earlier later differs
    refine differs.idle_after.posted (by simp) ?_ fun _ => rfl
    rw [Ledger.idle_here, earlier, later, resting]
    simp [Lane.replay?, WorkQueue.lane, items]

theorem opened_proceeds (frontier after : Frontier) (queue last : WorkQueue)
    (once : frontier.keys.Nodup) (found : frontier.queue? queue.key = some queue)
    (resting : queue.lane = { items := queue.items, busy := false })
    (same : last.key = queue.key ∧ last.items = queue.items)
    (lands : (frontier.store (frontier.opened queue)).Lands last after) :
    frontier.Proceeds [] after :=
  (lands.unstored _ _ (frontier.opened_shape queue).1 same).proceeds once found resting

theorem claim_calm (frontier : Frontier) (queue : WorkQueue) (loose : frontier.Loose queue.key)
    (found : frontier.queue? queue.key = some queue) (ready : queue.state = .ready)
    (awake : queue.wakeTime = none) :
    match frontier.claim queue with
    | (after, .claimed) => after.routing = frontier.routing ∧
        (∃ opened : WorkQueue, opened.key = queue.key ∧ opened.items = queue.items ∧
          queue.items ≠ [] ∧ after.Claimed opened) ∧
        frontier.ledger.Posted [] (after.ledger.idle queue.key)
    | (after, .skipped) => frontier.Proceeds [] after
    | (after, .parked tier) => frontier.Proceeds [] (after.place queue.key (.inactive tier)) := by
  have resting := lane_resting queue (by simp [ready])
  have free : queue.key ∉ frontier.claims := by
    have nowhere := congrArg Standing.claimed loose.nowhere
    simpa [standing, Standing.nowhere, List.count_eq_zero] using nowhere
  obtain ⟨key, items, state, asleep⟩ := frontier.opened_shape queue
  have loosened : (frontier.store (frontier.opened queue)).Loose (frontier.opened queue).key :=
    Loose.store _ (key.symm ▸ loose)
  have claiming := claim_cases frontier queue ready free
  generalize frontier.claim queue = result at claiming ⊢
  cases claiming with
  | dry none =>
      exact (exhausted_lands frontier queue loose (by simp [ready, QueueState.allows]) none
        awake).proceeds loose.once found resting
  | parks some =>
      have allowed : (frontier.opened queue).state.allows .inactive = true := by
        simp [state, QueueState.allows]
      have lands := deactivate_lands _ _ (frontier.opened queue).precedence loosened allowed asleep
      rw [deactivate_allowed _ _ _ allowed, key, store_store frontier (frontier.opened queue)
        (parked (frontier.opened queue)) rfl] at lands
      exact opened_proceeds frontier _ queue _ loose.once found resting ⟨key, items⟩ lands
  | retires some =>
      have lands := retire_lands _ _ loosened (by simp [state, QueueState.allows]) asleep
      exact opened_proceeds frontier _ queue _ loose.once found resting ⟨key, items⟩ lands
  | claimed some =>
      obtain ⟨holds, posted⟩ := hold_opened frontier queue _ loose found resting key items some state
        asleep
      exact ⟨rfl, ⟨_, key, items, some, holds⟩, posted⟩

theorem dequeue_head (queue : WorkQueue) (head : CrawlUri) (rest : List CrawlUri)
    (line : queue.items = head :: rest) :
    (queue.dequeue head.url).1 = { queue with items := rest } := by
  simp [WorkQueue.dequeue, line]

theorem idle_lane {frontier : Frontier} {queue : WorkQueue} (claimed : frontier.Claimed queue) :
    (frontier.ledger.idle queue.key).lane queue.key = { items := queue.items, busy := false } := by
  rw [Ledger.idle_here]
  simp [ledger, lane_of_queue frontier queue.key queue claimed.found, WorkQueue.lane]

theorem counted_some (frontier : Frontier) (queue : WorkQueue) (counted : frontier.ledger.Counted)
    (found : frontier.queue? queue.key = some queue) (some : queue.items ≠ []) :
    1 ≤ frontier.stats.queued := by
  have held := queue_contents frontier queue.key queue found
  have positive := List.length_pos_iff.mpr some
  have same : frontier.stats.queued = frontier.contents.length := counted
  omega

theorem give_head (frontier : Frontier) (queue : WorkQueue) (head : CrawlUri)
    (rest : List CrawlUri) (claimed : frontier.Claimed queue) (line : queue.items = head :: rest) :
    (frontier.recordDispatch queue).Registered ∧
      (frontier.ledger.idle queue.key).Posted [⟨queue.key, .handed head⟩]
        (frontier.recordDispatch queue).ledger := by
  let recorded := queue.recordDispatch frontier.moment
  obtain ⟨_, later, differs⟩ := store_differs frontier (frontier.recordDispatch queue)
    queue recorded claimed.registered.once claimed.found rfl
  have later : (frontier.recordDispatch queue).ledger.lane queue.key =
      { items := head :: rest, busy := true } := by
    simpa [recorded, WorkQueue.lane, WorkQueue.recordDispatch, claimed.process, line] using later
  have stored := store_registered frontier queue recorded claimed.registered claimed.found rfl rfl
    (fun empty => by simp [recorded, WorkQueue.recordDispatch, claimed.process] at empty)
    (fun _ => by simp [recorded, WorkQueue.recordDispatch, line])
  refine ⟨⟨stored.once, stored.ascending, stored.settled⟩,
    differs.idle_before.posted (by simp [recorded, WorkQueue.recordDispatch]) ?_ fun _ => rfl⟩
  change ((frontier.ledger.idle queue.key).lane queue.key).replay? _ =
    some ((frontier.recordDispatch queue).ledger.lane queue.key)
  rw [idle_lane claimed, later, line]
  simp [Lane.replay?, Lane.take, Lane.isHead]

def dropped (frontier : Frontier) (queue : WorkQueue) (head : CrawlUri) : Frontier :=
  (frontier.dropHead queue head).countReclassified.discountQueued

theorem dropped_more (frontier : Frontier) (queue : WorkQueue) (head : CrawlUri)
    (rest : List CrawlUri) (line : queue.items = head :: rest) (more : rest ≠ []) :
    frontier.dropped queue head =
      (frontier.store { queue with items := rest }).countReclassified.discountQueued := by
  simp [dropped, dropHead, dequeue_head queue head rest line, WorkQueue.isEmpty, more]

theorem dropped_last (frontier : Frontier) (queue : WorkQueue) (head : CrawlUri)
    (line : queue.items = [head]) :
    frontier.dropped queue head =
      (((frontier.release queue.key).store { queue with items := [] }).markExhausted
        { queue with items := [] }).countReclassified.discountQueued := by
  simp [dropped, dropHead, dequeue_head queue head [] line, WorkQueue.isEmpty, releaseEmpty, release,
    store]

theorem drop_more (frontier : Frontier) (queue : WorkQueue) (head : CrawlUri)
    (rest : List CrawlUri) (claimed : frontier.Claimed queue) (line : queue.items = head :: rest)
    (more : rest ≠ []) :
    (frontier.dropped queue head).Claimed { queue with items := rest } ∧
      (frontier.ledger.idle queue.key).Posted [⟨queue.key, .departed head⟩]
        ((frontier.dropped queue head).ledger.idle queue.key) := by
  let shorter : WorkQueue := { queue with items := rest }
  have same : frontier.dropped queue head =
      (frontier.store shorter).countReclassified.discountQueued :=
    dropped_more frontier queue head rest line more
  have stored := store_registered frontier queue shorter claimed.registered claimed.found rfl rfl
    (fun empty => by simp [shorter, claimed.process] at empty) (fun _ => more)
  have now : (frontier.dropped queue head).queue? queue.key = some shorter := by
    rw [same]
    exact store_same frontier shorter queue claimed.found
  have here : (frontier.dropped queue head).Claimed shorter :=
    ⟨by rw [same]; exact ⟨stored.once, stored.ascending, stored.settled⟩, now, claimed.process⟩
  refine ⟨here, ?_⟩
  obtain ⟨_, _, differs⟩ := store_differs frontier (frontier.dropped queue head) queue
    shorter claimed.registered.once claimed.found (by rw [same]; rfl)
  refine differs.idle_before.idle_after.posted (by simp [shorter]) ?_ fun counted => ?_
  · change ((frontier.ledger.idle queue.key).lane queue.key).replay? _ =
      some (((frontier.dropped queue head).ledger.idle shorter.key).lane shorter.key)
    rw [idle_lane claimed, idle_lane here, line]
    simp [Lane.replay?, Lane.take, Lane.isHead, shorter]
  · have positive := counted_some frontier queue counted claimed.found (by simp [line])
    rw [same]
    simp only [Ledger.idle, ledger, countReclassified, discountQueued, store, List.filterMap,
      Entry.left?, Entry.joined?, Deed.left?, Deed.joined?, List.length]
    omega

theorem Registered.discount {frontier : Frontier} (registered : frontier.Registered) :
    frontier.countReclassified.discountQueued.Registered :=
  ⟨registered.once, registered.ascending, registered.settled⟩

theorem drop_last (frontier : Frontier) (queue : WorkQueue) (head : CrawlUri)
    (claimed : frontier.Claimed queue) (line : queue.items = [head]) :
    (frontier.dropped queue head).Registered ∧
      (frontier.dropped queue head).routing = frontier.routing ∧
      (frontier.ledger.idle queue.key).Posted [⟨queue.key, .departed head⟩]
        (frontier.dropped queue head).ledger := by
  let drained : WorkQueue := { queue with items := [] }
  let base := (frontier.release queue.key).store drained
  have stands := settled_queue frontier queue.key queue claimed.registered claimed.found
  simp only [WorkQueue.StandsAt, claimed.process] at stands
  have listed : queue.key ∈ frontier.claims := by
    have once := congrArg Standing.claimed stands.1
    simp only [standing] at once
    exact List.count_pos_iff.mp (by omega)
  have loose := loosen_claimed frontier queue.key claimed.registered listed
  have same : frontier.dropped queue head =
      (base.markExhausted drained).countReclassified.discountQueued :=
    dropped_last frontier queue head line
  have lands : (frontier.release queue.key).Lands drained (base.markExhausted drained) :=
    (exhausted_lands base drained (loose.store drained)
      (by simp [drained, claimed.process, QueueState.allows]) rfl stands.2.2).unstored drained drained
      rfl ⟨rfl, rfl⟩
  have queues : (frontier.dropped queue head).queues = (base.markExhausted drained).queues := by
    rw [same]
    rfl
  obtain ⟨landed, named, lane, updated⟩ := lands.landed
  refine ⟨same ▸ lands.registered.discount, by rw [same]; exact lands.routing, ?_⟩
  obtain ⟨_, later, differs⟩ := store_differs frontier (frontier.dropped queue head)
    queue landed claimed.registered.once (named.symm ▸ claimed.found) (queues.trans updated)
  have key : landed.key = queue.key := named
  rw [key, lane] at later
  rw [key] at differs
  refine differs.idle_before.posted (by simp) ?_ fun counted => ?_
  · rw [idle_lane claimed, later, line]
    simp [Lane.replay?, Lane.take, Lane.isHead, drained]
  · have positive := counted_some frontier queue counted claimed.found (by simp [line])
    have queued : (base.markExhausted drained).stats.queued = frontier.stats.queued := lands.queued
    rw [same]
    simp only [Ledger.idle, ledger, countReclassified, discountQueued, queued, List.filterMap,
      Entry.left?, Entry.joined?, Deed.left?, Deed.joined?, List.length]
    omega

theorem claimed_elsewhere (before after : Frontier) (queue : WorkQueue) (entries : List Entry)
    (claimed : before.Claimed queue) (proceeds : before.Proceeds entries after)
    (elsewhere : ∀ entry ∈ entries, entry.key ≠ queue.key) :
    ∃ now : WorkQueue, now.key = queue.key ∧ now.items = queue.items ∧ after.Claimed now := by
  have kept := proceeds.posted.lanes queue.key
  have lane : before.lane queue.key = queue.lane :=
    lane_of_queue before queue.key queue claimed.found
  rw [deeds_elsewhere queue.key entries elsewhere] at kept
  have same : queue.lane = after.lane queue.key := by
    simpa [ledger, Lane.replay?, lane] using kept
  have busy : (after.lane queue.key).busy = true := by
    rw [← same]
    simp [WorkQueue.lane, claimed.process]
  obtain ⟨now, found, process, items⟩ := busy_queue after queue.key busy
  have named := queue_key after queue.key now found
  exact ⟨now, named, by rw [items, ← same]; rfl, proceeds.registered, named.symm ▸ found, process⟩

def relocated (frontier : Frontier) (head : CrawlUri) : CrawlUri :=
  { head with siteKey := frontier.routing.siteKey head.url }

theorem relocate_head (frontier : Frontier) (queue : WorkQueue) (head : CrawlUri)
    (rest : List CrawlUri) (calm : frontier.Calm) (claimed : frontier.Claimed queue)
    (line : queue.items = head :: rest)
    (away : frontier.routing.siteKey head.url ≠ queue.key) :
    ∃ after, (frontier.dropped queue head).send (frontier.relocated head) = (after, some ()) ∧
      after.routing = frontier.routing ∧ after.Registered ∧
      (rest = [] → (frontier.ledger.idle queue.key).Posted
        [⟨queue.key, .departed head⟩,
          ⟨frontier.routing.siteKey head.url, .arrived (frontier.relocated head)⟩] after.ledger) ∧
      (rest ≠ [] → (∃ now : WorkQueue, now.key = queue.key ∧ now.items = rest ∧
          after.Claimed now) ∧
        (frontier.ledger.idle queue.key).Posted
          [⟨queue.key, .departed head⟩,
            ⟨frontier.routing.siteKey head.url, .arrived (frontier.relocated head)⟩]
          (after.ledger.idle queue.key)) := by
  have arrives (base : Frontier) (registered : base.Registered)
      (routing : base.routing = frontier.routing) :=
    send_proceeds base (frontier.relocated head) _ (.inr rfl)
      (show base.Calm by unfold Calm; rw [routing]; exact calm) registered
  by_cases last : rest = []
  · subst last
    obtain ⟨registered, routing, departs⟩ := drop_last frontier queue head claimed line
    obtain ⟨sent, proceeds⟩ := arrives _ registered routing
    exact ⟨_, Prod.ext rfl sent, proceeds.routing.trans routing, proceeds.registered,
      fun _ => departs.trans proceeds.posted, fun more => absurd rfl more⟩
  · obtain ⟨shorter, departs⟩ := drop_more frontier queue head rest claimed line last
    have routing : (frontier.dropped queue head).routing = frontier.routing := by
      rw [dropped_more frontier queue head rest line last]
      rfl
    obtain ⟨sent, proceeds⟩ := arrives _ shorter.registered routing
    have elsewhere : ∀ entry ∈
        [(⟨frontier.routing.siteKey head.url, .arrived (frontier.relocated head)⟩ : Entry)],
        entry.key ≠ queue.key := by
      simpa using away
    obtain ⟨now, named, items, still⟩ := claimed_elsewhere _ _ _ _ shorter proceeds elsewhere
    exact ⟨_, Prod.ext rfl sent, proceeds.routing.trans routing, proceeds.registered,
      fun none => absurd none last, fun _ => ⟨⟨now, named, items, still⟩,
        departs.trans (proceeds.posted.idle queue.key elsewhere)⟩⟩

theorem resolve_home (frontier : Frontier) (queue : WorkQueue) (head : CrawlUri)
    (rest : List CrawlUri) (found : frontier.queue? queue.key = some queue)
    (home : frontier.routing.siteKey head.url = queue.key) :
    frontier.resolve queue.key (head :: rest) =
      (frontier.recordDispatch queue, some (some head)) := by
  simp [resolve, found, home]

theorem resolve_away (frontier : Frontier) (queue : WorkQueue) (head : CrawlUri)
    (rest : List CrawlUri) (found : frontier.queue? queue.key = some queue)
    (away : frontier.routing.siteKey head.url ≠ queue.key) :
    frontier.resolve queue.key (head :: rest) =
      match (frontier.dropped queue head).send (frontier.relocated head) with
      | (after, none) => (after, none)
      | (after, some _) =>
          if rest.isEmpty then (after, some none) else after.resolve queue.key rest := by
  rw [resolve, found]
  exact if_neg away

-- All that a dispatch does to a claimed queue: heads that belong elsewhere depart, up to the first
-- that does not, which is given away.
theorem resolve_calm (items : List CrawlUri) (frontier : Frontier) (queue : WorkQueue)
    (calm : frontier.Calm) (claimed : frontier.Claimed queue) (line : queue.items = items)
    (some : items ≠ []) :
    ∃ answer, (frontier.resolve queue.key items).2 = Option.some answer ∧
      (frontier.resolve queue.key items).1.Registered ∧
      (frontier.resolve queue.key items).1.routing = frontier.routing ∧
      (frontier.ledger.idle queue.key).Posted
        (relocations frontier.routing queue.key items ++ handOut queue.key answer)
        (frontier.resolve queue.key items).1.ledger := by
  induction items generalizing frontier queue with
  | nil => exact absurd rfl some
  | cons head rest ih =>
      by_cases home : frontier.routing.siteKey head.url = queue.key
      · obtain ⟨registered, posted⟩ := give_head frontier queue head rest claimed line
        rw [resolve_home frontier queue head rest claimed.found home]
        refine ⟨Option.some head, rfl, registered, rfl, ?_⟩
        simpa [relocations, home, handOut] using posted
      · obtain ⟨after, sent, routing, registered, last, more⟩ :=
          relocate_head frontier queue head rest calm claimed line home
        rw [resolve_away frontier queue head rest claimed.found home, sent]
        simp only [relocations, if_neg home]
        by_cases done : rest = []
        · subst done
          exact ⟨none, rfl, registered, routing, last rfl⟩
        · obtain ⟨⟨now, named, shorter, still⟩, posted⟩ := more done
          have quiet : after.Calm := by
            unfold Calm
            rw [routing]
            exact calm
          obtain ⟨answer, resolved, settled, unchanged, others⟩ := ih after now quiet still shorter done
          rw [if_neg (by simpa using done)]
          rw [named] at resolved settled unchanged others
          rw [routing] at unchanged others
          exact ⟨answer, resolved, settled, unchanged, posted.trans others⟩

def dispatchEntries (frontier : Frontier) (key : String) : List Entry :=
  match frontier.queue? key with
  | none => []
  | some queue =>
      if (frontier.claim queue).2 = .claimed then
        relocations frontier.routing key queue.items
      else []

theorem dispatch_proceeds (frontier : Frontier) (key : String) (rest : List String)
    (calm : frontier.Calm) (registered : frontier.Registered)
    (first : frontier.ready = key :: rest) :
    ∃ answer, ({ frontier with ready := rest }.dispatchFrom key).2 = some answer ∧
      frontier.Proceeds
        ({ frontier with ready := rest }.dispatchEntries key ++ handOut key answer)
        ({ frontier with ready := rest }.dispatchFrom key).1 := by
  obtain ⟨queue, found, named, ready, _, awake⟩ :=
    ready_queue frontier key registered (by simp [first])
  have loose := loosen_ready frontier key rest registered first
  subst named
  have claimed := claim_calm { frontier with ready := rest } queue loose found ready awake
  have present : { frontier with ready := rest }.queue? queue.key = some queue := found
  simp only [dispatchFrom, dispatchEntries, present]
  cases result : { frontier with ready := rest }.claim queue with
  | mk after ended =>
      rw [result] at claimed
      cases ended with
      | skipped => exact ⟨none, rfl, claimed.registered, claimed.routing, claimed.posted⟩
      | parked tier => exact ⟨none, rfl, claimed.registered, claimed.routing, claimed.posted⟩
      | claimed =>
          obtain ⟨routing, ⟨opened, key, items, some, holds⟩, opens⟩ := claimed
          have quiet : after.Calm := by
            unfold Calm
            rw [routing]
            exact calm
          obtain ⟨answer, resolved, settled, unchanged, posted⟩ :=
            resolve_calm queue.items after opened quiet holds items some
          rw [key] at resolved settled unchanged posted
          rw [routing] at unchanged posted
          refine ⟨answer, resolved, settled, unchanged, ?_⟩
          rw [if_pos rfl]
          exact opens.trans posted

end PoliteCrawl.Frontier
