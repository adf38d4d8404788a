import PoliteCrawl.Proofs.Frontier.Completion
import PoliteCrawl.Proofs.Frontier.Delivery

set_option autoImplicit false

namespace PoliteCrawl

namespace Lane

theorem replay_departs (gone left : List CrawlUri) :
    (⟨gone ++ left, false⟩ : Lane).replay? (gone.map .departed) = some ⟨left, false⟩ := by
  induction gone with
  | nil => rfl
  | cons head rest ih => simpa [replay?, take, isHead] using ih

theorem replay_arrives (lane : Lane) (uris : List CrawlUri) :
    lane.replay? (uris.map .arrived) = some { lane with items := lane.items ++ uris } := by
  induction uris generalizing lane with
  | nil => simp [replay?]
  | cons uri rest ih => simpa [replay?, take] using ih { lane with items := lane.items ++ [uri] }

end Lane

namespace Frontier

def displaced (routing : Routing) (key : String) (items : List CrawlUri) : List CrawlUri :=
  items.takeWhile fun uri => decide (routing.siteKey uri.url ≠ key)

def settling (routing : Routing) (key : String) (items : List CrawlUri) : List CrawlUri :=
  items.dropWhile fun uri => decide (routing.siteKey uri.url ≠ key)

theorem displaced_split (routing : Routing) (key : String) (items : List CrawlUri) :
    displaced routing key items ++ settling routing key items = items :=
  List.takeWhile_append_dropWhile

theorem settling_home (routing : Routing) (key : String) (items : List CrawlUri) (head : CrawlUri)
    (first : (settling routing key items).head? = some head) : routing.siteKey head.url = key := by
  induction items with
  | nil => cases first
  | cons uri rest ih =>
      by_cases home : routing.siteKey uri.url = key
      · have same : uri = head := by simpa [settling, home] using first
        exact same ▸ home
      · exact ih (by simpa [settling, home] using first)

theorem relocations_depart (routing : Routing) (key : String) (items : List CrawlUri) :
    deedsOn key (relocations routing key items) =
      (displaced routing key items).map .departed := by
  induction items with
  | nil => rfl
  | cons uri rest ih =>
      by_cases home : routing.siteKey uri.url = key
      · simp [relocations, displaced, deedsOn, home]
      · simpa [relocations, displaced, deedsOn, home] using ih

theorem relocations_arrive (routing : Routing) (key other : String) (items : List CrawlUri)
    (different : other ≠ key) :
    deedsOn other (relocations routing key items) =
      (((displaced routing key items).filter (routing.siteKey ·.url = other)).map
        fun uri => { uri with siteKey := other }).map .arrived := by
  induction items with
  | nil => rfl
  | cons uri rest ih =>
      by_cases home : routing.siteKey uri.url = key
      · simp [relocations, displaced, deedsOn, home]
      · by_cases here : routing.siteKey uri.url = other
        · simpa [relocations, displaced, deedsOn, home, here, Ne.symm different, different] using ih
        · simpa [relocations, displaced, deedsOn, home, here, Ne.symm different] using ih

theorem hand_elsewhere (key other : String) (answer : Option CrawlUri) (different : other ≠ key) :
    deedsOn other (handOut key answer) = [] := by
  cases answer <;> simp [handOut, deedsOn, Ne.symm different]

theorem hand_head (key : String) (line : List CrawlUri) :
    (⟨line, false⟩ : Lane).replay? (deedsOn key (handOut key line.head?)) =
      some ⟨line, !line.isEmpty⟩ := by
  cases line with
  | nil => rfl
  | cons head rest => simp [handOut, deedsOn, Lane.replay?, Lane.take, Lane.isHead]

theorem reclassified_placing :
    Placing nobody fun before after => after.stats.reclassified = before.stats.reclassified where
  refl _ := rfl
  trans _ _ _ one two := two.trans one
  route _ _ := rfl
  store _ _ _ := rfl
  add _ _ _ _ := rfl
  file _ _ _ := rfl
  count _ := rfl
  publish _ _ := rfl

theorem exhausted_claims (frontier : Frontier) (queue : WorkQueue) :
    (frontier.markExhausted queue).claims = frontier.claims :=
  (exhausted_placed stays_dozing.toPlacing frontier queue (free_nobody frontier queue)).claims

theorem dropped_reclassified (frontier : Frontier) (queue : WorkQueue) (head : CrawlUri) :
    (frontier.dropped queue head).stats.reclassified = frontier.stats.reclassified + 1 := by
  have kept : (frontier.dropHead queue head).stats.reclassified = frontier.stats.reclassified := by
    rw [dropHead]
    split
    · exact exhausted_placed reclassified_placing _ _ (free_nobody _ _)
    · rfl
  exact congrArg (· + 1) kept

theorem dropped_claims (frontier : Frontier) (queue : WorkQueue) (head : CrawlUri)
    (rest : List CrawlUri) (line : queue.items = head :: rest) :
    (frontier.dropped queue head).claims =
      if rest = [] then frontier.claims.erase queue.key else frontier.claims := by
  by_cases last : rest = []
  · subst last
    rw [dropped_last frontier queue head line, if_pos rfl]
    exact exhausted_claims _ _
  · rw [dropped_more frontier queue head rest line last, if_neg last]
    rfl

-- How the resolution of a claimed queue ends: with its first URI that belongs there, or, if there is
-- none, with an empty queue that is not claimed any more.
structure Resolved (frontier : Frontier) (key : String) (items : List CrawlUri)
    (result : Frontier × Option (Option CrawlUri)) : Prop where
  answer : result.2 = some (settling frontier.routing key items).head?
  counted : result.1.stats.reclassified =
    frontier.stats.reclassified + (displaced frontier.routing key items).length
  claims : result.1.claims =
    if settling frontier.routing key items = [] then frontier.claims.erase key
    else frontier.claims
  state : ∃ queue, result.1.queue? key = some queue ∧
    queue.state =
      if settling frontier.routing key items = [] then .empty else .inProcess

theorem resolve_sorts (items : List CrawlUri) (frontier : Frontier) (queue : WorkQueue)
    (calm : frontier.Calm) (claimed : frontier.Claimed queue) (line : queue.items = items)
    (some : items ≠ []) :
    Resolved frontier queue.key items (frontier.resolve queue.key items) := by
  induction items generalizing frontier queue with
  | nil => exact absurd rfl some
  | cons head rest ih =>
      by_cases home : frontier.routing.siteKey head.url = queue.key
      · have settled : settling frontier.routing queue.key (head :: rest) = head :: rest := by
          simp [settling, home]
        have stays : displaced frontier.routing queue.key (head :: rest) = [] := by
          simp [displaced, home]
        rw [resolve_home frontier queue head rest claimed.found home]
        refine ⟨by rw [settled]; rfl, by rw [stays]; rfl, by rw [settled]; rfl,
          queue.recordDispatch frontier.moment, ?_, ?_⟩
        · exact store_same frontier (queue.recordDispatch frontier.moment) queue claimed.found
        · rw [settled]
          exact claimed.process
      · obtain ⟨after, sent, routing, registered, _, more⟩ :=
          relocate_head frontier queue head rest calm claimed line home
        have listed := (process_claimed frontier queue.key queue claimed.registered claimed.found
          claimed.process).1
        obtain ⟨left, key, _, state, queues, _, _⟩ :=
          dropped_shape frontier queue head rest claimed.process listed line
        have counted : after.stats.reclassified = frontier.stats.reclassified + 1 := by
          have kept := send_placed reclassified_placing (frontier.dropped queue head)
            (frontier.relocated head)
          rw [sent] at kept
          exact kept.trans (dropped_reclassified frontier queue head)
        have claims : after.claims =
            if rest = [] then frontier.claims.erase queue.key else frontier.claims := by
          have kept := (send_placed stays_dozing.toPlacing (frontier.dropped queue head)
            (frontier.relocated head)).claims
          rw [sent] at kept
          exact kept.trans (dropped_claims frontier queue head rest line)
        have leaves : displaced frontier.routing queue.key (head :: rest) =
            head :: displaced frontier.routing queue.key rest := by
          simp [displaced, home]
        have settled : settling frontier.routing queue.key (head :: rest) =
            settling frontier.routing queue.key rest := by
          simp [settling, home]
        rw [resolve_away frontier queue head rest claimed.found home, sent]
        simp only
        by_cases last : rest = []
        · have beside := send_beside (frontier.dropped queue head) (frontier.relocated head)
            queue.key (Ne.symm home)
          have stored : (frontier.dropped queue head).queue? queue.key = .some left := by
            rw [queues_queue _ _ queue.key queues, ← key]
            exact store_same frontier left queue (key.symm ▸ claimed.found)
          rw [sent, stored] at beside
          subst last
          exact ⟨by rw [settled]; rfl, by rw [leaves]; exact counted, by rw [settled]; exact claims,
            left, beside, by rw [settled]; exact state⟩
        · obtain ⟨⟨now, named, shorter, still⟩, _⟩ := more last
          have quiet : after.Calm := by
            unfold Calm
            rw [routing]
            exact calm
          have sorted := ih after now quiet still shorter last
          rw [named] at sorted
          obtain ⟨answer, further, held, ends⟩ := sorted
          rw [routing] at answer further held ends
          rw [if_neg last] at claims
          rw [if_neg (by simpa using last)]
          refine ⟨by rw [settled]; exact answer, ?_, by rw [settled, ← claims]; exact held, ?_⟩
          · rw [further, leaves, counted, List.length_cons]
            omega
          · rw [settled]
            exact ends

structure Relocates (before : Frontier) (key : String) (items : List CrawlUri) (after : Frontier) :
    Prop where
  registered : after.Registered
  routing : after.routing = before.routing
  own : (after.lane key).items = settling before.routing key items
  others : ∀ other, other ≠ key → (after.lane other).items = (before.lane other).items ++
    ((displaced before.routing key items).filter (before.routing.siteKey ·.url = other)).map
      fun uri => { uri with siteKey := other }
  queued : before.ledger.Counted → after.stats.queued = before.stats.queued
  counted : after.stats.reclassified =
    before.stats.reclassified + (displaced before.routing key items).length
  claims : after.claims =
    if settling before.routing key items = [] then before.claims else key :: before.claims
  state : ∃ queue, after.queue? key = some queue ∧
    queue.state = if settling before.routing key items = [] then .empty else .inProcess

theorem moved_contents (routing : Routing) (key : String) (items : List CrawlUri)
    (answer : Option CrawlUri) :
    let entries := relocations routing key items ++ handOut key answer
    (entries.filterMap Entry.left?).length = (entries.filterMap Entry.joined?).length := by
  have given : ∀ entry ∈ handOut key answer, entry.left? = none ∧ entry.joined? = none := by
    cases answer <;> simp [handOut, Entry.left?, Entry.joined?, Deed.left?, Deed.joined?]
  have left := List.filterMap_eq_nil_iff.mpr fun entry member => (given entry member).1
  have joined := List.filterMap_eq_nil_iff.mpr fun entry member => (given entry member).2
  simp only [List.filterMap_append, left, joined, List.append_nil]
  induction items with
  | nil => rfl
  | cons uri rest ih =>
      by_cases home : routing.siteKey uri.url = key
      · simp [relocations, home]
      · simp only [relocations, if_neg home, Lane.filter_map_head, List.length_append]
        simp only [Entry.left?, Entry.joined?, Deed.left?, Deed.joined?, Option.toList] at ih ⊢
        simp only [List.length_cons, List.length_nil]
        omega

theorem dispatch_sorts (frontier : Frontier) (key : String) (queue : WorkQueue)
    (calm : frontier.Calm) (loose : frontier.Loose key) (found : frontier.queue? key = some queue)
    (ready : queue.state = .ready) (awake : queue.wakeTime = none)
    (claimed : (frontier.claim queue).2 = .claimed) :
    Resolved (frontier.hold key) key queue.items (frontier.dispatchFrom key) := by
  have named := queue_key frontier key queue found
  have free : queue.key ∉ frontier.claims := by
    have unclaimed := congrArg Standing.claimed loose.nowhere
    simpa [standing, Standing.nowhere, List.count_eq_zero, named] using unclaimed
  have claiming := claim_cases frontier queue ready free
  have holds := claim_calm frontier queue (named.symm ▸ loose) (named.symm ▸ found) ready awake
  rw [dispatchFrom, found]
  simp only
  generalize frontier.claim queue = result at claiming holds claimed
  cases claiming with
  | claimed line =>
      have opened := (frontier.opened_shape queue).1.trans named
      have quiet : ((frontier.store (frontier.opened queue)).hold
        (frontier.opened queue).key).Calm := calm
      obtain ⟨_, ⟨other, whose, whole, _, stands⟩, _⟩ := holds
      have resolved := resolve_sorts queue.items _ other quiet stands whole line
      rw [whose, named] at resolved
      rw [opened] at resolved ⊢
      exact ⟨resolved.answer, resolved.counted, resolved.claims, resolved.state⟩
  | dry none => cases claimed
  | parks some => cases claimed
  | retires some => cases claimed

theorem dispatch_relocates (frontier : Frontier) (key : String) (rest : List String)
    (queue : WorkQueue) (calm : frontier.Calm) (registered : frontier.Registered)
    (first : frontier.ready = key :: rest) (found : frontier.queue? key = some queue)
    (claimed : ({ frontier with ready := rest }.claim queue).2 = .claimed) :
    ({ frontier with ready := rest }.dispatchFrom key).2 =
        some (settling frontier.routing key queue.items).head? ∧
      Relocates frontier key queue.items ({ frontier with ready := rest }.dispatchFrom key).1 := by
  obtain ⟨_, same, _, ready, _, awake⟩ := ready_queue frontier key registered (by simp [first])
  cases same.symm.trans found
  obtain ⟨answered, counted, claims, state⟩ := dispatch_sorts { frontier with ready := rest } key
    queue calm (loosen_ready frontier key rest registered first) found ready awake claimed
  obtain ⟨answer, dispatched, proceeds⟩ := dispatch_proceeds frontier key rest calm registered first
  have given : answer = (settling frontier.routing key queue.items).head? :=
    Option.some.inj (dispatched.symm.trans answered)
  have entries : { frontier with ready := rest }.dispatchEntries key =
      relocations frontier.routing key queue.items := by
    have present : { frontier with ready := rest }.queue? key = some queue := found
    rw [dispatchEntries, present]
    exact if_pos claimed
  rw [entries] at proceeds
  have lane : frontier.lane key = ⟨queue.items, false⟩ := by
    rw [lane_of_queue frontier key queue found, lane_resting queue (by simp [ready])]
  generalize { frontier with ready := rest }.dispatchFrom key = result at *
  refine ⟨answered, proceeds.registered, proceeds.routing, ?_, fun other different => ?_,
    fun whole => ?_, counted, ?_, state⟩
  · have deeds := proceeds.posted.lanes key
    have departed := Lane.replay_departs (displaced frontier.routing key queue.items)
      (settling frontier.routing key queue.items)
    change (frontier.lane key).replay? _ = some (result.1.lane key) at deeds
    rw [displaced_split, ← lane] at departed
    rw [deeds_append, relocations_depart, Lane.replay_append, departed, given, Option.bind_some,
      hand_head] at deeds
    exact congrArg Lane.items (Option.some.inj deeds).symm
  · have deeds := proceeds.posted.lanes other
    rw [deeds_append, relocations_arrive _ _ _ _ different, hand_elsewhere key other answer different,
      List.append_nil, Lane.replay_arrives] at deeds
    exact congrArg Lane.items (Option.some.inj deeds).symm
  · have moved := proceeds.posted.queued whole
    have even := moved_contents frontier.routing key queue.items answer
    simp only [ledger] at moved even
    omega
  · rw [claims]
    simp [hold]

theorem resolve_again (frontier : Frontier) (key : String) (items : List CrawlUri)
    (queue : WorkQueue) (found : frontier.queue? key = some queue)
    (home : ∀ head, items.head? = some head → frontier.routing.siteKey head.url = key) :
    (frontier.resolve key items).2 = some items.head? ∧
      (frontier.resolve key items).1.stats.queued = frontier.stats.queued ∧
      (frontier.resolve key items).1.stats.reclassified = frontier.stats.reclassified ∧
      ∀ other, ((frontier.resolve key items).1.lane other).items = (frontier.lane other).items := by
  have named := queue_key frontier key queue found
  have kept (after : Frontier) (new : WorkQueue) (same : new.key = key)
      (items : new.items = queue.items) (queues : after.queues = (frontier.store new).queues)
      (other : String) : (after.lane other).items = (frontier.lane other).items := by
    have stored := queues_queue _ _ other queues
    by_cases here : other = key
    · subst here
      rw [lane_of_queue frontier other queue found, lane_of_queue after other new]
      · exact items
      · rw [stored, ← same]
        exact store_same frontier new queue (same ▸ found)
    · rw [lane_elsewhere frontier after other]
      exact stored.trans (store_other frontier new other (same ▸ here))
  cases items with
  | nil =>
      simp only [resolve, found, releaseEmpty, markExhausted]
      split
      · rename_i new moved
        have shape : new.key = queue.key ∧ new.items = queue.items := by
          rw [WorkQueue.transition] at moved
          split at moved <;> cases moved
          exact ⟨rfl, rfl⟩
        exact ⟨rfl, rfl, rfl, kept _ new (shape.1.trans named) shape.2 rfl⟩
      · exact ⟨rfl, rfl, rfl, kept _ queue.noteExhausted named rfl rfl⟩
  | cons head rest =>
      subst named
      rw [resolve_home frontier queue head rest found (home head rfl)]
      exact ⟨rfl, rfl, rfl, kept _ (queue.recordDispatch frontier.moment) rfl rfl rfl⟩

theorem dispatch_passes (frontier : Frontier) (key : String) (queue : WorkQueue)
    (found : frontier.queue? key = some queue) (other : queue.state ≠ .ready) :
    frontier.dispatchFrom key = (frontier, some none) := by
  simp [dispatchFrom, found, claim, other]

end Frontier

end PoliteCrawl
