import PoliteCrawl.Proofs.Frontier.Account
import PoliteCrawl.Proofs.Frontier.Standing

set_option autoImplicit false

namespace PoliteCrawl

theorem Routing.ask_calm (routing : Routing) (key : String) (calm : routing.faults = []) :
    routing.ask key = (routing, some (routing.precedence key)) := by
  simp [ask, calm]

namespace Frontier

def Calm (frontier : Frontier) : Prop :=
  frontier.routing.faults = []

-- A queue that was loose stands in a register now, with its URIs, and is not in process.
structure Lands (before : Frontier) (queue : WorkQueue) (after : Frontier) : Prop where
  registered : after.Registered
  routing : after.routing = before.routing
  queued : after.stats.queued = before.stats.queued
  landed : ∃ landed : WorkQueue, landed.key = queue.key ∧
    landed.lane = { items := queue.items, busy := false } ∧
    after.queues = (before.store landed).queues

-- What a calm operation amounts to: the registers match, the routing is as it was, and the entries
-- lead from one ledger to the other.
structure Proceeds (before : Frontier) (entries : List Entry) (after : Frontier) : Prop where
  registered : after.Registered
  routing : after.routing = before.routing
  posted : before.ledger.Posted entries after.ledger

theorem Proceeds.calm {before after : Frontier} {entries : List Entry}
    (proceeds : before.Proceeds entries after) (calm : before.Calm) : after.Calm := by
  unfold Calm
  rw [proceeds.routing]
  exact calm

theorem Proceeds.trans {first second third : Frontier} {early late : List Entry}
    (one : first.Proceeds early second) (two : second.Proceeds late third) :
    first.Proceeds (early ++ late) third :=
  ⟨two.registered, two.routing.trans one.routing, one.posted.trans two.posted⟩

theorem Proceeds.still {before after : Frontier} (registered : after.Registered)
    (routing : after.routing = before.routing) (queues : after.queues = before.queues)
    (queued : after.stats.queued = before.stats.queued) : before.Proceeds [] after := by
  refine ⟨registered, routing, ?_⟩
  rw [ledger_same queues queued]
  exact .refl _

theorem Registered.still {frontier after : Frontier} (registered : frontier.Registered)
    (same : after = { after with
      routing := frontier.routing, queues := frontier.queues, ready := frontier.ready
      tiers := frontier.tiers, snoozed := frontier.snoozed, retired := frontier.retired
      claims := frontier.claims, stats := frontier.stats }) : frontier.Proceeds [] after := by
  rw [same]
  exact .still ⟨registered.once, registered.ascending, registered.settled⟩ rfl rfl rfl

theorem lane_resting (queue : WorkQueue) (resting : queue.state ≠ .inProcess) :
    queue.lane = { items := queue.items, busy := false } := by
  simp [WorkQueue.lane, resting]

theorem Lands.differs {before after : Frontier} {queue : WorkQueue}
    (lands : before.Lands queue after) (start : Frontier) (old : WorkQueue) (once : start.keys.Nodup)
    (found : start.queue? queue.key = some old)
    (queues : before.queues = start.queues ∨ ∃ stored : WorkQueue, stored.key = queue.key ∧
      before.queues = (start.store stored).queues) :
    start.ledger.lane queue.key = old.lane ∧
      after.ledger.lane queue.key = { items := queue.items, busy := false } ∧
      Ledger.Differs queue.key start.ledger after.ledger := by
  obtain ⟨landed, named, lane, updated⟩ := lands.landed
  have replaced : (before.store landed).queues = (start.store landed).queues := by
    rcases queues with same | ⟨stored, key, same⟩
    · simp [store, same]
    · have twice := congrArg Frontier.queues (store_store start stored landed (key.trans named.symm))
      simpa [store, same] using twice
  have whole := store_differs start after old landed once (named.symm ▸ found)
    (updated.trans replaced)
  rwa [named, lane] at whole

theorem Lands.proceeds {before after : Frontier} {old queue : WorkQueue}
    (lands : before.Lands queue after) (once : before.keys.Nodup)
    (found : before.queue? queue.key = some old)
    (resting : old.lane = { items := queue.items, busy := false }) : before.Proceeds [] after := by
  obtain ⟨earlier, later, differs⟩ := lands.differs before old once found (.inl rfl)
  exact ⟨lands.registered, lands.routing, differs.posted (by simp)
    (by simp [Lane.replay?, earlier, later, resting]) fun _ => lands.queued⟩

theorem refresh_calm (frontier : Frontier) (queue : WorkQueue) (calm : frontier.Calm) :
    frontier.refresh queue =
      (frontier.store (queue.setPrecedence (frontier.routing.precedence queue.key)),
        some (queue.setPrecedence (frontier.routing.precedence queue.key))) := by
  simp [refresh, Routing.ask_calm frontier.routing queue.key calm]

def parked (queue : WorkQueue) : WorkQueue :=
  WorkQueue.deactivate { queue with state := .inactive }

theorem deactivate_allowed (frontier : Frontier) (queue : WorkQueue) (tier : Nat)
    (allowed : queue.state.allows .inactive = true) :
    frontier.deactivate queue tier = (frontier.store (parked queue), .inactive tier) := by
  simp [deactivate, queue.transition_allowed .inactive allowed, parked]

theorem deactivate_lands (frontier : Frontier) (queue : WorkQueue) (tier : Nat)
    (loose : frontier.Loose queue.key) (allowed : queue.state.allows .inactive = true)
    (awake : queue.wakeTime = none) :
    frontier.Lands queue ((frontier.deactivate queue tier).1.place queue.key
      (frontier.deactivate queue tier).2) := by
  rw [deactivate_allowed frontier queue tier allowed]
  exact ⟨land_inactive frontier (parked queue) loose tier rfl awake, rfl, rfl,
    parked queue, rfl, lane_resting (parked queue) (by simp [parked, WorkQueue.deactivate]), rfl⟩

theorem Lands.unstored {frontier after : Frontier} {queue : WorkQueue} (stored last : WorkQueue)
    (key : stored.key = queue.key) (same : last.key = queue.key ∧ last.items = queue.items)
    (lands : (frontier.store stored).Lands last after) : frontier.Lands queue after := by
  obtain ⟨landed, named, lane, updated⟩ := lands.landed
  have whole : landed.key = queue.key := named.trans same.1
  refine ⟨lands.registered, lands.routing, lands.queued, landed, whole, by rw [lane, same.2], ?_⟩
  rw [updated, store_store frontier stored landed (key.trans whole.symm)]

theorem reenqueue_lands (frontier : Frontier) (queue : WorkQueue) (calm : frontier.Calm)
    (loose : frontier.Loose queue.key)
    (free : queue.state.allows .ready = true ∧ queue.state.allows .inactive = true)
    (awake : queue.wakeTime = none) :
    ∃ placement, (frontier.reenqueue queue).2 = some placement ∧
      frontier.Lands queue ((frontier.reenqueue queue).1.place queue.key placement) := by
  let asked := queue.setPrecedence (frontier.routing.precedence queue.key)
  have loosened : (frontier.store asked).Loose asked.key := loose.store asked
  simp only [reenqueue, refresh_calm frontier queue calm]
  split
  · exact ⟨_, rfl, Lands.unstored asked asked rfl ⟨rfl, rfl⟩
      (deactivate_lands (frontier.store asked) asked _ loosened free.2 awake)⟩
  · rw [asked.transition_allowed .ready free.1]
    refine ⟨_, rfl, Lands.unstored asked asked rfl ⟨rfl, rfl⟩ ?_⟩
    let ready : WorkQueue := { asked with state := .ready }
    exact ⟨land_ready (frontier.store asked) ready loosened rfl awake, rfl, rfl,
      ready, rfl, lane_resting ready (by simp [ready]), rfl⟩

theorem exhausted_lands (frontier : Frontier) (queue : WorkQueue)
    (loose : frontier.Loose queue.key) (allowed : queue.state.allows .empty = true)
    (none : queue.items = []) (awake : queue.wakeTime = .none) :
    frontier.Lands queue (frontier.markExhausted queue) := by
  let noted : WorkQueue := { queue.noteExhausted with state := .empty }
  have marked : frontier.markExhausted queue = frontier.store noted := by
    simp [markExhausted, queue.noteExhausted.transition_allowed .empty allowed, noted]
  rw [marked]
  exact ⟨land_empty frontier noted loose rfl none awake, rfl, rfl,
    noted, rfl, lane_resting noted (by simp [noted]), rfl⟩

theorem retire_lands (frontier : Frontier) (queue : WorkQueue) (loose : frontier.Loose queue.key)
    (allowed : queue.state.allows .retired = true) (awake : queue.wakeTime = none) :
    frontier.Lands queue (frontier.retire queue) := by
  let retired : WorkQueue := WorkQueue.deactivate { queue with state := .retired }
  have shelved : frontier.retire queue = (frontier.store retired).shelve retired.key := by
    simp only [retire, queue.transition_allowed .retired allowed]
    rfl
  rw [shelved]
  exact ⟨land_retired frontier retired loose rfl awake, rfl, rfl,
    retired, rfl, lane_resting retired (by simp [retired, WorkQueue.deactivate]), rfl⟩

theorem receive_first_lands (frontier : Frontier) (queue : WorkQueue) (calm : frontier.Calm)
    (loose : frontier.Loose queue.key) (empty : queue.state = .empty)
    (awake : queue.wakeTime = none) :
    ∃ placement, (frontier.receiveFirst queue).2 = some placement ∧
      frontier.Lands queue ((frontier.receiveFirst queue).1.place queue.key placement) := by
  let asked := queue.setPrecedence (frontier.routing.precedence queue.key)
  unfold receiveFirst
  split
  · simp only [refresh_calm frontier queue calm]
    exact ⟨_, rfl, Lands.unstored asked asked rfl ⟨rfl, rfl⟩
      (deactivate_lands (frontier.store asked) asked _ (loose.store asked)
        (by simp [asked, WorkQueue.setPrecedence, empty, QueueState.allows]) awake)⟩
  · exact reenqueue_lands frontier queue calm loose (by simp [empty, QueueState.allows]) awake

theorem store_registered (frontier : Frontier) (old new : WorkQueue)
    (registered : frontier.Registered) (found : frontier.queue? new.key = some old)
    (state : new.state = old.state) (wake : new.wakeTime = old.wakeTime)
    (empty : new.state = .empty → new.items = [])
    (process : new.state = .inProcess → new.items ≠ []) :
    (frontier.store new).Registered := by
  refine ⟨by simpa using registered.once, registered.ascending, fun key => ?_⟩
  by_cases here : key = new.key
  · subst here
    have stands := settled_queue frontier new.key old registered found
    have named := queue_key frontier new.key old found
    simp only [Settled, store_same frontier new old found]
    exact stands_kept old new _ named.symm state wake empty process stands
  · exact (store_elsewhere frontier new).settled here (registered.settled key)

def Joins (deed : Deed) (uri : CrawlUri) : Prop :=
  deed = .accepted uri ∨ deed = .arrived uri

theorem Joins.take {deed : Deed} {uri : CrawlUri} (joins : Joins deed uri) (lane : Lane) :
    lane.take deed = some { lane with items := lane.items ++ [uri] } := by
  rcases joins with same | same <;> subst same <;> rfl

theorem Joins.counts {deed : Deed} {uri : CrawlUri} (joins : Joins deed uri) :
    deed.joined? = some uri ∧ deed.left? = none := by
  rcases joins with same | same <;> subst same <;> exact ⟨rfl, rfl⟩

theorem add_registered (frontier : Frontier) (key : String) (tier : Nat)
    (registered : frontier.Registered) (missing : frontier.queue? key = none) :
    (frontier.addQueue (WorkQueue.new key tier)).Registered := by
  have fresh := (queue_missing frontier key).mp missing
  refine ⟨?_, registered.ascending, fun other => ?_⟩
  · simpa [keys, addQueue, WorkQueue.new, List.nodup_append] using
      ⟨registered.once, fun other member same => fresh (same ▸ List.mem_map_of_mem member)⟩
  · have settled := registered.settled other
    have standing : (frontier.addQueue (WorkQueue.new key tier)).standing other =
        frontier.standing other := rfl
    unfold Settled at settled ⊢
    rw [standing, add_queue]
    by_cases here : other = key
    · subst here
      rw [missing] at settled ⊢
      simpa [WorkQueue.new, WorkQueue.StandsAt] using settled
    · simpa [WorkQueue.new, here] using settled

theorem send_found (frontier : Frontier) (uri : CrawlUri) (queue : WorkQueue) (deed : Deed)
    (joins : Joins deed uri) (calm : frontier.Calm) (registered : frontier.Registered)
    (found : frontier.queue? uri.siteKey = some queue) :
    (frontier.send uri).2 = some () ∧
      frontier.Proceeds [⟨uri.siteKey, deed⟩] (frontier.send uri).1 := by
  have named := queue_key frontier uri.siteKey queue found
  obtain ⟨joined, left⟩ := joins.counts
  let grown := queue.enqueue uri
  let base := (frontier.store grown).countQueued
  have key : grown.key = uri.siteKey := (queue.enqueue_key uri).trans named
  have replayed : queue.lane.replay? [deed] =
      some { queue.lane with items := queue.lane.items ++ [uri] } := by
    simp [Lane.replay?, joins.take]
  have counted (after : Frontier) (same : after.stats.queued = base.stats.queued) :
      after.stats.queued + ([⟨uri.siteKey, deed⟩].filterMap Entry.left?).length =
        frontier.stats.queued + ([⟨uri.siteKey, deed⟩].filterMap Entry.joined?).length := by
    simp [Entry.left?, Entry.joined?, joined, left, same, base, countQueued, store]
  have ensured : frontier.ensureQueue uri.siteKey = (frontier, some queue) := by
    simp [ensureQueue, found]
  simp only [send, ensured]
  by_cases empty : grown.state = .empty
  · have exhausted : queue.state = .empty := (queue.enqueue_state uri).symm.trans empty
    have stands := settled_queue frontier uri.siteKey queue registered found
    simp only [WorkQueue.StandsAt, exhausted] at stands
    have loose : frontier.Loose grown.key :=
      key.symm ▸ loosen_empty frontier uri.siteKey queue registered found exhausted
    have loosened : base.Loose grown.key :=
      have stored := loose.store grown
      ⟨stored.once, stored.ascending, stored.known, stored.nowhere, stored.others⟩
    obtain ⟨placement, placed, lands⟩ := receive_first_lands base grown calm loosened empty
      ((queue.enqueue_wake uri).trans stands.2.2)
    simp only [grown, base] at placed lands
    simp only [grown] at empty
    rw [if_pos empty]
    cases received : ((frontier.store (queue.enqueue uri)).countQueued).receiveFirst
        (queue.enqueue uri) with
    | mk after answer =>
        rw [received] at placed lands
        simp only at placed lands
        subst placed
        obtain ⟨earlier, later, differs⟩ := lands.differs frontier queue registered.once
          (by rw [queue.enqueue_key, named]; exact found) (.inr ⟨grown, rfl, rfl⟩)
        refine ⟨rfl, lands.registered, lands.routing,
          differs.posted (by simp [named]) ?_ fun _ => counted _ lands.queued⟩
        rw [earlier, later]
        simpa [WorkQueue.lane, exhausted] using replayed
  · rw [if_neg (by simpa [grown] using empty)]
    refine ⟨rfl, ?_, rfl, ?_⟩
    · have stored := store_registered frontier queue grown registered (key.symm ▸ found)
        (queue.enqueue_state uri) (queue.enqueue_wake uri) (fun now => absurd now empty)
        (by simp [grown])
      exact ⟨stored.once, stored.ascending, stored.settled⟩
    · obtain ⟨earlier, later, differs⟩ := store_differs frontier base queue grown
        registered.once (key.symm ▸ found) rfl
      refine differs.posted (by simp [key]) ?_ fun _ => counted base rfl
      rw [earlier, later]
      simpa [WorkQueue.lane, grown] using replayed

theorem send_proceeds (frontier : Frontier) (uri : CrawlUri) (deed : Deed)
    (joins : Joins deed uri) (calm : frontier.Calm) (registered : frontier.Registered) :
    (frontier.send uri).2 = some () ∧
      frontier.Proceeds [⟨uri.siteKey, deed⟩] (frontier.send uri).1 := by
  cases found : frontier.queue? uri.siteKey with
  | some queue => exact send_found frontier uri queue deed joins calm registered found
  | none =>
      let fresh := WorkQueue.new uri.siteKey (frontier.routing.precedence uri.siteKey)
      have admitted := add_registered frontier uri.siteKey fresh.assigned registered found
      have present : (frontier.addQueue fresh).queue? uri.siteKey = some fresh := by
        simp [add_queue, found, fresh, WorkQueue.new]
      have same : frontier.send uri = (frontier.addQueue fresh).send uri := by
        have ensured : frontier.ensureQueue uri.siteKey = (frontier.addQueue fresh, some fresh) := by
          simp only [ensureQueue, found, Routing.ask_calm frontier.routing uri.siteKey calm]
          rfl
        have again : (frontier.addQueue fresh).ensureQueue uri.siteKey =
            (frontier.addQueue fresh, some fresh) := by
          simp [ensureQueue, present]
        simp only [send, ensured, again]
      obtain ⟨sent, proceeds⟩ :=
        send_found (frontier.addQueue fresh) uri fresh deed joins calm admitted present
      rw [same]
      refine ⟨sent, proceeds.registered, proceeds.routing, ?_⟩
      have ledger := add_ledger frontier fresh found rfl (by simp [fresh, WorkQueue.new])
      exact ledger ▸ proceeds.posted

def acceptEntry (frontier : Frontier) (uri : CrawlUri) : Entry :=
  ⟨frontier.routing.siteKey uri.url,
    .accepted { uri with siteKey := frontier.routing.siteKey uri.url }⟩

theorem schedule_proceeds (frontier : Frontier) (uri : CrawlUri) (calm : frontier.Calm)
    (registered : frontier.Registered) :
    (frontier.schedule uri).2 = some () ∧
      frontier.Proceeds [frontier.acceptEntry uri] (frontier.schedule uri).1 :=
  send_proceeds frontier _ _ (.inl rfl) calm registered

theorem receive_all_proceeds (frontier : Frontier) (uris : List CrawlUri) (calm : frontier.Calm)
    (registered : frontier.Registered) :
    (frontier.receiveAll uris).2 = some () ∧
      frontier.Proceeds (uris.map frontier.acceptEntry) (frontier.receiveAll uris).1 := by
  induction uris generalizing frontier with
  | nil => exact ⟨rfl, .still registered rfl rfl rfl⟩
  | cons uri rest ih =>
      obtain ⟨scheduled, proceeds⟩ := schedule_proceeds frontier uri calm registered
      simp only [receiveAll]
      cases result : frontier.schedule uri with
      | mk next answer =>
          rw [result] at scheduled proceeds
          simp only at scheduled proceeds
          subst scheduled
          obtain ⟨received, more⟩ := ih next (proceeds.calm calm) proceeds.registered
          refine ⟨received, ?_⟩
          have same : next.acceptEntry = frontier.acceptEntry := by
            funext other
            simp [acceptEntry, proceeds.routing]
          rw [same] at more
          exact proceeds.trans more

end Frontier

end PoliteCrawl
