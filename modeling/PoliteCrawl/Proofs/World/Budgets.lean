import PoliteCrawl.Proofs.World.Pauses
import PoliteCrawl.Proofs.World.Serving

set_option autoImplicit false

namespace PoliteCrawl

-- A queue has spent less than the budgets allow, or overspent them by less than a cost.
structure Budgets.Covers (budgets : Budgets) (cost : Nat) (queue : WorkQueue) : Prop where
  session : queue.sessionSpent < budgets.session + cost
  total : ∀ limit, budgets.total = some limit → queue.totalSpent < limit + cost

structure Grant where
  budgets : Budgets
  uri : CrawlUri

-- What holds of a queue between two operations, where the latest grant of each site is known.
structure Frugal (latest : String → Grant → Prop) (queue : WorkQueue) : Prop where
  closed : queue.state = .inactive ∨ queue.state = .retired → queue.active = false
  running : queue.state = .inProcess ∨ queue.state = .snoozed → queue.active = true
  within : ∀ grant, latest queue.key grant → grant.budgets.Covers grant.uri.cost queue
  flying : queue.state = .inProcess → ∀ grant, latest queue.key grant →
    grant.budgets.Covers 0 queue ∧ queue.items.head?.map (·.cost) = some grant.uri.cost

structure Solvent (latest : String → Grant → Prop) (queue : WorkQueue) : Prop where
  running : queue.state = .inProcess → queue.active = true
  within : ∀ grant, latest queue.key grant → grant.budgets.Covers grant.uri.cost queue

-- A queue was opened under some budgets, and none of its URIs is in flight yet.
structure Funded (latest : String → Grant → Prop) (budgets : Budgets) (queue : WorkQueue) :
    Prop where
  process : queue.state = .inProcess
  active : queue.active = true
  session : queue.sessionBudget = budgets.session
  total : queue.totalBudget = budgets.total
  covers : budgets.Covers 0 queue
  within : ∀ grant, latest queue.key grant → grant.budgets.Covers grant.uri.cost queue

theorem Budgets.Covers.same {budgets : Budgets} {cost : Nat} {before after : WorkQueue}
    (covers : budgets.Covers cost before) (session : after.sessionSpent = before.sessionSpent)
    (total : after.totalSpent = before.totalSpent) : budgets.Covers cost after :=
  ⟨session ▸ covers.session, fun limit limited => total ▸ covers.total limit limited⟩

theorem Budgets.Covers.more {budgets : Budgets} {queue : WorkQueue} (covers : budgets.Covers 0 queue)
    (cost : Nat) : budgets.Covers cost queue :=
  ⟨Nat.lt_add_right cost covers.session, fun limit limited =>
    Nat.lt_add_right cost (covers.total limit limited)⟩

theorem open_session_spent (budgets : Budgets) (queue : WorkQueue) :
    (Frontier.openSession budgets queue).active = true ∧
      (Frontier.openSession budgets queue).sessionSpent ≤ queue.sessionSpent ∧
      (Frontier.openSession budgets queue).totalSpent = queue.totalSpent ∧
      (Frontier.openSession budgets queue).sessionBudget = budgets.session ∧
      (Frontier.openSession budgets queue).totalBudget = budgets.total := by
  rw [Frontier.openSession, WorkQueue.considerActive]
  by_cases active : queue.active = true
  · rw [if_pos active]
    exact ⟨active, Nat.le_refl _, rfl, rfl, rfl⟩
  · rw [if_neg active]
    exact ⟨rfl, Nat.zero_le _, rfl, rfl, rfl⟩

theorem Budgets.Covers.opened {budgets : Budgets} {cost : Nat} {queue : WorkQueue}
    (covers : budgets.Covers cost queue) (funds : Budgets) :
    budgets.Covers cost (Frontier.openSession funds queue) := by
  obtain ⟨_, session, total, _⟩ := open_session_spent funds queue
  refine ⟨Nat.lt_of_le_of_lt session covers.session, fun limit limited => ?_⟩
  rw [total]
  exact covers.total limit limited

theorem open_session_covered (budgets : Budgets) (queue : WorkQueue)
    (session : (Frontier.openSession budgets queue).isOverSession = false)
    (total : (Frontier.openSession budgets queue).isOverTotal = false) :
    budgets.Covers 0 (Frontier.openSession budgets queue) := by
  obtain ⟨active, _, _, share, whole⟩ := open_session_spent budgets queue
  rw [WorkQueue.isOverSession, active, share] at session
  rw [WorkQueue.isOverTotal, whole] at total
  refine ⟨by simpa using session, fun limit limited => ?_⟩
  rw [limited] at total
  simpa using total

theorem Budgets.Covers.billed {budgets : Budgets} {queue : WorkQueue}
    (covers : budgets.Covers 0 queue) (frontier : Frontier) (head : CrawlUri)
    (rest : List CrawlUri) (outcome : Outcome) (line : queue.items = head :: rest) :
    budgets.Covers head.cost (frontier.billed queue head outcome) := by
  by_cases retried : frontier.grantsRetry head outcome = true
  · rw [Frontier.billed, if_pos retried, WorkQueue.retryHead, line]
    exact (covers.more head.cost).same rfl rfl
  · have added (spent limit : Nat) (less : spent < limit) :
        min (spent + head.cost) WorkQueue.expenseLimit < limit + head.cost :=
      Nat.lt_of_le_of_lt (Nat.min_le_left _ _) (Nat.add_lt_add_right less head.cost)
    rw [Frontier.billed, if_neg retried]
    exact ⟨added _ _ covers.session, fun limit limited => added _ _ (covers.total limit limited)⟩

theorem billed_active (frontier : Frontier) (queue : WorkQueue) (head : CrawlUri)
    (outcome : Outcome) : (frontier.billed queue head outcome).active = queue.active := by
  by_cases retried : frontier.grantsRetry head outcome = true
  · rw [Frontier.billed, if_pos retried, WorkQueue.retryHead]
    cases queue.items <;> rfl
  · rw [Frontier.billed, if_neg retried]
    rfl

theorem enqueue_account (queue : WorkQueue) (uri : CrawlUri) :
    (queue.enqueue uri).active = queue.active ∧
      (queue.enqueue uri).sessionSpent = queue.sessionSpent ∧
      (queue.enqueue uri).totalSpent = queue.totalSpent := by
  rw [WorkQueue.enqueue]
  cases uri.hint <;> exact ⟨rfl, rfl, rfl⟩

section Terms

variable {latest : String → Grant → Prop}

theorem Solvent.lands {queue landed : WorkQueue} (solvent : Solvent latest queue)
    (key : landed.key = queue.key) (session : landed.sessionSpent = queue.sessionSpent)
    (total : landed.totalSpent = queue.totalSpent) (idle : landed.state ≠ .inProcess)
    (closed : landed.state = .inactive ∨ landed.state = .retired → landed.active = false)
    (asleep : landed.state = .snoozed → landed.active = true) : Frugal latest landed where
  closed := closed
  running state := state.elim (absurd · idle) asleep
  within grant given := (solvent.within grant (key ▸ given)).same session total
  flying process := absurd process idle

theorem Solvent.same {before after : WorkQueue} (solvent : Solvent latest before)
    (key : after.key = before.key) (state : after.state = before.state)
    (active : after.active = before.active) (session : after.sessionSpent = before.sessionSpent)
    (total : after.totalSpent = before.totalSpent) : Solvent latest after where
  running process := active.trans (solvent.running (state.symm.trans process))
  within grant given := (solvent.within grant (key ▸ given)).same session total

theorem Frugal.same {before after : WorkQueue} (frugal : Frugal latest before)
    (key : after.key = before.key) (state : after.state = before.state)
    (active : after.active = before.active) (session : after.sessionSpent = before.sessionSpent)
    (total : after.totalSpent = before.totalSpent)
    (head : ∀ uri, before.items.head? = some uri → after.items.head? = some uri) :
    Frugal latest after where
  closed resting := active.trans (frugal.closed (state ▸ resting))
  running busy := active.trans (frugal.running (state ▸ busy))
  within grant given := (frugal.within grant (key ▸ given)).same session total
  flying process grant given := by
    obtain ⟨covers, cost⟩ := frugal.flying (state.symm.trans process) grant (key ▸ given)
    obtain ⟨uri, first, same⟩ := Option.map_eq_some_iff.mp cost
    refine ⟨covers.same session total, ?_⟩
    rw [head uri first]
    exact congrArg some same

theorem Solvent.parks {queue : WorkQueue} (solvent : Solvent latest queue) :
    Frugal latest (Frontier.parked queue) :=
  solvent.lands rfl rfl rfl (by simp [Frontier.parked, WorkQueue.deactivate]) (fun _ => rfl)
    (by simp [Frontier.parked, WorkQueue.deactivate])

theorem Solvent.readies {queue : WorkQueue} (solvent : Solvent latest queue) :
    Frugal latest { queue with state := .ready } :=
  solvent.lands rfl rfl rfl (by simp) (by simp) (by simp)

theorem Frugal.idles {queue : WorkQueue} (frugal : Frugal latest queue)
    (idle : queue.state ≠ .inProcess) : Solvent latest queue :=
  ⟨fun process => absurd process idle, frugal.within⟩

theorem frugal_recalling : Recalling (Frugal latest) := by
  intro queue frugal retired tier
  have solvent : Solvent latest (queue.setPrecedence tier) :=
    (frugal.idles (by simp [retired])).same rfl rfl rfl rfl rfl
  exact ⟨solvent.parks, solvent.readies⟩

theorem frugal_upkeep
    (funded : ∀ key grant, latest key grant → grant.budgets.Covers 0 (WorkQueue.new key 0)) :
    Upkeep (Frugal latest) (Solvent latest) where
  fresh key tier :=
    have solvent : Solvent latest (WorkQueue.new key tier) :=
      ⟨by simp [WorkQueue.new], fun grant given =>
        ((funded key grant given).more grant.uri.cost).same rfl rfl⟩
    solvent.lands rfl rfl rfl (by simp [WorkQueue.new]) (fun _ => rfl) (by simp [WorkQueue.new])
  loosens queue frugal idle := frugal.idles idle
  joins queue uri frugal := by
    obtain ⟨active, session, total⟩ := enqueue_account queue uri
    apply frugal.same (queue.enqueue_key uri) (queue.enqueue_state uri) active session total
    intro head first
    simp [first]
  rates queue tier frugal _ := frugal.same rfl rfl rfl rfl rfl fun _ first => first
  funds queue total frugal _ := frugal.same rfl rfl rfl rfl rfl fun _ first => first
  asks queue tier solvent := solvent.same rfl rfl rfl rfl rfl
  wakes queue solvent := solvent.same rfl rfl rfl rfl rfl
  activates queue frugal inactive := (frugal.idles (by simp [inactive])).readies
  parks queue solvent _ _ := solvent.parks
  readies queue solvent _ _ := solvent.readies
  exhausts queue solvent _ := solvent.lands rfl rfl rfl (by simp) (by simp) (by simp)
  retires queue solvent _ := solvent.lands rfl rfl rfl (by simp [WorkQueue.deactivate])
    (fun _ => rfl) (by simp [WorkQueue.deactivate])
  dozes queue wake solvent allowed := by
    have process : queue.state = .inProcess := by
      cases state : queue.state <;> simp [state, QueueState.allows] at allowed
      rfl
    exact solvent.lands rfl rfl rfl (by simp [WorkQueue.setWakeTime])
      (by simp [WorkQueue.setWakeTime]) fun _ => solvent.running process

theorem frugal_serving (budgets : Budgets)
    (funded : ∀ key grant, latest key grant → grant.budgets.Covers 0 (WorkQueue.new key 0)) :
    Upkeep.Serving (Frugal latest) (Solvent latest) (Funded latest budgets) budgets where
  toUpkeep := frugal_upkeep funded
  opens queue frugal _ := by
    let process : WorkQueue := { queue with state := .inProcess }
    have key : (Frontier.openSession budgets process).key = queue.key :=
      (Frontier.open_session_shape budgets process).1
    refine ⟨fun _ => (open_session_spent budgets process).1, fun grant given => ?_⟩
    have within : grant.budgets.Covers grant.uri.cost process :=
      (frugal.within grant (key ▸ given)).same rfl rfl
    exact within.opened budgets
  admits queue frugal _ session total := by
    let process : WorkQueue := { queue with state := .inProcess }
    obtain ⟨key, _, state, _⟩ := Frontier.open_session_shape budgets process
    obtain ⟨active, _, _, share, whole⟩ := open_session_spent budgets process
    refine ⟨state, active, share, whole, open_session_covered budgets process session total, ?_⟩
    intro grant given
    have within : grant.budgets.Covers grant.uri.cost process :=
      (frugal.within grant (key ▸ given)).same rfl rfl
    exact within.opened budgets
  drops queue url funded :=
    ⟨funded.process, funded.active, funded.session, funded.total, funded.covers.same rfl rfl,
      fun grant given => (funded.within grant given).same rfl rfl⟩
  process _ funded := funded.process
  gives _ funded := ⟨fun _ => funded.active, funded.within⟩
  bills frontier queue head rest outcome frugal process line := by
    have key := frontier.billed_key queue head outcome
    refine ⟨fun _ => ?_, fun grant given => ?_⟩
    · rw [billed_active]
      exact frugal.running (.inl process)
    · obtain ⟨covers, cost⟩ := frugal.flying process grant (key ▸ given)
      have same : head.cost = grant.uri.cost := by simpa [line] using cost
      exact same ▸ covers.billed frontier head rest outcome line
  recalls := frugal_recalling

theorem Frugal.earlier {before after : String → Grant → Prop} {queue : WorkQueue}
    (frugal : Frugal before queue) (earlier : ∀ grant, after queue.key grant → before queue.key grant) :
    Frugal after queue where
  closed := frugal.closed
  running := frugal.running
  within grant given := frugal.within grant (earlier grant given)
  flying process grant given := frugal.flying process grant (earlier grant given)

theorem Funded.dispatched {before after : String → Grant → Prop} {budgets : Budgets}
    {queue : WorkQueue} {uri : CrawlUri} (funded : Funded before budgets queue)
    (first : queue.items.head? = some uri) (moment : Time.Timestamp)
    (latest : ∀ grant, after queue.key grant → grant = ⟨budgets, uri⟩) :
    Frugal after (queue.recordDispatch moment) where
  closed resting := by simp [WorkQueue.recordDispatch, funded.process] at resting
  running _ := funded.active
  within grant given := by
    rw [latest grant given]
    exact (funded.covers.more uri.cost).same rfl rfl
  flying _ grant given := by
    rw [latest grant given]
    refine ⟨funded.covers.same rfl rfl, ?_⟩
    simp [WorkQueue.recordDispatch, first]

end Terms

namespace World

-- The latest URI that a site handed out, with the budgets in force then.
inductive Latest (setup : Setup) (key : String) : List Event → Grant → Prop where
  | given {events : List Event} {event : Event} {uri : CrawlUri}
      (gave : (run setup (events ++ [event])).handedAt key =
        (run setup events).handedAt key ++ [uri]) :
      Latest setup key (events ++ [event]) ⟨(run setup events).frontier.budgets, uri⟩
  | kept {events : List Event} {event : Event} {grant : Grant}
      (latest : Latest setup key events grant)
      (same : (run setup (events ++ [event])).handedAt key = (run setup events).handedAt key) :
      Latest setup key (events ++ [event]) grant

theorem Latest.last {setup : Setup} {key : String} {events : List Event} {event : Event}
    {grant : Grant} (latest : Latest setup key (events ++ [event]) grant) :
    (∃ uri, (run setup (events ++ [event])).handedAt key =
        (run setup events).handedAt key ++ [uri] ∧
      grant = ⟨(run setup events).frontier.budgets, uri⟩) ∨
    ((run setup (events ++ [event])).handedAt key = (run setup events).handedAt key ∧
      Latest setup key events grant) := by
  generalize whole : events ++ [event] = longer at latest
  cases latest with
  | given gave =>
      obtain ⟨same, last⟩ := List.append_inj' whole rfl
      cases same
      cases last
      exact .inl ⟨_, gave, rfl⟩
  | kept latest same =>
      obtain ⟨earlier, last⟩ := List.append_inj' whole rfl
      cases earlier
      cases last
      exact .inr ⟨same, latest⟩

theorem handed_at (world next : World) (uri : CrawlUri) (key : String)
    (handed : next.handed = world.handed ++ [uri]) :
    next.handedAt key =
      if uri.siteKey = key then world.handedAt key ++ [uri] else world.handedAt key := by
  rw [handedAt, handed, List.filter_append]
  by_cases here : uri.siteKey = key
  · rw [if_pos here]
    simp [handedAt, here]
  · rw [if_neg here]
    simp [handedAt, here]

structure Spends (setup : Setup) (events : List Event) (world : World) : Prop where
  frugal : world.frontier.Upheld (Frugal fun key => Latest setup key events)
  funded : ∀ key grant, Latest setup key events grant →
    grant.budgets.Covers 0 (WorkQueue.new key 0)
  dispatched : ∀ key, world.handedAt key ≠ [] → ∃ grant, Latest setup key events grant

theorem Spends.kept {setup : Setup} {events : List Event} {event : Event}
    (spends : Spends setup events (run setup events))
    (same : (run setup (events ++ [event])).handed = (run setup events).handed)
    (upheld : (run setup (events ++ [event])).frontier.Upheld
      (Frugal fun key => Latest setup key events)) :
    Spends setup (events ++ [event]) (run setup (events ++ [event])) := by
  have still (key : String) :
      (run setup (events ++ [event])).handedAt key = (run setup events).handedAt key := by
    rw [handedAt, same, handedAt]
  have earlier (key : String) (grant : Grant) (latest : Latest setup key (events ++ [event]) grant) :
      Latest setup key events grant := by
    rcases latest.last with ⟨uri, gave, _⟩ | ⟨_, before⟩
    · rw [still key] at gave
      simp at gave
    · exact before
  refine ⟨⟨upheld.calm, fun key queue found => ?_, upheld.marked⟩, fun key grant latest => ?_, fun key some => ?_⟩
  · exact (upheld.meets key queue found).earlier fun grant => earlier queue.key grant
  · exact spends.funded key grant (earlier key grant latest)
  · rw [still key] at some
    obtain ⟨grant, latest⟩ := spends.dispatched key some
    exact ⟨grant, .kept latest (still key)⟩

theorem Spends.gave {setup : Setup} {events : List Event} {event : Event} {uri : CrawlUri}
    (spends : Spends setup events (run setup events))
    (handed : (run setup (events ++ [event])).handed = (run setup events).handed ++ [uri])
    (gives : (run setup (events ++ [event])).frontier.Gives (Frugal fun key => Latest setup key events)
      (Funded (fun key => Latest setup key events) (run setup events).frontier.budgets)
      uri.siteKey uri) :
    Spends setup (events ++ [event]) (run setup (events ++ [event])) := by
  obtain ⟨others, taken, moment, funded, first, present⟩ := gives
  have next (key : String) := handed_at _ _ uri key handed
  have here (grant : Grant) (latest : Latest setup uri.siteKey (events ++ [event]) grant) :
      grant = ⟨(run setup events).frontier.budgets, uri⟩ := by
    have now := next uri.siteKey
    rw [if_pos rfl] at now
    rcases latest.last with ⟨other, gave, same⟩ | ⟨same, _⟩
    · rw [now, List.append_cancel_left_eq, List.cons.injEq] at gave
      rw [same, gave.1]
    · rw [now] at same
      simp at same
  have elsewhere (key : String) (different : key ≠ uri.siteKey) (grant : Grant)
      (latest : Latest setup key (events ++ [event]) grant) : Latest setup key events grant := by
    have now := next key
    rw [if_neg (Ne.symm different)] at now
    rcases latest.last with ⟨other, gave, _⟩ | ⟨_, before⟩
    · rw [now] at gave
      simp at gave
    · exact before
  have named := Frontier.queue_key _ uri.siteKey _ present
  refine ⟨⟨others.calm, fun key queue found => ?_, others.marked⟩, fun key grant latest => ?_,
    fun key some => ?_⟩
  · by_cases same : key = uri.siteKey
    · rw [same, present] at found
      cases found
      exact funded.dispatched first moment fun grant latest => here grant (named ▸ latest)
    · have other : queue.key ≠ uri.siteKey := by
        rw [Frontier.queue_key _ key queue found]
        exact same
      exact (others.meets key queue found other).earlier (elsewhere queue.key other)
  · by_cases same : key = uri.siteKey
    · subst same
      rw [here grant latest]
      have covers := funded.covers
      refine ⟨?_, fun limit limited => ?_⟩
      · exact Nat.lt_of_le_of_lt (Nat.zero_le _) covers.session
      · exact Nat.lt_of_le_of_lt (Nat.zero_le _) (covers.total limit limited)
    · exact spends.funded key grant (elsewhere key same grant latest)
  · have now := next key
    by_cases same : uri.siteKey = key
    · rw [if_pos same] at now
      exact ⟨_, .given now⟩
    · rw [if_neg same] at now
      rw [now] at some
      obtain ⟨grant, latest⟩ := spends.dispatched key some
      exact ⟨grant, .kept latest now⟩

theorem Spends.serving {setup : Setup} {events : List Event} {world : World}
    (spends : Spends setup events world) (budgets : Budgets) :
    Upkeep.Serving (Frugal fun key => Latest setup key events)
      (Solvent fun key => Latest setup key events)
      (Funded (fun key => Latest setup key events) budgets) budgets :=
  frugal_serving budgets spends.funded

theorem run_spends (setup : Setup) (events : List Event) (calm : Calm setup events) :
    Spends setup events (run setup events) := by
  revert calm
  refine run_induction (motive := fun events world => Calm setup events →
    Spends setup events world) setup ?_ ?_ events
  · intro calm
    have unspent (key : String) (grant : Grant) : ¬ Latest setup key [] grant := by
      intro latest
      generalize whole : ([] : List Event) = events at latest
      cases latest <;> simp at whole
    refine ⟨⟨calm.1, fun key queue found => ?_, rfl⟩, fun key grant latest => ?_, fun key some => ?_⟩
    · simp [start, Frontier.new, Frontier.queue?] at found
    · exact absurd latest (unspent key grant)
    · simp [start, handedAt, handed] at some
  · intro events event before calm
    have spends := before calm.before.1
    have kept := run_kept setup events calm.before.1
    rw [← run_snoc]
    rcases step_served (run setup events) event calm.before.2 kept (spends.serving _)
      spends.frugal with ⟨same, upheld⟩ | ⟨uri, gave, gives⟩
    · rw [← run_snoc] at same upheld
      exact spends.kept same upheld
    · rw [← run_snoc] at gave gives
      exact spends.gave gave gives

end World

/-- While the routing does not fail, a queue is inactive or retired only with its session closed, and in
process or snoozed only with it open. A URI is handed out only from a queue whose session is open, that
has the budgets in force, and that has spent less than they allow. A site that handed out a URI has a
latest one, and has spent less than the budgets in force then and the cost of this URI, however the
budgets changed since. -/
theorem spending_within_budgets (setup : Setup) (events : List Event) (calm : Calm setup events) :
    let world := World.run setup events
    (∀ key queue, world.frontier.queue? key = some queue →
      ((queue.state = .inactive ∨ queue.state = .retired) → queue.active = false) ∧
        ((queue.state = .inProcess ∨ queue.state = .snoozed) → queue.active = true) ∧
        (world.handedAt key ≠ [] → ∃ grant, World.Latest setup key events grant) ∧
        ∀ grant, World.Latest setup key events grant →
          queue.sessionSpent < grant.budgets.session + grant.uri.cost ∧
            ∀ limit, grant.budgets.total = some limit →
              queue.totalSpent < limit + grant.uri.cost) ∧
      ∀ event uri, event.Calm →
        (World.run setup (events ++ [event])).handed = world.handed ++ [uri] →
        ∃ queue, (World.run setup (events ++ [event])).frontier.queue? uri.siteKey = some queue ∧
          queue.active = true ∧ queue.sessionBudget = world.frontier.budgets.session ∧
          queue.totalBudget = world.frontier.budgets.total ∧
          queue.sessionSpent < world.frontier.budgets.session ∧
          ∀ limit, world.frontier.budgets.total = some limit → queue.totalSpent < limit := by
  intro world
  have spends := World.run_spends setup events calm
  have kept := World.run_kept setup events calm
  constructor
  · intro key queue found
    have frugal := spends.frugal.meets key queue found
    have named := Frontier.queue_key world.frontier key queue found
    refine ⟨frugal.closed, frugal.running, spends.dispatched key, fun grant latest => ?_⟩
    have within := frugal.within grant (named.symm ▸ latest)
    exact ⟨within.session, within.total⟩
  · intro event uri quiet handed
    rw [World.run_snoc] at handed ⊢
    rcases World.step_served world event quiet kept (spends.serving _) spends.frugal with
      ⟨same, _⟩ | ⟨other, gave, _, queue, moment, funded, _, present⟩
    · rw [same] at handed
      simp at handed
    · rw [gave, List.append_cancel_left_eq, List.cons.injEq] at handed
      obtain ⟨rfl, _⟩ := handed
      exact ⟨_, present, funded.active, funded.session, funded.total, funded.covers.session,
        funded.covers.total⟩

def costlyPage : CrawlUri :=
  { page "a.com" "1" with siteKey := "a.com", cost := 5 }

def costlyCall : List Event :=
  [.setBudgets 1 (some 2), .request .run, .schedule costlyPage, .call, .proceed 0, .proceed 0,
    .proceed 0, .proceed 0]

theorem spending_within_budgets_costly_call :
    Calm Setup.plain (costlyCall ++ [.setBudgets 9 none] ++ [.complete costlyPage fetched]) ∧
      ∃ queue, (World.run Setup.plain
          (costlyCall ++ [.setBudgets 9 none] ++ [.complete costlyPage fetched])).frontier.queue?
            "a.com" = some queue ∧
        queue.totalSpent = 5 ∧ queue.totalSpent < 2 + costlyPage.cost := by
  have calm : Calm Setup.plain
      (costlyCall ++ [.setBudgets 9 none] ++ [.complete costlyPage fetched]) :=
    ⟨rfl, by simp [costlyCall, Event.Calm]⟩
  have latest : World.Latest Setup.plain "a.com"
      (costlyCall ++ [.setBudgets 9 none] ++ [.complete costlyPage fetched])
      ⟨{ session := 1, total := some 2 }, costlyPage⟩ := by
    apply World.Latest.kept
    · apply World.Latest.kept
      · have gave : (World.run Setup.plain (costlyCall.dropLast ++ [.proceed 0])).handedAt "a.com" =
            (World.run Setup.plain costlyCall.dropLast).handedAt "a.com" ++ [costlyPage] := by
          decide +kernel
        exact World.Latest.given gave
      · decide +kernel
    · decide +kernel
  refine ⟨calm, _, rfl, by decide +kernel, ?_⟩
  exact (((spending_within_budgets Setup.plain _ calm).1 "a.com" _ rfl).2.2.2 _ latest).2 2 rfl

end PoliteCrawl
