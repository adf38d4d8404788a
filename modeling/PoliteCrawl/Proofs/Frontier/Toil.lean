import PoliteCrawl.Proofs.Frontier.Books
import PoliteCrawl.Proofs.Frontier.Choice
import PoliteCrawl.Proofs.Gateway

set_option autoImplicit false

namespace PoliteCrawl

-- The URIs of a queue that belong elsewhere, and one more if its session is spent.
def WorkQueue.burden (queue : WorkQueue) (home : Url → String) (session : Nat) : Nat :=
  queue.items.countP (fun uri => home uri.url ≠ queue.key) +
    (queue.active && decide (session ≤ queue.sessionSpent)).toNat

namespace WorkQueue

variable (queue : WorkQueue) (home : Url → String) (session : Nat)

theorem enqueue_burden (uri : CrawlUri) (belongs : home uri.url = queue.key) :
    (queue.enqueue uri).burden home session = queue.burden home session := by
  cases hint : uri.hint <;>
    simp [burden, enqueue, hint, raisePrecedence, List.countP_append, belongs]

theorem deactivated_burden (state : QueueState) :
    (WorkQueue.deactivate { queue with state }).burden home session ≤
      queue.burden home session :=
  Nat.add_le_add_left (Nat.zero_le _) _

theorem parked_burden (state : QueueState)
    (exceeded : queue.active = true ∧ session ≤ queue.sessionSpent) :
    (WorkQueue.deactivate { queue with state }).burden home session + 1 = queue.burden home session := by
  have spent : (queue.active && decide (session ≤ queue.sessionSpent)) = true := by
    rw [exceeded.1, decide_eq_true exceeded.2]
    rfl
  rw [burden, burden, spent]
  rfl

theorem shorter_burden (head : CrawlUri) (rest : List CrawlUri) (line : queue.items = head :: rest)
    (away : home head.url ≠ queue.key) :
    { queue with items := rest }.burden home session + 1 = queue.burden home session := by
  rw [burden, burden, line, List.countP_cons_of_pos (by simpa using away)]
  exact Nat.add_right_comm _ _ 1

end WorkQueue

namespace Frontier

def burdenOf (frontier : Frontier) (queue : WorkQueue) : Nat :=
  queue.burden frontier.routing.siteKey frontier.budgets.session

-- A fetched URI may put a key in line, and so counts twice.
def toil (frontier : Frontier) : Nat :=
  2 * frontier.gateway.pending.length + frontier.sumOf frontier.burdenOf + frontier.ready.length +
    frontier.tiers.size

-- An operation gets so much done, and adds so much to it.
structure Toils (done added : Nat) (before after : Frontier) : Prop where
  once : after.keys.Nodup
  sites : after.routing.siteKey = before.routing.siteKey
  budgets : after.budgets = before.budgets
  bound : after.toil + done ≤ before.toil + added

section Toils

variable {done added more most : Nat} {first second third : Frontier}

theorem Toils.refl (once : first.keys.Nodup) : Toils 0 0 first first :=
  ⟨once, rfl, rfl, Nat.le_refl _⟩

theorem Toils.trans (one : Toils done added first second) (two : Toils more most second third) :
    Toils (done + more) (added + most) first third := by
  refine ⟨two.once, two.sites.trans one.sites, two.budgets.trans one.budgets, ?_⟩
  have early := one.bound
  have late := two.bound
  omega

theorem Toils.weaken (toils : Toils done added first second) (balance : most + done ≥ more + added) :
    Toils more most first second := by
  refine ⟨toils.once, toils.sites, toils.budgets, ?_⟩
  have bound := toils.bound
  omega

theorem Toils.onto (one : Toils done added first second) (two : Toils 0 0 second third) :
    Toils done added first third :=
  one.trans two

theorem Toils.registers (once : first.keys.Nodup) (queues : second.queues = first.queues)
    (gateway : second.gateway = first.gateway) (budgets : second.budgets = first.budgets)
    (sites : second.routing.siteKey = first.routing.siteKey)
    (held : second.ready.length + second.tiers.size + done ≤
      first.ready.length + first.tiers.size + added) : Toils done added first second := by
  refine ⟨by rwa [keys, queues], sites, budgets, ?_⟩
  have burden : second.burdenOf = first.burdenOf := by
    funext queue
    rw [burdenOf, burdenOf, sites, budgets]
  have total : second.sumOf first.burdenOf = first.sumOf first.burdenOf := by
    rw [sumOf, sumOf, queues]
  rw [toil, toil, burden, gateway, total]
  omega

theorem Toils.still (once : first.keys.Nodup) (queues : second.queues = first.queues)
    (gateway : second.gateway = first.gateway) (budgets : second.budgets = first.budgets)
    (sites : second.routing.siteKey = first.routing.siteKey)
    (ready : second.ready.length = first.ready.length) (tiers : second.tiers.size = first.tiers.size) :
    Toils 0 0 first second :=
  .registers once queues gateway budgets sites (by omega)

theorem Toils.then (toils : Toils done added first second) (queues : third.queues = second.queues)
    (gateway : third.gateway = second.gateway) (budgets : third.budgets = second.budgets)
    (sites : third.routing.siteKey = second.routing.siteKey)
    (ready : third.ready.length = second.ready.length)
    (tiers : third.tiers.size = second.tiers.size) : Toils done added first third :=
  toils.onto (.still toils.once queues gateway budgets sites ready tiers)

end Toils

section Placing

variable {frontier : Frontier} (once : frontier.keys.Nodup)

include once

theorem reroute_toils (routing : Routing) (sites : routing.siteKey = frontier.routing.siteKey) :
    Toils 0 0 frontier { frontier with routing } :=
  .still once rfl rfl rfl sites rfl rfl

theorem store_toils {done : Nat} (old new : WorkQueue) (found : frontier.queue? new.key = some old)
    (less : frontier.burdenOf new + done ≤ frontier.burdenOf old) :
    Toils done 0 frontier (frontier.store new) := by
  refine ⟨by rwa [store_keys], rfl, rfl, ?_⟩
  have total := store_sum frontier old new frontier.burdenOf once found
  have burden : (frontier.store new).burdenOf = frontier.burdenOf := rfl
  rw [toil, toil, burden]
  simp only [store] at total ⊢
  omega

theorem place_toils (key : String) (placement : Placement) :
    Toils 0 1 frontier (frontier.place key placement) := by
  cases placement with
  | ready =>
      refine .registers once rfl rfl rfl rfl ?_
      simp only [place, publish, List.length_append, List.length_singleton]
      omega
  | inactive tier =>
      refine .registers once rfl rfl rfl rfl ?_
      have filed := (Filed.append_perm tier key frontier.tiers.filed).length_eq
      simp only [List.length_cons] at filed
      simp only [place, file, Tiers.file, Tiers.size, Tiers.keys, filed]
      omega
  | stay => exact (Toils.refl once).weaken (by omega)

theorem requeued_toils (old queue : WorkQueue) (found : frontier.queue? queue.key = some old)
    (same : frontier.burdenOf queue = frontier.burdenOf old) (after : Frontier)
    (answer : Option Placement) (requeued : Requeued frontier queue (after, answer)) :
    Toils 0 0 frontier after := by
  have stored (routing : Routing) (new : WorkQueue) (key : new.key = queue.key)
      (sites : routing.siteKey = frontier.routing.siteKey)
      (less : frontier.burdenOf new ≤ frontier.burdenOf queue) :
      Toils 0 0 frontier ({ frontier with routing }.store new) := by
    have routed := reroute_toils once routing sites
    refine routed.onto (store_toils routed.once old new (key ▸ found) ?_)
    simp only [burdenOf] at less same ⊢
    rw [sites]
    omega
  cases requeued with
  | fails routing sites => exact reroute_toils once routing sites
  | parks routing asked told sites =>
      obtain ⟨tier, rfl⟩ := told
      exact stored routing _ rfl sites (queue.deactivated_burden _ _ .inactive)
  | readies routing asked told sites =>
      obtain ⟨tier, rfl⟩ := told
      exact stored routing _ rfl sites (Nat.le_refl _)

theorem ensured_toils (key : String) (base : Frontier) (answer : Option WorkQueue)
    (ensured : Ensured frontier key (base, answer)) : Toils 0 0 frontier base := by
  cases ensured with
  | known _ _ => exact .refl once
  | fails routing _ sites => exact reroute_toils once routing sites
  | adds routing tier missing sites =>
      have routed := reroute_toils once routing sites
      have fresh := (queue_missing frontier key).mp missing
      refine routed.onto ⟨?_, rfl, rfl, ?_⟩
      · simpa [keys, addQueue, WorkQueue.new, List.nodup_append] using
          ⟨once, fun other member same => fresh (same ▸ List.mem_map_of_mem member)⟩
      · have empty : (WorkQueue.new key tier).burden = fun _ _ => 0 := rfl
        have burden : ({ frontier with routing }.addQueue (WorkQueue.new key tier)).burdenOf =
          { frontier with routing }.burdenOf := rfl
        rw [toil, toil, burden]
        simp [sumOf, addQueue, burdenOf, empty]

theorem send_toils (uri : CrawlUri) (home : frontier.routing.siteKey uri.url = uri.siteKey) :
    Toils 0 1 frontier (frontier.send uri).1 := by
  have joins {base : Frontier} {queue : WorkQueue}
      (ensured : Ensured frontier uri.siteKey (base, some queue)) :
      Toils 0 0 frontier (base.store (queue.enqueue uri)).countQueued ∧
        (base.store (queue.enqueue uri)).countQueued.queue? (queue.enqueue uri).key =
          some (queue.enqueue uri) := by
    have named := queue_key base uri.siteKey queue ensured.stored
    have toils := ensured_toils once uri.siteKey base _ ensured
    have found : base.queue? (queue.enqueue uri).key = some queue := by
      rw [queue.enqueue_key, named]
      exact ensured.stored
    have belongs : base.routing.siteKey uri.url = queue.key := by
      rw [toils.sites, home, named]
    have same : base.burdenOf (queue.enqueue uri) = base.burdenOf queue :=
      queue.enqueue_burden _ _ uri belongs
    have stored : Toils 0 0 base (base.store (queue.enqueue uri)) :=
      store_toils toils.once queue _ found (Nat.le_of_eq same)
    exact ⟨(toils.onto stored).then rfl rfl rfl rfl rfl rfl, store_same base _ queue found⟩
  have sent := send_cases frontier uri
  generalize frontier.send uri = result at sent
  cases sent with
  | lost routing _ sites => exact (reroute_toils once routing sites).weaken (by omega)
  | joins queue found busy => exact (joins (.known queue found)).1.weaken (by omega)
  | @places base after queue placement ensured empty requeued =>
      obtain ⟨toils, found⟩ := joins ensured
      have placed := requeued_toils toils.once _ _ found rfl after _ requeued
      exact (toils.trans placed).trans (place_toils placed.once uri.siteKey placement)
  | sticks routing ensured empty sites =>
      have toils := (joins ensured).1
      exact (toils.trans (reroute_toils toils.once routing sites)).weaken (by omega)

theorem receive_all_toils (uris : List CrawlUri) :
    Toils 0 uris.length frontier (frontier.receiveAll uris).1 := by
  induction uris generalizing frontier with
  | nil => exact .refl once
  | cons uri rest ih =>
      have sent : Toils 0 1 frontier (frontier.schedule uri).1 := send_toils once _ rfl
      rw [receiveAll]
      cases result : frontier.schedule uri with
      | mk after answer =>
          rw [result] at sent
          cases answer with
          | none => exact sent.weaken (by simp)
          | some received =>
              exact (sent.trans (ih sent.once)).weaken (by rw [List.length_cons]; omega)

end Placing

section Pulling

variable {frontier : Frontier} (once : frontier.keys.Nodup)

include once

theorem refresh_toils (queue : WorkQueue) (found : frontier.queue? queue.key = some queue) :
    Toils 0 0 frontier (frontier.refresh queue).1 ∧
      ∀ asked, (frontier.refresh queue).2 = some asked →
        (frontier.refresh queue).1.queue? asked.key = some asked := by
  obtain ⟨routing, sites, fails | ⟨tier, asks⟩⟩ := refresh_cases frontier queue
  · rw [fails]
    exact ⟨reroute_toils once routing sites, by simp⟩
  · have routed := reroute_toils once routing sites
    rw [asks]
    refine ⟨routed.onto (store_toils routed.once queue _ found (Nat.le_refl _)), fun asked told => ?_⟩
    cases told
    exact store_same { frontier with routing } _ queue found

theorem inspect_toils (key : String) (tier : Nat) :
    Toils 0 0 frontier (frontier.inspect key tier).1 := by
  have inspected := inspect_cases frontier key tier
  generalize frontier.inspect key tier = result at inspected
  cases inspected with
  | stale idle => exact .refl once
  | @fails queue after found inactive same =>
      have asks := (refresh_toils once queue found).1
      rwa [same] at asks
  | @readies queue asked after found inactive same right =>
      obtain ⟨asks, stored⟩ := refresh_toils once queue found
      rw [same] at asks stored
      exact asks.onto (store_toils asks.once asked { asked with state := .ready }
        (stored asked rfl) (Nat.le_refl _))
  | @misfiled queue asked after found inactive same wrong =>
      have asks := (refresh_toils once queue found).1
      rwa [same] at asks

theorem look_all_toils (looked : List (String × Nat)) :
    Toils 0 0 frontier (Tiers.lookAll inspect frontier looked) ∧
      (Tiers.lookAll inspect frontier looked).tiers = frontier.tiers := by
  induction looked generalizing frontier with
  | nil => exact ⟨.refl once, rfl⟩
  | cons look rest ih =>
      have first := inspect_toils once look.1 look.2
      obtain ⟨others, tiers⟩ := ih first.once
      exact ⟨first.onto others, tiers.trans (inspect_tiers frontier look.1 look.2)⟩

theorem activate_toils (ascending : Filed.Ascending frontier.tiers.filed)
    (fine : frontier.activateInactive.2 ≠ none) :
    Toils 0 0 frontier frontier.activateInactive.1 ∧
      (frontier.activateInactive.2 = some true → frontier.activateInactive.1.ready ≠ []) := by
  obtain ⟨looked, left, ended, walk, kept, ends⟩ := activate_walks frontier ascending fine
  obtain ⟨looks, tiers⟩ := look_all_toils once looked
  have held : (Tiers.remaining left).size + ended.taken.length ≤ frontier.tiers.size := by
    have same : (Tiers.remaining left).keys = Filed.keys left := Filed.occupied_keys left
    have lengths := (walk.holds ascending).length_eq
    rw [List.length_append, List.length_append] at lengths
    rw [Tiers.size, Tiers.size, same, Tiers.keys]
    omega
  rw [activateInactive, ends]
  generalize Tiers.lookAll inspect frontier looked = state at looks tiers
  cases ended with
  | failed => exact absurd rfl walk.ends
  | exhausted =>
      refine ⟨looks.onto (.registers looks.once rfl rfl rfl rfl ?_), by simp⟩
      simp only [ScanEnd.taken, List.length_nil, ← tiers] at held
      simp only
      omega
  | activated key =>
      refine ⟨looks.onto (.registers looks.once rfl rfl rfl rfl ?_), fun _ => by simp [publish]⟩
      simp only [ScanEnd.taken, List.length_singleton, ← tiers] at held
      simp only [publish, List.length_append, List.length_singleton]
      omega

end Pulling

-- A pull that the gateway does not keep waiting: work may get done by it, and does unless it finds
-- nothing or puts a key in line.
structure Drawn (before after : Frontier) (phase : CallPhase) : Prop where
  free : after.pulling = false
  toils : Toils 0 0 before after
  polls : ∃ progress, phase = .polling progress ∧
    (progress = true → after.ready = [] → Toils 1 0 before after)

section Drawn

variable {frontier : Frontier} (calm : frontier.Calm) (registered : frontier.Registered)

include calm registered

theorem collect_draws (id : Nat) (memory : ∃ filter, frontier.gateway = .memory filter) :
    Drawn frontier (frontier.collect id).1 (frontier.collect id).2 := by
  rw [collect]
  cases taken : frontier.gateway.takeBatch with
  | error cause =>
      exact ⟨rfl, .still registered.once rfl rfl rfl rfl rfl rfl, false, rfl, by simp⟩
  | ok handed =>
      obtain ⟨gateway, handover⟩ := handed
      obtain ⟨pending, _⟩ := frontier.gateway.take_draws gateway handover taken
      have lengths := congrArg List.length pending
      rw [List.length_append] at lengths
      have fetched : Toils (2 * handover.uris.length) 0 frontier { frontier with gateway } := by
        refine ⟨registered.once, rfl, rfl, ?_⟩
        have burden : { frontier with gateway }.burdenOf = frontier.burdenOf := rfl
        rw [toil, toil, burden]
        simp only [sumOf]
        omega
      have whole : { frontier with gateway }.Registered :=
        ⟨registered.once, registered.ascending, registered.settled⟩
      obtain ⟨received, _⟩ :=
        receive_all_proceeds { frontier with gateway } handover.uris calm whole
      have drawn := fetched.trans (receive_all_toils fetched.once handover.uris)
      simp only
      cases result : { frontier with gateway }.receiveAll handover.uris with
      | mk after answer =>
          rw [result] at received drawn
          cases received
          have ends : Toils (2 * handover.uris.length + 0) (0 + handover.uris.length) frontier
              after.endPull :=
            drawn.then rfl rfl rfl rfl rfl rfl
          refine ⟨rfl, ends.weaken (by omega), _, rfl, fun some _ => ?_⟩
          have positive : handover.count ≠ 0 := of_decide_eq_true some
          obtain ⟨filter, same⟩ := memory
          rw [same] at taken
          have honest := Gateway.memory_counts filter gateway handover taken
          exact ends.weaken (by omega)

theorem pull_draws (id : Nat) (memory : ∃ filter, frontier.gateway = .memory filter) :
    Drawn frontier (frontier.pull id).1 (frontier.pull id).2 := by
  have prompt := Gateway.memory_prompt memory
  rw [pull]
  by_cases may : frontier.mayActivate = true
  · obtain ⟨found, answer, proceeds⟩ := activate_proceeds frontier calm registered
    obtain ⟨toils, line⟩ := activate_toils registered.once registered.ascending
      (by rw [answer]; simp)
    have stays := activate_placed stays_dozing.toPlacing frontier
    rw [if_pos may]
    cases result : frontier.activateInactive with
    | mk after told =>
        rw [result] at answer proceeds toils line stays
        cases answer
        cases found with
        | true =>
            have ends : Toils 0 0 frontier after.endPull := toils.then rfl rfl rfl rfl rfl rfl
            exact ⟨rfl, ends, true, rfl, fun _ none => absurd none (line rfl)⟩
        | false =>
            have gateway : after.gateway = frontier.gateway :=
              congrArg Setting.gateway stays.setting
            have drawn := collect_draws (proceeds.calm calm) proceeds.registered id
              (gateway ▸ memory)
            simp only [flush, if_pos (gateway ▸ prompt)]
            obtain ⟨progress, polls, done⟩ := drawn.polls
            exact ⟨drawn.free, toils.trans drawn.toils, progress, polls,
              fun more none => toils.trans (done more none)⟩
  · rw [if_neg may, flush, if_pos prompt]
    exact collect_draws calm registered id memory

theorem contend_draws (id attempt : Nat)
    (memory : ∃ filter, frontier.gateway = .memory filter) (free : frontier.pulling = false) :
    Drawn frontier (frontier.contend id attempt).1 (frontier.contend id attempt).2 := by
  have whole : { frontier with pulling := true }.Registered :=
    ⟨registered.once, registered.ascending, registered.settled⟩
  have drawn := pull_draws (show { frontier with pulling := true }.Calm from calm) whole id memory
  have begins : Toils 0 0 frontier { frontier with pulling := true } :=
    .still registered.once rfl rfl rfl rfl rfl rfl
  obtain ⟨progress, polls, done⟩ := drawn.polls
  rw [contend, if_pos (by rw [free]; rfl)]
  exact ⟨drawn.free, begins.trans drawn.toils, progress, polls,
    fun more none => begins.trans (done more none)⟩

end Drawn

theorem opened_burden (frontier : Frontier) (queue : WorkQueue)
    (positive : 1 ≤ frontier.budgets.session) :
    frontier.burdenOf (frontier.opened queue) = frontier.burdenOf queue := by
  cases active : queue.active with
  | true =>
      simp [burdenOf, WorkQueue.burden, opened, openSession, WorkQueue.considerActive, active,
        WorkQueue.setTotalBudget, WorkQueue.setSessionBudget, WorkQueue.setWakeTime]
  | false =>
      have fresh : ¬ frontier.budgets.session ≤ 0 := by omega
      simp [burdenOf, WorkQueue.burden, opened, openSession, WorkQueue.considerActive, active, fresh,
        WorkQueue.setTotalBudget, WorkQueue.setSessionBudget, WorkQueue.setWakeTime]

theorem claim_parked (frontier : Frontier) (queue : WorkQueue) (tier : Nat)
    (parks : (frontier.claim queue).2 = .parked tier) :
    (frontier.opened queue).isOverSession = true := by
  rw [claim] at parks
  split at parks
  · cases parks
  · split at parks
    · cases parks
    · split at parks
      · cases parks
      · rename_i ready _ _
        have ready : queue.state = .ready := by simpa using ready
        rw [queue.transition_allowed .inProcess (by simp [ready, QueueState.allows])] at parks
        simp only [applyBudgets] at parks
        split at parks
        · assumption
        · split at parks <;> cases parks

section Dispatching

variable {frontier : Frontier} (once : frontier.keys.Nodup)

include once

theorem exhausted_toils (old queue : WorkQueue) (found : frontier.queue? queue.key = some old)
    (same : frontier.burdenOf queue = frontier.burdenOf old) :
    Toils 0 0 frontier (frontier.markExhausted queue) := by
  by_cases allowed : queue.noteExhausted.state.allows .empty = true
  · simp only [markExhausted, WorkQueue.transition, if_pos allowed]
    exact store_toils once old _ found (Nat.le_of_eq same)
  · simp only [markExhausted, WorkQueue.transition, if_neg allowed]
    exact store_toils once old _ found (Nat.le_of_eq same)

theorem release_empty_toils (old queue : WorkQueue) (found : frontier.queue? queue.key = some old)
    (same : frontier.burdenOf queue = frontier.burdenOf old) :
    Toils 0 0 frontier (frontier.releaseEmpty queue) := by
  have freed : Toils 0 0 frontier (frontier.release queue.key) :=
    .still once rfl rfl rfl rfl rfl rfl
  exact freed.onto (exhausted_toils freed.once old queue found same)

theorem dropped_toils (queue : WorkQueue) (head : CrawlUri) (rest : List CrawlUri)
    (found : frontier.queue? queue.key = some queue) (line : queue.items = head :: rest)
    (away : frontier.routing.siteKey head.url ≠ queue.key) :
    Toils 1 0 frontier (frontier.dropped queue head) := by
  let shorter : WorkQueue := { queue with items := rest }
  have less : frontier.burdenOf shorter + 1 ≤ frontier.burdenOf queue :=
    Nat.le_of_eq (queue.shorter_burden _ _ head rest line away)
  by_cases last : rest = []
  · subst last
    have freed : Toils 0 0 frontier (frontier.release queue.key) :=
      .still once rfl rfl rfl rfl rfl rfl
    have stored : Toils 1 0 (frontier.release queue.key)
        ((frontier.release queue.key).store shorter) :=
      store_toils freed.once queue shorter found less
    have known := store_same (frontier.release queue.key) shorter queue found
    have emptied := exhausted_toils stored.once shorter shorter known rfl
    rw [dropped_last frontier queue head line]
    exact ((freed.trans stored).trans emptied).then rfl rfl rfl rfl rfl rfl
  · rw [dropped_more frontier queue head rest line last]
    exact (store_toils once queue shorter found less).then rfl rfl rfl rfl rfl rfl

-- A URI that moves leaves the wrong queue, and puts one key into a register at most.
theorem resolve_toils (items : List CrawlUri) (queue : WorkQueue)
    (found : frontier.queue? queue.key = some queue) (line : queue.items = items)
    (none : (frontier.resolve queue.key items).2 = some none) :
    Toils 0 0 frontier (frontier.resolve queue.key items).1 := by
  induction items generalizing frontier queue with
  | nil =>
      simp only [resolve, found]
      exact release_empty_toils once queue queue found rfl
  | cons head rest ih =>
      by_cases home : frontier.routing.siteKey head.url = queue.key
      · rw [resolve_home frontier queue head rest found home] at none
        cases none
      · have drops := dropped_toils once queue head rest found line home
        have sends := send_toils drops.once (frontier.relocated head) (by rw [drops.sites]; rfl)
        have moves := drops.trans sends
        rw [resolve_away frontier queue head rest found home] at none ⊢
        cases result : (frontier.dropped queue head).send (frontier.relocated head) with
        | mk after answer =>
            rw [result] at none moves
            cases answer with
            | none => cases none
            | some sent =>
                simp only at none ⊢
                by_cases last : rest = []
                · rw [if_pos (by simp [last])]
                  exact moves.weaken (by omega)
                · let shorter : WorkQueue := { queue with items := rest }
                  have beside := send_beside (frontier.dropped queue head) (frontier.relocated head)
                    queue.key (Ne.symm home)
                  have known : after.queue? queue.key = some shorter := by
                    rw [result] at beside
                    rw [beside, dropped_more frontier queue head rest line last]
                    exact store_same frontier shorter queue found
                  rw [if_neg (by simpa using last)] at none ⊢
                  have moved : Toils 0 0 frontier after := moves.weaken (by omega)
                  exact moved.onto (ih moved.once shorter known rfl none)

theorem claim_toils (queue : WorkQueue) (found : frontier.queue? queue.key = some queue)
    (ready : queue.state = .ready) (free : queue.key ∉ frontier.claims)
    (positive : 1 ≤ frontier.budgets.session) :
    match frontier.claim queue with
    | (after, .claimed) => Toils 0 0 frontier after ∧ ∃ opened : WorkQueue,
        opened.key = queue.key ∧ opened.items = queue.items ∧ after.queue? queue.key = some opened
    | (after, .skipped) => Toils 0 0 frontier after
    | (after, .parked _) => Toils 1 0 frontier after := by
  obtain ⟨key, items, state, _⟩ := frontier.opened_shape queue
  have present : frontier.queue? (frontier.opened queue).key = some queue := key.symm ▸ found
  have same := opened_burden frontier queue positive
  have opens : Toils 0 0 frontier (frontier.store (frontier.opened queue)) :=
    store_toils once queue _ present (Nat.le_of_eq same)
  have known := store_same frontier (frontier.opened queue) queue present
  have claiming := claim_cases frontier queue ready free
  have spent := claim_parked frontier queue
  generalize frontier.claim queue = result at claiming spent ⊢
  cases claiming with
  | dry => exact exhausted_toils once queue queue found rfl
  | parks =>
      have exceeded := spent _ rfl
      rw [WorkQueue.isOverSession, Bool.and_eq_true, decide_eq_true_eq] at exceeded
      have less : frontier.burdenOf (parked (frontier.opened queue)) + 1 =
          frontier.burdenOf (frontier.opened queue) :=
        (frontier.opened queue).parked_burden _ _ .inactive exceeded
      exact store_toils once queue _ present (Nat.le_of_eq (less.trans same))
  | retires =>
      let retired := WorkQueue.deactivate { frontier.opened queue with state := .retired }
      have less : frontier.burdenOf retired ≤ frontier.burdenOf (frontier.opened queue) :=
        (frontier.opened queue).deactivated_burden _ _ .retired
      have retires : Toils 0 0 (frontier.store (frontier.opened queue))
          ((frontier.store (frontier.opened queue)).store retired) :=
        store_toils opens.once (frontier.opened queue) retired known less
      simp only [retire, (frontier.opened queue).transition_allowed .retired
        (by simp [state, QueueState.allows])]
      exact (opens.onto retires).then rfl rfl rfl rfl rfl rfl
  | claimed =>
      exact ⟨opens.then rfl rfl rfl rfl rfl rfl, _, key, items, key ▸ known⟩

theorem dispatch_toils (key : String) (rest : List String) (tidy : frontier.Tidy)
    (first : frontier.ready = key :: rest) (positive : 1 ≤ frontier.budgets.session)
    (none : ({ frontier with ready := rest }.dispatchFrom key).2 = some none) :
    Toils 1 0 frontier ({ frontier with ready := rest }.dispatchFrom key).1 := by
  obtain ⟨queue, found, named, ready, stands, _⟩ := tidy.ready (show key ∈ frontier.ready by simp [first])
  subst named
  have free : queue.key ∉ frontier.claims := by
    have unclaimed : frontier.claims.count queue.key = 0 := congrArg Standing.claimed stands
    exact List.count_eq_zero.mp unclaimed
  have takes : Toils 1 0 frontier { frontier with ready := rest } := by
    refine .registers once rfl rfl rfl rfl ?_
    rw [first, List.length_cons]
    simp only
    omega
  have present : { frontier with ready := rest }.queue? queue.key = some queue := found
  have claims := claim_toils takes.once queue present ready free positive
  simp only [dispatchFrom, present] at none ⊢
  cases result : { frontier with ready := rest }.claim queue with
  | mk after ended =>
      rw [result] at claims none
      cases ended with
      | skipped => exact takes.onto claims
      | parked tier =>
          have parks : Toils 1 0 { frontier with ready := rest } after := claims
          have placed := (takes.trans parks).trans (place_toils parks.once queue.key (.inactive tier))
          exact placed.weaken (by omega)
      | claimed =>
          obtain ⟨claimed, opened, key, items, known⟩ := claims
          have held := takes.onto claimed
          have resolved := resolve_toils held.once queue.items opened (key.symm ▸ known) items
          rw [key] at resolved
          exact held.onto (resolved none)

end Dispatching

end Frontier

end PoliteCrawl
