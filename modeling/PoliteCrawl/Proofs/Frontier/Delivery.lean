import PoliteCrawl.Proofs.Frontier.Frame
import PoliteCrawl.Proofs.Frontier.Requeue
import PoliteCrawl.Proofs.Gateway

set_option autoImplicit false

namespace PoliteCrawl.Frontier

structure Holds (frontier : Frontier) (uris : List CrawlUri) : Prop where
  once : frontier.keys.Nodup
  contents : frontier.contents.Perm uris

section Holds

variable {before after : Frontier} {uris others : List CrawlUri}

theorem Holds.still (holds : before.Holds uris) (queues : after.queues = before.queues) :
    after.Holds uris := by
  refine ⟨?_, ?_⟩
  · rw [Frontier.keys, queues]
    exact holds.once
  · rw [Frontier.contents, queues]
    exact holds.contents

theorem Holds.reorder (holds : before.Holds uris) (same : uris.Perm others) : before.Holds others :=
  ⟨holds.once, holds.contents.trans same⟩

theorem Holds.store (holds : before.Holds uris) (old new : WorkQueue)
    (found : before.queue? new.key = some old) (whole : uris.Perm (old.items ++ others)) :
    (before.store new).Holds (new.items ++ others) := by
  have changed := store_contents before old new holds.once found
  have held := holds.contents.trans whole
  refine ⟨by simpa using holds.once, (List.perm_append_right_iff old.items).mp (changed.trans ?_)⟩
  refine (held.append_right new.items).trans (List.perm_iff_count.mpr fun uri => ?_)
  simp only [List.count_append]
  omega

theorem Holds.split (holds : before.Holds uris) {key : String} {queue : WorkQueue}
    (found : before.queue? key = some queue) : ∃ others, uris.Perm (queue.items ++ others) := by
  obtain ⟨left, right, whole⟩ := List.append_of_mem (List.mem_of_find?_eq_some found)
  refine ⟨left.flatMap (·.items) ++ right.flatMap (·.items), holds.contents.symm.trans ?_⟩
  rw [Frontier.contents, whole]
  refine List.perm_iff_count.mpr fun uri => ?_
  simp only [List.flatMap_append, List.flatMap_cons, List.count_append]
  omega

theorem Holds.same (holds : before.Holds uris) (old new : WorkQueue)
    (found : before.queue? new.key = some old) (items : new.items = old.items) :
    (before.store new).Holds uris := by
  obtain ⟨others, whole⟩ := holds.split found
  exact (holds.store old new found whole).reorder (items ▸ whole.symm)

theorem Holds.grow (holds : before.Holds uris) (old : WorkQueue) (uri : CrawlUri)
    (found : before.queue? old.key = some old) :
    (before.store (old.enqueue uri)).countQueued.Holds (uri :: uris) := by
  obtain ⟨others, whole⟩ := holds.split found
  have stored := holds.store old (old.enqueue uri) ((old.enqueue_key uri).symm ▸ found) whole
  refine (stored.reorder ?_).still rfl
  refine List.perm_iff_count.mpr fun other => ?_
  have counted := whole.count_eq other
  simp only [WorkQueue.enqueue_items, List.count_append, List.count_cons, List.count_nil] at counted ⊢
  omega

theorem Holds.ensured {key : String} {queue : WorkQueue} (holds : before.Holds uris)
    (ensured : Ensured before key (after, some queue)) : after.Holds uris := by
  cases ensured with
  | known _ _ => exact holds
  | adds routing tier missing _ =>
      have fresh := (queue_missing before key).mp missing
      refine ⟨?_, ?_⟩
      · simpa [Frontier.keys, addQueue, WorkQueue.new, List.nodup_append] using
          ⟨holds.once, fun other member same => fresh (same ▸ List.mem_map_of_mem member)⟩
      · simpa [Frontier.contents, addQueue, WorkQueue.new] using holds.contents

theorem Holds.requeued {queue : WorkQueue} {answer : Option Placement} (holds : before.Holds uris)
    (found : before.queue? queue.key = some queue)
    (requeued : Requeued before queue (after, answer)) : after.Holds uris := by
  cases requeued with
  | fails routing _ => exact holds.still rfl
  | parks routing asked told _ =>
      obtain ⟨tier, rfl⟩ := told
      have routed : { before with routing }.Holds uris := holds.still rfl
      exact routed.same queue _ found rfl
  | readies routing asked told _ =>
      obtain ⟨tier, rfl⟩ := told
      have routed : { before with routing }.Holds uris := holds.still rfl
      exact routed.same queue _ found rfl

end Holds

-- The routing failed at a URI on its way. It is gone if its site has no queue. Otherwise a queue took it
-- that was empty and counts as empty still.
inductive Stalled (uri : CrawlUri) (held : List CrawlUri) (after : Frontier) : Prop where
  | gone (missing : after.queue? uri.siteKey = none) (holds : after.Holds held)
  | stuck (queue : WorkQueue) (found : after.queue? uri.siteKey = some queue)
      (empty : queue.state = .empty) (inside : uri ∈ queue.items) (holds : after.Holds (uri :: held))

inductive Delivered (uri : CrawlUri) (held : List CrawlUri) : Frontier × Option Unit → Prop where
  | arrived (after : Frontier) (holds : after.Holds (uri :: held)) : Delivered uri held (after, some ())
  | stalled (after : Frontier) (stalled : Stalled uri held after) : Delivered uri held (after, none)

theorem send_delivers (frontier : Frontier) (uri : CrawlUri) (held : List CrawlUri)
    (holds : frontier.Holds held) : Delivered uri held (frontier.send uri) := by
  have joins {base : Frontier} {queue : WorkQueue}
      (ensured : Ensured frontier uri.siteKey (base, some queue)) :
      (base.store (queue.enqueue uri)).countQueued.Holds (uri :: held) ∧
        (queue.enqueue uri).key = uri.siteKey ∧
        (base.store (queue.enqueue uri)).countQueued.queue? uri.siteKey =
          some (queue.enqueue uri) := by
    have named := queue_key base uri.siteKey queue ensured.stored
    have found : base.queue? queue.key = some queue := named.symm ▸ ensured.stored
    have key := queue.enqueue_key uri
    refine ⟨(holds.ensured ensured).grow queue uri found, key.trans named, ?_⟩
    rw [← named, ← key]
    exact store_same base _ queue (key.symm ▸ found)
  have sent := send_cases frontier uri
  generalize frontier.send uri = result at sent
  cases sent with
  | lost routing missing => exact .stalled _ (.gone missing (holds.still rfl))
  | joins queue found busy => exact .arrived _ (joins (.known queue found)).1
  | places ensured empty requeued =>
      obtain ⟨grown, key, found⟩ := joins ensured
      have placed := grown.requeued (key.symm ▸ found) requeued
      exact .arrived _ (placed.still (place_queues _ _ _))
  | @sticks base queue routing ensured empty =>
      obtain ⟨grown, key, found⟩ := joins ensured
      exact .stalled _ (.stuck (queue.enqueue uri) found ((queue.enqueue_state uri).trans empty)
        (by simp) (grown.still rfl))

theorem relocated_same {before after : Frontier}
    (sites : after.routing.siteKey = before.routing.siteKey) :
    after.relocated = before.relocated := by
  funext uri
  rw [relocated, relocated, sites]

inductive Received (frontier : Frontier) (uris held : List CrawlUri) : Frontier × Option Unit → Prop where
  | arrived (after : Frontier) (holds : after.Holds (uris.map frontier.relocated ++ held)) :
      Received frontier uris held (after, some ())
  | stalled (after : Frontier) (given rest : List CrawlUri) (uri : CrawlUri)
      (line : uris = given ++ uri :: rest)
      (stalled : Stalled (frontier.relocated uri) (given.map frontier.relocated ++ held) after) :
      Received frontier uris held (after, none)

theorem Stalled.reorder {uri : CrawlUri} {held others : List CrawlUri} {after : Frontier}
    (stalled : Stalled uri held after) (same : held.Perm others) : Stalled uri others after := by
  cases stalled with
  | gone missing holds => exact .gone missing (holds.reorder same)
  | stuck queue found empty inside holds =>
      exact .stuck queue found empty inside (holds.reorder (same.cons uri))

theorem receive_all_received (uris : List CrawlUri) (frontier : Frontier) (held : List CrawlUri)
    (holds : frontier.Holds held) : Received frontier uris held (frontier.receiveAll uris) := by
  induction uris generalizing frontier held with
  | nil => exact .arrived frontier holds
  | cons uri rest ih =>
      have delivered := send_delivers frontier (frontier.relocated uri) held holds
      have sites := (send_cases frontier (frontier.relocated uri)).sites
      have schedules : frontier.schedule uri = frontier.send (frontier.relocated uri) := rfl
      rw [receiveAll, schedules]
      generalize frontier.send (frontier.relocated uri) = result at delivered sites
      cases delivered with
      | stalled after stalled => exact .stalled after [] rest uri rfl stalled
      | arrived after arrives =>
          have same := relocated_same sites
          have others := ih after _ arrives
          simp only at same ⊢
          generalize after.receiveAll rest = last at others
          cases others with
          | arrived last whole =>
              rw [same] at whole
              exact .arrived last (whole.reorder List.perm_middle)
          | stalled last given later next line stalled =>
              rw [same] at stalled
              exact .stalled last (uri :: given) later next (congrArg (uri :: ·) line)
                (stalled.reorder List.perm_middle)

-- A claimed queue gave away its URIs up to one that the routing failed at. It is in process for good if
-- any are left, and empty otherwise.
structure Halted (frontier : Frontier) (key : String) (moved : List CrawlUri) (head : CrawlUri)
    (rest others : List CrawlUri) (after : Frontier) : Prop where
  away : ∀ uri ∈ moved ++ [head], frontier.routing.siteKey uri.url ≠ key
  left : ∃ queue, after.queue? key = some queue ∧ queue.items = rest ∧
    queue.state = if rest = [] then .empty else .inProcess
  claimed : rest ≠ [] → key ∈ after.claims
  stalled : Stalled (frontier.relocated head) (moved.map frontier.relocated ++ (rest ++ others)) after

theorem Halted.behind {before frontier after : Frontier} {key : String} {moved : List CrawlUri}
    {first head : CrawlUri} {rest others : List CrawlUri}
    (halted : Halted frontier key moved head rest (before.relocated first :: others) after)
    (sites : frontier.routing.siteKey = before.routing.siteKey)
    (elsewhere : before.routing.siteKey first.url ≠ key) :
    Halted before key (first :: moved) head rest others after := by
  have stalled := halted.stalled
  rw [relocated_same sites] at stalled
  refine ⟨fun uri member => ?_, halted.left, halted.claimed,
    stalled.reorder ((List.perm_middle.append_left _).trans List.perm_middle)⟩
  rcases List.mem_cons.mp member with here | there
  · exact here ▸ elsewhere
  · exact sites ▸ halted.away uri there

theorem dropped_shape (frontier : Frontier) (queue : WorkQueue) (head : CrawlUri)
    (rest : List CrawlUri) (process : queue.state = .inProcess)
    (listed : queue.key ∈ frontier.claims) (line : queue.items = head :: rest) :
    ∃ left : WorkQueue, left.key = queue.key ∧ left.items = rest ∧
      left.state = (if rest = [] then .empty else .inProcess) ∧
      (frontier.dropped queue head).queues = (frontier.store left).queues ∧
      (frontier.dropped queue head).routing = frontier.routing ∧
      (rest ≠ [] → queue.key ∈ (frontier.dropped queue head).claims) := by
  let shorter : WorkQueue := { queue with items := rest }
  by_cases last : rest = []
  · subst last
    let empty : WorkQueue := { shorter.noteExhausted with state := .empty }
    have allowed : shorter.noteExhausted.state.allows .empty = true := by
      simp [shorter, WorkQueue.noteExhausted, process, QueueState.allows]
    have same : frontier.dropped queue head =
        (((frontier.release queue.key).store shorter).store empty).countReclassified.discountQueued := by
      rw [dropped_last frontier queue head line, markExhausted,
        WorkQueue.transition_allowed _ .empty allowed]
    have stored : ((frontier.store shorter).store empty).queues = (frontier.store empty).queues :=
      congrArg Frontier.queues (store_store frontier shorter empty rfl)
    exact ⟨empty, rfl, rfl, rfl, same ▸ stored, by rw [same]; rfl, fun more => absurd rfl more⟩
  · have same : frontier.dropped queue head =
        (frontier.store shorter).countReclassified.discountQueued :=
      dropped_more frontier queue head rest line last
    exact ⟨shorter, rfl, rfl, by simp [shorter, process, last], by rw [same]; rfl, by rw [same]; rfl,
      fun _ => by rw [same]; exact listed⟩

theorem resolve_halts (items : List CrawlUri) (frontier : Frontier) (queue : WorkQueue)
    (others : List CrawlUri) (found : frontier.queue? queue.key = some queue)
    (process : queue.state = .inProcess) (listed : queue.key ∈ frontier.claims)
    (line : queue.items = items) (holds : frontier.Holds (items ++ others))
    (fails : (frontier.resolve queue.key items).2 = none) :
    ∃ moved head rest, items = moved ++ head :: rest ∧
      Halted frontier queue.key moved head rest others (frontier.resolve queue.key items).1 := by
  induction items generalizing frontier queue others with
  | nil => simp [resolve, found] at fails
  | cons head rest ih =>
      by_cases home : frontier.routing.siteKey head.url = queue.key
      · rw [resolve_home frontier queue head rest found home] at fails
        cases fails
      · obtain ⟨left, key, items, state, queues, routing, claims⟩ :=
          dropped_shape frontier queue head rest process listed line
        obtain ⟨base, same⟩ : ∃ base, base = frontier.dropped queue head := ⟨_, rfl⟩
        rw [← same] at queues routing claims
        have stored : base.queue? queue.key = some left := by
          rw [queues_queue _ _ queue.key queues, ← key]
          exact store_same frontier left queue (key.symm ▸ found)
        have leaves : base.Holds (rest ++ others) := by
          have dropped := holds.store queue left (key.symm ▸ found) (by rw [line])
          exact items ▸ dropped.still queues
        have delivered := send_delivers base (frontier.relocated head) _ leaves
        have sites := (send_cases base (frontier.relocated head)).sites
        have beside := send_beside base (frontier.relocated head) queue.key (Ne.symm home)
        have claimed := (send_placed stays_dozing.toPlacing base (frontier.relocated head)).claims
        rw [resolve_away frontier queue head rest found home, ← same] at fails ⊢
        generalize base.send (frontier.relocated head) = result at delivered sites beside claimed fails
        cases delivered with
        | stalled after stalled =>
            refine ⟨[], head, rest, rfl, by simpa using home, ?_, fun more => ?_, stalled⟩
            · exact ⟨left, beside.trans stored, items, state⟩
            · exact claimed.symm ▸ claims more
        | arrived after arrives =>
            by_cases last : rest = []
            · simp [last] at fails
            · simp only [List.isEmpty_iff, if_neg last] at fails ⊢
              have still : left.state = .inProcess := state.trans (if_neg last)
              have whole : after.Holds (rest ++ (frontier.relocated head :: others)) :=
                arrives.reorder List.perm_middle.symm
              have stands : after.queue? left.key = some left := key.symm ▸ beside.trans stored
              have listed : left.key ∈ after.claims := key.symm ▸ claimed.symm ▸ claims last
              have halts := ih after left _ stands still listed items whole (key.symm ▸ fails)
              obtain ⟨moved, next, later, split, halted⟩ := key ▸ halts
              exact ⟨head :: moved, next, later, congrArg (head :: ·) split,
                halted.behind (sites.trans (congrArg Routing.siteKey routing)) home⟩

theorem dispatch_halts (frontier : Frontier) (queue : WorkQueue) (others : List CrawlUri)
    (found : frontier.queue? queue.key = some queue) (ready : queue.state = .ready)
    (free : queue.key ∉ frontier.claims) (holds : frontier.Holds (queue.items ++ others))
    (fails : (frontier.dispatchFrom queue.key).2 = none) :
    ∃ moved head rest, queue.items = moved ++ head :: rest ∧
      Halted frontier queue.key moved head rest others (frontier.dispatchFrom queue.key).1 := by
  have claiming := claim_cases frontier queue ready free
  simp only [dispatchFrom, found] at fails ⊢
  cases result : frontier.claim queue with
  | mk after ended =>
      rw [result] at fails claiming
      cases ended with
      | skipped => cases fails
      | parked tier => cases fails
      | claimed =>
          cases claiming with
          | claimed line =>
              let opened := frontier.opened queue
              let held := (frontier.store opened).hold opened.key
              obtain ⟨key, items, process, _⟩ := frontier.opened_shape queue
              have present : frontier.queue? opened.key = some queue := key.symm ▸ found
              have stored : held.queue? opened.key = some opened :=
                store_same frontier opened queue present
              have carried : held.Holds (queue.items ++ others) :=
                (holds.same queue opened present items).still rfl
              have halts := resolve_halts queue.items held opened others stored process
                (by simp [held, hold]) items carried (key.symm ▸ fails)
              obtain ⟨moved, head, rest, split, halted⟩ := key ▸ halts
              exact ⟨moved, head, rest, split,
                ⟨halted.away, halted.left, halted.claimed, halted.stalled⟩⟩

structure Unmoved (before after : Frontier) : Prop where
  holds : ∀ uris, before.Holds uris → after.Holds uris
  sites : after.routing.siteKey = before.routing.siteKey
  gateway : after.gateway = before.gateway

theorem Unmoved.refl (frontier : Frontier) : Unmoved frontier frontier :=
  ⟨fun _ => id, rfl, rfl⟩

theorem Unmoved.trans {first second third : Frontier} (one : Unmoved first second)
    (two : Unmoved second third) : Unmoved first third :=
  ⟨fun uris => two.holds uris ∘ one.holds uris, two.sites.trans one.sites,
    two.gateway.trans one.gateway⟩

theorem refresh_unmoved (frontier : Frontier) (queue : WorkQueue)
    (found : frontier.queue? queue.key = some queue) :
    Unmoved frontier (frontier.refresh queue).1 ∧
      ∀ asked, (frontier.refresh queue).2 = some asked →
        (frontier.refresh queue).1.queue? asked.key = some asked := by
  obtain ⟨routing, sites, fails | ⟨tier, asks⟩⟩ := refresh_cases frontier queue
  · rw [fails]
    exact ⟨⟨fun _ holds => holds.still rfl, sites, rfl⟩, by simp⟩
  · rw [asks]
    let asked := queue.setPrecedence tier
    have present : { frontier with routing }.queue? asked.key = some queue := found
    refine ⟨⟨fun uris holds => ?_, sites, rfl⟩, fun told same => ?_⟩
    · have routed : { frontier with routing }.Holds uris := holds.still rfl
      exact routed.same queue asked present rfl
    · cases same
      exact store_same _ asked queue present

theorem inspect_unmoved (frontier : Frontier) (key : String) (tier : Nat) :
    Unmoved frontier (frontier.inspect key tier).1 := by
  have inspected := inspect_cases frontier key tier
  generalize frontier.inspect key tier = result at inspected
  cases inspected with
  | stale => exact .refl frontier
  | fails found _ same =>
      have moved := (refresh_unmoved frontier _ found).1
      rwa [same] at moved
  | @readies queue asked after found _ same _ =>
      obtain ⟨moved, stored⟩ := refresh_unmoved frontier queue found
      rw [same] at moved stored
      refine moved.trans ⟨fun _ holds => ?_, rfl, rfl⟩
      exact holds.same asked { asked with state := .ready } (stored asked rfl) rfl
  | misfiled found _ same _ =>
      have moved := (refresh_unmoved frontier _ found).1
      rwa [same] at moved

theorem activate_unmoved (frontier : Frontier) :
    Unmoved frontier frontier.activateInactive.1 := by
  have scanned : Unmoved frontier
      (Tiers.scan inspect (frontier.tiers.filed.map (·.1)) frontier frontier.tiers.filed).1 := by
    refine (Tiers.scan_keeps inspect (Unmoved frontier) ?_ _ _ _ (.refl frontier)).1
    intro state key tier kept
    exact kept.trans (inspect_unmoved state key tier)
  simp only [activateInactive, Tiers.activateNext]
  cases result : Tiers.scan inspect (frontier.tiers.filed.map (·.1)) frontier
      frontier.tiers.filed with
  | mk after others =>
      obtain ⟨left, ended⟩ := others
      rw [result] at scanned
      cases ended <;> exact scanned.trans ⟨fun _ holds => holds.still rfl, rfl, rfl⟩

theorem Stalled.still {uri : CrawlUri} {held : List CrawlUri} {before after : Frontier}
    (stalled : Stalled uri held before) (queues : after.queues = before.queues) :
    Stalled uri held after := by
  have same := queues_queue before after uri.siteKey queues
  cases stalled with
  | gone missing holds => exact .gone (same.trans missing) (holds.still queues)
  | stuck queue found empty inside holds =>
      exact .stuck queue (same.trans found) empty inside (holds.still queues)

-- What a call was doing when the routing failed it: looking for an inactive queue, adding the batch that
-- it took from the filter to the queues, or giving away the first URI of a queue that belongs there.
inductive Miscarries (before after : Frontier) : Prop where
  | looking (gateway : after.gateway = before.gateway) (holds : after.Holds before.contents)
  | receiving (given rest : List CrawlUri) (uri : CrawlUri)
      (taken : before.gateway.pending = given ++ uri :: rest ++ after.gateway.pending)
      (stalled : Stalled (before.relocated uri) (given.map before.relocated ++ before.contents) after)
  | handing (queue : WorkQueue) (others moved rest : List CrawlUri) (head : CrawlUri)
      (found : before.queue? queue.key = some queue)
      (whole : before.contents.Perm (queue.items ++ others))
      (line : queue.items = moved ++ head :: rest) (gateway : after.gateway = before.gateway)
      (halted : Halted before queue.key moved head rest others after)

theorem collect_miscarries (start frontier : Frontier) (worker : Nat) (tidy : start.Tidy)
    (unmoved : Unmoved start frontier) (fails : (frontier.collect worker).2 = .failed) :
    Miscarries start (frontier.collect worker).1 := by
  rw [collect] at fails ⊢
  cases taken : frontier.gateway.takeBatch with
  | error cause => simp [taken] at fails
  | ok result =>
      obtain ⟨gateway, handover⟩ := result
      obtain ⟨drawn, _, _⟩ := Gateway.take_draws frontier.gateway gateway handover taken
      have carried : frontier.Holds start.contents := unmoved.holds _ ⟨tidy.once, .refl _⟩
      have received := receive_all_received handover.uris { frontier with gateway } start.contents
        (carried.still rfl)
      have stays :=
        receive_all_placed stays_dozing.toPlacing { frontier with gateway } handover.uris
      rw [taken] at fails
      simp only at fails ⊢
      generalize { frontier with gateway }.receiveAll handover.uris = result at received stays fails
      cases received with
      | arrived after holds => cases fails
      | stalled after given rest uri line stalled =>
          have same : { frontier with gateway }.relocated = start.relocated :=
            relocated_same unmoved.sites
          have kept : after.gateway = gateway := congrArg Setting.gateway stays.setting
          rw [same] at stalled
          refine .receiving given rest uri ?_ (stalled.still rfl)
          rw [← unmoved.gateway, drawn, line, ← kept]
          rfl

theorem poll_miscarries (frontier : Frontier) (worker : Nat) (progress : Bool) (tidy : frontier.Tidy)
    (fails : (frontier.poll worker progress).2 = .failed) :
    Miscarries frontier (frontier.poll worker progress).1 := by
  cases first : frontier.ready with
  | nil => cases progress <;> simp [poll, first] at fails
  | cons key line =>
      have listed : key ∈ frontier.ready := by simp [first]
      obtain ⟨queue, found, named, ready, _, _⟩ := tidy.ready listed
      obtain ⟨_, nowhere⟩ := take_ready frontier key line tidy first
      subst named
      obtain ⟨base, rests⟩ : ∃ base, base = { frontier with ready := line } := ⟨_, rfl⟩
      have free : queue.key ∉ base.claims := by
        have counted := congrArg Standing.claimed nowhere
        simpa [rests, standing, Standing.nowhere, List.count_eq_zero] using counted
      have present : base.queue? queue.key = some queue := rests ▸ found
      have holds : base.Holds frontier.contents := by
        rw [rests]
        exact ⟨tidy.once, .refl _⟩
      obtain ⟨others, whole⟩ := holds.split present
      have halts := dispatch_halts base queue others present ready free (holds.reorder whole)
      have stays := dispatch_setting base queue.key
      simp only [poll, first, ← rests] at fails ⊢
      cases result : base.dispatchFrom queue.key with
      | mk after answer =>
          rw [result] at fails halts stays
          cases answer with
          | some answer => cases answer <;> cases fails
          | none =>
              obtain ⟨moved, head, rest, split, halted⟩ := halts rfl
              subst rests
              exact .handing queue others moved rest head found whole split
                (congrArg Setting.gateway stays)
                ⟨halted.away, halted.left, halted.claimed, halted.stalled.still rfl⟩

theorem flush_miscarries (start frontier : Frontier) (worker : Nat) (tidy : start.Tidy)
    (unmoved : Unmoved start frontier) (fails : (frontier.flush worker).2 = .failed) :
    Miscarries start (frontier.flush worker).1 := by
  by_cases fast : frontier.gateway.latency = 0
  · rw [flush, if_pos fast] at fails ⊢
    exact collect_miscarries start frontier worker tidy unmoved fails
  · simp [flush, fast] at fails

theorem pull_miscarries (start frontier : Frontier) (worker : Nat) (tidy : start.Tidy)
    (unmoved : Unmoved start frontier) (fails : (frontier.pull worker).2 = .failed) :
    Miscarries start (frontier.pull worker).1 := by
  by_cases may : frontier.mayActivate = true
  · have scanned := unmoved.trans (activate_unmoved frontier)
    rw [pull, if_pos may] at fails ⊢
    cases result : frontier.activateInactive with
    | mk after answer =>
        rw [result] at fails scanned
        cases answer with
        | none =>
            have holds := scanned.holds _ ⟨tidy.once, .refl _⟩
            exact .looking scanned.gateway (holds.still rfl)
        | some found =>
            cases found with
            | true => cases fails
            | false => exact flush_miscarries start after worker tidy scanned fails
  · rw [pull, if_neg may] at fails ⊢
    exact flush_miscarries start frontier worker tidy unmoved fails

theorem step_miscarries (frontier : Frontier) (worker : Nat) (phase : CallPhase)
    (tidy : frontier.Tidy) (going : phase ≠ .failed)
    (fails : (frontier.stepPhase worker phase).2 = .failed) :
    Miscarries frontier (frontier.stepPhase worker phase).1 := by
  cases phase with
  | entering =>
      simp only [stepPhase, enter] at fails
      split at fails
      · cases fails
      · split at fails <;> cases fails
  | seeking =>
      simp only [stepPhase, seek] at fails
      split at fails
      · cases fails
      · split at fails <;> cases fails
  | contending attempt =>
      simp only [stepPhase, contend] at fails ⊢
      by_cases free : (!frontier.pulling) = true
      · rw [if_pos free] at fails ⊢
        have began : Unmoved frontier { frontier with pulling := true } :=
          ⟨fun _ holds => holds.still rfl, rfl, rfl⟩
        exact pull_miscarries frontier _ worker tidy began fails
      · rw [if_neg free] at fails
        split at fails <;> cases fails
  | resting attempt until_ =>
      simp only [stepPhase] at fails
      split at fails <;> cases fails
  | flushing due deadline =>
      simp only [stepPhase] at fails ⊢
      by_cases here : due ≤ frontier.now
      · rw [if_pos here] at fails ⊢
        exact collect_miscarries frontier frontier worker tidy (.refl frontier) fails
      · rw [if_neg here] at fails
        split at fails <;> cases fails
  | polling progress => exact poll_miscarries frontier worker progress tidy fails
  | waiting =>
      simp only [stepPhase, awake] at fails
      split at fails <;> cases fails
  | done answer => cases fails
  | failed => exact absurd rfl going

end PoliteCrawl.Frontier
