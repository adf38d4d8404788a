import PoliteCrawl.Proofs.Frontier.Filing
import PoliteCrawl.Proofs.Frontier.Retirement
import PoliteCrawl.Proofs.Frontier.Toil

set_option autoImplicit false

namespace PoliteCrawl

def bestHint : List CrawlUri → Option Nat
  | [] => none
  | uri :: rest => Option.merge min uri.hint (bestHint rest)

theorem best_hint_append (one other : List CrawlUri) :
    bestHint (one ++ other) = Option.merge min (bestHint one) (bestHint other) := by
  induction one with
  | nil => exact Option.merge_none_left.symm
  | cons uri rest ih =>
      rw [List.cons_append, bestHint, bestHint, ih]
      exact ((Option.associative_merge min).assoc _ _ _).symm

theorem WorkQueue.enqueue_hinted (queue : WorkQueue) (uri : CrawlUri) :
    (queue.enqueue uri).hinted = Option.merge min queue.hinted uri.hint := by
  cases hint : uri.hint <;> cases known : queue.hinted <;>
    simp [enqueue, raisePrecedence, hint, known, Nat.min_comm]

theorem WorkQueue.enqueue_assigned (queue : WorkQueue) (uri : CrawlUri) :
    (queue.enqueue uri).assigned = queue.assigned := by
  cases hint : uri.hint <;> simp [enqueue, raisePrecedence, hint]

def joinedOn (key : String) (entries : List Entry) : List CrawlUri :=
  (deedsOn key entries).filterMap Deed.joined?

theorem joined_append (key : String) (one other : List Entry) :
    joinedOn key (one ++ other) = joinedOn key one ++ joinedOn key other := by
  rw [joinedOn, deeds_append, List.filterMap_append]
  rfl

theorem joined_silent (key : String) (entries : List Entry)
    (silent : ∀ entry ∈ entries, entry.deed.joined? = none) : joinedOn key entries = [] := by
  refine List.filterMap_eq_nil_iff.mpr fun deed happened => ?_
  obtain ⟨entry, listed, same⟩ := List.mem_map.mp happened
  exact same ▸ silent entry (List.mem_filter.mp listed).1

theorem joined_one (key : String) (entry : Entry) :
    joinedOn key [entry] = if entry.key = key then entry.deed.joined?.toList else [] := by
  by_cases here : entry.key = key
  · cases joins : entry.deed.joined? <;> simp [joinedOn, deedsOn, here, joins]
  · simp [joinedOn, deedsOn, here]

namespace Frontier

def idle (frontier : Frontier) (key : String) : Bool :=
  (frontier.queue? key).all (·.state = .empty)

-- URIs joined queues of certain sites. Each site was filed where it belonged when the first URI joined its
-- empty queue, or not at all.
structure Receives (home : String → Prop) (before : Frontier) (entries : List Entry)
    (after : Frontier) : Prop where
  routing : after.routing = before.routing
  takes : ∀ key, joinedOn key entries ≠ [] → home key
  hinted : ∀ key, after.hinted key =
    Option.merge min (before.hinted key) (bestHint (joinedOn key entries))
  lines : before.Lines after
  busy : ∀ key, joinedOn key entries ≠ [] → after.idle key = false
  rests : ∀ key, home key → after.idle key = true → before.idle key = true
  files : ∀ tier, ∀ key ∈ Filed.keysAt after.tiers.filed tier,
    key ∈ Filed.keysAt before.tiers.filed tier ∨
      (before.idle key = true ∧ ∃ first rest, joinedOn key entries = first :: rest ∧
        tier = improved (before.routing.precedence key)
          (Option.merge min (before.hinted key) first.hint))

section Receives

variable {home : String → Prop} {first second third : Frontier} {early late : List Entry}

theorem Receives.calm (receives : Receives home first early second) (calm : first.Calm) :
    second.Calm :=
  (congrArg Routing.faults receives.routing).trans calm

theorem Receives.trans (one : Receives home first early second)
    (two : Receives home second late third) : Receives home first (early ++ late) third := by
  refine ⟨two.routing.trans one.routing, fun key some => ?_, fun key => ?_,
    one.lines.trans one.routing two.lines, fun key some => ?_,
    fun key here idle => one.rests key here (two.rests key here idle), fun tier key member => ?_⟩
  · rw [joined_append] at some
    by_cases none : joinedOn key early = []
    · exact two.takes key (by rwa [none] at some)
    · exact one.takes key none
  · rw [two.hinted, one.hinted, joined_append, best_hint_append]
    exact (Option.associative_merge min).assoc _ _ _
  · rw [joined_append] at some
    by_cases none : joinedOn key late = []
    · have joined : joinedOn key early ≠ [] := by
        rwa [none, List.append_nil] at some
      apply Bool.eq_false_iff.mpr
      intro idle
      have still := two.rests key (one.takes key joined) idle
      rw [one.busy key joined] at still
      cases still
    · exact two.busy key none
  · rcases two.files tier key member with before | ⟨idle, uri, rest, joins, right⟩
    · refine (one.files tier key before).imp_right ?_
      rintro ⟨idle, uri, rest, joins, right⟩
      refine ⟨idle, uri, rest ++ joinedOn key late, ?_, right⟩
      rw [joined_append, joins, List.cons_append]
    · -- The queue was empty in between, so no URI had joined it before.
      have none : joinedOn key early = [] := by
        apply Classical.byContradiction
        intro some
        rw [one.busy key some] at idle
        cases idle
      have here := two.takes key (by rw [joins]; simp)
      have hinted := one.hinted key
      rw [none, bestHint, Option.merge_none_right] at hinted
      rw [one.routing, hinted] at right
      refine .inr ⟨one.rests key here idle, uri, rest, ?_, right⟩
      rw [joined_append, none, joins, List.nil_append]

theorem Receives.beside {entries : List Entry} (steady : first.Steady second)
    (silent : ∀ entry ∈ entries, entry.deed.joined? = none)
    (others : ∀ key, home key → second.queue? key = first.queue? key) :
    Receives home first entries second := by
  have none (key : String) := joined_silent key entries silent
  refine ⟨steady.routing, fun key some => absurd (none key) some, fun key => ?_, steady.lines,
    fun key some => absurd (none key) some, fun key here idle => ?_,
    fun tier key member => .inl (steady.tiers ▸ member)⟩
  · rw [none, bestHint, Option.merge_none_right]
    exact steady.hinted key
  · rw [Frontier.idle, others key here] at idle
    exact idle

end Receives

structure Admitted (before : Frontier) (uri : CrawlUri) (queue : WorkQueue) (base : Frontier) : Prop where
  routing : base.routing = before.routing
  tiers : base.tiers = before.tiers
  found : base.queue? uri.siteKey = some queue
  hinted : queue.hinted = Option.merge min (before.hinted uri.siteKey) uri.hint
  lines : before.Lines base
  idle : before.idle uri.siteKey = decide (queue.state = .empty)
  others : Beside uri.siteKey before base

theorem send_admits (frontier : Frontier) (uri : CrawlUri) (calm : frontier.Calm) :
    ∃ queue base, frontier.Admitted uri queue base ∧
      frontier.send uri =
        if queue.state = .empty then
          match base.receiveFirst queue with
          | (after, none) => (after, none)
          | (after, some placement) => (after.place queue.key placement, some ())
        else (base, some ()) := by
  have joins (base : Frontier) (old : WorkQueue) (routing : base.routing = frontier.routing)
      (tiers : base.tiers = frontier.tiers) (found : base.queue? uri.siteKey = some old)
      (hinted : old.hinted = frontier.hinted uri.siteKey)
      (lines : frontier.Lines base) (idle : frontier.idle uri.siteKey = decide (old.state = .empty))
      (others : Beside uri.siteKey frontier base) :
      frontier.Admitted uri (old.enqueue uri) (base.store (old.enqueue uri)).countQueued := by
    have named := (old.enqueue_key uri).trans (queue_key base uri.siteKey old found)
    refine ⟨routing, tiers, ?_, ?_, lines.trans routing ?_, ?_, ?_⟩
    · rw [← named] at found ⊢
      exact store_same base (old.enqueue uri) old found
    · rw [old.enqueue_hinted, hinted]
    · refine store_lines base (old.enqueue uri) fun ready => .inl ?_
      rw [linedAt?, named, found, old.enqueue_assigned]
      exact if_pos ((old.enqueue_state uri).symm.trans ready)
    · rw [old.enqueue_state, idle]
    · exact others.trans (named ▸ store_beside base (old.enqueue uri))
  rw [send, ensureQueue]
  cases found : frontier.queue? uri.siteKey with
  | some old =>
      refine ⟨old.enqueue uri, _, joins frontier old rfl rfl found (found_hinted found).symm
        (.still rfl) ?_ (.same rfl), rfl⟩
      rw [idle, found]
      rfl
  | none =>
      let fresh := WorkQueue.new uri.siteKey (frontier.routing.precedence uri.siteKey)
      simp only [Routing.ask_calm frontier.routing uri.siteKey calm]
      have present : (frontier.addQueue fresh).queue? uri.siteKey = some fresh := by
        rw [add_queue, found]
        exact if_pos rfl
      refine ⟨fresh.enqueue uri, _,
        joins (frontier.addQueue fresh) fresh rfl rfl present ?_ ?_ ?_ ?_, rfl⟩
      · rw [hinted, found]
        rfl
      · intro key answer told
        by_cases new : key = uri.siteKey
        · subst new
          rw [linedAt?, present] at told
          simp [fresh, WorkQueue.new] at told
        · have different : key ≠ fresh.key := new
          rw [linedAt?, add_queue, if_neg different, Option.or_none] at told
          exact .inl told
      · rw [idle, found]
        rfl
      · intro other different
        have absent : other ≠ fresh.key := different
        rw [add_queue, if_neg absent, Option.or_none]

theorem Admitted.receives {before base after : Frontier} {uri : CrawlUri} {queue last : WorkQueue}
    {entry : Entry} {home : String → Prop} (admitted : before.Admitted uri queue base)
    (named : entry.key = uri.siteKey) (joins : entry.deed.joined? = some uri)
    (takes : home uri.siteKey) (routing : after.routing = base.routing)
    (lines : base.Lines after) (others : Beside uri.siteKey base after)
    (found : after.queue? uri.siteKey = some last) (lined : last.state ≠ .empty)
    (hinted : last.hinted = queue.hinted)
    (files : ∀ tier, ∀ key ∈ Filed.keysAt after.tiers.filed tier,
      key ∈ Filed.keysAt base.tiers.filed tier ∨
        (queue.state = .empty ∧ key = uri.siteKey ∧ tier = base.due key)) :
    Receives home before [entry] after := by
  have joined (key : String) : joinedOn key [entry] = if uri.siteKey = key then [uri] else [] := by
    rw [joined_one, named, joins]
    rfl
  have busy : after.idle uri.siteKey = false := by
    rw [Frontier.idle, found]
    simpa using lined
  have whole := admitted.others.trans others
  refine ⟨routing.trans admitted.routing, fun key some => ?_, fun key => ?_,
    admitted.lines.trans admitted.routing lines, fun key some => ?_, fun key _ idle => ?_,
    fun tier key member => ?_⟩
  · rw [joined] at some
    split at some
    case isTrue same => exact same ▸ takes
    case isFalse => exact absurd rfl some
  · rw [joined]
    by_cases here : uri.siteKey = key
    · subst here
      rw [if_pos rfl, bestHint, bestHint, Option.merge_none_right, found_hinted found, hinted]
      exact admitted.hinted
    · rw [if_neg here, bestHint, Option.merge_none_right, Frontier.hinted,
        whole key (Ne.symm here)]
      rfl
  · rw [joined] at some
    split at some
    case isTrue same => exact same ▸ busy
    case isFalse => exact absurd rfl some
  · by_cases here : uri.siteKey = key
    · subst here
      rw [busy] at idle
      cases idle
    · rw [Frontier.idle, whole key (Ne.symm here)] at idle
      exact idle
  · rcases files tier key member with there | ⟨empty, rfl, right⟩
    · exact .inl (admitted.tiers ▸ there)
    · refine .inr ⟨admitted.idle.trans (decide_eq_true empty), uri, [], ?_, ?_⟩
      · rw [joined, if_pos rfl]
      · rw [right, due, admitted.routing, found_hinted admitted.found, admitted.hinted]

theorem receive_first_lines (frontier : Frontier) (queue : WorkQueue)
    (found : frontier.queue? queue.key = some queue) (empty : queue.state = .empty)
    (calm : frontier.Calm) :
    ∃ after placement last, frontier.receiveFirst queue = (after, some placement) ∧
      frontier.Steady after ∧ Beside queue.key frontier after ∧
      after.queue? queue.key = some last ∧ last.state ≠ .empty ∧
      ∀ tier, placement = .inactive tier → tier = frontier.due queue.key := by
  have directs := receive_first_directs frontier queue (found_bears found) calm
  have requeued := receive_first_cases frontier queue empty
  have beside := receive_first_beside frontier queue
  generalize frontier.receiveFirst queue = result at directs requeued beside
  cases requeued with
  | fails routing => cases directs
  | parks routing asked told =>
      obtain ⟨tier, rfl⟩ := told
      cases directs with
      | directs _ _ steady right =>
          exact ⟨_, _, _, rfl, steady, beside, store_same { frontier with routing } _ queue found,
            by simp [parked, WorkQueue.deactivate], right⟩
  | readies routing asked told =>
      obtain ⟨tier, rfl⟩ := told
      cases directs with
      | directs _ _ steady right =>
          exact ⟨_, _, _, rfl, steady, beside, store_same { frontier with routing } _ queue found,
            by simp, right⟩

theorem send_receives (frontier : Frontier) (uri : CrawlUri) (entry : Entry)
    (home : String → Prop) (calm : frontier.Calm) (named : entry.key = uri.siteKey)
    (joins : entry.deed.joined? = some uri) (takes : home uri.siteKey) :
    ∃ after, frontier.send uri = (after, some ()) ∧ Receives home frontier [entry] after := by
  obtain ⟨queue, base, admitted, sends⟩ := send_admits frontier uri calm
  have key := queue_key base uri.siteKey queue admitted.found
  by_cases empty : queue.state = .empty
  · have quiet : base.Calm := (congrArg Routing.faults admitted.routing).trans calm
    obtain ⟨middle, placement, last, same, steady, beside, found, lined, right⟩ :=
      receive_first_lines base queue (key.symm ▸ admitted.found) empty quiet
    have queues := place_queues middle queue.key placement
    have present : (middle.place queue.key placement).queue? uri.siteKey = some last := by
      rw [queues_queue _ _ _ queues, ← key]
      exact found
    rw [if_pos empty, same] at sends
    refine ⟨_, sends, admitted.receives named joins takes ((place_routing _ _ _).trans steady.routing)
      (steady.lines.trans steady.routing (.still queues)) ?_ present lined ?_
      fun tier other member => ?_⟩
    · exact key ▸ beside.trans (.same queues)
    · rw [← found_hinted found, steady.hinted, key]
      exact found_hinted admitted.found
    · rcases place_member member with there | ⟨rfl, files⟩
      · exact .inl (steady.tiers ▸ there)
      · exact .inr ⟨empty, key, right tier files⟩
  · rw [if_neg empty] at sends
    exact ⟨base, sends, admitted.receives named joins takes rfl (.still rfl) (.same rfl)
      admitted.found empty rfl
      fun tier other member => .inl member⟩

theorem receive_all_receives (frontier : Frontier) (uris : List CrawlUri) (calm : frontier.Calm) :
    ∃ after, frontier.receiveAll uris = (after, some ()) ∧
      Receives (fun _ => True) frontier (uris.map frontier.acceptEntry) after := by
  induction uris generalizing frontier with
  | nil => exact ⟨frontier, rfl, .beside (.refl frontier) (by simp) fun _ _ => rfl⟩
  | cons uri rest ih =>
      obtain ⟨middle, sends, receives⟩ := send_receives frontier
        { uri with siteKey := frontier.routing.siteKey uri.url } (frontier.acceptEntry uri)
        (fun _ => True) calm rfl rfl trivial
      have same : middle.acceptEntry = frontier.acceptEntry := by
        funext other
        rw [acceptEntry, receives.routing]
        rfl
      obtain ⟨after, received, more⟩ := ih middle (receives.calm calm)
      rw [same] at more
      rw [receiveAll, schedule, sends]
      exact ⟨after, received, receives.trans more⟩

theorem dropped_steady (frontier : Frontier) (queue : WorkQueue) (head : CrawlUri)
    (rest : List CrawlUri) (found : frontier.queue? queue.key = some queue)
    (line : queue.items = head :: rest) : frontier.Steady (frontier.dropped queue head) := by
  let shorter : WorkQueue := { queue with items := rest }
  have bears : frontier.Bears shorter := (found_bears found).same rfl rfl rfl rfl
  by_cases last : rest = []
  · subst last
    have freed : frontier.Steady (frontier.release queue.key) := .still rfl rfl rfl
    have still : (frontier.release queue.key).Bears shorter := bears.still rfl rfl
    have stored := freed.trans (store_steady (frontier.release queue.key) shorter still)
    have emptied := stored.trans
      (exhausted_steady _ shorter (store_bears (frontier.release queue.key) shorter still))
    rw [dropped_last frontier queue head line]
    exact emptied.trans (.still rfl rfl rfl)
  · rw [dropped_more frontier queue head rest line last]
    exact (store_steady frontier shorter bears).trans (.still rfl rfl rfl)

theorem resolve_receives (items : List CrawlUri) (frontier : Frontier) (queue : WorkQueue)
    (calm : frontier.Calm) (found : frontier.queue? queue.key = some queue)
    (line : queue.items = items) :
    Receives (· ≠ queue.key) frontier (relocations frontier.routing queue.key items)
      (frontier.resolve queue.key items).1 := by
  induction items generalizing frontier queue with
  | nil =>
      have still : (frontier.release queue.key).Bears queue := (found_bears found).still rfl rfl
      have freed : frontier.Steady (frontier.release queue.key) := .still rfl rfl rfl
      have released : frontier.Steady (frontier.releaseEmpty queue) :=
        freed.trans (exhausted_steady (frontier.release queue.key) queue still)
      simp only [resolve, found]
      exact .beside released (by simp [relocations])
        fun key other => exhausted_beside (frontier.release queue.key) queue key other
  | cons head rest ih =>
      by_cases home : frontier.routing.siteKey head.url = queue.key
      · have bears : frontier.Bears (queue.recordDispatch frontier.moment) :=
          (found_bears found).same rfl rfl rfl rfl
        have recorded := store_steady frontier (queue.recordDispatch frontier.moment) bears
        rw [resolve_home frontier queue head rest found home, relocations, if_pos home]
        exact .beside (recorded.trans (.still rfl rfl rfl)) (by simp)
          (store_other frontier (queue.recordDispatch frontier.moment))
      · have drops := dropped_steady frontier queue head rest found line
        have beside : Beside queue.key frontier (frontier.dropped queue head) :=
          drop_head_beside frontier queue head
        have departs : Receives (· ≠ queue.key) frontier [⟨queue.key, .departed head⟩]
            (frontier.dropped queue head) :=
          .beside drops (by simp [Deed.joined?]) beside
        obtain ⟨after, sends, arrives⟩ := send_receives (frontier.dropped queue head)
          (frontier.relocated head)
          ⟨frontier.routing.siteKey head.url, .arrived (frontier.relocated head)⟩ (· ≠ queue.key)
          (drops.refiles.calm calm) rfl rfl home
        have moves := departs.trans arrives
        rw [resolve_away frontier queue head rest found home, sends, relocations, if_neg home]
        by_cases last : rest = []
        · subst last
          exact moves
        · have still := send_beside (frontier.dropped queue head) (frontier.relocated head)
            queue.key (Ne.symm home)
          have known : after.queue? queue.key = some { queue with items := rest } := by
            rw [sends] at still
            rw [still, dropped_more frontier queue head rest line last]
            exact store_same frontier { queue with items := rest } queue found
          have others := ih after { queue with items := rest } (moves.calm calm) known rfl
          simp only [List.isEmpty_iff, if_neg last]
          rw [moves.routing] at others
          exact moves.trans others

-- Of the URIs that join a site, the one that its queue is lined up by.
def linedBy (frontier : Frontier) (key : String) (joined : List CrawlUri) : List CrawlUri :=
  if frontier.idle key then joined.take 1 else []

-- Hints are raised by the URIs that join, and a site is filed under what it is told and the hints up to
-- the URI that it is lined up by.
structure Files (before : Frontier) (entries : List Entry) (told : String → Nat) (after : Frontier) :
    Prop where
  hinted : ∀ key, after.hinted key =
    Option.merge min (before.hinted key) (bestHint (joinedOn key entries))
  lines : before.Lines after
  files : ∀ tier, ∀ key ∈ Filed.keysAt after.tiers.filed tier,
    key ∈ Filed.keysAt before.tiers.filed tier ∨
      tier = improved (told key) (Option.merge min (before.hinted key)
        (bestHint (before.linedBy key (joinedOn key entries))))

section Files

variable {first second third : Frontier} {entries : List Entry} {told : String → Nat}

theorem Refiles.filed (refiles : first.Refiles second)
    (silent : ∀ entry ∈ entries, entry.deed.joined? = none) :
    Files first entries first.routing.precedence second := by
  have none (key : String) := joined_silent key entries silent
  refine ⟨fun key => ?_, refiles.lines,
    fun tier key member => (refiles.files tier key member).imp_right ?_⟩
  · rw [none, bestHint, Option.merge_none_right]
    exact refiles.hinted key
  · intro right
    rw [none, linedBy, List.take_nil, ite_self, bestHint, Option.merge_none_right]
    exact right

theorem Steady.filed (steady : first.Steady second)
    (silent : ∀ entry ∈ entries, entry.deed.joined? = none) : Files first entries told second :=
  ⟨(steady.refiles.filed silent).hinted, steady.lines,
    fun _ _ member => .inl (steady.tiers ▸ member)⟩

theorem Receives.filed {home : String → Prop} (receives : Receives home first entries second)
    (right : ∀ key, home key → told key = first.routing.precedence key) :
    Files first entries told second := by
  refine ⟨receives.hinted, receives.lines,
    fun tier key member => (receives.files tier key member).imp_right ?_⟩
  rintro ⟨idle, uri, rest, joins, same⟩
  have here := receives.takes key (by rw [joins]; simp)
  rw [linedBy, idle, if_pos rfl, joins, right key here]
  simpa [bestHint] using same

theorem Files.onward (files : Files first entries told second)
    (queues : third.queues = second.queues)
    (onward : ∀ tier, ∀ key ∈ Filed.keysAt third.tiers.filed tier,
      key ∈ Filed.keysAt second.tiers.filed tier ∨
        tier = improved (told key) (Option.merge min (first.hinted key)
          (bestHint (first.linedBy key (joinedOn key entries))))) :
    Files first entries told third := by
  refine ⟨fun key => ?_, fun key answer lined => ?_, fun tier key member => ?_⟩
  · rw [Frontier.hinted, queues_queue second third key queues]
    exact files.hinted key
  · rw [linedAt?, queues_queue second third key queues] at lined
    exact files.lines key answer lined
  · rcases onward tier key member with there | right
    · exact files.files tier key there
    · exact .inr right

theorem Files.still (files : Files first entries told second) (queues : third.queues = second.queues)
    (tiers : third.tiers = second.tiers) : Files first entries told third :=
  files.onward queues fun _ _ member => .inl (tiers ▸ member)

theorem Files.placed {key : String} {placement : Placement} (files : Files first entries told second)
    (right : ∀ tier, placement = .inactive tier →
      tier = improved (told key) (Option.merge min (first.hinted key)
        (bestHint (first.linedBy key (joinedOn key entries))))) :
    Files first entries told (second.place key placement) := by
  refine files.onward (place_queues second key placement) fun tier other member => ?_
  rcases place_member member with there | ⟨rfl, filed⟩
  · exact .inl there
  · exact .inr (right tier filed)

theorem Refiles.then (refiles : first.Refiles second) (tidy : second.Tidy)
    (idle : ∀ key, second.idle key = first.idle key)
    (files : Files second entries second.routing.precedence third) :
    Files first entries first.routing.precedence third := by
  refine ⟨fun key => by rw [files.hinted, refiles.hinted],
    refiles.lines.trans refiles.routing files.lines, fun tier key member => ?_⟩
  rcases files.files tier key member with there | right
  · refine (refiles.files tier key there).imp_right fun right => ?_
    -- A key that is filed by now has a queue that no URI lines up.
    obtain ⟨queue, found, _, inactive, _⟩ :=
      tidy.inactive ((Filed.keys_at_sublist tier _).subset there)
    have busy : first.idle key = false := by
      rw [← idle, Frontier.idle, found]
      simp [inactive]
    rw [linedBy, busy, if_neg (by simp), bestHint, Option.merge_none_right]
    exact right
  · refine .inr ?_
    rw [right, refiles.routing, refiles.hinted, linedBy, linedBy, idle]

end Files

section Calm

variable (frontier : Frontier) (id : Nat) (calm : frontier.Calm)

include calm

theorem collect_files :
    Files frontier frontier.collectEntries frontier.routing.precedence (frontier.collect id).1 := by
  rw [collect, collectEntries]
  cases frontier.gateway.takeBatch with
  | error cause => exact Refiles.filed (Steady.refiles (.still rfl rfl rfl)) (by simp)
  | ok handed =>
      obtain ⟨gateway, handover⟩ := handed
      obtain ⟨after, received, receives⟩ :=
        receive_all_receives { frontier with gateway } handover.uris calm
      simp only [received]
      have files : Files { frontier with gateway } (handover.uris.map frontier.acceptEntry)
          frontier.routing.precedence after := receives.filed fun _ _ => rfl
      exact ⟨files.hinted, files.lines, files.files⟩

theorem flush_files :
    Files frontier frontier.flushEntries frontier.routing.precedence (frontier.flush id).1 := by
  rw [flush, flushEntries]
  split
  · exact collect_files frontier id calm
  · exact Refiles.filed (Steady.refl frontier).refiles (by simp)

theorem pull_files (registered : frontier.Registered) :
    Files frontier frontier.pullEntries frontier.routing.precedence (frontier.pull id).1 := by
  rw [pull, pullEntries]
  split
  · obtain ⟨found, answer, proceeds⟩ := activate_proceeds frontier calm registered
    have refiles := activate_refiles frontier calm registered
    have readies := activate_readies frontier registered.ascending
    cases result : frontier.activateInactive with
    | mk after told =>
        rw [result] at answer proceeds refiles readies
        cases answer
        cases found with
        | true => exact (refiles.filed (by simp)).still rfl rfl
        | false =>
            have idle (key : String) : after.idle key = frontier.idle key := by
              have states := congrArg (Option.all (· = .empty)) (readies.2 key)
              simp only [queueState?, Option.all_map] at states
              exact states
            exact refiles.then proceeds.registered.tidy idle
              (flush_files after id (proceeds.calm calm))
  · exact flush_files frontier id calm

theorem contend_files (attempt : Nat) (registered : frontier.Registered) :
    Files frontier frontier.contendEntries frontier.routing.precedence
      (frontier.contend id attempt).1 := by
  rw [contend, contendEntries]
  split
  · have files := pull_files { frontier with pulling := true } id calm
      ⟨registered.once, registered.ascending, registered.settled⟩
    exact ⟨files.hinted, files.lines, files.files⟩
  · split <;> exact Refiles.filed (Steady.refl frontier).refiles (by simp)

end Calm

def claimsSpent (frontier : Frontier) (key : String) : CallPhase → Bool
  | .polling _ => frontier.ready.head? = some key &&
      (frontier.queue? key).any fun queue => (frontier.opened queue).isOverSession
  | _ => false

-- What a site goes by when a call takes a step: what the routing tells, but with a spent session what the
-- site was told when it was lined up.
def goesBy (frontier : Frontier) (phase : CallPhase) (key : String) : Nat :=
  if frontier.claimsSpent key phase then
    (frontier.linedAt? key).getD (frontier.routing.precedence key)
  else frontier.routing.precedence key

theorem claims_spent_lined {frontier : Frontier} {key : String} {phase : CallPhase}
    (tidy : frontier.Tidy) (spent : frontier.claimsSpent key phase = true) :
    frontier.idle key = false ∧ ∃ answer, frontier.linedAt? key = some answer := by
  cases phase with
  | polling progress =>
      simp only [claimsSpent, Bool.and_eq_true, decide_eq_true_eq] at spent
      obtain ⟨queue, found, _, ready, _⟩ := tidy.ready (List.mem_of_mem_head? spent.1)
      refine ⟨?_, queue.assigned, ?_⟩
      · simp [idle, found, ready]
      · simp [linedAt?, found, ready]
  | _ => cases spent

theorem opened_bearing (frontier : Frontier) (queue : WorkQueue) :
    (frontier.opened queue).assigned = queue.assigned ∧
      (frontier.opened queue).hinted = queue.hinted := by
  rw [opened, openSession, WorkQueue.considerActive]
  split <;> exact ⟨rfl, rfl⟩

theorem opened_bears (frontier : Frontier) (queue : WorkQueue)
    (found : frontier.queue? queue.key = some queue) : frontier.Bears (frontier.opened queue) := by
  obtain ⟨key, _, state, _⟩ := frontier.opened_shape queue
  exact (found_bears found).resting key (frontier.opened_bearing queue).2 (by rw [state]; simp)

theorem claimed_receives (frontier : Frontier) (queue : WorkQueue)
    (found : frontier.queue? queue.key = some queue) (calm : frontier.Calm) :
    Receives (· ≠ queue.key) frontier (relocations frontier.routing queue.key queue.items)
      (((frontier.store (frontier.opened queue)).hold (frontier.opened queue).key).resolve queue.key
        queue.items).1 := by
  obtain ⟨key, items, _⟩ := frontier.opened_shape queue
  have opens := store_steady frontier _ (opened_bears frontier queue found)
  have holds : Receives (· ≠ queue.key) frontier []
      ((frontier.store (frontier.opened queue)).hold (frontier.opened queue).key) :=
    .beside (opens.trans (.still rfl rfl rfl)) (by simp) fun other different =>
      store_other frontier (frontier.opened queue) other (key.symm ▸ different)
  have resolves := resolve_receives queue.items
    ((frontier.store (frontier.opened queue)).hold (frontier.opened queue).key)
    (frontier.opened queue) (holds.calm calm)
    (store_same frontier _ queue (key.symm ▸ found)) items
  rw [key] at holds resolves ⊢
  exact holds.trans resolves

theorem spent_tier {frontier : Frontier} {queue : WorkQueue} {phase : CallPhase}
    (found : frontier.queue? queue.key = some queue) (ready : queue.state = .ready)
    (spent : frontier.claimsSpent queue.key phase = true) :
    (frontier.opened queue).precedence =
      improved (frontier.goesBy phase queue.key) (frontier.hinted queue.key) := by
  have lined : frontier.linedAt? queue.key = some queue.assigned := by
    rw [linedAt?, found]
    exact if_pos ready
  obtain ⟨assigned, hinted⟩ := frontier.opened_bearing queue
  rw [goesBy, if_pos spent, lined, found_hinted found, WorkQueue.precedence_improved, assigned, hinted]
  rfl

theorem dispatch_files (frontier : Frontier) (key : String) (rest : List String) (progress : Bool)
    (calm : frontier.Calm) (tidy : frontier.Tidy) (first : frontier.ready = key :: rest) :
    Files frontier ({ frontier with ready := rest }.dispatchEntries key)
      (frontier.goesBy (.polling progress))
      ({ frontier with ready := rest }.dispatchFrom key).1 := by
  obtain ⟨queue, found, named, ready, stands, _⟩ :=
    tidy.ready (show key ∈ frontier.ready by simp [first])
  subst named
  let base := { frontier with ready := rest }
  have popped : frontier.Steady base := .still rfl rfl rfl
  have present : base.queue? queue.key = some queue := found
  have free : queue.key ∉ base.claims := by
    have unclaimed : frontier.claims.count queue.key = 0 := congrArg Standing.claimed stands
    exact List.count_eq_zero.mp unclaimed
  have bears := opened_bears base queue present
  have opens := store_steady base _ bears
  have claiming := claim_cases base queue ready free
  have spent := claim_parked base queue
  change Files frontier (base.dispatchEntries queue.key) _ (base.dispatchFrom queue.key).1
  simp only [dispatchFrom, dispatchEntries, present]
  generalize base.claim queue = result at claiming spent ⊢
  cases claiming with
  | dry none =>
      exact (popped.trans (exhausted_steady base queue (found_bears present))).filed (by simp)
  | retires some =>
      have retires := retire_steady (base.store (base.opened queue)) _ (store_bears base _ bears)
      exact ((popped.trans opens).trans retires).filed (by simp)
  | parks some =>
      have rests : base.Bears (parked (base.opened queue)) :=
        bears.resting rfl rfl (by simp [parked, WorkQueue.deactivate])
      have parks := popped.trans (store_steady base (parked (base.opened queue)) rests)
      have ended : (frontier.opened queue).isOverSession = true := spent _ rfl
      have claims : frontier.claimsSpent queue.key (.polling progress) = true := by
        simp [claimsSpent, found, first, ended]
      have files : Files frontier [] (frontier.goesBy (.polling progress))
          (base.store (parked (base.opened queue))) := parks.filed (by simp)
      change Files frontier [] _ ((base.store (parked (base.opened queue))).place queue.key
        (.inactive (base.opened queue).precedence))
      refine files.placed fun tier same => ?_
      cases same
      rw [joined_silent _ [] (by simp), linedBy, List.take_nil, ite_self, bestHint,
        Option.merge_none_right]
      exact spent_tier found ready claims
  | claimed some =>
      have departs : Receives (· ≠ queue.key) frontier [] base :=
        .beside popped (by simp) fun _ _ => rfl
      have receives := departs.trans (claimed_receives base queue present calm)
      change Files frontier (relocations base.routing queue.key queue.items) _ _
      refine receives.filed fun other different => ?_
      have unclaimed : frontier.claimsSpent other (.polling progress) = false := by
        simp [claimsSpent, first, Ne.symm different]
      rw [goesBy, unclaimed, if_neg (by simp)]

theorem poll_files (frontier : Frontier) (id : Nat) (progress : Bool) (calm : frontier.Calm)
    (tidy : frontier.Tidy) :
    Files frontier frontier.pollEntries (frontier.goesBy (.polling progress))
      (frontier.poll id progress).1 := by
  rw [poll, pollEntries]
  cases line : frontier.ready with
  | nil => exact (Steady.refl frontier).filed (by simp)
  | cons key rest =>
      have files := dispatch_files frontier key rest progress calm tidy line
      simp only
      cases result : { frontier with ready := rest }.dispatchFrom key with
      | mk after answer =>
          rw [result] at files
          cases answer with
          | none => exact files.still rfl rfl
          | some given =>
              cases given with
              | none => exact files
              | some uri =>
                  simp only [hand]
                  split <;> exact files.still rfl rfl

theorem step_files (frontier : Frontier) (id : Nat) (phase : CallPhase) (calm : frontier.Calm)
    (registered : frontier.Registered) :
    Files frontier (frontier.stepEntries phase) (frontier.goesBy phase)
      (frontier.stepPhase id phase).1 := by
  have still {after : Frontier} (queues : after.queues = frontier.queues)
      (routing : after.routing = frontier.routing) (tiers : after.tiers = frontier.tiers) :
      Files frontier [] (frontier.goesBy phase) after :=
    (Steady.still routing queues tiers).filed (by simp)
  cases phase with
  | polling progress => exact poll_files frontier id progress calm registered.tidy
  | contending attempt => exact contend_files frontier id calm attempt registered
  | flushing due deadline =>
      simp only [stepPhase, stepEntries]
      split
      · exact collect_files frontier id calm
      · split <;> exact still rfl rfl rfl
  | entering =>
      simp only [stepPhase, stepEntries, enter]
      split
      · exact still rfl rfl rfl
      · split <;> exact still rfl rfl rfl
  | resting attempt until_ =>
      simp only [stepPhase, stepEntries]
      split <;> exact still rfl rfl rfl
  | waiting =>
      simp only [stepPhase, stepEntries, awake]
      split <;> exact still rfl rfl rfl
  | seeking => exact still rfl rfl rfl
  | done answer => exact still rfl rfl rfl
  | failed => exact still rfl rfl rfl

end Frontier

end PoliteCrawl
