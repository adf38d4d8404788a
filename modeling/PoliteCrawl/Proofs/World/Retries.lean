import Mathlib.Data.List.Dedup
import PoliteCrawl.Proofs.Frontier.Returning
import PoliteCrawl.Proofs.Lives
import PoliteCrawl.Proofs.World.Acting
import PoliteCrawl.Proofs.World.Journal
import PoliteCrawl.Proofs.World.Supply

set_option autoImplicit false

namespace PoliteCrawl

namespace Frontier

theorem granted_retry (frontier : Frontier) (head : CrawlUri) (outcome : Outcome) :
    frontier.grantsRetry head outcome = true ↔
      (∃ reason, outcome.status = .retry reason) ∧ head.retries < frontier.config.maxRetries := by
  rw [grantsRetry]
  cases outcome.status <;> simp

section Flows

variable {limit : Nat}

theorem accepted_flows (uris : List CrawlUri) : Flows limit none (uris.map acceptedEntry) none := by
  induction uris with
  | nil => exact .nothing none
  | cons uri rest ih => exact .cons none none none (acceptedEntry uri) _ (.accepted uri) ih

theorem relocated_flows (routing : Routing) (key : String) (items : List CrawlUri) :
    Flows limit none (relocations routing key items) none := by
  induction items with
  | nil => exact .nothing none
  | cons head rest ih =>
      rw [relocations]
      by_cases home : routing.siteKey head.url = key
      · rw [if_pos home]
        exact .nothing none
      · rw [if_neg home]
        exact .cons none (some head) none _ _ (.departed head)
          (.cons (some head) none none _ _ (.arrived head _) ih)

theorem handed_flows (key : String) (answer : Option CrawlUri) :
    Flows limit none (handOut key answer) none := by
  cases answer with
  | none => exact .nothing none
  | some uri => exact .cons none none none ⟨key, .handed uri⟩ [] (.handed uri) (.nothing none)

end Flows

theorem Writes.flows {frontier : Frontier} {entries : List Entry} (writes : frontier.Writes entries) :
    Flows frontier.config.maxRetries none entries none := by
  cases writes with
  | accepts uris => exact accepted_flows uris
  | serves key rest items answer first =>
      exact (relocated_flows frontier.routing key items).append (handed_flows key answer)
  | returns uri head rest queue outcome reported =>
      refine .cons none none none _ [] ?_ (.nothing none)
      cases granted : frontier.grantsRetry head outcome with
      | true =>
          simp only [takeBack, granted, if_true]
          exact .retried head ((frontier.granted_retry head outcome).mp granted).2
      | false =>
          simp only [takeBack, granted, Bool.false_eq_true, if_false]
          exact .finished head

end Frontier

namespace World

theorem run_flows (setup : Setup) (events : List Event) (calm : Calm setup events) :
    Flows setup.config.maxRetries none (run setup events).journal none := by
  revert calm
  refine run_induction (motive := fun events world => Calm setup events →
    Flows setup.config.maxRetries none world.journal none) setup (fun _ => .nothing none) ?_ events
  intro events event ih calm
  obtain ⟨entries, journal, writes, _⟩ := run_writes calm
  have flows := writes.flows
  rw [run_config setup events] at flows
  rw [← run_snoc, journal]
  exact (ih calm.before.1).append flows

theorem run_traced (setup : Setup) (events : List Event) (calm : Calm setup events)
    (keys : List String) (once : keys.Nodup)
    (inside : ∀ entry ∈ (run setup events).journal, entry.key ∈ keys) :
    Traced setup.config.maxRetries keys (Lives.nobody.follow (run setup events).journal)
      (run setup events).frontier.lane none ((run setup events).journal.map (·.deed)) :=
  (Traced.nobody setup.config.maxRetries keys).run once inside (run_flows setup events calm)
    (run_kept setup events calm).posted.lanes

theorem act_counted {origin : Gateway} (world : World) (event : Event)
    (kept : Kept origin world.frontier world.journal) :
    ∃ entries, (world.act event).journal = world.journal ++ entries ∧
      (world.act event).frontier.stats.finished =
        world.frontier.stats.finished + (entries.filterMap Entry.finished?).length := by
  by_cases scheduled : ∃ uri, event = .schedule uri
  · obtain ⟨uri, rfl⟩ := scheduled
    exact ⟨_, rfl, Frontier.schedule_placed Frontier.undone_dozing.toPlacing world.frontier uri⟩
  · obtain ⟨entries, journal, accounts⟩ :=
      act_accounts world event kept fun uri same => scheduled ⟨uri, same⟩
    exact ⟨entries, journal, accounts.finished⟩

theorem run_counted (setup : Setup) (events : List Event) (calm : Calm setup events) :
    (run setup events).frontier.stats.finished =
      ((run setup events).journal.filterMap Entry.finished?).length := by
  revert calm
  refine run_induction (motive := fun events world => Calm setup events →
    world.frontier.stats.finished = (world.journal.filterMap Entry.finished?).length) setup
      (fun _ => rfl) ?_ events
  intro events event ih calm
  have before := ih calm.before.1
  rw [step]
  split
  · obtain ⟨entries, journal, counted⟩ :=
      act_counted (run setup events) event (run_kept setup events calm.before.1)
    rw [counted, journal, before, List.filterMap_append, List.length_append]
  · exact before

theorem Kept.reported {origin : Gateway} {world : World} {uri head : CrawlUri} {rest : List CrawlUri}
    {queue : WorkQueue} (kept : Kept origin world.frontier world.journal)
    (reported : world.frontier.Reported uri queue head rest) (outcome : Outcome) :
    (world.frontier.complete uri outcome).2 = .done ∧
      (world.act (.complete uri outcome)).journal =
        world.journal ++ [⟨uri.siteKey, world.frontier.takeBack head outcome⟩] := by
  have done := (world.frontier.complete_calm uri head rest outcome queue kept.calm kept.registered
    reported.found reported.process reported.line reported.same).1
  have written := done_entries world.frontier uri head outcome done rest reported.lined
  exact ⟨done, congrArg (world.journal ++ ·) written⟩

end World

/-- While the routing does not fail, every URI that was accepted has a life: all that happens to it, at
whatever sites. Each deed in the journal belongs to one life, those in a queue are what their lives have
made of them, and the lives that are over are those of the URIs that are done with. In its life a URI is
handed out at most once more than it may be tried again, nothing of it changes but its site and the number
of its retries, and this number grows by one with each retry that is granted, never beyond the limit if it
began within. Nothing follows on its end. A report about a URI in flight is never refused. If it asks for
a retry and the URI has some left, the URI stays first, nothing is paid and the queue is not exhausted.
Otherwise the URI leaves, its cost is added once to what the queue has spent in its session and in all, as
far as such numbers go, and its outcome is counted once, of the queue and of the frontier, where a retry
that is not granted is a failure. Any other report is refused and changes nothing. -/
theorem retries_are_bounded_and_exact (setup : Setup) (events : List Event)
    (calm : Calm setup events) :
    let world := World.run setup events
    let frontier := world.frontier
    let limit := setup.config.maxRetries
    let lives := Lives.nobody.follow world.journal
    (∀ life, lives.Among life → handedIn life ≤ limit + 1 ∧
      ∃ origin rest, life = .accepted origin :: rest ∧
        (∀ now, nowOf life = some now → Aged limit origin life now) ∧
        ∀ early deed late, life = early ++ deed :: late → deed.Fits limit origin early late) ∧
    (∀ keys, keys.Nodup → (∀ entry ∈ world.journal, entry.key ∈ keys) →
      (lives.deeds keys).Perm (world.journal.map (·.deed))) ∧
    lives.moving = none ∧
    (∀ key queue, frontier.queue? key = some queue →
      (lives.line key).map nowOf = queue.items.map some) ∧
    lives.past.map List.getLast? =
      (world.journal.filterMap Entry.finished?).map (fun uri => some (.finished uri)) ∧
    frontier.stats.finished = lives.past.length ∧
    ∀ uri outcome,
      (∀ queue head rest, frontier.Reported uri queue head rest →
        let next := world.act (.complete uri outcome)
        let granted := (∃ reason, outcome.status = .retry reason) ∧ head.retries < limit
        (frontier.complete uri outcome).2 = .done ∧
        ∃ landed, next.frontier.queue? uri.siteKey = some landed ∧
          (granted → queue.Retains head rest landed ∧
            next.journal = world.journal ++ [⟨uri.siteKey, .retried head⟩] ∧
            Counts .retried queue.counters.of landed.counters.of ∧
            Counts .retried frontier.stats.of next.frontier.stats.of) ∧
          (¬ granted → queue.PaysOff head rest landed ∧
            next.journal = world.journal ++ [⟨uri.siteKey, .finished head⟩] ∧
            Counts outcome.status.mark queue.counters.of landed.counters.of ∧
            Counts outcome.status.mark frontier.stats.of next.frontier.stats.of)) ∧
      ((¬ ∃ queue head rest, frontier.Reported uri queue head rest) →
        ∃ cause, frontier.complete uri outcome = (frontier, .refused cause)) := by
  intro world frontier limit lives
  have kept := World.run_kept setup events calm
  have traced := World.run_traced setup events calm
  have all := traced (world.journal.map (·.key)).dedup (List.nodup_dedup _) fun entry listed =>
    List.mem_dedup.mpr (List.mem_map_of_mem listed)
  have ended : lives.past.map List.getLast? =
      (world.journal.filterMap Entry.finished?).map (fun uri => some (.finished uri)) := by
    rw [all.ended.2, List.filterMap_map]
    rfl
  refine ⟨fun life among => all.bounded among,
    fun keys once inside => (traced keys once inside).gathered, all.still,
    fun key queue found => ?_, ended, ?_, fun uri outcome =>
      ⟨fun queue head rest reported => ?_, (frontier.complete_reported uri outcome).resolve_right⟩⟩
  · rw [(all.lined key).2, frontier.lane_of_queue key queue found]
    rfl
  · rw [World.run_counted setup events calm]
    simpa using congrArg List.length ended.symm
  · have granted := frontier.granted_retry head outcome
    rw [show frontier.config = setup.config from World.run_config setup events] at granted
    obtain ⟨done, journal⟩ := kept.reported reported outcome
    refine ⟨done, ?_⟩
    by_cases again : frontier.grantsRetry head outcome = true
    · obtain ⟨landed, found, retains, counts, counted⟩ := reported.retains outcome kept.calm again
      rw [Frontier.takeBack, if_pos again] at journal
      exact ⟨landed, found, fun _ => ⟨retains, journal, counts, counted⟩,
        fun denied => absurd (granted.mp again) denied⟩
    · obtain ⟨landed, found, pays, counts, counted⟩ :=
        reported.pays outcome kept.calm (by simpa using again)
      rw [Frontier.takeBack, if_neg again] at journal
      exact ⟨landed, found, fun allowed => absurd (granted.mpr allowed) again,
        fun _ => ⟨pays, journal, counts, counted⟩⟩

def Setup.lenient : Setup :=
  { Setup.plain with config := { FrontierConfig.default with maxRetries := 1 } }

def unavailable : Outcome :=
  Outcome.new (.retry "busy") 0

def secondCall : List Event :=
  firstCall ++ [.complete firstPage unavailable, .advance (Time.millis 900000), .manage, .call,
    .proceed 1, .proceed 1, .proceed 1, .proceed 1]

theorem retries_are_bounded_and_exact_second_call :
    let world := World.run Setup.lenient secondCall
    let lives := Lives.nobody.follow world.journal
    let life : List Deed := [.accepted firstPage, .handed firstPage, .retried firstPage,
      .handed firstPage.again]
    Calm Setup.lenient secondCall ∧ life ∈ lives.line "a.com" ∧ handedIn life ≤ 2 ∧
      ∃ queue head rest landed, world.frontier.Reported firstPage queue head rest ∧
        head = firstPage.again ∧ queue.PaysOff head rest landed ∧
        Counts .failed queue.counters.of landed.counters.of := by
  intro world lives life
  have calm : Calm Setup.lenient secondCall := ⟨rfl, by simp [secondCall, firstCall, Event.Calm]⟩
  have inside : life ∈ lives.line "a.com" := by decide +kernel
  have among : lives.Among life := .inl ⟨"a.com", inside⟩
  obtain ⟨bounded, _, _, _, _, _, reports⟩ :=
    retries_are_bounded_and_exact Setup.lenient secondCall calm
  have limit : Setup.lenient.config.maxRetries = 1 := rfl
  rw [limit] at bounded reports
  refine ⟨calm, inside, (bounded life among).1, ?_⟩
  have done : (world.frontier.complete firstPage unavailable).2 = .done := by decide +kernel
  rcases world.frontier.complete_reported firstPage unavailable with
    ⟨cause, refused⟩ | ⟨queue, head, rest, reported⟩
  · rw [refused] at done
    cases done
  · have first : head = firstPage.again := by
      have line : (world.frontier.lane "a.com").items.head? = some firstPage.again := by
        decide +kernel
      rw [show (world.frontier.lane "a.com").items = head :: rest from reported.lined] at line
      exact Option.some.inj line
    obtain ⟨_, landed, _, _, paid⟩ := (reports firstPage unavailable).1 queue head rest reported
    obtain ⟨pays, _, counts, _⟩ := paid (by
      rw [first]
      exact fun granted => Nat.lt_irrefl 1 granted.2)
    exact ⟨queue, head, rest, landed, reported, first, pays, counts⟩

end PoliteCrawl
