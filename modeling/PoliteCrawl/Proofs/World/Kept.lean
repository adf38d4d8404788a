import PoliteCrawl.Proofs.World.Basic

set_option autoImplicit false

namespace PoliteCrawl

namespace World

-- A frontier and a journal that go together.
structure Kept (origin : Gateway) (frontier : Frontier) (journal : List Entry) : Prop where
  calm : frontier.Calm
  registered : frontier.Registered
  posted : Ledger.nothing.Posted journal frontier.ledger
  addressed : ∀ entry ∈ journal, entry.Addressed
  paired : Paired journal
  heard : origin.Heard (journal.filterMap Entry.finished?) frontier.gateway

-- Entries that belong to an operation: whoever joins a site names it, whoever departs arrives, and the
-- gateway hears of those that are done with.
structure Proper (before : Frontier) (entries : List Entry) (after : Frontier) : Prop where
  proceeds : before.Proceeds entries after
  addressed : ∀ entry ∈ entries, entry.Addressed
  paired : Paired entries
  heard : before.gateway.Heard (entries.filterMap Entry.finished?) after.gateway

theorem Kept.extend {origin : Gateway} {before after : Frontier} {journal entries : List Entry}
    (kept : Kept origin before journal) (proper : Proper before entries after) :
    Kept origin after (journal ++ entries) where
  calm := proper.proceeds.calm kept.calm
  registered := proper.proceeds.registered
  posted := kept.posted.trans proper.proceeds.posted
  addressed entry member := (List.mem_append.mp member).elim (kept.addressed entry)
    (proper.addressed entry)
  paired := kept.paired.append proper.paired
  heard := by
    rw [List.filterMap_append]
    exact kept.heard.trans proper.heard

theorem Kept.silent {origin : Gateway} {before after : Frontier} {journal : List Entry}
    (kept : Kept origin before journal) (proceeds : before.Proceeds [] after)
    (heard : before.gateway.Heard [] after.gateway) : Kept origin after journal := by
  simpa using kept.extend ⟨proceeds, by simp, rfl, heard⟩

structure Passing (entries : List Entry) : Prop where
  addressed : ∀ entry ∈ entries, entry.Addressed
  paired : Paired entries
  silent : ∀ entry ∈ entries, entry.handed? = none ∧ entry.finished? = none

theorem Passing.nothing : Passing [] :=
  ⟨by simp, rfl, by simp⟩

theorem Passing.unhanded {entries : List Entry} (passing : Passing entries) :
    entries.filterMap Entry.handed? = [] :=
  List.filterMap_eq_nil_iff.mpr fun entry member => (passing.silent entry member).1

theorem Passing.unfinished {entries : List Entry} (passing : Passing entries) :
    entries.filterMap Entry.finished? = [] :=
  List.filterMap_eq_nil_iff.mpr fun entry member => (passing.silent entry member).2

theorem accept_addressed (frontier : Frontier) (uri : CrawlUri) :
    (frontier.acceptEntry uri).Addressed := by
  intro joined same
  cases same
  rfl

theorem accepted_passing (frontier : Frontier) (uris : List CrawlUri) :
    Passing (uris.map frontier.acceptEntry) := by
  have none (f : Entry → Option CrawlUri) (silent : ∀ uri, f (frontier.acceptEntry uri) = none) :
      (uris.map frontier.acceptEntry).filterMap f = [] := by
    simp [silent]
  refine ⟨fun entry member => ?_, ?_, fun entry member => ?_⟩
  · obtain ⟨uri, _, same⟩ := List.mem_map.mp member
    exact same ▸ accept_addressed frontier uri
  · rw [Paired, none _ fun _ => rfl, none _ fun _ => rfl]
  · obtain ⟨uri, _, same⟩ := List.mem_map.mp member
    exact same ▸ ⟨rfl, rfl⟩

theorem Passing.move {entries : List Entry} (passing : Passing entries) (key site : String)
    (head : CrawlUri) :
    Passing (⟨key, .departed head⟩ :: ⟨site, .arrived { head with siteKey := site }⟩ :: entries)
    where
  addressed := by
    intro entry member uri joined
    rcases List.mem_cons.mp member with first | later
    · subst first
      cases joined
    · rcases List.mem_cons.mp later with second | others
      · subst second
        cases joined
        rfl
      · exact passing.addressed entry others uri joined
  paired := congrArg (head.essence :: ·) passing.paired
  silent := by
    intro entry member
    rcases List.mem_cons.mp member with first | later
    · exact first ▸ ⟨rfl, rfl⟩
    · rcases List.mem_cons.mp later with second | others
      · exact second ▸ ⟨rfl, rfl⟩
      · exact passing.silent entry others

theorem relocation_passing (routing : Routing) (key : String) (items : List CrawlUri) :
    Passing (Frontier.relocations routing key items) := by
  induction items with
  | nil => exact .nothing
  | cons head rest ih =>
      simp only [Frontier.relocations]
      split
      · exact .nothing
      · exact ih.move key _ head

theorem collect_passing (frontier : Frontier) : Passing frontier.collectEntries := by
  unfold Frontier.collectEntries
  split
  · exact .nothing
  · exact accepted_passing frontier _

theorem step_passing (frontier : Frontier) (phase : CallPhase) :
    Passing (frontier.stepEntries phase) := by
  have flushed (base : Frontier) : Passing base.flushEntries := by
    unfold Frontier.flushEntries
    split
    · exact collect_passing base
    · exact .nothing
  cases phase with
  | contending attempt =>
      simp only [Frontier.stepEntries, Frontier.contendEntries, Frontier.pullEntries]
      split
      · split
        · split
          · exact flushed _
          · exact .nothing
        · exact flushed _
      · exact .nothing
  | flushing due deadline =>
      simp only [Frontier.stepEntries]
      split
      · exact collect_passing frontier
      · exact .nothing
  | polling progress =>
      simp only [Frontier.stepEntries, Frontier.pollEntries]
      split
      · exact .nothing
      · unfold Frontier.dispatchEntries
        split
        · exact .nothing
        · split
          · exact relocation_passing _ _ _
          · exact .nothing
  | entering | seeking | resting _ _ | waiting | done _ | failed => exact .nothing

theorem handed_entries (answer : Option CrawlUri) :
    (∀ entry ∈ handEntries answer, entry.Addressed) ∧ Paired (handEntries answer) ∧
      (handEntries answer).filterMap Entry.finished? = [] := by
  cases answer with
  | none => exact ⟨by simp [handEntries], rfl, rfl⟩
  | some uri =>
      refine ⟨?_, rfl, rfl⟩
      intro entry member joined same
      obtain rfl : entry = ⟨uri.siteKey, .handed uri⟩ := by simpa [handEntries] using member
      cases same

theorem schedule_proper (frontier : Frontier) (uri : CrawlUri) (calm : frontier.Calm)
    (registered : frontier.Registered) :
    Proper frontier [frontier.acceptEntry uri] (frontier.schedule uri).1 where
  proceeds := (frontier.schedule_proceeds uri calm registered).2
  addressed := by simpa using accept_addressed frontier uri
  paired := rfl
  heard := Gateway.heard_same (congrArg Setting.gateway (frontier.schedule_stays uri).setting)

theorem hand_entries (frontier : Frontier) (id : Nat) (phase : CallPhase)
    (addressed : ∀ key uri, uri ∈ (frontier.lane key).items → uri.siteKey = key) :
    handEntries (phase.gain? (frontier.stepPhase id phase).2) =
      Frontier.handOut (frontier.ready.headD "")
        (phase.gain? (frontier.stepPhase id phase).2) := by
  cases gained : phase.gain? (frontier.stepPhase id phase).2 with
  | none => rfl
  | some uri =>
      obtain ⟨queue, found, member⟩ := frontier.gain_member id phase uri gained
      have site := addressed (frontier.ready.headD "") uri (by
        rw [frontier.lane_of_queue _ queue found]
        exact member)
      simp [handEntries, Frontier.handOut, site]

theorem proceed_proper (frontier : Frontier) (call : Call) (calm : frontier.Calm)
    (registered : frontier.Registered)
    (addressed : ∀ key uri, uri ∈ (frontier.lane key).items → uri.siteKey = key) :
    Proper frontier
      (frontier.stepEntries call.phase ++
        handEntries (call.phase.gain? (frontier.step call).2.phase))
      (frontier.step call).1 := by
  have passing := step_passing frontier call.phase
  obtain ⟨handed, alone, still⟩ :=
    handed_entries (call.phase.gain? (frontier.step call).2.phase)
  have proceeds := frontier.step_proceeds call.id call.phase calm registered
  rw [← hand_entries frontier call.id call.phase addressed] at proceeds
  refine ⟨proceeds, fun entry member => ?_, passing.paired.append alone, ?_⟩
  · exact (List.mem_append.mp member).elim (passing.addressed entry) (handed entry)
  · rw [List.filterMap_append, passing.unfinished, still]
    exact frontier.step_heard call.id call.phase

theorem refused_entries (frontier : Frontier) (uri : CrawlUri) (outcome : Outcome)
    (cause : FrontierError) (refused : frontier.complete uri outcome = (frontier, .refused cause)) :
    completeEntries frontier uri outcome = [] := by
  simp [completeEntries, refused]

theorem done_entries (frontier : Frontier) (uri head : CrawlUri) (outcome : Outcome)
    (done : (frontier.complete uri outcome).2 = .done)
    (rest : List CrawlUri) (line : (frontier.lane uri.siteKey).items = head :: rest) :
    completeEntries frontier uri outcome =
      [⟨uri.siteKey, frontier.takeBack head outcome⟩] := by
  simp [completeEntries, done, line]

theorem back_entries (frontier : Frontier) (key : String) (head : CrawlUri) (outcome : Outcome) :
    (⟨key, frontier.takeBack head outcome⟩ : Entry).Addressed ∧
      Paired [⟨key, frontier.takeBack head outcome⟩] ∧
      frontier.gateway.Heard
        ([(⟨key, frontier.takeBack head outcome⟩ : Entry)].filterMap Entry.finished?)
        (if frontier.grantsRetry head outcome then frontier.gateway
          else frontier.gateway.noteFinished head outcome) := by
  unfold Frontier.takeBack
  split
  · refine ⟨fun uri joined => ?_, rfl, Gateway.heard_nothing _⟩
    cases joined
  · refine ⟨fun uri joined => ?_, rfl, Gateway.note_heard _ head outcome⟩
    cases joined

theorem complete_proper (frontier : Frontier) (uri : CrawlUri) (outcome : Outcome)
    (calm : frontier.Calm) (registered : frontier.Registered) :
    Proper frontier (completeEntries frontier uri outcome)
      (frontier.complete uri outcome).1 := by
  have refusal (cause : FrontierError)
      (refused : frontier.complete uri outcome = (frontier, .refused cause)) :
      Proper frontier (completeEntries frontier uri outcome)
        (frontier.complete uri outcome).1 := by
    rw [refused_entries frontier uri outcome cause refused, refused]
    exact ⟨.still registered rfl rfl rfl, by simp, rfl, Gateway.heard_nothing _⟩
  rcases frontier.complete_cases uri outcome registered with
    ⟨_, refused⟩ | ⟨_, _, _, refused⟩ | ⟨_, _, _, _, _, _, _, refused⟩ |
    ⟨queue, head, rest, found, process, line, same⟩
  · exact refusal _ refused
  · exact refusal _ refused
  · exact refusal _ refused
  · obtain ⟨done, proceeds, gateway⟩ := frontier.complete_calm uri head rest outcome queue calm
      registered found process line same
    obtain ⟨addressed, paired, heard⟩ := back_entries frontier uri.siteKey head outcome
    rw [done_entries frontier uri head outcome done rest (by
      rw [frontier.lane_of_queue uri.siteKey queue found]
      exact line)]
    exact ⟨proceeds, by simpa using addressed, paired, gateway ▸ heard⟩

theorem note_finished (filter : UniqFilter) (uri : CrawlUri) :
    (filter.note uri).finished = filter.finished := by
  unfold UniqFilter.note
  split <;> rfl

theorem take_heard (gateway : Gateway) (offer : Offer) :
    gateway.Heard [] (gateway.take offer) := by
  cases gateway with
  | memory filter =>
      cases offer with
      | add uri =>
          simp only [Gateway.take, Gateway.Heard, UniqFilter.add]
          split
          · rfl
          · exact note_finished filter uri
      | addForce uri =>
          simp only [Gateway.take, Gateway.Heard, UniqFilter.addForce]
          split
          · rfl
          · exact note_finished filter uri
      | note uri => exact note_finished filter uri
      | forget uri | close | supply _ _ | tune _ _ _ => rfl
  | remote service =>
      cases offer with
      | supply uris count => exact Gateway.supply_heard (.remote service) uris count
      | _ => simp [Gateway.take, Gateway.Heard]

theorem request_shape (frontier : Frontier) (state : CrawlState) :
    ∃ ready snooze, frontier.requestState state =
      { frontier with
        cell :=
          if frontier.target = .finish ∧ state ≠ .finish then frontier.cell
          else { frontier.cell with target := state }
        readySignal := ready, snoozeSignal := snooze } := by
  unfold Frontier.requestState
  split
  · exact ⟨frontier.readySignal, frontier.snoozeSignal, rfl⟩
  · simp only
    split
    · exact ⟨_, _, rfl⟩
    · cases state <;> exact ⟨_, _, rfl⟩

theorem act_kept (origin : Gateway) (world : World) (event : Event) (calm : event.Calm)
    (kept : Kept origin world.frontier world.journal) :
    Kept origin (world.act event).frontier (world.act event).journal := by
  cases event with
  | schedule uri => exact kept.extend (schedule_proper world.frontier uri kept.calm kept.registered)
  | call => exact kept
  | proceed id =>
      simp only [act]
      cases world.call? id with
      | none => exact kept
      | some call =>
          exact kept.extend (proceed_proper world.frontier call kept.calm kept.registered
            (kept.posted.addressed kept.addressed))
  | drop id =>
      simp only [act]
      cases world.call? id with
      | none => exact kept
      | some call =>
          simp only [Option.elim, drop]
          split
          · exact kept
          · exact kept.silent (world.frontier.cancel_proceeds call kept.registered)
              (world.frontier.cancel_minds call).heard
  | complete uri outcome =>
      exact kept.extend (complete_proper world.frontier uri outcome kept.calm kept.registered)
  | request state =>
      obtain ⟨ready, snooze, same⟩ := request_shape world.frontier state
      simp only [act, same]
      exact kept.silent (kept.registered.still rfl) (Gateway.heard_nothing _)
  | setBudgets session total =>
      exact kept.silent (kept.registered.still rfl) (Gateway.heard_nothing _)
  | unretire =>
      obtain ⟨_, _, proceeds⟩ := world.frontier.unretire_proceeds kept.calm kept.registered
      exact kept.silent proceeds (Gateway.heard_same
        (congrArg Setting.gateway world.frontier.unretire_stays.setting))
  | reroute routing =>
      exact ⟨calm, ⟨kept.registered.once, kept.registered.ascending, kept.registered.settled⟩,
        kept.posted, kept.addressed, kept.paired, kept.heard⟩
  | offer offer => exact kept.silent (kept.registered.still rfl) (take_heard _ offer)
  | manage =>
      exact kept.silent
        (Frontier.management_permitted Frontier.proceeds_permits world.frontier kept.calm
          kept.registered)
        (Frontier.management_permitted Frontier.oversees_permits world.frontier).heard
  | hire => exact kept
  | supervise id =>
      simp only [act]
      cases world.supervisor? id with
      | none => exact kept
      | some supervisor =>
          exact kept.silent
            (Frontier.turn_permitted Frontier.proceeds_permits world.frontier supervisor kept.calm
              kept.registered)
            (Frontier.turn_permitted Frontier.oversees_permits world.frontier supervisor).heard
  | advance span => exact kept.silent (kept.registered.still rfl) (Gateway.heard_nothing _)

theorem start_kept (setup : Setup) (calm : setup.routing.faults = []) :
    Kept setup.gateway (start setup).frontier (start setup).journal where
  calm := calm
  registered := ⟨.nil, .nil, fun _ => rfl⟩
  posted := .refl _
  addressed := by simp [start]
  paired := rfl
  heard := Gateway.heard_nothing _

theorem run_kept (setup : Setup) (events : List Event) (calm : Calm setup events) :
    Kept setup.gateway (run setup events).frontier (run setup events).journal := by
  revert calm
  refine run_induction (motive := fun events world => Calm setup events →
    Kept setup.gateway world.frontier world.journal) setup ?_ ?_ events
  · exact fun calm => start_kept setup calm.1
  · intro events event before calm
    have kept := before calm.before.1
    unfold step
    split
    · exact act_kept setup.gateway _ event calm.before.2 kept
    · exact kept

end World

end PoliteCrawl
