import PoliteCrawl.Proofs.Frontier.Books
import PoliteCrawl.Proofs.World.Kept

set_option autoImplicit false

namespace PoliteCrawl

namespace Gateway

-- Between the two, a gateway handed over so many of the URIs that it took.
def Delivers (before : Gateway) (count : Nat) (after : Gateway) : Prop :=
  after.added + before.pending.length = before.added + after.pending.length + count

theorem delivers_same {before after : Gateway} (same : after = before) : before.Delivers 0 after := by
  rw [same]
  exact rfl

theorem Delivers.trans {first second third : Gateway} {early late : Nat}
    (one : first.Delivers early second) (two : second.Delivers late third) :
    first.Delivers (early + late) third := by
  unfold Delivers at one two ⊢
  omega

theorem record_added {gateway after : Gateway} (same : after.record = gateway.record) :
    after.added = gateway.added := by
  cases gateway <;> cases after <;> simp [record] at same
  · exact same.2.1
  · exact same.1

theorem take_delivers (gateway after : Gateway) (handover : Handover)
    (taken : gateway.takeBatch = .ok (after, handover)) :
    gateway.Delivers handover.uris.length after := by
  obtain ⟨pending, record, _⟩ := take_draws gateway after handover taken
  rw [Delivers, record_added record, pending, List.length_append]
  omega

theorem close_delivers (gateway after : Gateway) (closed : gateway.close = .ok after) :
    gateway.Delivers 0 after := by
  obtain ⟨pending, record⟩ := close_draws gateway after closed
  rw [Delivers, record_added record, pending, Nat.add_zero]

theorem note_delivers (gateway : Gateway) (uri : CrawlUri) (outcome : Outcome) :
    gateway.Delivers 0 (gateway.noteFinished uri outcome) := by
  obtain ⟨pending, record, _⟩ := note_draws gateway uri outcome
  rw [Delivers, record_added record, pending, Nat.add_zero]

theorem offer_delivers (gateway : Gateway) (offer : Offer) :
    gateway.Delivers 0 (gateway.take offer) := by
  have noted (filter : UniqFilter) (uri : CrawlUri) :
      (filter.note uri).added = filter.added ∧ (filter.note uri).pending = filter.pending := by
    rw [UniqFilter.note]
    split <;> exact ⟨rfl, rfl⟩
  cases gateway with
  | memory filter =>
      cases offer with
      | add uri | addForce uri =>
          obtain ⟨added, pending⟩ := noted filter uri
          simp only [take, UniqFilter.add, UniqFilter.addForce]
          split
          · rfl
          · simp [Delivers, Gateway.added, Gateway.pending, UniqFilter.buffer, added, pending]
            omega
      | note uri =>
          obtain ⟨added, pending⟩ := noted filter uri
          simp [take, Delivers, Gateway.added, Gateway.pending, added, pending]
      | forget uri | close | supply _ _ | tune _ _ _ => rfl
  | remote service =>
      cases offer with
      | supply uris count =>
          simp [take, Delivers, supply, Gateway.added, Gateway.pending]
          omega
      | _ => rfl

end Gateway

def acceptedIn (entries : List Entry) : Nat :=
  (entries.filterMap Entry.accepted?).length

theorem accepted_append (first second : List Entry) :
    acceptedIn (first ++ second) = acceptedIn first + acceptedIn second := by
  simp [acceptedIn]

namespace Frontier

theorem collect_delivers (frontier : Frontier) (worker : Nat) :
    frontier.gateway.Delivers (acceptedIn frontier.collectEntries)
      (frontier.collect worker).1.gateway := by
  rw [collect, collectEntries]
  cases taken : frontier.gateway.takeBatch with
  | error cause => exact Gateway.delivers_same rfl
  | ok result =>
      obtain ⟨gateway, handover⟩ := result
      have all : acceptedIn (handover.uris.map frontier.acceptEntry) = handover.uris.length := by
        simp [acceptedIn, List.filterMap_map, acceptEntry, Function.comp_def, Entry.accepted?,
          Deed.accepted?]
      have kept := congrArg Setting.gateway
        (receive_all_placed stays_dozing.toPlacing { frontier with gateway } handover.uris).setting
      have delivers := Gateway.take_delivers frontier.gateway gateway handover taken
      simp only [all]
      cases received : { frontier with gateway }.receiveAll handover.uris with
      | mk after answer =>
          rw [received] at kept
          have same : after.gateway = gateway := kept
          cases answer <;> exact same.symm ▸ delivers

theorem flush_delivers (frontier : Frontier) (worker : Nat) :
    frontier.gateway.Delivers (acceptedIn frontier.flushEntries)
      (frontier.flush worker).1.gateway := by
  rw [flush, flushEntries]
  split
  · exact collect_delivers frontier worker
  · exact Gateway.delivers_same rfl

theorem pull_delivers (frontier : Frontier) (worker : Nat) :
    frontier.gateway.Delivers (acceptedIn frontier.pullEntries)
      (frontier.pull worker).1.gateway := by
  rw [pull, pullEntries]
  split
  · have kept := congrArg Setting.gateway (activate_placed stays_dozing.toPlacing frontier).setting
    cases activated : frontier.activateInactive with
    | mk after answer =>
        rw [activated] at kept
        have same : after.gateway = frontier.gateway := kept
        cases answer with
        | none => exact Gateway.delivers_same same
        | some progress =>
            cases progress with
            | true => exact Gateway.delivers_same same
            | false => exact same ▸ flush_delivers after worker
  · exact flush_delivers frontier worker

theorem relocations_accept (routing : Routing) (key : String) (items : List CrawlUri) :
    acceptedIn (relocations routing key items) = 0 := by
  induction items with
  | nil => rfl
  | cons head rest ih =>
      by_cases home : routing.siteKey head.url = key
      · simp [relocations, home, acceptedIn]
      · simpa [relocations, home, acceptedIn, Entry.accepted?, Deed.accepted?] using ih

theorem poll_accepts (frontier : Frontier) : acceptedIn frontier.pollEntries = 0 := by
  unfold pollEntries dispatchEntries
  split
  · rfl
  · split
    · rfl
    · split
      · exact relocations_accept _ _ _
      · rfl

theorem step_delivers (frontier : Frontier) (worker : Nat) (phase : CallPhase) :
    frontier.gateway.Delivers (acceptedIn (frontier.stepEntries phase))
      (frontier.stepPhase worker phase).1.gateway := by
  cases phase with
  | entering =>
      simp only [stepPhase, enter]
      split
      · exact Gateway.delivers_same rfl
      · split <;> exact Gateway.delivers_same rfl
  | contending attempt =>
      simp only [stepPhase, stepEntries, contend, contendEntries]
      split
      · exact pull_delivers { frontier with pulling := true } worker
      · split <;> exact Gateway.delivers_same rfl
  | resting attempt until_ =>
      simp only [stepPhase]
      split <;> exact Gateway.delivers_same rfl
  | flushing due deadline =>
      simp only [stepPhase, stepEntries]
      split
      · exact collect_delivers frontier worker
      · split <;> exact Gateway.delivers_same rfl
  | polling progress =>
      have same := congrArg Setting.gateway (poll_setting frontier worker progress)
      simp only [stepPhase, stepEntries, poll_accepts]
      exact Gateway.delivers_same same
  | waiting =>
      simp only [stepPhase, awake]
      split <;> exact Gateway.delivers_same rfl
  | seeking | done _ | failed => exact Gateway.delivers_same rfl

def Undone (before after : Frontier) : Prop :=
  after.stats.finished = before.stats.finished

theorem undone_dozing : Dozing nobody Undone where
  refl _ := rfl
  trans _ _ _ one two := two.trans one
  route _ _ := rfl
  store _ _ _ := rfl
  add _ _ _ _ := rfl
  file _ _ _ := rfl
  count _ := rfl
  publish _ _ := rfl
  shelve _ _ := rfl
  snooze _ _ _ := rfl
  awaken _ _ _ _ _ := rfl

theorem undone_dispatching : Dispatching nobody Undone where
  toShelving := undone_dozing.toShelving
  hold _ _ _ _ := rfl
  release _ _ := rfl
  reclassify _ := rfl

theorem undone_pulling : Pulling nobody Undone where
  toPlacing := undone_dozing.toPlacing
  take _ _ _ _ := rfl
  pull _ _ := rfl
  signal _ _ := rfl

theorem undone_permits : Permits Undone where
  refl _ := rfl
  trans _ _ _ one two := two.trans one
  mark _ _ _ := rfl
  retarget _ _ _ _ _ := rfl
  notify _ := rfl
  call _ := rfl
  snooze _ _ := rfl
  close _ _ _ _ := rfl
  wake := wake_dozed undone_dozing

theorem step_undone (frontier : Frontier) (worker : Nat) (phase : CallPhase) :
    frontier.Undone (frontier.stepPhase worker phase).1 := by
  cases phase with
  | polling progress =>
      exact poll_kept undone_pulling frontier worker progress (fun _ _ => rfl) fun key =>
        dispatch_kept undone_dispatching _ key (fun no => no.elim) fun _ _ _ => rfl
  | _ => exact step_pulled undone_pulling frontier worker _ (by simp)

theorem billed_finished (frontier : Frontier) (queue : WorkQueue) (head : CrawlUri)
    (outcome : Outcome) :
    (frontier.billedStats queue head outcome).finished =
      frontier.stats.finished + (frontier.takeBack head outcome).finished?.toList.length := by
  cases retried : frontier.grantsRetry head outcome with
  | true =>
      simp [billedStats, takeBack, retried, countRetry, Stats.finished, Deed.finished?]
  | false =>
      rw [billed_stats queue head outcome retried]
      simp only [takeBack, retried, Deed.finished?]
      cases outcome.status <;>
        simp [Stats.count, Stats.finished, discountQueued] <;> omega

theorem complete_finished (frontier : Frontier) (uri head : CrawlUri) (rest : List CrawlUri)
    (outcome : Outcome) (queue : WorkQueue) (reported : frontier.Reported uri queue head rest) :
    (frontier.complete uri outcome).1.stats.finished =
      frontier.stats.finished + (frontier.takeBack head outcome).finished?.toList.length := by
  let billed := frontier.billed queue head outcome
  let base := frontier.givenUp billed (frontier.billedStats queue head outcome)
  have settled := settle_dozed undone_dozing base billed (frontier.pauseAfter head outcome)
    (free_nobody base billed)
  have counted : base.stats.finished = _ := billed_finished frontier queue head outcome
  rw [complete_shape frontier uri head rest outcome queue reported, ← counted]
  cases result : base.settle billed (frontier.pauseAfter head outcome) with
  | mk after answer =>
      rw [result] at settled
      cases answer with
      | none => exact settled
      | some placement =>
          have placed := place_placed undone_dozing.toPlacing after uri.siteKey placement
          obtain ⟨gateway, signal, told⟩ := report_drained (after.place uri.siteKey placement)
            (frontier.grantsRetry head outcome) head outcome
          simp only [told]
          exact placed.trans settled

theorem delivers_completing :
    Completing nobody fun before after => before.gateway.Delivers 0 after.gateway where
  refl _ := Gateway.delivers_same rfl
  trans _ _ _ one two := one.trans two
  route _ _ := Gateway.delivers_same rfl
  store _ _ _ := Gateway.delivers_same rfl
  add _ _ _ _ := Gateway.delivers_same rfl
  file _ _ _ := Gateway.delivers_same rfl
  count _ := Gateway.delivers_same rfl
  publish _ _ := Gateway.delivers_same rfl
  shelve _ _ := Gateway.delivers_same rfl
  snooze _ _ _ := Gateway.delivers_same rfl
  awaken _ _ _ _ _ := Gateway.delivers_same rfl
  release _ _ := Gateway.delivers_same rfl
  charge _ _ := Gateway.delivers_same rfl
  alarm _ _ := Gateway.delivers_same rfl
  tell frontier uri outcome := Gateway.note_delivers frontier.gateway uri outcome

theorem delivers_permits : Permits fun before after => before.gateway.Delivers 0 after.gateway where
  refl _ := Gateway.delivers_same rfl
  trans _ _ _ one two := one.trans two
  mark _ _ _ := Gateway.delivers_same rfl
  retarget _ _ _ _ _ := Gateway.delivers_same rfl
  notify _ := Gateway.delivers_same rfl
  call _ := Gateway.delivers_same rfl
  snooze _ _ := Gateway.delivers_same rfl
  close frontier gateway _ closed := Gateway.close_delivers frontier.gateway gateway closed
  wake frontier := Gateway.delivers_same (congrArg Setting.gateway frontier.wake_stays.setting)

end Frontier

namespace World

-- What the journal says of URIs that came in and that are done with is what the gateway handed over and
-- what the frontier counted.
structure Accounts (before : Frontier) (entries : List Entry) (after : Frontier) : Prop where
  delivers : before.gateway.Delivers (acceptedIn entries) after.gateway
  finished : after.stats.finished =
    before.stats.finished + (entries.filterMap Entry.finished?).length

theorem Accounts.trans {first second third : Frontier} {early late : List Entry}
    (one : Accounts first early second) (two : Accounts second late third) :
    Accounts first (early ++ late) third where
  delivers := by
    rw [accepted_append]
    exact one.delivers.trans two.delivers
  finished := by
    rw [two.finished, one.finished, List.filterMap_append, List.length_append, Nat.add_assoc]

theorem accounts_still {before after : Frontier} (gateway : after.gateway = before.gateway)
    (stats : after.stats = before.stats) : Accounts before [] after :=
  ⟨Gateway.delivers_same gateway, congrArg Stats.finished stats⟩

theorem proceed_accounts (frontier : Frontier) (call : Call) :
    Accounts frontier
      (frontier.stepEntries call.phase ++
        handEntries (call.phase.gain? (frontier.step call).2.phase))
      (frontier.step call).1 := by
  have none : acceptedIn (handEntries (call.phase.gain? (frontier.step call).2.phase)) = 0 := by
    cases call.phase.gain? (frontier.step call).2.phase <;> rfl
  have passing := (step_passing frontier call.phase).unfinished
  have handed := (handed_entries (call.phase.gain? (frontier.step call).2.phase)).2.2
  refine ⟨?_, ?_⟩
  · rw [accepted_append, none]
    exact frontier.step_delivers call.id call.phase
  · rw [List.filterMap_append, passing, handed]
    exact frontier.step_undone call.id call.phase

theorem complete_accounts (frontier : Frontier) (uri : CrawlUri) (outcome : Outcome)
    (calm : frontier.Calm) (registered : frontier.Registered) :
    Accounts frontier (completeEntries frontier uri outcome)
      (frontier.complete uri outcome).1 := by
  have refusal (cause : FrontierError)
      (refused : frontier.complete uri outcome = (frontier, .refused cause)) :
      Accounts frontier (completeEntries frontier uri outcome)
        (frontier.complete uri outcome).1 := by
    rw [refused_entries frontier uri outcome cause refused, refused]
    exact accounts_still rfl rfl
  rcases frontier.complete_cases uri outcome registered with
    ⟨_, refused⟩ | ⟨_, _, _, refused⟩ | ⟨_, _, _, _, _, _, _, refused⟩ |
    ⟨queue, head, rest, found, process, line, same⟩
  · exact refusal _ refused
  · exact refusal _ refused
  · exact refusal _ refused
  · have claimed :=
      (Frontier.process_claimed frontier uri.siteKey queue registered found process).1
    have done := (frontier.complete_calm uri head rest outcome queue calm registered found process
      line same).1
    have entries := done_entries frontier uri head outcome done rest (by
      rw [frontier.lane_of_queue uri.siteKey queue found]
      exact line)
    have none : acceptedIn (completeEntries frontier uri outcome) = 0 := by
      rw [entries]
      unfold Frontier.takeBack
      split <;> rfl
    refine ⟨?_, ?_⟩
    · rw [none]
      exact Frontier.complete_moved Frontier.delivers_completing frontier uri outcome
        (fun no => no.elim)
    · rw [entries, frontier.complete_finished uri head rest outcome queue
        ⟨found, process, claimed, line, same⟩]
      cases taken : (frontier.takeBack head outcome).finished? <;>
        simp [Entry.finished?, taken]

theorem act_accounts {origin : Gateway} (world : World) (event : Event)
    (kept : Kept origin world.frontier world.journal) (supplied : ∀ uri, event ≠ .schedule uri) :
    ∃ entries, (world.act event).journal = world.journal ++ entries ∧
      Accounts world.frontier entries (world.act event).frontier := by
  have still (after : World) (journal : after.journal = world.journal)
      (accounts : Accounts world.frontier [] after.frontier) :
      ∃ entries, after.journal = world.journal ++ entries ∧
        Accounts world.frontier entries after.frontier :=
    ⟨[], by rw [journal, List.append_nil], accounts⟩
  cases event with
  | schedule uri => exact absurd rfl (supplied uri)
  | proceed id =>
      simp only [act]
      cases world.call? id with
      | none => exact still _ rfl (accounts_still rfl rfl)
      | some call => exact ⟨_, rfl, proceed_accounts world.frontier call⟩
  | drop id =>
      simp only [act]
      cases world.call? id with
      | none => exact still _ rfl (accounts_still rfl rfl)
      | some call =>
          simp only [Option.elim, drop, Frontier.cancel]
          split
          · exact still _ rfl (accounts_still rfl rfl)
          · refine still _ rfl ?_
            cases call.phase <;> exact accounts_still rfl rfl
  | complete uri outcome =>
      exact ⟨_, rfl, complete_accounts world.frontier uri outcome kept.calm kept.registered⟩
  | request state =>
      obtain ⟨ready, snooze, same⟩ := request_shape world.frontier state
      simp only [act, same]
      exact ⟨[], (List.append_nil _).symm, accounts_still rfl rfl⟩
  | unretire =>
      refine still _ rfl ⟨?_, ?_⟩
      · exact Gateway.delivers_same
          (congrArg Setting.gateway world.frontier.unretire_stays.setting)
      · exact Frontier.unretire_shelved Frontier.undone_dozing.toShelving world.frontier
  | offer offer => exact still _ rfl ⟨world.frontier.gateway.offer_delivers offer, rfl⟩
  | manage =>
      refine still _ rfl ⟨?_, ?_⟩
      · exact Frontier.management_permitted Frontier.delivers_permits world.frontier
      · exact Frontier.management_permitted Frontier.undone_permits world.frontier
  | supervise id =>
      simp only [act]
      cases world.supervisor? id with
      | none => exact still _ rfl (accounts_still rfl rfl)
      | some supervisor =>
          refine still _ rfl ⟨?_, ?_⟩
          · exact Frontier.turn_permitted Frontier.delivers_permits world.frontier supervisor
          · exact Frontier.turn_permitted Frontier.undone_permits world.frontier supervisor
  | call | setBudgets _ _ | reroute _ | hire | advance _ =>
      exact still _ rfl (accounts_still rfl rfl)

theorem run_accounts (setup : Setup) (events : List Event) (calm : Calm setup events)
    (supplied : ∀ uri, Event.schedule uri ∉ events) :
    Accounts (start setup).frontier (run setup events).journal (run setup events).frontier := by
  revert calm supplied
  refine run_induction (motive := fun events world => Calm setup events →
    (∀ uri, Event.schedule uri ∉ events) →
      Accounts (start setup).frontier world.journal world.frontier) setup ?_ ?_ events
  · exact fun _ _ => accounts_still rfl rfl
  · intro events event before calm supplied
    have early := before calm.before.1 fun uri member => supplied uri (by simp [member])
    unfold step
    split
    · obtain ⟨entries, journal, accounts⟩ := act_accounts (run setup events) event
        (run_kept setup events calm.before.1) fun uri same => supplied uri (by simp [same])
      rw [journal]
      exact early.trans accounts
    · exact early

end World

end PoliteCrawl
