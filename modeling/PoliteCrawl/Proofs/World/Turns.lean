import PoliteCrawl.Proofs.World.Kept

set_option autoImplicit false

namespace PoliteCrawl

namespace World

def handed (world : World) : List CrawlUri :=
  world.journal.filterMap Entry.handed?

-- A call awaits something on its way to a ready key, while the crawl is not to hand out anything.
def Overtaken (world : World) (id : Nat) : Prop :=
  ∃ call, world.call? id = some call ∧ call.phase.looks = true ∧ call.phase.awaits = true ∧
    world.frontier.target.allowsDispatch = false

inductive KeptTurn (setup : Setup) (id : Nat) (earlier : List Event) : List Event → Prop where
  | here : KeptTurn setup id earlier earlier
  | more {events : List Event} {event : Event} (kept : KeptTurn setup id earlier events)
      (turn : (run setup (events ++ [event])).turn = some id) :
      KeptTurn setup id earlier (events ++ [event])

theorem call_id (world : World) (id : Nat) (call : Call) (found : world.call? id = some call) :
    call.id = id := by
  simpa using List.find?_some found

theorem call_proceed (world : World) (call : Call) (id : Nat) :
    (world.proceed call).call? id =
      (world.call? id).map fun old =>
        if old.id = call.id then (world.frontier.step call).2 else old := by
  unfold call? proceed
  rw [List.find?_map]
  congr 2
  funext old
  by_cases same : old.id = call.id
  · simp [same, Frontier.step]
  · simp [same]

theorem call_drop (world : World) (call old : Call) (id : Nat)
    (found : (world.drop call).call? id = some old) : world.call? id = some old := by
  unfold drop at found
  split at found
  · exact found
  · unfold call? at found ⊢
    rw [List.find?_filter] at found
    have kept : old.id ≠ call.id ∧ old.id = id := by
      simpa using List.find?_some found
    rw [← found]
    congr 1
    funext other
    by_cases same : other.id = id
    · simp [same, kept.2 ▸ kept.1]
    · simp [same]

theorem run_next (setup : Setup) (events : List Event) (event : Event)
    (idle : (run setup events).turn = none) :
    run setup (events ++ [event]) = (run setup events).act event := by
  rw [run_snoc, step]
  simp [admits, idle]

theorem step_held (world : World) (event : Event) (id : Nat) (turn : world.turn = some id)
    (other : event ≠ .proceed id) : world.step event = world := by
  have refused : world.admits event = false := by simp [admits, turn, other]
  simp [step, refused]

theorem act_calls (world : World) (event : Event) (id : Nat) (call : Call)
    (other : event ≠ .proceed id) (found : (world.act event).call? id = some call) :
    world.call? id = some call ∨ call.phase = .entering := by
  cases event with
  | call =>
      simp only [act, call?, List.find?_append] at found
      cases before : world.calls.find? (·.id = id) with
      | none =>
          rw [before, Option.none_or] at found
          have started := List.mem_of_find?_eq_some found
          rw [List.mem_singleton] at started
          exact .inr (started ▸ rfl)
      | some old =>
          rw [before, Option.some_or] at found
          exact .inl (before.trans found)
  | proceed stepping =>
      simp only [act] at found
      cases present : world.call? stepping with
      | none =>
          rw [present] at found
          exact .inl found
      | some old =>
          have named := call_id world stepping old present
          rw [present] at found
          change (world.proceed old).call? id = some call at found
          rw [call_proceed] at found
          obtain ⟨before, listed, same⟩ := Option.map_eq_some_iff.mp found
          have apart : before.id ≠ old.id := by
            rw [call_id world id before listed, named]
            intro same
            exact other (same ▸ rfl)
          rw [if_neg apart] at same
          exact .inl (same ▸ listed)
  | drop dropping =>
      simp only [act] at found
      cases present : world.call? dropping with
      | none =>
          rw [present] at found
          exact .inl found
      | some old =>
          rw [present] at found
          exact .inl (call_drop world old call id found)
  | supervise waking =>
      simp only [act] at found
      cases present : world.supervisor? waking with
      | none =>
          rw [present] at found
          exact .inl found
      | some supervisor =>
          rw [present] at found
          exact .inl found
  | _ => exact .inl found

theorem call_cases (world : World) (event : Event) (id : Nat) (call : Call)
    (found : (world.step event).call? id = some call) :
    (world.call? id = some call ∧ (world.turn = some id → (world.step event).turn = some id)) ∨
      call.phase = .entering ∨
      ∃ old, event = .proceed id ∧ world.call? id = some old ∧
        world.step event = world.proceed old ∧ call = (world.frontier.step old).2 := by
  by_cases own : event = .proceed id
  · subst own
    unfold step at found ⊢
    by_cases admitted : world.admits (.proceed id) = true
    · rw [if_pos admitted] at found ⊢
      cases present : world.call? id with
      | none =>
          simp only [act, present, Option.elim] at found
          cases found
      | some old =>
          have acts : world.act (.proceed id) = world.proceed old := by
            simp only [act, present, Option.elim]
          rw [acts, call_proceed, present] at found
          exact .inr (.inr ⟨old, rfl, rfl, acts, by simpa using found.symm⟩)
    · rw [if_neg admitted] at found ⊢
      exact .inl ⟨found, fun turn => turn⟩
  · have keeps (turn : world.turn = some id) : (world.step event).turn = some id := by
      rw [step_held world event id turn own]
      exact turn
    unfold step at found
    split at found
    · exact (act_calls world event id call own found).imp (fun before => ⟨before, keeps⟩) .inl
    · exact .inl ⟨found, keeps⟩

theorem run_turn (setup : Setup) (events : List Event) (id : Nat) (call : Call)
    (found : (run setup events).call? id = some call) :
    call.phase.awaits = true ∨ call.phase = .entering ∨
      (run setup events).turn = some id := by
  revert id call
  refine run_induction (motive := fun _ world => ∀ id call, world.call? id = some call →
    call.phase.awaits = true ∨ call.phase = .entering ∨ world.turn = some id) setup ?_ ?_ events
  · intro id call found
    simp [start, call?] at found
  · intro events event ih id call found
    rcases call_cases _ event id call found with
      ⟨before, keeps⟩ | entering | ⟨old, _, present, stepped, same⟩
    · exact (ih id call before).imp_right (Or.imp_right keeps)
    · exact .inr (.inl entering)
    · rw [stepped, ← call_id _ id old present, same]
      simp only [proceed]
      split
      · exact .inl (by assumption)
      · exact .inr (.inr rfl)

theorem act_cell (world : World) (event : Event) (unordered : ∀ state, event ≠ .request state)
    (unmanaged : event ≠ .manage) (unsupervised : ∀ id, event ≠ .supervise id) :
    (world.act event).frontier.cell = world.frontier.cell := by
  cases event with
  | schedule uri => exact congrArg Setting.cell (world.frontier.schedule_stays uri).setting
  | proceed id =>
      simp only [act]
      cases world.call? id with
      | none => rfl
      | some call => exact world.frontier.step_cell call.id call.phase
  | drop id =>
      simp only [act]
      cases world.call? id with
      | none => rfl
      | some call =>
          simp only [Option.elim, drop]
          split
          · rfl
          · exact (world.frontier.cancel_minds call).cell
  | complete uri outcome => exact (world.frontier.complete_yields uri outcome).cell
  | request state => exact absurd rfl (unordered state)
  | unretire => exact congrArg Setting.cell world.frontier.unretire_stays.setting
  | manage => exact absurd rfl unmanaged
  | supervise id => exact absurd rfl (unsupervised id)
  | _ => rfl

theorem act_supervisors (world : World) (event : Event) (unhired : event ≠ .hire)
    (unsupervised : ∀ id, event ≠ .supervise id) :
    (world.act event).supervisors = world.supervisors := by
  cases event with
  | proceed id =>
      simp only [act]
      cases world.call? id <;> rfl
  | drop id =>
      simp only [act]
      cases world.call? id with
      | none => rfl
      | some call =>
          simp only [Option.elim, drop]
          split <;> rfl
  | hire => exact absurd rfl unhired
  | supervise id => exact absurd rfl (unsupervised id)
  | _ => rfl

theorem act_claims (world : World) (event : Event) (other : ∀ id, event ≠ .proceed id) :
    (world.act event).frontier.claims.Sublist world.frontier.claims := by
  have same {after : Frontier} (claims : after.claims = world.frontier.claims) :
      after.claims.Sublist world.frontier.claims := by simp [claims]
  cases event with
  | schedule uri => exact same (world.frontier.schedule_stays uri).claims
  | proceed id => exact absurd rfl (other id)
  | drop id =>
      simp only [act]
      cases world.call? id with
      | none => exact same rfl
      | some call =>
          simp only [Option.elim, drop]
          split
          · exact same rfl
          · exact same (world.frontier.cancel_minds call).claims
  | complete uri outcome => exact (world.frontier.complete_yields uri outcome).claims
  | request state =>
      obtain ⟨ready, snooze, shape⟩ := request_shape world.frontier state
      simp only [act, shape]
      exact same rfl
  | unretire => exact same world.frontier.unretire_stays.claims
  | manage =>
      exact same (Frontier.management_permitted Frontier.oversees_permits world.frontier).claims
  | supervise id =>
      simp only [act]
      cases world.supervisor? id with
      | none => exact same rfl
      | some supervisor =>
          exact same
            (Frontier.turn_permitted Frontier.oversees_permits world.frontier supervisor).claims
  | _ => exact same rfl

theorem turn_cell (world : World) (event : Event) (id : Nat)
    (turn : (world.step event).turn = some id) :
    (world.step event).frontier.cell = world.frontier.cell := by
  have idle (same : (world.act event).turn = world.turn) (other : ∀ id, event ≠ .proceed id) :
      (world.step event).frontier.cell = world.frontier.cell := by
    have held : world.turn = some id := by
      unfold step at turn
      split at turn
      · exact same.symm.trans turn
      · exact turn
    rw [step_held world event id held (other id)]
  cases event with
  | proceed stepping =>
      unfold step
      split
      · simp only [act]
        cases world.call? stepping with
        | none => rfl
        | some call => exact world.frontier.step_cell call.id call.phase
      · rfl
  | drop dropping =>
      refine idle ?_ (by simp)
      simp only [act]
      cases world.call? dropping with
      | none => rfl
      | some call =>
          simp only [Option.elim, drop]
          split <;> rfl
  | supervise waking =>
      refine idle ?_ (by simp)
      simp only [act]
      cases world.supervisor? waking <;> rfl
  | _ => exact idle rfl (by simp)

theorem KeptTurn.cell {setup : Setup} {id : Nat} {earlier events : List Event}
    (kept : KeptTurn setup id earlier events) :
    (run setup events).frontier.cell = (run setup earlier).frontier.cell := by
  induction kept with
  | here => rfl
  | more kept turn ih =>
      rw [run_snoc] at turn ⊢
      exact (turn_cell _ _ id turn).trans ih

theorem run_looks (setup : Setup) (events : List Event) (id : Nat) (call : Call)
    (found : (run setup events).call? id = some call) (looks : call.phase.looks = true)
    (awake : call.phase.awaits = false) :
    (run setup events).frontier.target.allowsDispatch = true ∨
      ∃ earlier, KeptTurn setup id earlier events ∧ (run setup earlier).Overtaken id := by
  revert id call
  refine run_induction (motive := fun events world => ∀ id call, world.call? id = some call →
    call.phase.looks = true → call.phase.awaits = false →
      world.frontier.target.allowsDispatch = true ∨
        ∃ earlier, KeptTurn setup id earlier events ∧ (run setup earlier).Overtaken id)
    setup ?_ ?_ events
  · intro id call found
    simp [start, call?] at found
  · intro events event ih id call found looks awake
    -- In its turn the call finds the crawl as it was before this event.
    have turn : ((run setup events).step event).turn = some id := by
      rw [← run_snoc] at found ⊢
      rcases run_turn setup _ id call found with rests | entering | turn
      · simp [rests] at awake
      · simp [entering, CallPhase.looks] at looks
      · exact turn
    have cell := turn_cell _ event id turn
    have extend : ((run setup events).frontier.target.allowsDispatch = true ∨
        ∃ earlier, KeptTurn setup id earlier events ∧ (run setup earlier).Overtaken id) →
        ((run setup events).step event).frontier.target.allowsDispatch = true ∨
          ∃ earlier, KeptTurn setup id earlier (events ++ [event]) ∧
            (run setup earlier).Overtaken id := by
      intro before
      rcases before with allowed | ⟨earlier, kept, overtaken⟩
      · rw [Frontier.target, cell]
        exact .inl allowed
      · exact .inr ⟨earlier, .more kept ((run_snoc setup events event).symm ▸ turn), overtaken⟩
    refine extend ?_
    rcases call_cases _ event id call found with
      ⟨before, _⟩ | entering | ⟨old, _, present, _, same⟩
    · exact ih id call before looks awake
    · simp [entering, CallPhase.looks] at looks
    · subst same
      rcases Frontier.step_looks _ old.id old.phase looks with looked | allowed
      · cases rested : old.phase.awaits with
        | false => exact ih id old present looked rested
        | true =>
            cases allowed : (run setup events).frontier.target.allowsDispatch with
            | true => exact .inl rfl
            | false => exact .inr ⟨events, .here, old, present, looked, rested, allowed⟩
      · exact .inl allowed

theorem allowed_unless_overtaken (setup : Setup) (events : List Event) (id : Nat)
    (looks : (run setup events).frontier.target.allowsDispatch = true ∨
      ∃ earlier, KeptTurn setup id earlier events ∧ (run setup earlier).Overtaken id) :
    ((run setup events).frontier.target = .run ∨ (run setup events).frontier.target = .empty) ↔
      ¬ ∃ earlier, KeptTurn setup id earlier events ∧ (run setup earlier).Overtaken id := by
  constructor
  · rintro allowed ⟨earlier, kept, _, _, _, _, forbids⟩
    have same : (run setup earlier).frontier.target = (run setup events).frontier.target :=
      (congrArg StateCell.target kept.cell).symm
    rw [same] at forbids
    rcases allowed with run | empty
    · simp [run, CrawlState.allowsDispatch] at forbids
    · simp [empty, CrawlState.allowsDispatch] at forbids
  · intro heeded
    have allowed := looks.resolve_right heeded
    revert allowed
    cases (run setup events).frontier.target <;> simp [CrawlState.allowsDispatch]

theorem complete_unhanded (frontier : Frontier) (uri : CrawlUri) (outcome : Outcome) :
    (completeEntries frontier uri outcome).filterMap Entry.handed? = [] := by
  unfold completeEntries Frontier.takeBack
  split
  · split <;> rfl
  · rfl

theorem gained_looks (frontier : Frontier) (id : Nat) (phase : CallPhase) (uri : CrawlUri)
    (gained : phase.gain? (frontier.stepPhase id phase).2 = some uri) :
    phase.looks = true ∧ phase.awaits = false := by
  cases phase with
  | polling progress => exact ⟨rfl, rfl⟩
  | _ =>
      rw [frontier.no_gain id _ (by simp)] at gained
      cases gained

theorem step_gained (world : World) (event : Event) :
    (world.step event).handed = world.handed ∨
      ∃ id call uri, event = .proceed id ∧ world.call? id = some call ∧
        call.phase.gain? (world.frontier.step call).2.phase = some uri ∧
        (world.step event).handed = world.handed ++ [uri] := by
  unfold step
  split
  · cases event with
    | schedule uri =>
        left
        simp [handed, act, Frontier.acceptEntry, Entry.handed?, Deed.handed?]
    | proceed id =>
        simp only [act]
        cases found : world.call? id with
        | none => exact .inl rfl
        | some call =>
            have passing := step_passing world.frontier call.phase
            simp only [Option.elim, handed, proceed, List.filterMap_append, passing.unhanded]
            cases gained : call.phase.gain? (world.frontier.step call).2.phase with
            | none => exact .inl (by simp [handEntries])
            | some uri => exact .inr ⟨id, call, uri, rfl, found, gained, rfl⟩
    | drop id =>
        left
        simp only [act]
        cases world.call? id with
        | none => rfl
        | some call =>
            simp only [Option.elim, drop]
            split <;> rfl
    | complete uri outcome =>
        left
        simp only [handed, act, List.filterMap_append, complete_unhanded, List.append_nil]
    | supervise id =>
        left
        simp only [act]
        cases world.supervisor? id <;> rfl
    | _ => exact .inl rfl
  · exact .inl rfl

theorem step_handed (world : World) (event : Event) :
    (world.step event).handed = world.handed ∨
      ∃ id call uri, event = .proceed id ∧ world.call? id = some call ∧
        call.phase.looks = true ∧ call.phase.awaits = false ∧
        (world.step event).handed = world.handed ++ [uri] := by
  rcases step_gained world event with same | ⟨id, call, uri, proceeds, found, gained, handed⟩
  · exact .inl same
  · obtain ⟨looks, awake⟩ := gained_looks world.frontier call.id call.phase uri gained
    exact .inr ⟨id, call, uri, proceeds, found, looks, awake, handed⟩

structure Idle (world : World) : Prop where
  forbids : world.frontier.target.allowsDispatch = false
  drained : world.frontier.claims = []
  calls : ∀ id call, world.call? id = some call → call.phase.looks = false

theorem Idle.begins (setup : Setup) (events : List Event)
    (forbids : (run setup events).frontier.target.allowsDispatch = false)
    (drained : (run setup events).frontier.claims = []) (turn : (run setup events).turn = none)
    (heeded : ∀ id, ¬ (run setup events).Overtaken id) : (run setup events).Idle := by
  refine ⟨forbids, drained, fun id call found => ?_⟩
  rcases run_turn setup events id call found with awaits | entering | turned
  · cases looks : call.phase.looks with
    | false => rfl
    | true => exact (heeded id ⟨call, found, looks, awaits, forbids⟩).elim
  · rw [entering]
    rfl
  · rw [turn] at turned
    cases turned

theorem Idle.step {world : World} (idle : world.Idle) (event : Event)
    (forbids : (world.step event).frontier.target.allowsDispatch = false) :
    (world.step event).Idle ∧ (world.step event).handed = world.handed := by
  refine ⟨⟨forbids, ?_, fun id call found => ?_⟩, ?_⟩
  · rw [World.step]
    by_cases admitted : world.admits event = true
    · rw [if_pos admitted]
      by_cases other : ∀ id, event ≠ .proceed id
      · exact List.sublist_nil.mp (idle.drained ▸ act_claims world event other)
      · obtain ⟨id, same⟩ : ∃ id, event = .proceed id := by simpa using other
        subst same
        simp only [act]
        cases found : world.call? id with
        | none => exact idle.drained
        | some call =>
            have resting := idle.calls id call found
            have unpolled (progress : Bool) : call.phase ≠ .polling progress := by
              intro polling
              simp [polling, CallPhase.looks] at resting
            exact (world.frontier.step_minds call.id call.phase unpolled).claims.trans idle.drained
    · rw [if_neg admitted]
      exact idle.drained
  · rcases call_cases world event id call found with
      ⟨before, _⟩ | entering | ⟨old, _, present, _, same⟩
    · exact idle.calls id call before
    · rw [entering]
      rfl
    · subst same
      cases looks : (world.frontier.step old).2.phase.looks with
      | false => rfl
      | true =>
          rcases Frontier.step_looks _ old.id old.phase looks with looked | allowed
          · rw [idle.calls id old present] at looked
            cases looked
          · rw [idle.forbids] at allowed
            cases allowed
  · rcases step_handed world event with same | ⟨id, call, uri, _, found, looks, _⟩
    · exact same
    · rw [idle.calls id call found] at looks
      cases looks

theorem Idle.run {world : World} (idle : world.Idle) (later : List Event)
    (halted : ∀ middle rest, later = middle ++ rest →
      (middle.foldl World.step world).frontier.target.allowsDispatch = false) :
    (later.foldl World.step world).Idle ∧
      (later.foldl World.step world).handed = world.handed := by
  induction later generalizing world with
  | nil => exact ⟨idle, rfl⟩
  | cons event rest ih =>
      obtain ⟨next, handed⟩ := idle.step event (halted [event] rest rfl)
      obtain ⟨last, same⟩ := ih next fun middle more split =>
        halted (event :: middle) more (by rw [split]; rfl)
      exact ⟨last, same.trans handed⟩

end World

end PoliteCrawl
