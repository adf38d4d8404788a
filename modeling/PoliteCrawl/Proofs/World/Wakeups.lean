import PoliteCrawl.Proofs.World.Enlisted
import PoliteCrawl.Proofs.World.Orders

set_option autoImplicit false

namespace PoliteCrawl

namespace World

def HasWork (world : World) : Prop :=
  world.frontier.target.allowsDispatch = true ∧ world.frontier.ready ≠ []

def Waits (world : World) (id : Nat) : Prop :=
  ∃ call, world.call? id = some call ∧ call.phase = .waiting ∧
    (id, .waiting) ∈ world.frontier.readySignal.enrolled

-- A call was woken alone, or is in the middle of a pull.
def InCharge (world : World) (id : Nat) : Prop :=
  ∃ call, world.call? id = some call ∧
    (call.phase.suspended = true ∨ (id, .picked) ∈ world.frontier.readySignal.enrolled)

def Attended (world : World) : Prop :=
  world.HasWork → (∃ id, world.Waits id) → ∃ id, world.InCharge id

-- A call that is in the middle of a pull, having used its wakeup, is the only one in charge while others
-- wait.
structure Deserts (world : World) (id : Nat) : Prop where
  idle : world.turn = none
  work : world.HasWork
  waits : ∃ other, world.Waits other
  suspended : ∃ call, world.call? id = some call ∧ call.phase.suspended = true
  unpicked : (id, .picked) ∉ world.frontier.readySignal.enrolled
  alone : ∀ other, world.InCharge other → other = id

theorem Enlisted.asleep {world : World} {id : Nat} {call : Call} (enlisted : world.Enlisted)
    (found : world.call? id = some call) (phase : call.phase = .waiting)
    (stuck : world.frontier.canStep call = false) :
    (id, .waiting) ∈ world.frontier.readySignal.enrolled := by
  have listed := (enlisted.roll id).mpr ⟨call, found, by rw [phase]; rfl⟩
  obtain ⟨⟨waiter, wake⟩, member, same⟩ := List.mem_map.mp listed
  have named : waiter = id := same
  subst named
  have known := (Signal.wake_iff _ enlisted.once waiter wake).mpr member
  rw [Frontier.canStep, phase, call_id world waiter call found, Signal.isAwake, known] at stuck
  cases wake with
  | waiting => exact member
  | _ => cases stuck

theorem run_picked (setup : Setup) (events : List Event) (idle : (run setup events).turn = none)
    (enlisted : (run setup events).Enlisted) (id : Nat) (call : Call)
    (found : (run setup events).call? id = some call) (active : call.phase.suspended = false)
    (picked : (id, .picked) ∈ (run setup events).frontier.readySignal.enrolled) :
    (run setup events).frontier.canStep call = true := by
  have named := call_id _ id call found
  have enrolled := (enlisted.listed found).enrolled.mp (named.symm ▸ List.mem_map_of_mem picked)
  have known := (Signal.wake_iff _ enlisted.once id .picked).mpr picked
  rcases run_turn setup events id call found with awaits | entering | turned
  · rw [Frontier.canStep]
    cases phase : call.phase with
    | waiting => simp only [named, Signal.isAwake, known]
    | resting | flushing => simp [phase, CallPhase.suspended] at active
    | done | failed => simp [phase, CallPhase.enrolled] at enrolled
    | _ => rfl
  · simp [entering, CallPhase.enrolled] at enrolled
  · rw [idle] at turned
    cases turned

theorem Enlisted.attended {world : World} (enlisted : world.Enlisted)
    (heeded : world.HasWork → world.frontier.readySignal.Heeded) : world.Attended := by
  intro work ⟨id, call, found, phase, waits⟩
  rcases heeded work with ⟨picked, listed⟩ | silent
  · obtain ⟨other, present, _⟩ := (enlisted.roll picked).mp (List.mem_map_of_mem listed)
    exact ⟨picked, other, present, .inr listed⟩
  · exact absurd waits (silent id)

theorem Attended.congr {world after : World} (calls : ∀ id, after.call? id = world.call? id)
    (frontier : after.frontier = world.frontier) (attended : world.Attended) : after.Attended := by
  simpa only [Attended, HasWork, Waits, InCharge, calls, frontier] using attended

theorem proceed_attended (world : World) (id : Nat) (call : Call)
    (found : world.call? id = some call) (held : ∀ other, world.turn = some other → other = id)
    (enlisted : world.Enlisted) (after : (world.proceed call).Enlisted)
    (turns : world.frontier.Turns call.id call.phase (world.frontier.step call).1
      (world.frontier.step call).2.phase)
    (idle : (world.proceed call).turn = none) (attended : world.turn = none → world.Attended) :
    (world.proceed call).Attended := by
  have named := call_id world id call found
  have awaits : (world.frontier.step call).2.phase.awaits = true := by
    by_contra going
    simp [proceed, going] at idle
  rcases turns.rests awaits with ⟨phase, frontier⟩ | suspended | heeded
  · have resting : world.turn = none := by
      cases turn : world.turn with
      | none => rfl
      | some other =>
          obtain ⟨turned, present, going⟩ := enlisted.turn other turn
          rw [held other turn, found] at present
          cases present
          rw [phase, going] at awaits
          cases awaits
    refine (attended resting).congr (fun other => ?_) frontier
    have same : (world.frontier.step call).2 = call := congrArg (Call.mk call.id) phase
    rw [call_proceed, same]
    cases before : world.call? other with
    | none => rfl
    | some old =>
        by_cases mine : old.id = call.id
        · rw [call_id world other old before] at mine
          rw [mine, named, found] at before
          cases before
          simp
        · simp [mine]
  · intro _ _
    refine ⟨call.id, (world.frontier.step call).2, ?_, .inl suspended⟩
    rw [call_proceed, named, found]
    simp [named]
  · exact after.attended fun work => heeded work.1 work.2

theorem drop_waits (world : World) (call : Call) (going : call.hasEnded = false)
    (enlisted : world.Enlisted) (unpicked : (call.id, .picked) ∉ world.frontier.readySignal.enrolled)
    (id : Nat) :
    ((world.drop call).Waits id ↔ id ≠ call.id ∧ world.Waits id) ∧
      ((world.drop call).InCharge id ↔ id ≠ call.id ∧ world.InCharge id) := by
  have signal : (world.drop call).frontier.readySignal = world.frontier.readySignal.consume call.id := by
    have plain : world.frontier.readySignal.wakeOf? call.id ≠ some .picked := fun picked =>
      unpicked ((Signal.wake_iff _ enlisted.once _ _).mp picked)
    rw [drop, if_neg (by simp [going])]
    exact (world.frontier.cancel_shape call).1.trans (if_neg plain)
  have listed (wake : Wake) : (id, wake) ∈ (world.drop call).frontier.readySignal.enrolled ↔
      id ≠ call.id ∧ (id, wake) ∈ world.frontier.readySignal.enrolled := by
    rw [signal, Signal.consume, List.mem_filter]
    simp [and_comm]
  simp only [Waits, InCharge, listed, call_dropped world call id going]
  by_cases same : id = call.id <;> simp [same]

theorem drop_attended (world : World) (id : Nat) (call : Call) (found : world.call? id = some call)
    (going : call.hasEnded = false) (idle : world.turn = none) (enlisted : world.Enlisted)
    (after : (world.drop call).Enlisted) (attended : world.Attended) :
    (world.drop call).Attended ∨ world.Deserts id := by
  have named := call_id world id call found
  obtain ⟨signal, ready, target⟩ := world.frontier.cancel_shape call
  have frontier : (world.drop call).frontier = world.frontier.cancel call := by
    simp [drop, going]
  by_cases picked : (id, .picked) ∈ world.frontier.readySignal.enrolled
  · left
    refine after.attended fun _ => ?_
    have own := (Signal.wake_iff _ enlisted.once id .picked).mpr picked
    rw [frontier, signal, named, Signal.leave, if_pos own]
    exact Signal.notify_one_heeded _
  · have others := drop_waits world call going enlisted (named.symm ▸ picked)
    by_cases deserts : world.Deserts id
    · exact .inr deserts
    · refine .inl fun work waits => ?_
      have before : world.HasWork := by
        rwa [HasWork, frontier, target, ready] at work
      obtain ⟨waiter, late⟩ := waits
      obtain ⟨_, waited⟩ := (others waiter).1.mp late
      by_contra nobody
      -- If nobody is in charge any more, the call was the only one.
      have alone (other : Nat) (charged : world.InCharge other) : other = id := by
        by_contra apart
        exact nobody ⟨other, (others other).2.mpr ⟨named.symm ▸ apart, charged⟩⟩
      obtain ⟨charged, charge⟩ := attended before ⟨waiter, waited⟩
      rw [alone charged charge] at charge
      obtain ⟨own, present, suspended | listed⟩ := charge
      · exact deserts ⟨idle, before, ⟨waiter, waited⟩, ⟨own, present, suspended⟩, picked, alone⟩
      · exact picked listed

theorem beside_attended (world : World) (event : Event) (enlisted : world.Enlisted)
    (uncalled : ∀ id, event ≠ .proceed id ∧ event ≠ .drop id)
    (rouses : world.frontier.Rouses (world.act event).frontier)
    (after : (world.act event).Enlisted) (attended : world.Attended) :
    (world.act event).Attended := by
  by_cases work : world.HasWork
  · intro _ ⟨id, call, found, phase, waits⟩
    have before : world.call? id = some call := by
      rcases (call_beside world event enlisted uncalled id call).mp found with before | ⟨_, new, _⟩
      · exact before
      · rw [new] at phase
        cases phase
    obtain ⟨charged, other, present, charge⟩ := attended work
      ⟨id, call, before, phase, rouses.stirs.asleep id trivial waits⟩
    refine ⟨charged, other, (call_beside world event enlisted uncalled _ _).mpr (.inl present), ?_⟩
    exact charge.imp_right (rouses.stirs.kept charged .picked trivial (by simp))
  · refine after.attended fun now => ?_
    rcases rouses.target now.1 with allowed | heeded
    · rcases rouses.line now.2 with line | heeded
      · exact absurd ⟨allowed, line⟩ work
      · exact heeded
    · exact heeded

theorem Happens.attended {world after : World} {event : Event} (happens : world.Happens event after)
    (enlisted : world.Enlisted) (idle : after.turn = none)
    (attended : world.turn = none → world.Attended) :
    after.Attended ∨ ∃ id, event = .drop id ∧ world.Deserts id := by
  have next := happens.enlisted enlisted
  cases happens with
  | nothing => exact .inl (attended idle)
  | proceeds found held turns =>
      exact .inl (proceed_attended world _ _ found held enlisted next turns idle attended)
  | drops found going resting =>
      refine (drop_attended world _ _ found going resting enlisted next (attended resting)).imp_right ?_
      exact fun deserts => ⟨_, rfl, deserts⟩
  | beside uncalled resting rouses =>
      exact .inl (beside_attended world event enlisted uncalled rouses next (attended resting))

theorem Deserts.lost {world : World} {id : Nat} (deserts : world.Deserts id)
    (enlisted : world.Enlisted) : ¬ (world.step (.drop id)).Attended := by
  obtain ⟨call, found, suspended⟩ := deserts.suspended
  have named := call_id world id call found
  have going : call.hasEnded = false := by
    revert suspended
    rw [Call.hasEnded]
    cases call.phase <;> simp [CallPhase.suspended]
  have dropped : world.step (.drop id) = world.drop call := by
    simp [step, admits, deserts.idle, act, found]
  obtain ⟨_, ready, target⟩ := world.frontier.cancel_shape call
  have others := drop_waits world call going enlisted (named.symm ▸ deserts.unpicked)
  obtain ⟨waiter, waits⟩ := deserts.waits
  have apart : waiter ≠ call.id := by
    intro same
    obtain ⟨other, present, phase, _⟩ := waits
    rw [same, named, found] at present
    cases present
    simp [phase, CallPhase.suspended] at suspended
  rw [dropped]
  intro attended
  have work : (world.drop call).HasWork := by
    have frontier : (world.drop call).frontier = world.frontier.cancel call := by
      simp [drop, going]
    rw [HasWork, frontier, target, ready]
    exact deserts.work
  obtain ⟨other, charge⟩ := attended work ⟨waiter, (others waiter).1.mpr ⟨apart, waits⟩⟩
  obtain ⟨away, before⟩ := (others other).2.mp charge
  exact away ((deserts.alone other before).trans named.symm)

theorem run_attended (setup : Setup) (events : List Event) (calm : Calm setup events)
    (ordered : ∀ event ∈ events, event.Ordered) (idle : (run setup events).turn = none)
    (lost : ¬ (run setup events).Attended) :
    ∃ earlier id later, events = earlier ++ .drop id :: later ∧ (run setup earlier).Deserts id ∧
      ∀ part, part <+: later → ¬ (run setup (earlier ++ .drop id :: part)).Attended := by
  revert calm ordered idle lost
  refine run_induction (motive := fun events world => Calm setup events →
    (∀ event ∈ events, event.Ordered) → world.turn = none → ¬ world.Attended →
      ∃ earlier id later, events = earlier ++ .drop id :: later ∧ (run setup earlier).Deserts id ∧
        ∀ part, part <+: later → ¬ (run setup (earlier ++ .drop id :: part)).Attended)
    setup ?_ ?_ events
  · intro _ _ _ lost
    refine absurd (fun work => ?_) lost
    cases work.1
  · intro events event ih calm ordered idle lost
    have before : ∀ other ∈ events, other.Ordered := fun other listed => ordered other (by simp [listed])
    by_cases attended : (run setup events).turn = none → (run setup events).Attended
    · have enlisted := run_enlisted setup events calm.earlier before
      have happens := step_happens _ event (run_kept setup events calm.earlier) enlisted
        (ordered event (by simp))
      obtain ⟨id, same, deserts⟩ := (happens.attended enlisted idle attended).resolve_left lost
      subst same
      refine ⟨events, id, [], rfl, deserts, fun part short => ?_⟩
      rw [List.prefix_nil.mp short, run_snoc]
      exact lost
    · obtain ⟨resting, unattended⟩ := Classical.not_imp.mp attended
      obtain ⟨earlier, id, later, whole, deserts, since⟩ :=
        ih calm.earlier before resting unattended
      refine ⟨earlier, id, later ++ [event], by simp [whole], deserts, fun part short => ?_⟩
      rcases List.prefix_concat_iff.mp short with now | short
      · rw [now, ← List.cons_append, ← List.append_assoc, ← whole, run_snoc]
        exact lost
      · exact since part short

theorem steady_outside : Outside Frontier.nobody fun before after => after.pulling = before.pulling where
  completing :=
    { refl := fun _ => rfl
      trans := fun _ _ _ one two => two.trans one
      route := fun _ _ => rfl
      store := fun _ _ _ => rfl
      add := fun _ _ _ _ => rfl
      file := fun _ _ _ => rfl
      count := fun _ => rfl
      publish := fun _ _ => rfl
      shelve := fun _ _ => rfl
      snooze := fun _ _ _ => rfl
      awaken := fun _ _ _ _ _ => rfl
      release := fun _ _ => rfl
      charge := fun _ _ => rfl
      alarm := fun _ _ => rfl
      tell := fun _ _ _ => rfl }
  permits :=
    { refl := fun _ => rfl
      trans := fun _ _ _ one two => two.trans one
      mark := fun _ _ _ => rfl
      retarget := fun _ _ _ _ _ => rfl
      notify := fun _ => rfl
      call := fun _ => rfl
      snooze := fun _ _ => rfl
      close := fun _ _ _ _ => rfl
      wake := fun frontier => congrArg Setting.pulling frontier.wake_stays.setting }
  fund _ _ := rfl
  offer _ _ := rfl
  pass _ _ := rfl

def Prompt (setup : Setup) (events : List Event) : Prop :=
  ∀ earlier, earlier <+: events → (run setup earlier).frontier.gateway.latency = 0

theorem Happens.prompt {world after : World} {event : Event} (happens : world.Happens event after)
    (enlisted : world.Enlisted) (fast : world.frontier.gateway.latency = 0)
    (free : world.frontier.pulling = false)
    (active : ∀ id call, world.call? id = some call → call.phase.suspended = false) :
    after.frontier.pulling = false ∧
      ∀ id call, after.call? id = some call → call.phase.suspended = false := by
  cases happens with
  | nothing => exact ⟨free, active⟩
  | @proceeds id call found held turns =>
      obtain ⟨still, awake⟩ := world.frontier.step_prompt call.id call.phase fast free
        (active id call found)
      refine ⟨still, fun other next present => ?_⟩
      rw [call_proceed] at present
      obtain ⟨old, was, same⟩ := Option.map_eq_some_iff.mp present
      rw [← same]
      split
      · exact awake
      · exact active other old was
  | @drops id call found going idle =>
      have frontier : (world.drop call).frontier = world.frontier.cancel call := by
        simp [drop, going]
      refine ⟨?_, fun other old present => active other old (call_drop world call old other present)⟩
      rw [frontier, Frontier.cancel]
      split
      · rfl
      · exact free
  | beside uncalled idle rouses =>
      have same := steady_outside.act world event uncalled (fun state _ => by
        obtain ⟨ready, snooze, shape⟩ := request_shape world.frontier state
        rw [shape]) fun _ no => no.elim
      refine ⟨same.trans free, fun id call found => ?_⟩
      rcases (call_beside world event enlisted uncalled id call).mp found with old | ⟨_, new, _⟩
      · exact active id call old
      · rw [new]
        rfl

theorem run_prompt (setup : Setup) (events : List Event) (calm : Calm setup events)
    (ordered : ∀ event ∈ events, event.Ordered) (prompt : Prompt setup events) :
    (run setup events).frontier.pulling = false ∧
      ∀ id call, (run setup events).call? id = some call → call.phase.suspended = false := by
  revert calm ordered prompt
  refine run_induction (motive := fun events world => Calm setup events →
    (∀ event ∈ events, event.Ordered) → Prompt setup events → world.frontier.pulling = false ∧
      ∀ id call, world.call? id = some call → call.phase.suspended = false) setup ?_ ?_ events
  · intro _ _ _
    exact ⟨rfl, fun id call found => by simp [start, call?] at found⟩
  · intro events event ih calm ordered prompt
    have before : ∀ other ∈ events, other.Ordered := fun other listed => ordered other (by simp [listed])
    obtain ⟨free, active⟩ := ih calm.earlier before fun earlier short =>
      prompt earlier (short.trans (List.prefix_append events [event]))
    have enlisted := run_enlisted setup events calm.earlier before
    have fast := prompt events (List.prefix_append events [event])
    have happens := step_happens _ event (run_kept setup events calm.earlier) enlisted
      (ordered event (by simp))
    exact happens.prompt enlisted fast free active

end World

/-- At every moment at which no call has its turn, keys are in line and may be handed out, and a call
waits without having been woken, some other call was woken or is in the middle of a pull, unless a call
was given up in the middle of a pull that was the only one in charge; from then on nobody was. Such a
call always takes its wakeup with it. Where the gateway takes no time, no call waits once there is work
and none can go on. When the crawl is to finish, nobody waits without having been woken. -/
theorem wakeups_reach_workers (setup : Setup) (events : List Event) (calm : Calm setup events)
    (ordered : ∀ event ∈ events, event.Ordered) :
    let world := World.run setup events
    (world.turn = none → world.Attended ∨
      ∃ earlier id later, events = earlier ++ .drop id :: later ∧
        (World.run setup earlier).Deserts id ∧
        ∀ part, part <+: later → ¬ (World.run setup (earlier ++ .drop id :: part)).Attended) ∧
      (∀ id, world.Deserts id → ¬ (World.run setup (events ++ [.drop id])).Attended) ∧
      (World.Prompt setup events → world.turn = none → world.HasWork →
        (∀ id call, world.call? id = some call → world.frontier.canStep call = false) →
          ∀ id call, world.call? id = some call → call.phase ≠ .waiting) ∧
      (world.frontier.target = .finish → ∀ id, ¬ world.Waits id) := by
  intro world
  have enlisted : world.Enlisted := World.run_enlisted setup events calm ordered
  have attends (idle : world.turn = none) := Classical.or_iff_not_imp_left.mpr
    (World.run_attended setup events calm ordered idle)
  refine ⟨attends, fun id deserts => ?_, fun prompt idle work stuck id call found phase => ?_,
    fun ends id ⟨_, _, _, waits⟩ => enlisted.finish ends id waits⟩
  · rw [World.run_snoc]
    exact deserts.lost enlisted
  · have active := (World.run_prompt setup events calm ordered prompt).2
    have attended : world.Attended := by
      refine (attends idle).resolve_right ?_
      rintro ⟨earlier, dropped, later, whole, deserts, _⟩
      obtain ⟨other, present, suspended⟩ := deserts.suspended
      have short : earlier <+: events := ⟨_, whole.symm⟩
      have awake := (World.run_prompt setup earlier (whole ▸ calm).earlier (fun event listed =>
        ordered event (short.subset listed)) fun part less => prompt part (less.trans short)).2
      rw [awake dropped other present] at suspended
      cases suspended
    obtain ⟨charged, other, present, suspended | picked⟩ :=
      attended work ⟨id, call, found, phase, enlisted.asleep found phase (stuck id call found)⟩
    · rw [active charged other present] at suspended
      cases suspended
    · -- Whoever was woken and is not in the middle of a pull can go on.
      have going := World.run_picked setup events idle enlisted charged other present
        (active charged other present) picked
      rw [stuck charged other present] at going
      cases going

-- Two workers wait while the crawl pauses, with a page in line. When it is to run one of them is woken,
-- and waits for the gateway.
def lonePull : List Event :=
  [.call, .proceed 0, .call, .proceed 1, .schedule (page "x.com" "1"), .proceed 0, .proceed 0,
    .request .run, .proceed 1, .proceed 1, .proceed 1, .proceed 1]

theorem wakeups_reach_workers_lone_pull :
    (World.run Setup.slow lonePull).Deserts 1 ∧
      ¬ (World.run Setup.slow (lonePull ++ [.drop 1])).Attended := by
  have calm : Calm Setup.slow lonePull := ⟨rfl, by simp [lonePull, Event.Calm]⟩
  have calls : (World.run Setup.slow lonePull).calls =
      [⟨0, .waiting⟩, ⟨1, .flushing (Time.millis 100) (Time.millis 30000)⟩] := rfl
  have enrolled : (World.run Setup.slow lonePull).frontier.readySignal.enrolled =
      [(0, .waiting), (1, .waiting)] := rfl
  have deserts : (World.run Setup.slow lonePull).Deserts 1 := by
    refine ⟨rfl, ⟨rfl, by decide⟩, ⟨0, _, rfl, rfl, by simp [enrolled]⟩, ⟨_, rfl, rfl⟩,
      by simp [enrolled], fun other charged => ?_⟩
    obtain ⟨call, found, suspended | picked⟩ := charged
    · have named := World.call_id _ other call found
      have member := List.mem_of_find?_eq_some found
      simp only [calls, List.mem_cons, List.not_mem_nil, or_false] at member
      rcases member with first | second
      · simp [first, CallPhase.suspended] at suspended
      · rw [← named, second]
    · simp [enrolled] at picked
  exact ⟨deserts, (wakeups_reach_workers Setup.slow lonePull calm
    (by simp [lonePull, Event.Ordered])).2.1 1 deserts⟩

-- The worker that was woken is gone, and the other waits on although there is a page for it.
theorem dropped_pull_takes_wakeup :
    (World.run Setup.slow (lonePull ++ [.drop 1])).turn = none ∧
      (World.run Setup.slow (lonePull ++ [.drop 1])).frontier.target = .run ∧
      (World.run Setup.slow (lonePull ++ [.drop 1])).frontier.ready = ["x.com"] ∧
      (World.run Setup.slow (lonePull ++ [.drop 1])).calls = [⟨0, .waiting⟩] ∧
      (World.run Setup.slow (lonePull ++ [.drop 1])).frontier.readySignal.enrolled =
        [(0, .waiting)] ∧
      ¬ (World.run Setup.slow (lonePull ++ [.drop 1])).Attended := by
  refine ⟨rfl, rfl, rfl, rfl, rfl, fun attended => ?_⟩
  obtain ⟨id, call, found, suspended | picked⟩ :=
    attended ⟨rfl, by decide⟩ ⟨0, _, rfl, rfl, List.mem_singleton.mpr rfl⟩
  · have member : call ∈ [⟨0, .waiting⟩] := List.mem_of_find?_eq_some found
    rw [List.mem_singleton] at member
    simp [member, CallPhase.suspended] at suspended
  · have member : (id, Wake.picked) ∈ [(0, .waiting)] := picked
    simp at member

end PoliteCrawl
