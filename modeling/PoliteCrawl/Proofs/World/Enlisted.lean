import PoliteCrawl.Proofs.Frontier.Rousing
import PoliteCrawl.Proofs.World.Acting
import PoliteCrawl.Proofs.World.Turns

set_option autoImplicit false

namespace PoliteCrawl

namespace Frontier

theorem rouses_outside : World.Outside nobody Rouses where
  completing := rouses_completing
  permits := rouses_permits
  fund _ _ := .still rfl rfl rfl
  offer _ _ := .still rfl rfl rfl
  pass _ _ := .still rfl rfl rfl

end Frontier

-- Nobody declares a crawl empty that may not be.
def Event.Ordered : Event → Prop
  | .request state => state ≠ .empty
  | _ => True

namespace World

structure Enlisted (world : World) : Prop where
  fresh : ∀ call ∈ world.calls, call.id < world.nextId
  once : world.frontier.readySignal.roll.Nodup
  roll : ∀ id, id ∈ world.frontier.readySignal.roll ↔
    ∃ call, world.call? id = some call ∧ call.phase.enrolled = true
  turn : ∀ id, world.turn = some id → ∃ call, world.call? id = some call ∧ call.phase.awaits = false
  finish : world.frontier.target = .finish → world.frontier.readySignal.Silent

theorem Enlisted.listed {world : World} {id : Nat} {call : Call} (enlisted : world.Enlisted)
    (found : world.call? id = some call) : world.frontier.Listed call.id call.phase := by
  refine ⟨enlisted.once, (enlisted.roll call.id).trans ?_⟩
  rw [call_id world id call found, found]
  simp

theorem start_enlisted (setup : Setup) : (start setup).Enlisted where
  fresh call listed := by simp [start] at listed
  once := by simp [start, Frontier.new, Signal.new, Signal.roll]
  roll id := by simp [start, Frontier.new, Signal.new, Signal.roll, call?]
  turn id turn := by simp [start] at turn
  finish ends := by simp [start, Frontier.new, Frontier.target, StateCell.new] at ends

theorem proceed_enlisted (world : World) (id : Nat) (call : Call) (found : world.call? id = some call)
    (enlisted : world.Enlisted)
    (turns : world.frontier.Turns call.id call.phase (world.frontier.step call).1
      (world.frontier.step call).2.phase) : (world.proceed call).Enlisted := by
  have named := call_id world id call found
  have own : (world.proceed call).call? call.id = some (world.frontier.step call).2 := by
    rw [call_proceed, named, found]
    simp [named]
  refine ⟨fun other listed => ?_, turns.listed.once, fun other => ?_, fun other turn => ?_,
    turns.finish enlisted.finish⟩
  · obtain ⟨old, before, same⟩ := List.mem_map.mp listed
    have kept : other.id = old.id := by
      rw [← same]
      split
      · exact Eq.symm (by assumption)
      · rfl
    exact kept ▸ enlisted.fresh old before
  · by_cases mine : other = call.id
    · subst mine
      refine turns.listed.enrolled.trans ?_
      rw [own]
      simp
    · refine (turns.others.roll other mine).trans ((enlisted.roll other).trans ?_)
      have apart (old : Call) (before : world.call? other = some old) : old.id ≠ call.id :=
        call_id world other old before ▸ mine
      rw [call_proceed]
      cases before : world.call? other with
      | none => simp
      | some old => simp [apart old before]
  · simp only [proceed] at turn
    by_cases awaits : (world.frontier.step call).2.phase.awaits = true
    · simp [awaits] at turn
    · simp only [if_neg awaits, Option.some.injEq] at turn
      exact ⟨_, turn ▸ own, by simpa using awaits⟩

theorem call_dropped (world : World) (call : Call) (id : Nat) (going : call.hasEnded = false) :
    (world.drop call).call? id = if id = call.id then none else world.call? id := by
  rw [drop, if_neg (by simp [going])]
  simp only [call?, List.find?_filter]
  by_cases same : id = call.id
  · simp [same]
  · simp only [if_neg same]
    congr 1
    funext old
    by_cases here : old.id = id
    · simp [here, same]
    · simp [here]

theorem drop_enlisted (world : World) (call : Call) (going : call.hasEnded = false)
    (enlisted : world.Enlisted) (idle : world.turn = none) : (world.drop call).Enlisted := by
  obtain ⟨signal, _, target⟩ := world.frontier.cancel_shape call
  have frontier : (world.drop call).frontier = world.frontier.cancel call := by
    simp [drop, going]
  have left := world.frontier.readySignal.leave_roll call.id
  refine ⟨fun other listed => ?_, ?_, fun other => ?_, fun other turn => ?_, fun ends => ?_⟩
  · simp only [drop, going] at listed ⊢
    exact enlisted.fresh other (List.mem_of_mem_filter listed)
  · rw [frontier, signal, left]
    exact enlisted.once.filter _
  · rw [frontier, signal, left, call_dropped world call other going]
    by_cases same : other = call.id
    · simp [same]
    · simp [same, enlisted.roll]
  · simp [drop, going, idle] at turn
  · rw [frontier, target] at ends
    rw [frontier, signal]
    exact Signal.leave_silent _ _ (enlisted.finish ends)

theorem act_beside (world : World) (event : Event)
    (uncalled : ∀ id, event ≠ .proceed id ∧ event ≠ .drop id) :
    (world.act event).turn = world.turn ∧ world.nextId ≤ (world.act event).nextId ∧
      ((world.act event).calls = world.calls ∨
        (world.act event).calls = world.calls ++ [Call.start world.nextId] ∧
          world.nextId < (world.act event).nextId) := by
  cases event with
  | proceed id => exact absurd rfl (uncalled id).1
  | drop id => exact absurd rfl (uncalled id).2
  | supervise id =>
      simp only [act]
      cases world.supervisor? id <;> exact ⟨rfl, Nat.le_refl _, .inl rfl⟩
  | call => exact ⟨rfl, Nat.le_succ _, .inr ⟨rfl, Nat.lt_succ_self _⟩⟩
  | hire => exact ⟨rfl, Nat.le_succ _, .inl rfl⟩
  | _ => exact ⟨rfl, Nat.le_refl _, .inl rfl⟩

theorem call_beside (world : World) (event : Event) (enlisted : world.Enlisted)
    (uncalled : ∀ id, event ≠ .proceed id ∧ event ≠ .drop id) (id : Nat) (call : Call) :
    (world.act event).call? id = some call ↔
      world.call? id = some call ∨
        (id = world.nextId ∧ call = Call.start world.nextId ∧
          (world.act event).calls ≠ world.calls) := by
  obtain ⟨_, _, same | ⟨added, _⟩⟩ := act_beside world event uncalled
  · simp [call?, same]
  · simp only [call?, added, List.find?_append]
    cases before : world.calls.find? (·.id = id) with
    | some old =>
        have older := enlisted.fresh old (List.mem_of_find?_eq_some before)
        have named : old.id = id := by simpa using List.find?_some before
        rw [named] at older
        simp [Nat.ne_of_lt older]
    | none =>
        by_cases new : world.nextId = id
        · simp [Call.start, new, eq_comm]
        · simp [Call.start, new, Ne.symm new]

theorem beside_enlisted (world : World) (event : Event) (enlisted : world.Enlisted)
    (uncalled : ∀ id, event ≠ .proceed id ∧ event ≠ .drop id) (idle : world.turn = none)
    (rouses : world.frontier.Rouses (world.act event).frontier) : (world.act event).Enlisted := by
  obtain ⟨turn, later, calls⟩ := act_beside world event uncalled
  refine ⟨fun call listed => ?_, rouses.roll ▸ enlisted.once, fun id => ?_, fun id turned => ?_,
    fun ends => ?_⟩
  · rcases calls with same | ⟨added, next⟩
    · exact Nat.lt_of_lt_of_le (enlisted.fresh call (same ▸ listed)) later
    · rw [added, List.mem_append, List.mem_singleton] at listed
      rcases listed with before | new
      · exact Nat.lt_of_lt_of_le (enlisted.fresh call before) later
      · exact new ▸ next
  · rw [rouses.roll, enlisted.roll]
    refine exists_congr fun call => ?_
    rw [call_beside world event enlisted uncalled]
    constructor
    · exact fun ⟨found, enrolled⟩ => ⟨.inl found, enrolled⟩
    · rintro ⟨found | ⟨_, new, _⟩, enrolled⟩
      · exact ⟨found, enrolled⟩
      · simp [new, Call.start, CallPhase.enrolled] at enrolled
  · rw [turn, idle] at turned
    cases turned
  · intro waiter waits
    rcases rouses.finish ends with before | now
    · exact enlisted.finish before waiter (rouses.stirs.asleep waiter trivial waits)
    · exact now waiter waits

inductive Happens (world : World) : Event → World → Prop where
  | nothing {event : Event} : Happens world event world
  | proceeds {id : Nat} {call : Call} (found : world.call? id = some call)
      (held : ∀ other, world.turn = some other → other = id)
      (turns : world.frontier.Turns call.id call.phase (world.frontier.step call).1
        (world.frontier.step call).2.phase) : Happens world (.proceed id) (world.proceed call)
  | drops {id : Nat} {call : Call} (found : world.call? id = some call)
      (going : call.hasEnded = false) (idle : world.turn = none) :
      Happens world (.drop id) (world.drop call)
  | beside {event : Event} (uncalled : ∀ id, event ≠ .proceed id ∧ event ≠ .drop id)
      (idle : world.turn = none) (rouses : world.frontier.Rouses (world.act event).frontier) :
      Happens world event (world.act event)

theorem step_happens {origin : Gateway} (world : World) (event : Event)
    (kept : Kept origin world.frontier world.journal) (enlisted : world.Enlisted)
    (ordered : event.Ordered) : world.Happens event (world.step event) := by
  rw [step]
  by_cases admitted : world.admits event = true
  · rw [if_pos admitted]
    have idle (other : ∀ id, event ≠ .proceed id) : world.turn = none := by
      cases turn : world.turn with
      | none => rfl
      | some id => simp [admits, turn, other id] at admitted
    by_cases uncalled : ∀ id, event ≠ .proceed id ∧ event ≠ .drop id
    · refine .beside uncalled (idle fun id => (uncalled id).1) ?_
      refine Frontier.rouses_outside.act world event uncalled (fun state same => ?_)
        fun _ no => no.elim
      subst same
      exact world.frontier.request_rouses state ordered
    · cases event with
      | proceed id =>
          simp only [act]
          cases found : world.call? id with
          | none => exact .nothing
          | some call =>
              exact .proceeds found (fun other turn => by simpa [admits, turn, eq_comm] using admitted)
                (world.frontier.step_turns call.id call.phase kept.calm kept.registered
                  (enlisted.listed found))
      | drop id =>
          simp only [act]
          cases found : world.call? id with
          | none => exact .nothing
          | some call =>
              by_cases ended : call.hasEnded = true
              · simp only [Option.elim, drop, if_pos ended]
                exact .nothing
              · exact .drops found (by simpa using ended) (idle (by simp))
      | _ => exact absurd (by simp) uncalled
  · rw [if_neg admitted]
    exact .nothing

theorem Happens.enlisted {world after : World} {event : Event} (happens : world.Happens event after)
    (enlisted : world.Enlisted) : after.Enlisted := by
  cases happens with
  | nothing => exact enlisted
  | proceeds found _ turns => exact proceed_enlisted world _ _ found enlisted turns
  | drops found going idle => exact drop_enlisted world _ going enlisted idle
  | beside uncalled idle rouses => exact beside_enlisted world event enlisted uncalled idle rouses

theorem run_enlisted (setup : Setup) (events : List Event) (calm : Calm setup events)
    (ordered : ∀ event ∈ events, event.Ordered) : (run setup events).Enlisted := by
  refine run_induction (motive := fun events world => Calm setup events →
    (∀ event ∈ events, event.Ordered) → world.Enlisted) setup ?_ ?_ events calm ordered
  · exact fun _ _ => start_enlisted setup
  · intro events event ih calm ordered
    have enlisted := ih calm.earlier fun other listed => ordered other (by simp [listed])
    exact (step_happens _ event (run_kept setup events calm.earlier) enlisted
      (ordered event (by simp))).enlisted enlisted

end World

end PoliteCrawl
