import PoliteCrawl.Frontier.Control
import PoliteCrawl.Proofs.Frontier.Call
import PoliteCrawl.Proofs.Frontier.Supervision
import PoliteCrawl.Proofs.Signal

set_option autoImplicit false

namespace PoliteCrawl

def CallPhase.enrolled : CallPhase → Bool
  | .entering => false
  | .done _ => false
  | .failed => false
  | _ => true

def CallPhase.suspended : CallPhase → Bool
  | .resting _ _ => true
  | .flushing _ _ => true
  | _ => false

namespace Frontier

structure Rouses (before after : Frontier) : Prop where
  stirs : Signal.Stirs (fun _ => True) before.readySignal after.readySignal
  roll : after.readySignal.roll = before.readySignal.roll
  line : after.ready ≠ [] → before.ready ≠ [] ∨ after.readySignal.Heeded
  target : after.target.allowsDispatch = true →
    before.target.allowsDispatch = true ∨ after.readySignal.Heeded
  finish : after.target = .finish → before.target = .finish ∨ after.readySignal.Silent

theorem Rouses.still {before after : Frontier} (signal : after.readySignal = before.readySignal)
    (line : after.ready = before.ready) (target : after.target = before.target) :
    before.Rouses after where
  stirs := signal ▸ .refl _
  roll := by rw [signal]
  line more := .inl (line ▸ more)
  target allowed := .inl (target ▸ allowed)
  finish ends := .inl (target ▸ ends)

theorem Rouses.trans {first second third : Frontier} (one : first.Rouses second)
    (two : second.Rouses third) : first.Rouses third := by
  have kept (heeded : second.readySignal.Heeded) : third.readySignal.Heeded :=
    heeded.stirs (fun _ => trivial) two.stirs
  refine ⟨one.stirs.trans two.stirs, two.roll.trans one.roll, fun more => ?_, fun allowed => ?_,
    fun ends => ?_⟩
  · rcases two.line more with earlier | heeded
    · exact (one.line earlier).imp_right kept
    · exact .inr heeded
  · rcases two.target allowed with earlier | heeded
    · exact (one.target earlier).imp_right kept
    · exact .inr heeded
  · rcases two.finish ends with earlier | silent
    · refine (one.finish earlier).imp_right fun silent id waits => ?_
      exact silent id (two.stirs.asleep id trivial waits)
    · exact .inr silent

theorem notify_rouses (before after : Frontier)
    (signal : after.readySignal = before.readySignal.notifyOne)
    (target : after.target = .finish → before.target = .finish) : before.Rouses after where
  stirs := signal ▸ Signal.notify_one_stirs _
  roll := by rw [signal, Signal.notify_one_roll]
  line _ := .inr (signal ▸ Signal.notify_one_heeded _)
  target _ := .inr (signal ▸ Signal.notify_one_heeded _)
  finish ends := .inl (target ends)

theorem call_rouses (before after : Frontier)
    (signal : after.readySignal = before.readySignal.notifyAll) : before.Rouses after := by
  have silent : after.readySignal.Silent := signal ▸ Signal.notify_all_silent _
  exact ⟨signal ▸ Signal.notify_all_stirs _, by rw [signal, Signal.notify_all_roll],
    fun _ => .inr (.inr silent), fun _ => .inr (.inr silent), fun _ => .inr silent⟩

theorem rouses_shelving : Shelving nobody Rouses where
  refl _ := .still rfl rfl rfl
  trans _ _ _ := .trans
  route _ _ := .still rfl rfl rfl
  store _ _ _ := .still rfl rfl rfl
  add _ _ _ _ := .still rfl rfl rfl
  file _ _ _ := .still rfl rfl rfl
  count _ := .still rfl rfl rfl
  publish _ _ := notify_rouses _ _ rfl id
  shelve _ _ := .still rfl rfl rfl

theorem rouses_dispatching : Dispatching nobody Rouses where
  toShelving := rouses_shelving
  hold _ _ _ _ := .still rfl rfl rfl
  release _ _ := .still rfl rfl rfl
  reclassify _ := .still rfl rfl rfl

theorem rouses_completing : Completing nobody Rouses where
  toShelving := rouses_shelving
  snooze _ _ _ := .still rfl rfl rfl
  awaken _ _ _ _ _ := .still rfl rfl rfl
  release _ _ := .still rfl rfl rfl
  charge _ _ := .still rfl rfl rfl
  alarm _ _ := .still rfl rfl rfl
  tell _ _ _ := .still rfl rfl rfl

theorem rouses_fetching : Fetching nobody Rouses where
  toPlacing := rouses_shelving.toPlacing
  take _ _ _ _ := .still rfl rfl rfl
  pull _ _ := .still rfl rfl rfl

theorem rouses_permits : Permits Rouses where
  refl := rouses_shelving.refl
  trans := rouses_shelving.trans
  mark frontier state _ := .still rfl rfl (mark_target frontier state)
  retarget frontier state _ unfinished allowed := by
    refine ⟨.refl _, rfl, .inl, fun goes => ?_, fun ends => absurd ends unfinished⟩
    rcases allowed with before | paused
    · exact .inl before
    · subst paused
      cases goes
  notify frontier := notify_rouses _ _ rfl id
  call frontier := call_rouses _ _ rfl
  snooze _ _ := .still rfl rfl rfl
  close _ _ _ _ := .still rfl rfl rfl
  wake := wake_dozed rouses_completing.toDozing

-- Only a crawl that is said to be empty may go on without anybody being woken.
theorem request_rouses (frontier : Frontier) (state : CrawlState) (named : state ≠ .empty) :
    frontier.Rouses (frontier.requestState state) := by
  rw [requestState]
  by_cases refused : frontier.target = .finish ∧ state ≠ .finish
  · rw [if_pos refused]
    exact .still rfl rfl rfl
  · rw [if_neg refused]
    by_cases same : frontier.target = state
    · simp only [if_pos same]
      exact .still rfl rfl same.symm
    · simp only [if_neg same]
      cases state with
      | empty => exact absurd rfl named
      | run => exact notify_rouses _ _ rfl (by simp [announce, setTarget, target])
      | finish => exact call_rouses _ _ rfl
      | hold | pause =>
          refine ⟨.refl _, rfl, .inl, fun allowed => ?_, fun ends => ?_⟩
          · cases allowed
          · cases ends

theorem collect_succeeds (frontier : Frontier) (id : Nat) (calm : frontier.Calm)
    (registered : frontier.Registered) : (frontier.collect id).2 ≠ .failed := by
  rw [collect]
  cases frontier.gateway.takeBatch with
  | error cause => simp
  | ok taken =>
      obtain ⟨gateway, handover⟩ := taken
      have received := (receive_all_proceeds { frontier with gateway } handover.uris calm
        ⟨registered.once, registered.ascending, registered.settled⟩).1
      simp only
      cases result : { frontier with gateway }.receiveAll handover.uris with
      | mk after answer =>
          rw [result] at received
          simp only at received
          subst received
          simp

theorem flush_succeeds (frontier : Frontier) (id : Nat) (calm : frontier.Calm)
    (registered : frontier.Registered) : (frontier.flush id).2 ≠ .failed := by
  rw [flush]
  split
  · exact collect_succeeds frontier id calm registered
  · simp

theorem pull_succeeds (frontier : Frontier) (id : Nat) (calm : frontier.Calm)
    (registered : frontier.Registered) : (frontier.pull id).2 ≠ .failed := by
  rw [pull]
  split
  · obtain ⟨found, activated, proceeds⟩ := activate_proceeds frontier calm registered
    cases result : frontier.activateInactive with
    | mk after answer =>
        rw [result] at activated proceeds
        simp only at activated
        subst activated
        cases found with
        | true => simp
        | false => exact flush_succeeds after id (proceeds.calm calm) proceeds.registered
  · exact flush_succeeds frontier id calm registered

theorem contend_succeeds (frontier : Frontier) (id attempt : Nat) (calm : frontier.Calm)
    (registered : frontier.Registered) : (frontier.contend id attempt).2 ≠ .failed := by
  rw [contend]
  split
  · exact pull_succeeds { frontier with pulling := true } id calm
      ⟨registered.once, registered.ascending, registered.settled⟩
  · split <;> simp

-- A call has its place on the roll just while it is enrolled, and nobody has two.
structure Listed (frontier : Frontier) (id : Nat) (phase : CallPhase) : Prop where
  once : frontier.readySignal.roll.Nodup
  enrolled : id ∈ frontier.readySignal.roll ↔ phase.enrolled = true

structure Turns (before : Frontier) (id : Nat) (old : CallPhase) (after : Frontier)
    (new : CallPhase) : Prop where
  others : Signal.Stirs (· ≠ id) before.readySignal after.readySignal
  listed : after.Listed id new
  -- A call that comes to rest is in the middle of a pull, or wakes another if there is work left.
  rests : new.awaits = true → (new = old ∧ after = before) ∨ new.suspended = true ∨
    (after.target.allowsDispatch = true → after.ready ≠ [] → after.readySignal.Heeded)
  finish : (before.target = .finish → before.readySignal.Silent) →
    after.target = .finish → after.readySignal.Silent

theorem Turns.same {frontier : Frontier} {id : Nat} {phase : CallPhase}
    (listed : frontier.Listed id phase) : frontier.Turns id phase frontier phase :=
  ⟨.refl _, listed, fun _ => .inl ⟨rfl, rfl⟩, fun silent => silent⟩

theorem Rouses.turns {before after : Frontier} {id : Nat} {old new : CallPhase}
    (rouses : before.Rouses after) (listed : before.Listed id old)
    (enrolled : new.enrolled = old.enrolled)
    (rests : new.awaits = true → new.suspended = true ∨
      (after.target.allowsDispatch = true → after.ready ≠ [] → after.readySignal.Heeded)) :
    before.Turns id old after new where
  others := rouses.stirs.fewer fun _ _ => trivial
  listed := ⟨rouses.roll ▸ listed.once, by rw [rouses.roll, enrolled, listed.enrolled]⟩
  rests awaits := .inr (rests awaits)
  finish silent ends := by
    intro waiter waits
    rcases rouses.finish ends with before | now
    · exact silent before waiter (rouses.stirs.asleep waiter trivial waits)
    · exact now waiter waits

theorem Pulled.turns {before : Frontier} {id : Nat} {old : CallPhase}
    {result : Frontier × CallPhase} (pulled : Pulled before.Rouses id result)
    (listed : before.Listed id old) (enrolled : old.enrolled = true) (going : result.2 ≠ .failed) :
    before.Turns id old result.1 result.2 := by
  cases pulled with
  | fails kept => exact absurd rfl going
  | polls progress kept => exact kept.turns listed enrolled.symm (by simp [CallPhase.awaits])
  | flushes due deadline kept => exact kept.turns listed enrolled.symm fun _ => .inl rfl
  | rests attempt until_ kept => exact kept.turns listed enrolled.symm fun _ => .inl rfl

theorem enter_turns (frontier : Frontier) (id : Nat) (listed : frontier.Listed id .entering) :
    frontier.Turns id .entering (frontier.enter id).1 (frontier.enter id).2 := by
  have others := frontier.readySignal.enrol_stirs id
  have away : id ∉ frontier.readySignal.roll := by
    rw [listed.enrolled]
    simp [CallPhase.enrolled]
  have roll := frontier.readySignal.enrol_roll id
  have once : (frontier.readySignal.enrol id).roll.Nodup := by
    rw [roll]
    exact listed.once.append (List.nodup_singleton id) (by simpa using away)
  have member : id ∈ (frontier.readySignal.enrol id).roll := by simp [roll]
  rw [enter]
  by_cases ends : frontier.target = .finish
  · have left := (frontier.readySignal.enrol id).leave_roll id
    have forbids : frontier.target.allowsDispatch ≠ true := by simp [ends, CrawlState.allowsDispatch]
    simp only [if_pos ends]
    refine ⟨others.trans (Signal.leave_stirs _ id), ⟨?_, ?_⟩, fun _ => .inr (.inr fun allowed => ?_),
      fun silent _ waiter waits => ?_⟩
    · exact left ▸ once.filter _
    · change id ∈ ((frontier.readySignal.enrol id).leave id).roll ↔ _
      simp [left, CallPhase.enrolled]
    · exact absurd allowed forbids
    · have listed : waiter ∈ ((frontier.readySignal.enrol id).leave id).roll :=
        List.mem_map_of_mem waits
      have other : waiter ≠ id := by
        rw [left] at listed
        simpa using (List.mem_filter.mp listed).2
      exact silent ends waiter ((others.trans (Signal.leave_stirs _ id)).asleep waiter other waits)
  · simp only [if_neg ends]
    by_cases allowed : frontier.target.allowsDispatch = true
    · simp only [if_pos allowed]
      exact ⟨others, ⟨once, by simpa [CallPhase.enrolled] using member⟩, by simp [CallPhase.awaits],
        fun _ again => absurd again ends⟩
    · simp only [if_neg allowed]
      exact ⟨others, ⟨once, by simpa [CallPhase.enrolled] using member⟩,
        fun _ => .inr (.inr fun now => absurd now allowed), fun _ again => absurd again ends⟩

theorem seek_turns (frontier : Frontier) (id : Nat) (listed : frontier.Listed id .seeking) :
    frontier.Turns id .seeking frontier frontier.seek := by
  have still : frontier.Rouses frontier := rouses_shelving.refl frontier
  rw [seek]
  by_cases forbids : (!frontier.target.allowsDispatch) = true
  · rw [if_pos forbids]
    refine still.turns listed rfl fun _ => .inr fun allowed => ?_
    rw [allowed] at forbids
    cases forbids
  · rw [if_neg forbids]
    split <;> exact still.turns listed rfl (by simp [CallPhase.awaits])

theorem awake_turns (frontier : Frontier) (id : Nat) (listed : frontier.Listed id .waiting) :
    frontier.Turns id .waiting (frontier.awake id).1 (frontier.awake id).2 := by
  rw [awake]
  by_cases woken : frontier.readySignal.isAwake id = true
  · have roll := frontier.readySignal.consume_roll id
    rw [if_pos woken]
    refine ⟨Signal.consume_stirs _ id, ⟨roll ▸ listed.once.filter _, ?_⟩, by simp [CallPhase.awaits],
      fun silent ends waiter waits => silent ends waiter (List.mem_of_mem_filter waits)⟩
    change id ∈ (frontier.readySignal.consume id).roll ↔ _
    simp [roll, CallPhase.enrolled]
  · rw [if_neg woken]
    exact .same listed

theorem hand_turns (before after : Frontier) (id : Nat) (progress : Bool) (uri : CrawlUri)
    (rouses : before.Rouses after) (listed : before.Listed id (.polling progress)) :
    before.Turns id (.polling progress) (after.hand id uri).1 (after.hand id uri).2 := by
  obtain ⟨passed, whole⟩ : ∃ passed, passed =
    if after.ready.isEmpty then after
    else { after with readySignal := after.readySignal.notifyOne } := ⟨_, rfl⟩
  have passes : before.Rouses passed ∧ passed.ready = after.ready ∧
      (passed.ready ≠ [] → passed.readySignal.Heeded) := by
    rw [whole]
    by_cases dry : after.ready.isEmpty = true
    · rw [if_pos dry]
      exact ⟨rouses, rfl, fun more => absurd (List.isEmpty_iff.mp dry) more⟩
    · rw [if_neg dry]
      exact ⟨rouses.trans (notify_rouses _ _ rfl fun ends => ends), rfl, fun _ => Signal.notify_one_heeded _⟩
  obtain ⟨kept, _, heeds⟩ := passes
  have once : passed.readySignal.roll.Nodup := kept.roll ▸ listed.once
  have left := passed.readySignal.leave_roll id
  simp only [hand, ← whole]
  refine ⟨(kept.stirs.fewer fun _ _ => trivial).trans (Signal.leave_stirs _ id), ⟨?_, ?_⟩,
    fun _ => .inr (.inr fun _ more => Signal.leave_heeded _ id (heeds more) once), ?_⟩
  · exact left ▸ once.filter _
  · change id ∈ (passed.readySignal.leave id).roll ↔ _
    simp [left, CallPhase.enrolled]
  · intro silent ends
    refine Signal.leave_silent _ id fun waiter waits => ?_
    rcases kept.finish ends with before | now
    · exact silent before waiter (kept.stirs.asleep waiter trivial waits)
    · exact now waiter waits

theorem poll_turns (frontier : Frontier) (id : Nat) (progress : Bool) (calm : frontier.Calm)
    (registered : frontier.Registered) (listed : frontier.Listed id (.polling progress)) :
    frontier.Turns id (.polling progress) (frontier.poll id progress).1
      (frontier.poll id progress).2 := by
  have still : frontier.Rouses frontier := rouses_shelving.refl frontier
  rw [poll]
  cases line : frontier.ready with
  | nil =>
      cases progress with
      | true => exact still.turns listed rfl (by simp [CallPhase.awaits])
      | false => exact still.turns listed rfl fun _ => .inr fun _ more => absurd line more
  | cons key rest =>
      obtain ⟨answer, dispatched, _⟩ := dispatch_proceeds frontier key rest calm registered line
      have taken : frontier.Rouses { frontier with ready := rest } :=
        ⟨.refl _, rfl, fun _ => .inl (by simp [line]), .inl, .inl⟩
      have rouses := taken.trans (dispatch_kept rouses_dispatching { frontier with ready := rest } key
        (fun no => no.elim) fun _ _ _ => .still rfl rfl rfl)
      simp only
      cases result : { frontier with ready := rest }.dispatchFrom key with
      | mk after found =>
          rw [result] at dispatched rouses
          simp only at dispatched
          subst dispatched
          cases answer with
          | none => exact rouses.turns listed rfl (by simp [CallPhase.awaits])
          | some uri => exact hand_turns frontier after id progress uri rouses listed

theorem step_turns (frontier : Frontier) (id : Nat) (phase : CallPhase) (calm : frontier.Calm)
    (registered : frontier.Registered) (listed : frontier.Listed id phase) :
    frontier.Turns id phase (frontier.stepPhase id phase).1 (frontier.stepPhase id phase).2 := by
  have still : frontier.Rouses frontier := rouses_shelving.refl frontier
  cases phase with
  | entering => exact enter_turns frontier id listed
  | seeking => exact seek_turns frontier id listed
  | contending attempt =>
      exact (contend_fetched rouses_fetching frontier id attempt).turns listed rfl
        (contend_succeeds frontier id attempt calm registered)
  | resting attempt until_ =>
      simp only [stepPhase]
      split
      · exact still.turns listed rfl (by simp [CallPhase.awaits])
      · exact .same listed
  | flushing due deadline =>
      simp only [stepPhase]
      split
      · exact (collect_fetched rouses_fetching frontier id).turns listed rfl
          (collect_succeeds frontier id calm registered)
      · split
        · have ends : frontier.Rouses frontier.endPull := .still rfl rfl rfl
          exact ends.turns listed rfl (by simp [CallPhase.awaits])
        · exact .same listed
  | polling progress => exact poll_turns frontier id progress calm registered listed
  | waiting => exact awake_turns frontier id listed
  | done answer => exact .same listed
  | failed => exact .same listed

theorem cancel_shape (frontier : Frontier) (call : Call) :
    (frontier.cancel call).readySignal = frontier.readySignal.leave call.id ∧
      (frontier.cancel call).ready = frontier.ready ∧
      (frontier.cancel call).target = frontier.target := by
  rw [cancel]
  split <;> exact ⟨rfl, rfl, rfl⟩

theorem collect_prompt (frontier : Frontier) (id : Nat) :
    (frontier.collect id).1.pulling = false ∧ (frontier.collect id).2.suspended = false := by
  rw [collect]
  cases frontier.gateway.takeBatch with
  | error cause => exact ⟨rfl, rfl⟩
  | ok taken =>
      obtain ⟨gateway, handover⟩ := taken
      simp only
      cases { frontier with gateway }.receiveAll handover.uris with
      | mk after answer => cases answer <;> exact ⟨rfl, rfl⟩

theorem pull_prompt (frontier : Frontier) (id : Nat) (prompt : frontier.gateway.latency = 0) :
    (frontier.pull id).1.pulling = false ∧ (frontier.pull id).2.suspended = false := by
  have flushed (base : Frontier) (same : base.gateway = frontier.gateway) :
      (base.flush id).1.pulling = false ∧ (base.flush id).2.suspended = false := by
    rw [flush, if_pos (same ▸ prompt)]
    exact collect_prompt base id
  rw [pull]
  by_cases may : frontier.mayActivate = true
  · have stays := activate_placed stays_dozing.toPlacing frontier
    rw [if_pos may]
    cases result : frontier.activateInactive with
    | mk after answer =>
        rw [result] at stays
        cases answer with
        | none => exact ⟨rfl, rfl⟩
        | some found =>
            cases found with
            | true => exact ⟨rfl, rfl⟩
            | false => exact flushed after (congrArg Setting.gateway stays.setting)
  · rw [if_neg may]
    exact flushed frontier rfl

theorem step_prompt (frontier : Frontier) (id : Nat) (phase : CallPhase)
    (prompt : frontier.gateway.latency = 0) (free : frontier.pulling = false)
    (active : phase.suspended = false) :
    (frontier.stepPhase id phase).1.pulling = false ∧
      (frontier.stepPhase id phase).2.suspended = false := by
  cases phase with
  | entering =>
      simp only [stepPhase, enter]
      split
      · exact ⟨free, rfl⟩
      · split <;> exact ⟨free, rfl⟩
  | seeking =>
      refine ⟨free, ?_⟩
      simp only [stepPhase, seek]
      split
      · rfl
      · split <;> rfl
  | contending attempt =>
      simp only [stepPhase, contend, free]
      exact pull_prompt _ id prompt
  | resting attempt until_ => cases active
  | flushing due deadline => cases active
  | polling progress =>
      have setting := frontier.poll_setting id progress
      refine ⟨(congrArg Setting.pulling setting).trans free, ?_⟩
      simp only [stepPhase, poll]
      split
      · split <;> rfl
      · split <;> rfl
  | waiting =>
      simp only [stepPhase, awake]
      split <;> exact ⟨free, rfl⟩
  | done answer => exact ⟨free, rfl⟩
  | failed => exact ⟨free, rfl⟩

end Frontier

end PoliteCrawl
