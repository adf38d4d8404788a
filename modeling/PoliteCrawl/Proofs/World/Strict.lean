import PoliteCrawl.Proofs.Frontier.Strict
import PoliteCrawl.Proofs.World.Losses

set_option autoImplicit false

namespace PoliteCrawl

namespace Strict

def collect (frontier : Frontier) (id : Nat) : Option (Frontier × CallPhase) :=
  match frontier.gateway.takeBatch with
  | .error _ => some (frontier.endPull, .polling false)
  | .ok (gateway, handover) =>
      (receiveAll { frontier with gateway } handover.uris).map fun
        | (frontier, none) => frontier.endPull.failCall id
        | (frontier, some _) => (frontier.endPull, .polling (handover.count ≠ 0))

def flush (frontier : Frontier) (id : Nat) : Option (Frontier × CallPhase) :=
  if frontier.gateway.latency = 0 then collect frontier id
  else
    some (frontier, .flushing (frontier.now + frontier.gateway.latency)
      (frontier.now + frontier.config.flushTimeout))

def pull (frontier : Frontier) (id : Nat) : Option (Frontier × CallPhase) :=
  if frontier.mayActivate then
    match activateInactive frontier with
    | none => none
    | some (frontier, none) => some (frontier.endPull.failCall id)
    | some (frontier, some true) => some (frontier.endPull, .polling true)
    | some (frontier, some false) => flush frontier id
  else flush frontier id

def contend (frontier : Frontier) (id attempt : Nat) : Option (Frontier × CallPhase) :=
  if !frontier.pulling then pull { frontier with pulling := true } id
  else some (frontier.contend id attempt)

def poll (frontier : Frontier) (id : Nat) (progress : Bool) : Option (Frontier × CallPhase) :=
  match frontier.ready with
  | [] => some (frontier, if progress then .seeking else .waiting)
  | key :: rest =>
      (dispatchFrom { frontier with ready := rest } key).map fun
        | (frontier, none) => frontier.failCall id
        | (frontier, some none) => (frontier, .seeking)
        | (frontier, some (some uri)) => frontier.hand id uri

def stepPhase (frontier : Frontier) (id : Nat) : CallPhase → Option (Frontier × CallPhase)
  | .contending attempt => contend frontier id attempt
  | .flushing due deadline =>
      if due ≤ frontier.now then collect frontier id
      else some (frontier.stepPhase id (.flushing due deadline))
  | .polling progress => poll frontier id progress
  | phase => some (frontier.stepPhase id phase)

def stepCall (frontier : Frontier) (call : Call) : Option (Frontier × Call) :=
  (stepPhase frontier call.id call.phase).map fun (frontier, phase) => (frontier, { call with phase })

theorem collect_agrees (frontier : Frontier) (id : Nat) :
    collect frontier id = some (frontier.collect id) := by
  rw [collect, Frontier.collect]
  cases frontier.gateway.takeBatch with
  | error cause => rfl
  | ok taken =>
      simp only [receive_all_agrees]
      rfl

theorem flush_agrees (frontier : Frontier) (id : Nat) :
    flush frontier id = some (frontier.flush id) := by
  rw [flush, Frontier.flush]
  split
  · exact collect_agrees frontier id
  · rfl

theorem pull_agrees (frontier : Frontier) (id : Nat) (tidy : frontier.Tidy) :
    pull frontier id = some (frontier.pull id) := by
  rw [pull, Frontier.pull]
  split
  · rw [activate_agrees frontier tidy]
    cases frontier.activateInactive with
    | mk after answer =>
        cases answer with
        | none => rfl
        | some found =>
            cases found with
            | true => rfl
            | false => exact flush_agrees after id
  · exact flush_agrees frontier id

theorem contend_agrees (frontier : Frontier) (id attempt : Nat) (tidy : frontier.Tidy) :
    contend frontier id attempt = some (frontier.contend id attempt) := by
  by_cases free : (!frontier.pulling) = true
  · have began : { frontier with pulling := true }.Tidy := ⟨tidy.once, tidy.ascending, tidy.neat⟩
    rw [contend, Frontier.contend, if_pos free, if_pos free]
    exact pull_agrees { frontier with pulling := true } id began
  · rw [contend, if_neg free]

theorem poll_agrees (frontier : Frontier) (id : Nat) (progress : Bool) (tidy : frontier.Tidy) :
    poll frontier id progress = some (frontier.poll id progress) := by
  rw [poll, Frontier.poll]
  cases line : frontier.ready with
  | nil => rfl
  | cons key rest =>
      simp only [dispatch_agrees frontier key rest tidy line]
      rfl

theorem step_phase_agrees (frontier : Frontier) (id : Nat) (phase : CallPhase)
    (tidy : frontier.Tidy) : stepPhase frontier id phase = some (frontier.stepPhase id phase) := by
  cases phase with
  | contending attempt => exact contend_agrees frontier id attempt tidy
  | polling progress => exact poll_agrees frontier id progress tidy
  | flushing due deadline =>
      by_cases here : due ≤ frontier.now
      · rw [stepPhase, Frontier.stepPhase, if_pos here, if_pos here]
        exact collect_agrees frontier id
      · rw [stepPhase, if_neg here]
  | _ => rfl

theorem step_call_agrees (frontier : Frontier) (call : Call) (tidy : frontier.Tidy) :
    stepCall frontier call = some (frontier.step call) := by
  rw [stepCall, step_phase_agrees frontier call.id call.phase tidy]
  rfl

def manageEmpty (frontier : Frontier) : Option (Frontier × StepEnd) :=
  if !frontier.isEmpty then some (frontier.setTarget .run, .rests 0)
  else
    (wakeQueues (frontier.markReached .empty)).map fun
      | (frontier, none) => (frontier, .failed)
      | (frontier, some _) => (frontier.notifyReady, .rests frontier.config.maxSleep)

def manageRun (frontier : Frontier) : Option (Frontier × StepEnd) :=
  if frontier.isEmpty then some (frontier.setTarget .empty, .rests 0)
  else
    (wakeQueues (frontier.markReached .run)).map fun
      | (frontier, none) => (frontier, .failed)
      | (frontier, some span) =>
          (if frontier.ready.isEmpty then frontier.notifyReady else frontier, .rests span)

def managementStep (frontier : Frontier) : Option (Frontier × StepEnd) :=
  match frontier.target with
  | .empty => manageEmpty frontier
  | .run => manageRun frontier
  | _ => some frontier.managementStep

def manage (frontier : Frontier) : Option (Frontier × Time.Span) :=
  (managementStep frontier).map fun
    | (frontier, .rests span) => (frontier, span)
    | (frontier, .refused _) => (frontier.forcePause, frontier.config.maxSleep)
    | (frontier, .failed) => (frontier.forcePause, frontier.config.maxSleep)

def superviseStep (frontier : Frontier) (id : Nat) : Option (Frontier × SupervisorPhase) :=
  if frontier.hasReached .finish then some (frontier, .ended)
  else
    (manage frontier).map fun (frontier, span) =>
      if frontier.hasReached .finish then (frontier, .ended)
      else if span = 0 then (frontier, .stepping)
      else
        ({ frontier with snoozeSignal := frontier.snoozeSignal.enrol id },
          .sleeping (frontier.now + span))

def supervise (frontier : Frontier) (supervisor : Supervisor) : Option (Frontier × Supervisor) :=
  match supervisor.phase with
  | .stepping =>
      (superviseStep frontier supervisor.id).map fun (frontier, phase) =>
        (frontier, { supervisor with phase })
  | _ => some (frontier.supervise supervisor)

def superviseTurn (frontier : Frontier) (supervisor : Supervisor) :
    Option (Frontier × Supervisor) :=
  match supervisor.phase with
  | .sleeping _ =>
      let (frontier, supervisor) := frontier.supervise supervisor
      supervise frontier supervisor
  | _ => supervise frontier supervisor

theorem management_agrees (frontier : Frontier) (tidy : frontier.Tidy) :
    managementStep frontier = some frontier.managementStep := by
  have marked (state : CrawlState) : (frontier.markReached state).Tidy :=
    ⟨tidy.once, tidy.ascending, tidy.neat⟩
  rw [managementStep, Frontier.managementStep]
  cases frontier.target with
  | empty =>
      simp only [manageEmpty, Frontier.manageEmpty, wake_agrees _ (marked .empty), Option.map_some]
      split <;> rfl
  | run =>
      simp only [manageRun, Frontier.manageRun, wake_agrees _ (marked .run), Option.map_some]
      split <;> rfl
  | _ => rfl

theorem manage_agrees (frontier : Frontier) (tidy : frontier.Tidy) :
    manage frontier = some frontier.manage := by
  rw [manage, Frontier.manage, management_agrees frontier tidy]
  rfl

theorem supervise_agrees (frontier : Frontier) (supervisor : Supervisor) (tidy : frontier.Tidy) :
    supervise frontier supervisor = some (frontier.supervise supervisor) := by
  have steps : superviseStep frontier supervisor.id =
      some (frontier.superviseStep supervisor.id) := by
    rw [superviseStep, Frontier.superviseStep, manage_agrees frontier tidy]
    split <;> rfl
  rw [supervise, Frontier.supervise]
  cases supervisor.phase with
  | stepping =>
      simp only [steps]
      rfl
  | _ => rfl

theorem turn_agrees (frontier : Frontier) (supervisor : Supervisor) (tidy : frontier.Tidy) :
    superviseTurn frontier supervisor = some (frontier.superviseTurn supervisor) := by
  rw [superviseTurn, Frontier.superviseTurn]
  cases phase : supervisor.phase with
  | sleeping until_ =>
      have woken : (frontier.supervise supervisor).1.Tidy := by
        simp only [Frontier.supervise, phase, Frontier.supervisePhase]
        split <;> exact ⟨tidy.once, tidy.ascending, tidy.neat⟩
      exact supervise_agrees _ _ woken
  | _ => exact supervise_agrees frontier supervisor tidy

def proceed (world : World) (call : Call) : Option World :=
  (stepCall world.frontier call).map fun (frontier, next) =>
    { world with
      frontier
      calls := world.calls.map fun old => if old.id = call.id then next else old
      turn := if next.phase.awaits then none else some call.id
      journal := world.journal ++ (world.frontier.stepEntries call.phase ++
        World.handEntries (call.phase.gain? next.phase)) }

def act (world : World) : Event → Option World
  | .schedule uri =>
      (schedule world.frontier uri).map fun (frontier, _) =>
        { world with frontier, journal := world.journal ++ [world.frontier.acceptEntry uri] }
  | .proceed id => (world.call? id).elim (some world) (proceed world)
  | .complete uri outcome =>
      (complete world.frontier uri outcome).map fun (frontier, _) =>
        { world with
          frontier
          journal := world.journal ++ World.completeEntries world.frontier uri outcome }
  | .unretire => (unretireQueues world.frontier).map fun (frontier, _) => { world with frontier }
  | .manage => (managementStep world.frontier).map fun (frontier, _) => { world with frontier }
  | .supervise id =>
      (world.supervisor? id).elim (some world) fun supervisor =>
        (superviseTurn world.frontier supervisor).map fun (frontier, next) =>
          { world with
            frontier
            supervisors := world.supervisors.map fun old =>
              if old.id = supervisor.id then next else old }
  | event => some (world.act event)

def step (world : World) (event : Event) : Option World :=
  if world.admits event then act world event else some world

def run (setup : Setup) (events : List Event) : Option World :=
  events.foldlM step (World.start setup)

theorem act_agrees (world : World) (event : Event) (tidy : world.frontier.Tidy) :
    act world event = some (world.act event) := by
  cases event with
  | schedule uri =>
      rw [act, schedule_agrees]
      rfl
  | proceed id =>
      rw [act, World.act]
      cases world.call? id with
      | none => rfl
      | some call =>
          simp only [Option.elim, proceed, step_call_agrees world.frontier call tidy]
          rfl
  | complete uri outcome =>
      rw [act, complete_agrees world.frontier uri outcome tidy]
      rfl
  | unretire =>
      rw [act, unretire_agrees world.frontier tidy]
      rfl
  | manage =>
      rw [act, management_agrees world.frontier tidy]
      rfl
  | supervise id =>
      rw [act, World.act]
      cases world.supervisor? id with
      | none => rfl
      | some supervisor =>
          simp only [Option.elim, turn_agrees world.frontier supervisor tidy]
          rfl
  | _ => rfl

theorem step_agrees (world : World) (event : Event) (tidy : world.frontier.Tidy) :
    step world event = some (world.step event) := by
  rw [step, World.step]
  split
  · exact act_agrees world event tidy
  · rfl

end Strict

/-- No run of a frontier comes to a branch that is there for mistakes of its own, whatever happens in
which order, and even if the routing fails: every move of a queue between states is legal, every key that
is taken from a register has a queue in the state that the register stands for, no queue is claimed that
is claimed already, and every claimed queue has a first URI that is found in it. A frontier that stops at
the first such mistake runs to the end, and ends where the other one does. -/
theorem nothing_is_amiss (setup : Setup) (events : List Event) :
    Strict.run setup events = some (World.run setup events) := by
  have goes (events : List Event) (event : Event)
      (same : Strict.run setup events = some (World.run setup events)) :
      Strict.run setup (events ++ [event]) = some ((World.run setup events).step event) := by
    have agrees := Strict.step_agrees _ event (World.run_tidy setup events)
    rw [Strict.run, List.foldlM_append, ← Strict.run, same]
    simp [agrees]
  exact World.run_induction (motive := fun events world => Strict.run setup events = some world) setup
    rfl goes events

-- It would stop: here the first key that is ready has no queue.
example : Strict.poll { (World.start Setup.plain).frontier with ready := ["a.com"] } 0 false = none :=
  rfl

end PoliteCrawl
