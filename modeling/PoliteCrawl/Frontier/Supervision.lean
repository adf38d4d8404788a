import PoliteCrawl.Frontier.Completion
import PoliteCrawl.Frontier.Control

set_option autoImplicit false

namespace PoliteCrawl

inductive StepEnd where
  | rests (span : Time.Span)
  | refused (cause : FrontierError)
  | failed
deriving DecidableEq, Repr

inductive SupervisorPhase where
  | stepping
  | sleeping (until_ : Time.Instant)
  | ended
deriving DecidableEq, Repr

structure Supervisor where
  id : Nat
  phase : SupervisorPhase
deriving DecidableEq, Repr

def Supervisor.start (id : Nat) : Supervisor :=
  { id, phase := .stepping }

namespace Frontier

def wakeQueue (frontier : Frontier) (key : String) : Frontier × Option Unit :=
  match frontier.queue? key with
  | none => (frontier, some ())
  | some queue =>
      if queue.state = .snoozed then
        let queue := queue.setWakeTime none
        let frontier := frontier.store queue
        if queue.isEmpty then (frontier.markExhausted queue, some ())
        else
          match frontier.reenqueue queue with
          | (frontier, none) => (frontier, none)
          | (frontier, some placement) => (frontier.place key placement, some ())
      else (frontier, some ())

-- Puts a queue back to sleep whose waking failed; it is due at once.
def resnooze (frontier : Frontier) (key : String) : Frontier :=
  match frontier.queue? key with
  | none => frontier
  | some queue =>
      if queue.state = .snoozed then
        (frontier.store (queue.setWakeTime (some frontier.now))).snooze key frontier.now
      else frontier

def wakeDue (frontier : Frontier) : Snoozed → Frontier × Option Unit
  | [] => (frontier, some ())
  | entry :: rest =>
      if entry.wake ≤ frontier.now then
        match { frontier with snoozed := rest }.wakeQueue entry.key with
        | (frontier, none) => (frontier.resnooze entry.key, none)
        | (frontier, some _) => frontier.wakeDue rest
      else (frontier, some ())

def untilNextWake (frontier : Frontier) : Time.Span :=
  match Snoozed.nextWake? frontier.snoozed with
  | some wake => min (wake - frontier.now) frontier.config.maxSleep
  | none => frontier.config.maxSleep

def wakeQueues (frontier : Frontier) : Frontier × Option Time.Span :=
  match frontier.wakeDue frontier.snoozed with
  | (frontier, none) => (frontier, none)
  | (frontier, some _) => (frontier, some frontier.untilNextWake)

def markReached (frontier : Frontier) (state : CrawlState) : Frontier :=
  { frontier with cell := (frontier.cell.markReached state).1 }

def notifyReady (frontier : Frontier) : Frontier :=
  { frontier with readySignal := frontier.readySignal.notifyOne }

def manageEmpty (frontier : Frontier) : Frontier × StepEnd :=
  if !frontier.isEmpty then (frontier.setTarget .run, .rests 0)
  else
    match (frontier.markReached .empty).wakeQueues with
    | (frontier, none) => (frontier, .failed)
    | (frontier, some _) => (frontier.notifyReady, .rests frontier.config.maxSleep)

def manageRun (frontier : Frontier) : Frontier × StepEnd :=
  if frontier.isEmpty then (frontier.setTarget .empty, .rests 0)
  else
    match (frontier.markReached .run).wakeQueues with
    | (frontier, none) => (frontier, .failed)
    | (frontier, some span) =>
        (if frontier.ready.isEmpty then frontier.notifyReady else frontier, .rests span)

def managePause (frontier : Frontier) : Frontier × StepEnd :=
  (if frontier.claims.isEmpty then frontier.markReached .pause else frontier,
    .rests frontier.config.maxSleep)

def markFinished (frontier : Frontier) : Frontier :=
  let marked := frontier.markReached .finish
  { marked with readySignal := marked.readySignal.notifyAll }

def manageFinish (frontier : Frontier) : Frontier × StepEnd :=
  if !frontier.claims.isEmpty then (frontier, .rests frontier.config.maxSleep)
  else
    match frontier.gateway.close with
    | .ok gateway => ({ frontier with gateway }.markFinished, .rests 0)
    | .error cause => (frontier.markFinished, .refused (.finalization cause.message))

def managementStep (frontier : Frontier) : Frontier × StepEnd :=
  match frontier.target with
  | .empty => frontier.manageEmpty
  | .run => frontier.manageRun
  | .hold => frontier.managePause
  | .pause => frontier.managePause
  | .finish => frontier.manageFinish

def forcePause (frontier : Frontier) : Frontier :=
  if frontier.target = .finish then frontier else frontier.setTarget .pause

def manage (frontier : Frontier) : Frontier × Time.Span :=
  match frontier.managementStep with
  | (frontier, .rests span) => (frontier, span)
  | (frontier, .refused _) => (frontier.forcePause, frontier.config.maxSleep)
  | (frontier, .failed) => (frontier.forcePause, frontier.config.maxSleep)

def superviseStep (frontier : Frontier) (id : Nat) : Frontier × SupervisorPhase :=
  if frontier.hasReached .finish then (frontier, .ended)
  else
    let (frontier, span) := frontier.manage
    if frontier.hasReached .finish then (frontier, .ended)
    else if span = 0 then (frontier, .stepping)
    else
      ({ frontier with snoozeSignal := frontier.snoozeSignal.enrol id },
        .sleeping (frontier.now + span))

def canSupervise (frontier : Frontier) (supervisor : Supervisor) : Bool :=
  match supervisor.phase with
  | .stepping => true
  | .sleeping until_ =>
      until_ ≤ frontier.now || frontier.snoozeSignal.isAwake supervisor.id
  | .ended => false

def supervisePhase (frontier : Frontier) (id : Nat) :
    SupervisorPhase → Frontier × SupervisorPhase
  | .stepping => frontier.superviseStep id
  | .sleeping until_ =>
      if frontier.snoozeSignal.isAwake id || until_ ≤ frontier.now then
        ({ frontier with snoozeSignal := frontier.snoozeSignal.consume id }, .stepping)
      else (frontier, .sleeping until_)
  | .ended => (frontier, .ended)

def supervise (frontier : Frontier) (supervisor : Supervisor) : Frontier × Supervisor :=
  let (frontier, phase) := frontier.supervisePhase supervisor.id supervisor.phase
  (frontier, { supervisor with phase })

def superviseTurn (frontier : Frontier) (supervisor : Supervisor) : Frontier × Supervisor :=
  match supervisor.phase with
  | .sleeping _ =>
      let (frontier, supervisor) := frontier.supervise supervisor
      frontier.supervise supervisor
  | _ => frontier.supervise supervisor

end Frontier

def Supervisor.timer? (supervisor : Supervisor) : Option Time.Instant :=
  match supervisor.phase with
  | .sleeping until_ => some until_
  | _ => none

end PoliteCrawl
