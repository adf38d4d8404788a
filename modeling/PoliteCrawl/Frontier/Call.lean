import PoliteCrawl.Frontier.Activation
import PoliteCrawl.Frontier.Dispatch

set_option autoImplicit false

namespace PoliteCrawl

-- A call is a machine of small steps. Between two of them anything else may happen; it stays where
-- it is while it waits for the signal, for a flush or out of courtesy to another that pulls.
inductive CallPhase where
  | entering
  | seeking
  -- About to try to pull more work, for the given time after the first.
  | contending (attempt : Nat)
  | resting (attempt : Nat) (until_ : Time.Instant)
  -- Pulls, and waits for a flush that hands over at a time unless it is given up before.
  | flushing (due deadline : Time.Instant)
  | polling (progress : Bool)
  | waiting
  | done (answer : Option CrawlUri)
  | failed
deriving DecidableEq, Repr

structure Call where
  id : Nat
  phase : CallPhase
deriving DecidableEq, Repr

namespace Call

def start (id : Nat) : Call :=
  { id, phase := .entering }

def hasEnded (call : Call) : Bool :=
  match call.phase with
  | .done _ => true
  | .failed => true
  | _ => false

def timer? (call : Call) : Option Time.Instant :=
  match call.phase with
  | .resting _ until_ => some until_
  | .flushing due deadline => some (min due deadline)
  | _ => none

def turnBound : Nat := Nat.pow 2 30

end Call

namespace Frontier

def canStep (frontier : Frontier) (call : Call) : Bool :=
  match call.phase with
  | .resting _ until_ => until_ ≤ frontier.now
  | .flushing due deadline => due ≤ frontier.now || deadline ≤ frontier.now
  | .waiting => frontier.readySignal.isAwake call.id
  | .done _ => false
  | .failed => false
  | _ => true

def leaveReady (frontier : Frontier) (id : Nat) : Frontier :=
  { frontier with readySignal := frontier.readySignal.leave id }

def endPull (frontier : Frontier) : Frontier :=
  { frontier with pulling := false }

def failCall (frontier : Frontier) (id : Nat) : Frontier × CallPhase :=
  (frontier.leaveReady id, .failed)

def collect (frontier : Frontier) (id : Nat) : Frontier × CallPhase :=
  match frontier.gateway.takeBatch with
  | .error _ => (frontier.endPull, .polling false)
  | .ok (gateway, handover) =>
      match { frontier with gateway }.receiveAll handover.uris with
      | (frontier, none) => frontier.endPull.failCall id
      | (frontier, some _) => (frontier.endPull, .polling (handover.count ≠ 0))

def flush (frontier : Frontier) (id : Nat) : Frontier × CallPhase :=
  if frontier.gateway.latency = 0 then frontier.collect id
  else
    (frontier, .flushing (frontier.now + frontier.gateway.latency)
      (frontier.now + frontier.config.flushTimeout))

def mayActivate (frontier : Frontier) : Bool :=
  frontier.tiers.size ≠ 0 && frontier.tiers.watermark < frontier.config.precedenceFloor

def pull (frontier : Frontier) (id : Nat) : Frontier × CallPhase :=
  if frontier.mayActivate then
    match frontier.activateInactive with
    | (frontier, none) => frontier.endPull.failCall id
    | (frontier, some true) => (frontier.endPull, .polling true)
    | (frontier, some false) => frontier.flush id
  else frontier.flush id

-- One at a time may pull. Another one tries again after a pause, unless there is something ready or it
-- has tried often enough.
def contend (frontier : Frontier) (id attempt : Nat) : Frontier × CallPhase :=
  if !frontier.pulling then { frontier with pulling := true }.pull id
  else if attempt = frontier.config.pullContentionRetries || !frontier.ready.isEmpty then
    (frontier, .polling false)
  else
    (frontier, .resting attempt (frontier.now + frontier.config.pullContentionBackoff))

-- Enrols before it looks at anything, so that no wakeup is missed.
def enter (frontier : Frontier) (id : Nat) : Frontier × CallPhase :=
  let enrolled := { frontier with readySignal := frontier.readySignal.enrol id }
  if frontier.target = .finish then (enrolled.leaveReady id, .done none)
  else if frontier.target.allowsDispatch then (enrolled, .seeking)
  else (enrolled, .waiting)

def seek (frontier : Frontier) : CallPhase :=
  if !frontier.target.allowsDispatch then .waiting
  else if frontier.ready.length < frontier.config.pullTriggerLevel then .contending 0
  else .polling false

def hand (frontier : Frontier) (id : Nat) (uri : CrawlUri) : Frontier × CallPhase :=
  let passed :=
    if frontier.ready.isEmpty then frontier
    else { frontier with readySignal := frontier.readySignal.notifyOne }
  (passed.leaveReady id, .done (some uri))

def poll (frontier : Frontier) (id : Nat) (progress : Bool) : Frontier × CallPhase :=
  match frontier.ready with
  | [] => (frontier, if progress then .seeking else .waiting)
  | key :: rest =>
      match { frontier with ready := rest }.dispatchFrom key with
      | (frontier, none) => frontier.failCall id
      | (frontier, some none) => (frontier, .seeking)
      | (frontier, some (some uri)) => frontier.hand id uri

def awake (frontier : Frontier) (id : Nat) : Frontier × CallPhase :=
  if frontier.readySignal.isAwake id then
    ({ frontier with readySignal := frontier.readySignal.consume id }, .entering)
  else (frontier, .waiting)

def stepPhase (frontier : Frontier) (id : Nat) : CallPhase → Frontier × CallPhase
  | .entering => frontier.enter id
  | .seeking => (frontier, frontier.seek)
  | .contending attempt => frontier.contend id attempt
  | .resting attempt until_ =>
      if until_ ≤ frontier.now then (frontier, .contending (attempt + 1))
      else (frontier, .resting attempt until_)
  | .flushing due deadline =>
      if due ≤ frontier.now then frontier.collect id
      else if deadline ≤ frontier.now then (frontier.endPull, .polling false)
      else (frontier, .flushing due deadline)
  | .polling progress => frontier.poll id progress
  | .waiting => frontier.awake id
  | .done answer => (frontier, .done answer)
  | .failed => (frontier, .failed)

def step (frontier : Frontier) (call : Call) : Frontier × Call :=
  let (frontier, phase) := frontier.stepPhase call.id call.phase
  (frontier, { call with phase })

def resume (bound : Nat) (frontier : Frontier) (call : Call) : Frontier × Call :=
  match bound with
  | 0 => (frontier, call)
  | bound + 1 =>
      if frontier.canStep call then
        let (frontier, call) := frontier.step call
        resume bound frontier call
      else (frontier, call)

-- Gives up a call: it lets go of the pull, and a wakeup meant for it goes to another.
def cancel (frontier : Frontier) (call : Call) : Frontier :=
  match call.phase with
  | .flushing _ _ => frontier.endPull.leaveReady call.id
  | _ => frontier.leaveReady call.id

end Frontier

end PoliteCrawl
