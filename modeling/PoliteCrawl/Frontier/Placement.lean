import PoliteCrawl.Frontier.Basic

set_option autoImplicit false

namespace PoliteCrawl

inductive Placement where
  | ready
  | inactive (tier : Nat)
  | stay
deriving DecidableEq, Repr

namespace Frontier

-- The routing is asked for a tier more than once on the way, and may fail each time. What was done
-- before stays done.
def refresh (frontier : Frontier) (queue : WorkQueue) : Frontier × Option WorkQueue :=
  match frontier.routing.ask queue.key with
  | (routing, none) => ({ frontier with routing }, none)
  | (routing, some tier) =>
      let queue := queue.setPrecedence tier
      ({ frontier with routing }.store queue, some queue)

def deactivate (frontier : Frontier) (queue : WorkQueue) (tier : Nat) : Frontier × Placement :=
  match queue.transition .inactive with
  | .ok queue => (frontier.store queue.deactivate, .inactive tier)
  | .error _ => (frontier, .stay)

def mustWait (frontier : Frontier) (queue : WorkQueue) : Bool :=
  frontier.tiers.watermark < queue.precedence ||
    frontier.config.precedenceFloor ≤ queue.precedence || queue.isOverSession

-- Decides where a queue with work goes: it is parked if a better tier waits, if its own is beyond the
-- floor, or if it spent its session; otherwise it is ready.
def reenqueue (frontier : Frontier) (queue : WorkQueue) : Frontier × Option Placement :=
  match frontier.refresh queue with
  | (frontier, none) => (frontier, none)
  | (frontier, some queue) =>
      if frontier.mustWait queue then
        let (frontier, placement) := frontier.deactivate queue queue.precedence
        (frontier, some placement)
      else
        match queue.transition .ready with
        | .ok queue => (frontier.store queue, some .ready)
        | .error _ => (frontier, some .stay)

def markExhausted (frontier : Frontier) (queue : WorkQueue) : Frontier :=
  let noted := queue.noteExhausted
  match noted.transition .empty with
  | .ok queue => frontier.store queue
  | .error _ => frontier.store noted

def retire (frontier : Frontier) (queue : WorkQueue) : Frontier :=
  match queue.transition .retired with
  | .ok queue =>
      let frontier := frontier.store queue.deactivate
      { frontier with retired := Retired.insert queue.key frontier.retired }
  | .error _ => frontier

def publish (frontier : Frontier) (key : String) : Frontier :=
  { frontier with
    stats := { frontier.stats with queuesReadied := frontier.stats.queuesReadied + 1 }
    ready := frontier.ready ++ [key]
    readySignal := frontier.readySignal.notifyOne }

def file (frontier : Frontier) (key : String) (tier : Nat) : Frontier :=
  { frontier with tiers := frontier.tiers.file key tier }

def place (frontier : Frontier) (key : String) : Placement → Frontier
  | .ready => frontier.publish key
  | .inactive tier => frontier.file key tier
  | .stay => frontier

def ensureQueue (frontier : Frontier) (key : String) : Frontier × Option WorkQueue :=
  match frontier.queue? key with
  | some queue => (frontier, some queue)
  | none =>
      match frontier.routing.ask key with
      | (routing, none) => ({ frontier with routing }, none)
      | (routing, some tier) =>
          let queue := WorkQueue.new key tier
          ({ frontier with routing, queues := frontier.queues ++ [queue] }, some queue)

def holdsBack (frontier : Frontier) : Bool :=
  frontier.config.holdQueues && frontier.config.readyBacklogTarget ≤ frontier.ready.length

def receiveFirst (frontier : Frontier) (queue : WorkQueue) : Frontier × Option Placement :=
  if frontier.holdsBack then
    match frontier.refresh queue with
    | (frontier, none) => (frontier, none)
    | (frontier, some queue) =>
        let (frontier, placement) := frontier.deactivate queue queue.precedence
        (frontier, some placement)
  else frontier.reenqueue queue

def send (frontier : Frontier) (uri : CrawlUri) : Frontier × Option Unit :=
  match frontier.ensureQueue uri.siteKey with
  | (frontier, none) => (frontier, none)
  | (frontier, some queue) =>
      let queue := queue.enqueue uri
      let frontier := (frontier.store queue).countQueued
      if queue.state = .empty then
        match frontier.receiveFirst queue with
        | (frontier, none) => (frontier, none)
        | (frontier, some placement) => (frontier.place queue.key placement, some ())
      else (frontier, some ())

def schedule (frontier : Frontier) (uri : CrawlUri) : Frontier × Option Unit :=
  frontier.send { uri with siteKey := frontier.routing.siteKey uri.url }

-- Adds some URIs in turn. Those behind one that fails are lost.
def receiveAll (frontier : Frontier) : List CrawlUri → Frontier × Option Unit
  | [] => (frontier, some ())
  | uri :: rest =>
      match frontier.schedule uri with
      | (frontier, none) => (frontier, none)
      | (frontier, some _) => frontier.receiveAll rest

end Frontier

end PoliteCrawl
