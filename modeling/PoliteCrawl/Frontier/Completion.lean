import PoliteCrawl.Frontier.Placement

set_option autoImplicit false

namespace PoliteCrawl

inductive Completion where
  | done
  | refused (cause : FrontierError)
  | failed
deriving DecidableEq, Repr

namespace Frontier

def snooze (frontier : Frontier) (key : String) (wake : Time.Instant) : Frontier :=
  { frontier with
    snoozed := Snoozed.insert { wake, key } frontier.snoozed
    snoozeSignal :=
      if Snoozed.isEarliest frontier.snoozed wake then frontier.snoozeSignal.notifyOne
      else frontier.snoozeSignal }

def rest (frontier : Frontier) (queue : WorkQueue) (pause : Time.Span) : Frontier :=
  match queue.transition .snoozed with
  | .ok queue =>
      let wake := frontier.now + pause
      (frontier.store (queue.setWakeTime (some wake))).snooze queue.key wake
  | .error _ => frontier

-- Decides where a queue goes whose URI came back and that is owed a pause. Even an empty queue serves
-- its pause, so that later URIs do.
def settle (frontier : Frontier) (queue : WorkQueue) (pause : Time.Span) :
    Frontier × Option Placement :=
  if queue.isOverTotal then (frontier.retire queue, some .stay)
  else if pause ≠ 0 then (frontier.rest queue pause, some .stay)
  else if queue.isEmpty then (frontier.markExhausted queue, some .stay)
  else frontier.reenqueue queue

def pauseOwed (frontier : Frontier) (outcome : Outcome) : Time.Span :=
  match outcome.status with
  | .disregarded => 0
  | _ => frontier.politeness.delay outcome

def grantsRetry (frontier : Frontier) (head : CrawlUri) (outcome : Outcome) : Bool :=
  match outcome.status with
  | .retry _ => head.retries < frontier.config.maxRetries
  | _ => false

def countRetry (frontier : Frontier) : Frontier :=
  { frontier with stats := { frontier.stats with retried := frontier.stats.retried + 1 } }

def finishHead (frontier : Frontier) (queue : WorkQueue) (head : CrawlUri) (outcome : Outcome) :
    Frontier × WorkQueue :=
  let paid := ((queue.dequeue head.url).1.expend head.cost).recordOutcome outcome.status
    frontier.moment
  let counted := { frontier.discountQueued with
    stats := frontier.discountQueued.stats.count outcome.status }
  (counted.store paid, paid)

def noteDrained (frontier : Frontier) : Frontier :=
  if !frontier.target.allowsDispatch && frontier.claims.isEmpty then
    { frontier with snoozeSignal := frontier.snoozeSignal.notifyOne }
  else frontier

def completeRetry (frontier : Frontier) (queue : WorkQueue) (pause : Time.Span) :
    Frontier × Completion :=
  let kept := queue.retryHead
  let frontier := (frontier.countRetry.store kept).release queue.key
  match frontier.settle kept (max pause frontier.config.retryDelay) with
  | (frontier, none) => (frontier, .failed)
  | (frontier, some placement) => ((frontier.place queue.key placement).noteDrained, .done)

def completeFinal (frontier : Frontier) (queue : WorkQueue) (head : CrawlUri) (outcome : Outcome)
    (pause : Time.Span) : Frontier × Completion :=
  let (frontier, queue) := frontier.finishHead queue head outcome
  match (frontier.release queue.key).settle queue pause with
  | (frontier, none) => (frontier, .failed)
  | (frontier, some placement) =>
      let placed := frontier.place queue.key placement
      ({ placed with gateway := placed.gateway.noteFinished head outcome }.noteDrained, .done)

def complete (frontier : Frontier) (uri : CrawlUri) (outcome : Outcome) : Frontier × Completion :=
  match frontier.queue? uri.siteKey with
  | none => (frontier, .refused (.missingQueue uri.siteKey))
  | some queue =>
      if queue.state ≠ .inProcess || !frontier.claims.contains uri.siteKey then
        (frontier, .refused (.notInProcess uri.siteKey))
      else
        match queue.items with
        | [] => (frontier, .refused (.unknownItem uri.text uri.siteKey))
        | head :: _ =>
            if head.url ≠ uri.url then
              (frontier, .refused (.unknownItem uri.text uri.siteKey))
            else if frontier.grantsRetry head outcome then
              frontier.completeRetry queue (frontier.pauseOwed outcome)
            else frontier.completeFinal queue head outcome (frontier.pauseOwed outcome)

end Frontier

end PoliteCrawl
