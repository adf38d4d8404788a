import PoliteCrawl.Frontier.Placement

set_option autoImplicit false

namespace PoliteCrawl

inductive Claim where
  | claimed
  | skipped
  | parked (tier : Nat)
deriving DecidableEq, Repr

namespace Frontier

def openSession (budgets : Budgets) (queue : WorkQueue) : WorkQueue :=
  ((queue.considerActive.setWakeTime none).setSessionBudget budgets.session).setTotalBudget
    budgets.total

def applyBudgets (frontier : Frontier) (queue : WorkQueue) : Frontier × Claim :=
  let queue := openSession frontier.budgets queue
  let frontier := frontier.store queue
  if queue.isOverSession then
    match (frontier.release queue.key).deactivate queue queue.precedence with
    | (frontier, .inactive tier) => (frontier, .parked tier)
    | (frontier, _) => (frontier, .skipped)
  else if queue.isOverTotal then
    ((frontier.release queue.key).retire queue, .skipped)
  else (frontier, .claimed)

def claim (frontier : Frontier) (queue : WorkQueue) : Frontier × Claim :=
  if queue.state ≠ .ready then (frontier, .skipped)
  else if queue.isEmpty then (frontier.markExhausted queue, .skipped)
  else if frontier.claims.contains queue.key then (frontier, .skipped)
  else
    match queue.transition .inProcess with
    | .ok queue =>
        let frontier := { frontier with claims := queue.key :: frontier.claims }
        (frontier.store queue).applyBudgets queue
    | .error _ => (frontier, .skipped)

def recordDispatch (frontier : Frontier) (queue : WorkQueue) : Frontier :=
  let frontier := frontier.store (queue.recordDispatch frontier.moment)
  { frontier with stats := { frontier.stats with dispatched := frontier.stats.dispatched + 1 } }

def releaseEmpty (frontier : Frontier) (queue : WorkQueue) : Frontier :=
  (frontier.release queue.key).markExhausted queue

def dropHead (frontier : Frontier) (queue : WorkQueue) (head : CrawlUri) : Frontier :=
  let queue := (queue.dequeue head.url).1
  let frontier := frontier.store queue
  if queue.isEmpty then frontier.releaseEmpty queue else frontier

def countReclassified (frontier : Frontier) : Frontier :=
  { frontier with
    stats := { frontier.stats with reclassified := frontier.stats.reclassified + 1 } }

-- Gives away the first of the items of a claimed queue that belongs to it, and moves those before it to
-- where they belong. Answers nothing if the queue runs dry.
def resolve (frontier : Frontier) (key : String) :
    List CrawlUri → Frontier × Option (Option CrawlUri)
  | [] =>
      match frontier.queue? key with
      | some queue => (frontier.releaseEmpty queue, some none)
      | none => (frontier, some none)
  | head :: rest =>
      match frontier.queue? key with
      | none => (frontier, some none)
      | some queue =>
          let siteKey := frontier.routing.siteKey head.url
          if siteKey = key then (frontier.recordDispatch queue, some (some head))
          else
            let dropped := (frontier.dropHead queue head).countReclassified.discountQueued
            match dropped.send { head with siteKey } with
            | (frontier, none) => (frontier, none)
            | (frontier, some _) =>
                if rest.isEmpty then (frontier, some none) else frontier.resolve key rest

def dispatchFrom (frontier : Frontier) (key : String) : Frontier × Option (Option CrawlUri) :=
  match frontier.queue? key with
  | none => (frontier, some none)
  | some queue =>
      match frontier.claim queue with
      | (frontier, .claimed) => frontier.resolve key queue.items
      | (frontier, .skipped) => (frontier, some none)
      | (frontier, .parked tier) => (frontier.place key (.inactive tier), some none)

end Frontier

end PoliteCrawl
