import PoliteCrawl.Frontier.Call
import PoliteCrawl.Frontier.Supervision

set_option autoImplicit false

namespace PoliteCrawl.Rehearsal

inductive Errand where
  | pull (call : Call)
  | watch (state : CrawlState)
  | sleep
deriving DecidableEq, Repr

inductive JobEnd where
  | answered (answer : Option CrawlUri)
  | failed
  | reached
  | expired
deriving DecidableEq, Repr

structure Job where
  id : Nat
  errand : Errand
  deadline : Time.Instant
  ended : Option JobEnd
deriving DecidableEq, Repr

namespace Job

def start (id : Nat) (errand : Errand) (deadline : Time.Instant) : Job :=
  { id, errand, deadline, ended := none }

def hasEnded (job : Job) : Bool :=
  job.ended.isSome

def timers (job : Job) : List Time.Instant :=
  match job.ended, job.errand with
  | some _, _ => []
  | none, .pull call => call.timer?.toList ++ [job.deadline]
  | none, _ => [job.deadline]

end Job

def callEnd? (call : Call) : Option JobEnd :=
  match call.phase with
  | .done answer => some (.answered answer)
  | .failed => some .failed
  | _ => none

end PoliteCrawl.Rehearsal

namespace PoliteCrawl.Frontier

open Rehearsal

def mayGo (frontier : Frontier) (job : Job) : Bool :=
  !job.hasEnded && (job.deadline ≤ frontier.now ||
    match job.errand with
    | .pull call => frontier.canStep call
    | .watch state => frontier.hasReached state
    | .sleep => false)

def expire (frontier : Frontier) (job : Job) : Job :=
  if job.deadline ≤ frontier.now then { job with ended := some .expired } else job

-- Gives a job its turn. What it waits for counts even when it comes at the last moment.
def go (frontier : Frontier) (job : Job) : Frontier × Job :=
  match job.errand with
  | .pull call =>
      let (frontier, call) := frontier.resume Call.turnBound call
      match callEnd? call with
      | some ended => (frontier, { job with errand := .pull call, ended := some ended })
      | none =>
          if job.deadline ≤ frontier.now then
            (frontier.cancel call, { job with errand := .pull call, ended := some .expired })
          else (frontier, { job with errand := .pull call })
  | .watch state =>
      if frontier.hasReached state then (frontier, { job with ended := some .reached })
      else (frontier, frontier.expire job)
  | .sleep => (frontier, frontier.expire job)

end PoliteCrawl.Frontier
