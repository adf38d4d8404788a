import PoliteCrawl.Crawl.Simulation

set_option autoImplicit false

namespace PoliteCrawl.Crawl

namespace Simulation

def isPast (simulation : Simulation) (limit : Option Time.Instant) : Bool :=
  limit.any (· ≤ simulation.frontier.now)

def goIfMay (simulation : Simulation) (actor : Actor) : Simulation :=
  if simulation.mayGo actor then simulation.go actor else simulation

def round (simulation : Simulation) : Simulation :=
  simulation.actors.foldl goIfMay simulation

-- A round of turns while anyone may go on, else a jump of the clock to the next timer; nothing once
-- the crawl is over or its time is.
def next? (simulation : Simulation) (limit : Option Time.Instant) : Option Simulation :=
  if simulation.hasEnded || simulation.isPast limit then none
  else if simulation.actors.any simulation.mayGo then some simulation.round
  else simulation.nextTimer?.map fun time =>
    simulation.setClock (limit.elim time (min time))

def finish (bound : Nat) (simulation : Simulation) (limit : Option Time.Instant) : Simulation :=
  match bound with
  | 0 => simulation
  | bound + 1 =>
      match simulation.next? limit with
      | some next => finish bound next limit
      | none => simulation

end Simulation

def roundBound : Nat := Nat.pow 2 40

inductive CrawlFault where
  | unfit (cause : FrontierError)
  | restless
deriving DecidableEq, Repr

def simulate (config : Config) (origin : Time.Timestamp) (limit : Option Time.Instant) :
    Except CrawlFault Simulation :=
  match Simulation.start config origin with
  | .error cause => .error (.unfit cause)
  | .ok simulation =>
      if config.frontier.maxSleep = 0 then .error .restless
      else .ok (simulation.finish roundBound limit)

def crawl (config : Config) (origin : Time.Timestamp) : Except CrawlFault FrontierSnapshot :=
  (simulate config origin none).map (·.frontier.snapshot)

end PoliteCrawl.Crawl
