import PoliteCrawl.Crawl.Links
import PoliteCrawl.Frontier.Call
import PoliteCrawl.Frontier.Snapshot
import PoliteCrawl.Frontier.Supervision

set_option autoImplicit false

namespace PoliteCrawl.Crawl

inductive WorkerPhase where
  | calling (call : Call)
  | fetching (uri : CrawlUri) (until_ : Time.Instant)
  | stopped
deriving DecidableEq, Repr

structure Worker where
  id : Nat
  phase : WorkerPhase
deriving DecidableEq, Repr

def Worker.start (id : Nat) : Worker :=
  { id, phase := .calling (Call.start id) }

inductive MonitorPhase where
  -- Has seen so many changes of the reached state, and looks again at the next tick.
  | watching (seen : Nat) (tick : Time.Instant)
  | stopped
deriving DecidableEq, Repr

-- Workers that only pretend to fetch, the supervisor, and a monitor that ends the crawl when there
-- is nothing left to do. The order of their turns is left open.
structure Simulation where
  settings : WorkerConfig
  frontier : Frontier
  supervisor : Supervisor
  workers : List Worker
  monitor : MonitorPhase
deriving DecidableEq, Repr

inductive Actor where
  | monitor
  | supervisor
  | worker (id : Nat)
deriving DecidableEq, Repr

def offerSeed (filter : UniqFilter) (seed : String) : Except FrontierError UniqFilter :=
  match CrawlUri.parse seed with
  | .ok uri => .ok (filter.add uri).1
  | .error cause => .error (.uri cause)

def seedFilter (config : Config) : Except FrontierError UniqFilter :=
  config.seeds.foldlM offerSeed (UniqFilter.new config.frontier.flushBatchSize)

def seededFrontier (config : Config) (origin : Time.Timestamp) : Except FrontierError Frontier := do
  let filter ← seedFilter config
  .ok (Frontier.new config.frontier (Routing.ofConfig config) (Politeness.ofConfig config.politeness)
    (.memory filter) origin)

def Simulation.start (config : Config) (origin : Time.Timestamp) :
    Except FrontierError Simulation := do
  let frontier ← seededFrontier config origin
  .ok
    { settings := config.workers
      frontier := frontier.requestState .run
      supervisor := Supervisor.start 0
      workers := (List.range' 1 config.workers.count).map Worker.start
      monitor := .watching 0 0 }

namespace Simulation

def fetchTime (simulation : Simulation) : Time.Span :=
  Time.millis simulation.settings.simulatedFetchMs

def afterCall (simulation : Simulation) (call : Call) : WorkerPhase :=
  match call.phase with
  | .done (some uri) => .fetching uri (simulation.frontier.now + simulation.fetchTime)
  | .done none => .stopped
  | .failed => .stopped
  | _ => .calling call

def putWorker (simulation : Simulation) (worker : Worker) : Simulation :=
  { simulation with
    workers := simulation.workers.map fun old => if old.id = worker.id then worker else old }

def goOnCalling (simulation : Simulation) (id : Nat) (call : Call) : Simulation :=
  let (frontier, call) := simulation.frontier.resume Call.turnBound call
  let called := { simulation with frontier }
  called.putWorker { id, phase := called.afterCall call }

def offer (frontier : Frontier) (uri : CrawlUri) : Frontier :=
  match frontier.gateway with
  | .memory filter => { frontier with gateway := .memory (filter.add uri).1 }
  | .remote _ => frontier

-- The links of a page go to the filter before the page is reported, so that the crawl never looks
-- drained in between.
def finishFetch (simulation : Simulation) (uri : CrawlUri) : Simulation :=
  let offered := (discoverLinks simulation.settings uri).foldl offer simulation.frontier
  let outcome := Outcome.new (.success 200) simulation.fetchTime
  { simulation with frontier := (offered.complete uri outcome).1 }

def goWorker (simulation : Simulation) (worker : Worker) : Simulation :=
  match worker.phase with
  | .calling call => simulation.goOnCalling worker.id call
  | .fetching uri until_ =>
      if until_ ≤ simulation.frontier.now then
        (simulation.finishFetch uri).goOnCalling worker.id (Call.start worker.id)
      else simulation
  | .stopped => simulation

def isIdle (frontier : Frontier) : Bool :=
  frontier.isEmpty && frontier.claims.isEmpty && frontier.gateway.pending.isEmpty

def isDrained (frontier : Frontier) : Bool :=
  frontier.target = .finish || frontier.hasReached .empty && isIdle frontier

def goMonitor (simulation : Simulation) : Simulation :=
  match simulation.monitor with
  | .watching _ tick =>
      if isDrained simulation.frontier then
        { simulation with
          frontier := simulation.frontier.requestState .finish
          monitor := .stopped }
      else
        { simulation with
          monitor := .watching simulation.frontier.cell.version
            (if tick ≤ simulation.frontier.now then tick + simulation.frontier.config.maxSleep
            else tick) }
  | .stopped => simulation

def mayGoMonitor (simulation : Simulation) : Bool :=
  match simulation.monitor with
  | .watching seen tick =>
      tick ≤ simulation.frontier.now || simulation.frontier.cell.hasChanged seen
  | .stopped => false

def mayGoWorker (simulation : Simulation) (worker : Worker) : Bool :=
  match worker.phase with
  | .calling call => simulation.frontier.canStep call
  | .fetching _ until_ => until_ ≤ simulation.frontier.now
  | .stopped => false

def worker? (simulation : Simulation) (id : Nat) : Option Worker :=
  simulation.workers.find? (·.id = id)

def mayGo (simulation : Simulation) : Actor → Bool
  | .monitor => simulation.mayGoMonitor
  | .supervisor => simulation.frontier.canSupervise simulation.supervisor
  | .worker id => (simulation.worker? id).any simulation.mayGoWorker

def goSupervisor (simulation : Simulation) : Simulation :=
  let (frontier, supervisor) := simulation.frontier.superviseTurn simulation.supervisor
  { simulation with frontier, supervisor }

def go (simulation : Simulation) : Actor → Simulation
  | .monitor => simulation.goMonitor
  | .supervisor => simulation.goSupervisor
  | .worker id =>
      match simulation.worker? id with
      | some worker => simulation.goWorker worker
      | none => simulation

def actors (simulation : Simulation) : List Actor :=
  .monitor :: .supervisor :: simulation.workers.map fun worker => .worker worker.id

def hasEnded (simulation : Simulation) : Bool :=
  simulation.monitor = .stopped && simulation.supervisor.phase = .ended &&
    simulation.workers.all (·.phase = .stopped)

def monitorTimer? (simulation : Simulation) : Option Time.Instant :=
  match simulation.monitor with
  | .watching _ tick => some tick
  | .stopped => none

def Worker.timer? (worker : Worker) : Option Time.Instant :=
  match worker.phase with
  | .calling call => call.timer?
  | .fetching _ until_ => some until_
  | .stopped => none

def nextTimer? (simulation : Simulation) : Option Time.Instant :=
  (simulation.monitorTimer?.toList ++ simulation.supervisor.timer?.toList ++
    simulation.workers.filterMap Worker.timer?).min?

def setClock (simulation : Simulation) (time : Time.Instant) : Simulation :=
  { simulation with
    frontier := { simulation.frontier with now := max simulation.frontier.now time } }

end Simulation

end PoliteCrawl.Crawl
