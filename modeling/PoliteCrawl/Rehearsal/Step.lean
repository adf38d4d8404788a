import PoliteCrawl.Frontier.Control
import PoliteCrawl.Frontier.Snapshot
import PoliteCrawl.Rehearsal.Run

set_option autoImplicit false

namespace PoliteCrawl

structure Rehearsal where
  frontier : Frontier
  -- A filter that is not connected, for a frontier that has a remote service instead.
  spare : UniqFilter
  supervisor : Option Supervisor
  parked : List (String × Call)
  tickets : List CrawlUri
  nextId : Nat
deriving DecidableEq, Repr

namespace Rehearsal

inductive Step where
  | schedule (uri : CrawlUri)
  | pull
  | pullWithin (span : Time.Span)
  | pullMany (count : Nat) (span : Time.Span)
  | park (worker : String)
  | unpark (worker : String)
  | complete (uri : CrawlUri) (outcome : Outcome)
  | completeTicket (ticket : Nat) (outcome : Outcome)
  | request (state : CrawlState)
  | setBudgets (session : Nat) (total : Option Nat)
  | unretire
  | reassign (host siteKey : String)
  | clear (host : String)
  | setPrecedence (siteKey : String) (precedence : Nat)
  | arm (count : Nat)
  | add (uri : CrawlUri)
  | addForce (uri : CrawlUri)
  | note (uri : CrawlUri)
  | forget (uri : CrawlUri)
  | closeFilter
  | supply (uri : CrawlUri)
  | startSupervisor
  | sleep (span : Time.Span)
  | await (state : CrawlState) (span : Time.Span)
deriving DecidableEq, Repr

structure Handed where
  ticket : Nat
  uri : CrawlUri
deriving DecidableEq, Repr

inductive Reply where
  | nothing
  | yes
  | told (value : Bool)
  | counted (count : Nat)
  | handed (item : Handed)
  | handedMany (items : List Handed)
  | blocked
  | finished
  | refused (cause : FrontierError)
  | noTicket
  | fault
deriving DecidableEq, Repr

def new (frontier : Frontier) (batchSize : Nat) : Rehearsal :=
  { frontier, spare := UniqFilter.new batchSize, supervisor := none, parked := [], tickets := []
    nextId := 0 }

def offered (rehearsal : Rehearsal) : UniqFilter :=
  match rehearsal.frontier.gateway with
  | .memory filter => filter
  | .remote _ => rehearsal.spare

def putOffered (rehearsal : Rehearsal) (filter : UniqFilter) : Rehearsal :=
  match rehearsal.frontier.gateway with
  | .memory _ =>
      { rehearsal with frontier := { rehearsal.frontier with gateway := .memory filter } }
  | .remote _ => { rehearsal with spare := filter }

def hand (rehearsal : Rehearsal) (uri : CrawlUri) : Rehearsal × Handed :=
  ({ rehearsal with tickets := rehearsal.tickets ++ [uri] },
    { ticket := rehearsal.tickets.length, uri })

def handAll (rehearsal : Rehearsal) : List CrawlUri → Rehearsal × List Handed
  | [] => (rehearsal, [])
  | uri :: rest =>
      let (rehearsal, item) := rehearsal.hand uri
      let (rehearsal, items) := rehearsal.handAll rest
      (rehearsal, item :: items)

-- A call that the routing fails takes the whole rehearsal with it.
def replyTo? (rehearsal : Rehearsal) : JobEnd → Option (Rehearsal × Reply)
  | .answered (some uri) =>
      let (rehearsal, item) := rehearsal.hand uri
      some (rehearsal, .handed item)
  | .answered none => some (rehearsal, .finished)
  | .failed => none
  | .reached => some (rehearsal, .told true)
  | .expired => some (rehearsal, .blocked)

def pullOnce? (rehearsal : Rehearsal) : Option (Rehearsal × Reply) :=
  let (frontier, call) := rehearsal.frontier.resume Call.turnBound (Call.start rehearsal.nextId)
  let rehearsal := { rehearsal with nextId := rehearsal.nextId + 1 }
  match callEnd? call with
  | some ended => { rehearsal with frontier }.replyTo? ended
  | none => some ({ rehearsal with frontier := frontier.cancel call }, .blocked)

def turnBound : Nat := Nat.pow 2 40

def run (rehearsal : Rehearsal) (lead : Option Nat) (jobs : List Job) :
    Rehearsal × List JobEnd :=
  let run := (Run.start rehearsal.frontier rehearsal.supervisor lead jobs).finish turnBound
  ({ rehearsal with frontier := run.frontier, supervisor := run.supervisor },
    run.jobs.filterMap (·.ended))

def takeId (rehearsal : Rehearsal) : Rehearsal × Nat :=
  ({ rehearsal with nextId := rehearsal.nextId + 1 }, rehearsal.nextId)

def runErrand (rehearsal : Rehearsal) (errand : Nat → Errand) (span : Time.Span) :
    Rehearsal × JobEnd :=
  let (rehearsal, id) := rehearsal.takeId
  let job := Job.start id (errand id) (rehearsal.frontier.now + span)
  let (rehearsal, ends) := rehearsal.run (some id) [job]
  (rehearsal, ends.headD .expired)

def pullErrand (id : Nat) : Errand :=
  .pull (Call.start id)

def insertByText (uri : CrawlUri) : List CrawlUri → List CrawlUri
  | [] => [uri]
  | first :: rest =>
      if uri.text < first.text then uri :: first :: rest else first :: insertByText uri rest

def served : List JobEnd → List CrawlUri
  | [] => []
  | .answered (some uri) :: rest => insertByText uri (served rest)
  | _ :: rest => served rest

def pullTogether? (rehearsal : Rehearsal) (count : Nat) (span : Time.Span) :
    Option (Rehearsal × Reply) :=
  let deadline := rehearsal.frontier.now + span
  let jobs := (List.range' rehearsal.nextId count).map fun id =>
    Job.start id (pullErrand id) deadline
  let rehearsal := { rehearsal with nextId := rehearsal.nextId + count }
  let (rehearsal, ends) := rehearsal.run none jobs
  if ends.contains .failed then none
  else
    let (rehearsal, items) := rehearsal.handAll (served ends)
    some (rehearsal, .handedMany items)

def withFrontier (rehearsal : Rehearsal) (frontier : Frontier) : Rehearsal × Reply :=
  ({ rehearsal with frontier }, .nothing)

def withRouting (rehearsal : Rehearsal) (routing : Routing) : Rehearsal × Reply :=
  rehearsal.withFrontier { rehearsal.frontier with routing }

def orFault {α : Type} (rehearsal : Rehearsal) (reply : α → Reply) :
    Frontier × Option α → Rehearsal × Reply
  | (frontier, some value) => ({ rehearsal with frontier }, reply value)
  | (frontier, none) => ({ rehearsal with frontier }, .fault)

def completeUri (rehearsal : Rehearsal) (uri : CrawlUri) (outcome : Outcome) :
    Rehearsal × Reply :=
  match rehearsal.frontier.complete uri outcome with
  | (frontier, .done) => ({ rehearsal with frontier }, .yes)
  | (frontier, .refused cause) => ({ rehearsal with frontier }, .refused cause)
  | (frontier, .failed) => ({ rehearsal with frontier }, .fault)

def unpark (rehearsal : Rehearsal) (worker : String) : Rehearsal × Reply :=
  match rehearsal.parked.find? (·.1 = worker) with
  | some (_, call) =>
      ({ rehearsal with
          frontier := rehearsal.frontier.cancel call
          parked := rehearsal.parked.filter (·.2.id ≠ call.id) },
        .told true)
  | none => (rehearsal, .told false)

def perform? (rehearsal : Rehearsal) : Step → Option (Rehearsal × Reply)
  | .schedule uri => some (rehearsal.orFault (fun _ => .nothing) (rehearsal.frontier.schedule uri))
  | .pull => rehearsal.pullOnce?
  | .pullWithin span =>
      let (rehearsal, ended) := rehearsal.runErrand pullErrand span
      rehearsal.replyTo? ended
  | .pullMany count span => rehearsal.pullTogether? count span
  | .park worker =>
      let (rehearsal, id) := rehearsal.takeId
      some ({ rehearsal with parked := rehearsal.parked ++ [(worker, Call.start id)] }, .nothing)
  | .unpark worker => some (rehearsal.unpark worker)
  | .complete uri outcome => some (rehearsal.completeUri uri outcome)
  | .completeTicket ticket outcome =>
      match rehearsal.tickets[ticket]? with
      | some uri => some (rehearsal.completeUri uri outcome)
      | none => some (rehearsal, .noTicket)
  | .request state => some (rehearsal.withFrontier (rehearsal.frontier.requestState state))
  | .setBudgets session total =>
      some (rehearsal.withFrontier (rehearsal.frontier.setBudgets session total))
  | .unretire => some (rehearsal.orFault .counted rehearsal.frontier.unretireQueues)
  | .reassign host siteKey =>
      some (rehearsal.withRouting (rehearsal.frontier.routing.reassign host siteKey))
  | .clear host => some (rehearsal.withRouting (rehearsal.frontier.routing.clear host))
  | .setPrecedence siteKey precedence =>
      some (rehearsal.withRouting (rehearsal.frontier.routing.setPrecedence siteKey precedence))
  | .arm count => some (rehearsal.withRouting (rehearsal.frontier.routing.arm count))
  | .add uri =>
      let (filter, accepted) := rehearsal.offered.add uri
      some (rehearsal.putOffered filter, .told accepted)
  | .addForce uri =>
      let (filter, accepted) := rehearsal.offered.addForce uri
      some (rehearsal.putOffered filter, .told accepted)
  | .note uri => some (rehearsal.putOffered (rehearsal.offered.note uri), .nothing)
  | .forget uri => some (rehearsal.putOffered (rehearsal.offered.forget uri), .nothing)
  | .closeFilter => some (rehearsal.putOffered rehearsal.offered.close, .yes)
  | .supply uri =>
      some (rehearsal.withFrontier
        { rehearsal.frontier with gateway := rehearsal.frontier.gateway.supply [uri] 1 })
  | .startSupervisor =>
      let (rehearsal, id) := rehearsal.takeId
      some ({ rehearsal with supervisor := some (Supervisor.start id) }, .nothing)
  | .sleep span => some ((rehearsal.runErrand (fun _ => .sleep) span).1, .nothing)
  | .await state span =>
      let (rehearsal, ended) := rehearsal.runErrand (fun _ => .watch state) span
      some (rehearsal, .told (ended = .reached))

def firstWoken? (rehearsal : Rehearsal) : Option (String × Call) :=
  rehearsal.parked.find? fun entry => rehearsal.frontier.canStep entry.2

def wakeParked? (rehearsal : Rehearsal) (worker : String) (call : Call) :
    Option (Rehearsal × Option (String × Reply)) :=
  let (frontier, call) := rehearsal.frontier.resume Call.turnBound call
  match callEnd? call with
  | some ended => do
      let left := rehearsal.parked.filter (·.2.id ≠ call.id)
      let (rehearsal, reply) ← { rehearsal with frontier, parked := left }.replyTo? ended
      some (rehearsal, some (worker, reply))
  | none =>
      let kept := rehearsal.parked.map fun entry =>
        if entry.2.id = call.id then (entry.1, call) else entry
      some ({ rehearsal with frontier, parked := kept }, none)

def wakeAllParked? (rehearsal : Rehearsal) (bound : Nat) :
    Option (Rehearsal × List (String × Reply)) :=
  match bound with
  | 0 => some (rehearsal, [])
  | bound + 1 =>
      match rehearsal.firstWoken? with
      | none => some (rehearsal, [])
      | some (worker, call) => do
          let (rehearsal, left) ← rehearsal.wakeParked? worker call
          let (rehearsal, others) ← wakeAllParked? rehearsal bound
          some (rehearsal, left.toList ++ others)

-- Lets the supervisor run until it sleeps, and then the parked workers until none is woken. Answers
-- those that were served.
def settle? (rehearsal : Rehearsal) : Option (Rehearsal × List (String × Reply)) :=
  (rehearsal.run none []).1.wakeAllParked? turnBound

def play? (rehearsal : Rehearsal) (step : Step) :
    Option (Rehearsal × Reply × List (String × Reply)) := do
  let (rehearsal, reply) ← rehearsal.perform? step
  let (rehearsal, woken) ← rehearsal.settle?
  some (rehearsal, reply, woken)

end Rehearsal

end PoliteCrawl
