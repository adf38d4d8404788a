import PoliteCrawl.Proofs.Frontier.Call
import PoliteCrawl.Proofs.Frontier.Completion
import PoliteCrawl.Proofs.Frontier.Supervision

set_option autoImplicit false

namespace PoliteCrawl

structure Setup where
  config : FrontierConfig
  routing : Routing
  politeness : Politeness
  gateway : Gateway
  origin : Time.Timestamp

inductive Offer where
  | add (uri : CrawlUri)
  | addForce (uri : CrawlUri)
  | note (uri : CrawlUri)
  | forget (uri : CrawlUri)
  | close
  -- The service prepares what a flush is to bring.
  | supply (uris : List CrawlUri) (count : Nat)
  -- The service becomes slow or fast, or fails.
  | tune (latency : Time.Span) (failsFlush failsClose : Bool)
deriving DecidableEq, Repr

def Gateway.take (gateway : Gateway) (offer : Offer) : Gateway :=
  match gateway, offer with
  | .memory filter, .add uri => .memory (filter.add uri).1
  | .memory filter, .addForce uri => .memory (filter.addForce uri).1
  | .memory filter, .note uri => .memory (filter.note uri)
  | .memory filter, .forget uri => .memory (filter.forget uri)
  | .memory filter, .close => .memory filter.close
  | .remote service, .supply uris count => (Gateway.remote service).supply uris count
  | .remote service, .tune latency failsFlush failsClose =>
      .remote { service with latency, failsFlush, failsClose }
  | gateway, _ => gateway

inductive Event where
  | schedule (uri : CrawlUri)
  | call
  | proceed (id : Nat)
  | drop (id : Nat)
  | complete (uri : CrawlUri) (outcome : Outcome)
  | request (state : CrawlState)
  | setBudgets (session : Nat) (total : Option Nat)
  | unretire
  | reroute (routing : Routing)
  | offer (offer : Offer)
  -- Someone works toward the target once.
  | manage
  | hire
  | supervise (id : Nat)
  | advance (span : Time.Span)
deriving DecidableEq, Repr

def Event.Calm : Event → Prop
  | .reroute routing => routing.faults = []
  | _ => True

-- The routing never fails.
def Calm (setup : Setup) (events : List Event) : Prop :=
  setup.routing.faults = [] ∧ ∀ event ∈ events, event.Calm

-- Workers with their calls, supervisors, and those who run the crawl: what they do is a list of
-- events, in any order, and a journal remembers what became of each URI. A call that takes a step
-- keeps its turn until it awaits something.
structure World where
  frontier : Frontier
  calls : List Call
  supervisors : List Supervisor
  nextId : Nat
  -- The call that has its turn.
  turn : Option Nat
  journal : List Entry
deriving Repr

namespace World

def start (setup : Setup) : World :=
  { frontier := Frontier.new setup.config setup.routing setup.politeness setup.gateway setup.origin
    calls := []
    supervisors := []
    nextId := 0
    turn := none
    journal := [] }

def call? (world : World) (id : Nat) : Option Call :=
  world.calls.find? (·.id = id)

def supervisor? (world : World) (id : Nat) : Option Supervisor :=
  world.supervisors.find? (·.id = id)

def handEntries (answer : Option CrawlUri) : List Entry :=
  answer.toList.map fun uri => ⟨uri.siteKey, .handed uri⟩

def completeEntries (frontier : Frontier) (uri : CrawlUri) (outcome : Outcome) : List Entry :=
  match (frontier.complete uri outcome).2 with
  | .done =>
      [⟨uri.siteKey, frontier.takeBack ((frontier.lane uri.siteKey).items.headD uri) outcome⟩]
  | _ => []

def proceed (world : World) (call : Call) : World :=
  let next := (world.frontier.step call).2
  { world with
    frontier := (world.frontier.step call).1
    calls := world.calls.map fun old => if old.id = call.id then next else old
    turn := if next.phase.awaits then none else some call.id
    journal := world.journal ++ (world.frontier.stepEntries call.phase ++
      handEntries (call.phase.gain? next.phase)) }

def drop (world : World) (call : Call) : World :=
  if call.hasEnded then world
  else
    { world with
      frontier := world.frontier.cancel call
      calls := world.calls.filter (·.id ≠ call.id) }

def supervise (world : World) (supervisor : Supervisor) : World :=
  let next := (world.frontier.superviseTurn supervisor).2
  { world with
    frontier := (world.frontier.superviseTurn supervisor).1
    supervisors := world.supervisors.map fun old =>
      if old.id = supervisor.id then next else old }

def act (world : World) : Event → World
  | .schedule uri =>
      { world with
        frontier := (world.frontier.schedule uri).1
        journal := world.journal ++ [world.frontier.acceptEntry uri] }
  | .call =>
      { world with
        calls := world.calls ++ [Call.start world.nextId], nextId := world.nextId + 1 }
  | .proceed id => (world.call? id).elim world world.proceed
  | .drop id => (world.call? id).elim world world.drop
  | .complete uri outcome =>
      { world with
        frontier := (world.frontier.complete uri outcome).1
        journal := world.journal ++ completeEntries world.frontier uri outcome }
  | .request state => { world with frontier := world.frontier.requestState state }
  | .setBudgets session total =>
      { world with frontier := world.frontier.setBudgets session total }
  | .unretire => { world with frontier := world.frontier.unretireQueues.1 }
  | .reroute routing => { world with frontier := { world.frontier with routing } }
  | .offer offer =>
      { world with
        frontier := { world.frontier with gateway := world.frontier.gateway.take offer } }
  | .manage => { world with frontier := world.frontier.managementStep.1 }
  | .hire =>
      { world with
        supervisors := world.supervisors ++ [Supervisor.start world.nextId]
        nextId := world.nextId + 1 }
  | .supervise id => (world.supervisor? id).elim world world.supervise
  | .advance span =>
      { world with frontier := { world.frontier with now := world.frontier.now + span } }

def admits (world : World) (event : Event) : Bool :=
  match world.turn with
  | none => true
  | some id => event = .proceed id

-- What an event makes of a world. One that may not happen changes nothing.
def step (world : World) (event : Event) : World :=
  if world.admits event then world.act event else world

def run (setup : Setup) (events : List Event) : World :=
  events.foldl step (start setup)

theorem run_snoc (setup : Setup) (events : List Event) (event : Event) :
    run setup (events ++ [event]) = (run setup events).step event := by
  simp [run]

theorem run_induction {motive : List Event → World → Prop} (setup : Setup)
    (begins : motive [] (start setup))
    (goes : ∀ events event, motive events (run setup events) →
      motive (events ++ [event]) ((run setup events).step event))
    (events : List Event) : motive events (run setup events) := by
  suffices whole : ∀ reversed : List Event,
      motive reversed.reverse (run setup reversed.reverse) by
    simpa using whole events.reverse
  intro reversed
  induction reversed with
  | nil => exact begins
  | cons event rest ih =>
      rw [List.reverse_cons, run_snoc]
      exact goes rest.reverse event ih

end World

def page (host name : String) : CrawlUri :=
  CrawlUri.new
    { scheme := "https", username := "", password := "", host := some (.domain host), port := none
      path := .segments [name], query := none, fragment := none }

def Setup.plain : Setup :=
  { config := FrontierConfig.default
    routing := Routing.new 1
    politeness := Politeness.none
    gateway := .memory (UniqFilter.new 1000)
    origin := { seconds := 0, nanos := 0 } }

def Setup.slow : Setup :=
  { Setup.plain with
    gateway := .remote
      { prepared := [], supplied := 0, latency := Time.millis 100, failsFlush := false
        failsClose := false } }

def firstCall : List Event :=
  [.request .run, .schedule (page "a.com" "1"), .schedule (page "a.com" "2"), .call, .proceed 0,
    .proceed 0, .proceed 0, .proceed 0]

def firstPage : CrawlUri :=
  { page "a.com" "1" with siteKey := "a.com" }

theorem first_call_calm : Calm Setup.plain firstCall :=
  ⟨rfl, by simp [firstCall, Event.Calm]⟩

theorem Calm.earlier {setup : Setup} {events later : List Event}
    (calm : Calm setup (events ++ later)) : Calm setup events :=
  ⟨calm.1, fun event member => calm.2 event (List.mem_append_left later member)⟩

theorem Calm.before {setup : Setup} {events : List Event} {event : Event}
    (calm : Calm setup (events ++ [event])) : Calm setup events ∧ event.Calm :=
  ⟨⟨calm.1, fun other member => calm.2 other (by simp [member])⟩, calm.2 event (by simp)⟩

end PoliteCrawl
