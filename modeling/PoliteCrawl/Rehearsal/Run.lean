import PoliteCrawl.Rehearsal.Job

set_option autoImplicit false

namespace PoliteCrawl.Rehearsal

-- Whoever is woken gets its turn after those who were woken before; when nobody has a turn, the
-- clock jumps to the next timer.
structure Run where
  frontier : Frontier
  supervisor : Option Supervisor
  jobs : List Job
  -- The job that goes before all others once it is woken, if there is one.
  lead : Option Nat
  turns : List Nat
  -- The timers that were set, in the order of setting, and who is woken by each.
  timers : List (Time.Instant × Nat)
deriving DecidableEq, Repr

namespace Run

def setTimers (timers : List (Time.Instant × Nat)) (id : Nat) (times : List Time.Instant) :
    List (Time.Instant × Nat) :=
  timers.filter (fun timer => timer.2 ≠ id || times.contains timer.1) ++
    (times.filter fun time => !timers.contains (time, id)).map fun time => (time, id)

-- Is a supervisor asleep that may go on? One that is in the midst of its steps takes the next when
-- nobody else has a turn.
def supervisorWoken (run : Run) (supervisor : Supervisor) : Bool :=
  supervisor.phase ≠ .stepping && run.frontier.canSupervise supervisor

def isWoken (run : Run) (id : Nat) : Bool :=
  run.jobs.any (fun job => job.id = id && run.frontier.mayGo job) ||
    run.supervisor.any fun supervisor => supervisor.id = id && run.supervisorWoken supervisor

def giveTurn (run : Run) (id : Nat) : Run :=
  if run.turns.contains id || !run.isWoken id then run
  else if run.lead = some id then { run with turns := id :: run.turns }
  else { run with turns := run.turns ++ [id] }

def giveTurns (run : Run) (ids : List Nat) : Run :=
  ids.foldl giveTurn run

def everyone (run : Run) : List Nat :=
  run.frontier.readySignal.enrolled.map (·.1) ++ run.jobs.map (·.id) ++
    run.supervisor.toList.map (·.id)

def start (frontier : Frontier) (supervisor : Option Supervisor) (lead : Option Nat)
    (jobs : List Job) : Run :=
  let run : Run :=
    { frontier
      supervisor
      jobs
      lead
      turns := jobs.map (·.id)
      timers := supervisor.toList.flatMap fun supervisor =>
        supervisor.timer?.toList.map fun time => (time, supervisor.id) }
  run.giveTurns run.everyone

def putJob (run : Run) (job : Job) : Run :=
  { run with
    jobs := run.jobs.map fun old => if old.id = job.id then job else old
    timers := setTimers run.timers job.id job.timers }

def goJob (run : Run) (job : Job) : Run :=
  let (frontier, job) := run.frontier.go job
  { run with frontier }.putJob job

def goSupervisor (run : Run) (supervisor : Supervisor) : Run :=
  let (frontier, supervisor) := run.frontier.superviseTurn supervisor
  { run with
    frontier
    supervisor := some supervisor
    timers := setTimers run.timers supervisor.id supervisor.timer?.toList }

def take (run : Run) (id : Nat) : Run :=
  match run.jobs.find? (·.id = id), run.supervisor with
  | some job, _ => run.goJob job
  | none, some supervisor => run.goSupervisor supervisor
  | none, none => run

def isStepping (supervisor : Supervisor) : Bool :=
  supervisor.phase = .stepping

def nextTimer? (run : Run) : Option Time.Instant :=
  (run.timers.map (·.1)).min?

def jump (run : Run) (time : Time.Instant) : Run :=
  let later := { run with
    frontier := { run.frontier with now := max run.frontier.now time }
    timers := run.timers.filter (time < ·.1) }
  later.giveTurns ((run.timers.filter (·.1 ≤ time)).map (·.2))

def next? (run : Run) : Option Run :=
  match run.turns, run.supervisor.filter isStepping with
  | id :: turns, _ =>
      let gone := { run with turns }.take id
      some (gone.giveTurns gone.everyone)
  | [], some supervisor =>
      let gone := run.goSupervisor supervisor
      some (gone.giveTurns gone.everyone)
  | [], none =>
      if run.jobs.all Job.hasEnded then none
      else run.nextTimer?.map run.jump

def finish (bound : Nat) (run : Run) : Run :=
  match bound with
  | 0 => run
  | bound + 1 =>
      match run.next? with
      | some next => finish bound next
      | none => run

end Run

end PoliteCrawl.Rehearsal
