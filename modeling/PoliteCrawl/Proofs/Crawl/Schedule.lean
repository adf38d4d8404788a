import PoliteCrawl.Crawl.Run
import PoliteCrawl.Proofs.Crawl.Progress

set_option autoImplicit false

namespace PoliteCrawl.Crawl

-- Whoever may go on may have the next turn, a worker may be interrupted at every step of its call,
-- and the clock may jump ahead at any time.
inductive Turn where
  | monitor
  | supervisor
  -- The worker goes on until it waits, but for so many steps of its call at most.
  | worker (id steps : Nat)
  | clock (time : Time.Instant)

namespace Simulation

def callOn (simulation : Simulation) (steps id : Nat) (call : Call) : Simulation :=
  let (frontier, call) := simulation.frontier.resume steps call
  let called := { simulation with frontier }
  called.putWorker { id, phase := called.afterCall call }

def workOn (simulation : Simulation) (steps : Nat) (worker : Worker) : Simulation :=
  match worker.phase with
  | .calling call => simulation.callOn steps worker.id call
  | .fetching uri _ => (simulation.finishFetch uri).callOn steps worker.id (Call.start worker.id)
  | .stopped => simulation

def take (simulation : Simulation) : Turn → Simulation
  | .monitor => simulation.goIfMay .monitor
  | .supervisor => simulation.goIfMay .supervisor
  | .worker id steps =>
      match (simulation.worker? id).filter simulation.mayGoWorker with
      | some worker => simulation.workOn steps worker
      | none => simulation
  | .clock time => simulation.setClock time

def play (simulation : Simulation) (turns : List Turn) : Simulation :=
  turns.foldl take simulation

-- The URI that a worker gets in a turn. One that may go on and fetches afterwards just began to.
def gained (simulation : Simulation) : Turn → List CrawlUri
  | .worker id steps =>
      if simulation.mayGo (.worker id) then
        (((simulation.take (.worker id steps)).phase? id).bind WorkerPhase.fetched?).toList
      else []
  | _ => []

def dispatched (simulation : Simulation) : List Turn → List CrawlUri
  | [] => []
  | turn :: rest => simulation.gained turn ++ (simulation.take turn).dispatched rest

def whole : Actor → Turn
  | .monitor => .monitor
  | .supervisor => .supervisor
  | .worker id => .worker id Call.turnBound

theorem take_whole (simulation : Simulation) (actor : Actor) :
    simulation.take (whole actor) = simulation.goIfMay actor := by
  cases actor with
  | monitor => rfl
  | supervisor => rfl
  | worker id =>
      rw [whole, take, goIfMay, mayGo]
      cases found : simulation.worker? id with
      | none => rfl
      | some worker =>
          rw [Option.filter_some, Option.any_some]
          by_cases may : simulation.mayGoWorker worker = true
          · have goes : simulation.go (.worker id) = simulation.goWorker worker := by
              simp only [go, found]
            rw [if_pos may, if_pos may, goes]
            simp only [workOn, goWorker]
            cases phase : worker.phase with
            | fetching uri until_ =>
                have due : until_ ≤ simulation.frontier.now := by
                  simpa [mayGoWorker, phase] using may
                simp only [if_pos due]
                rfl
            | _ => rfl
          · rw [if_neg may, if_neg may]

theorem play_append (simulation : Simulation) (first second : List Turn) :
    simulation.play (first ++ second) = (simulation.play first).play second :=
  List.foldl_append

theorem round_played (simulation : Simulation) (actors : List Actor) :
    actors.foldl goIfMay simulation = simulation.play (actors.map whole) := by
  rw [play, List.foldl_map]
  simp only [take_whole]

theorem next_played (simulation next : Simulation) (limit : Option Time.Instant)
    (follows : simulation.next? limit = some next) : ∃ turns, next = simulation.play turns := by
  rw [next?] at follows
  by_cases stops : (simulation.hasEnded || simulation.isPast limit) = true
  · rw [if_pos stops] at follows
    cases follows
  · rw [if_neg stops] at follows
    by_cases anyone : simulation.actors.any simulation.mayGo = true
    · rw [if_pos anyone] at follows
      cases follows
      exact ⟨_, round_played simulation simulation.actors⟩
    · rw [if_neg anyone] at follows
      obtain ⟨time, _, same⟩ := Option.map_eq_some_iff.mp follows
      exact ⟨[.clock (limit.elim time (min time))], same.symm⟩

theorem finish_played (bound : Nat) (simulation : Simulation) (limit : Option Time.Instant) :
    ∃ turns, simulation.finish bound limit = simulation.play turns := by
  induction bound generalizing simulation with
  | zero => exact ⟨[], rfl⟩
  | succ bound ih =>
      rw [finish]
      cases follows : simulation.next? limit with
      | none => exact ⟨[], rfl⟩
      | some next =>
          obtain ⟨first, one⟩ := next_played simulation next limit follows
          obtain ⟨second, two⟩ := ih next
          refine ⟨first ++ second, ?_⟩
          rw [play_append, ← one]
          exact two

theorem worker_id (simulation : Simulation) (id : Nat) (worker : Worker)
    (found : simulation.worker? id = some worker) : worker.id = id := by
  simpa using List.find?_some found

theorem find_put (workers : List Worker) (worker : Worker) (id : Nat) :
    (workers.map fun old => if old.id = worker.id then worker else old).find? (·.id = id) =
      if id = worker.id then (workers.find? (·.id = id)).map fun _ => worker
      else workers.find? (·.id = id) := by
  induction workers with
  | nil => simp
  | cons first rest ih =>
      by_cases replaced : first.id = worker.id
      · by_cases sought : id = worker.id
        · simp [replaced, sought]
        · simpa [replaced, sought, Ne.symm sought] using ih
      · by_cases here : first.id = id
        · have other : id ≠ worker.id := here ▸ replaced
          simp [here, other]
        · simpa [replaced, here] using ih

theorem put_phase (simulation : Simulation) (worker : Worker) (phase : WorkerPhase)
    (found : simulation.phase? worker.id = some phase) :
    (simulation.putWorker worker).phase? = assign simulation.phase? worker.id worker.phase := by
  funext id
  rw [phase?, worker?, putWorker, find_put, assign]
  by_cases same : id = worker.id
  · subst same
    obtain ⟨old, present, _⟩ := Option.map_eq_some_iff.mp found
    rw [worker?] at present
    rw [if_pos rfl, if_pos rfl, present]
    rfl
  · rw [if_neg same, if_neg same]
    rfl

theorem put_put (simulation : Simulation) (first second : Worker) (same : first.id = second.id) :
    (simulation.putWorker first).putWorker second = simulation.putWorker second := by
  have replaced (old : Worker) :
      (if (if old.id = first.id then first else old).id = second.id then second
        else if old.id = first.id then first else old) =
      if old.id = second.id then second else old := by
    by_cases here : old.id = second.id
    · simp [same, here]
    · simp [same, here]
  simp [putWorker, replaced]

end Simulation

structure Progress (workers : WorkerConfig) (seeds : String → List CrawlUri)
    (simulation : Simulation) (dispatched finished : List CrawlUri) : Prop where
  settings : simulation.settings = workers
  explored : Explored workers seeds simulation.frontier dispatched finished
  staffed : Staffed simulation.frontier simulation.phase?
  -- The monitor goes when the crawl is to finish, and then nothing is left to do.
  watching : simulation.monitor ≠ .stopped → simulation.frontier.target ≠ .finish
  drained : simulation.monitor = .stopped →
    simulation.frontier.total = 0 ∧ ∀ key, simulation.frontier.line key = []

section Progress

variable {workers : WorkerConfig} {seeds : String → List CrawlUri} {simulation : Simulation}
  {dispatched finished : List CrawlUri}

open Simulation

theorem Progress.rests (progress : Progress workers seeds simulation dispatched finished)
    (next : Simulation) (rests : simulation.frontier.Rests next.frontier)
    (settings : next.settings = simulation.settings) (phases : next.phase? = simulation.phase?)
    (monitor : next.monitor = .stopped ↔ simulation.monitor = .stopped) :
    Progress workers seeds next dispatched finished where
  settings := settings.trans progress.settings
  explored := progress.explored.keeps rests.toKeeps
  staffed := phases ▸ progress.staffed.keeps rests.toKeeps
  watching going finish := progress.watching (fun stopped => going (monitor.mpr stopped))
    (rests.finish.mp finish)
  drained stopped := by
    rw [rests.line, rests.total]
    exact progress.drained (monitor.mp stopped)

theorem idle_drained (frontier : Frontier) (sound : frontier.Sound)
    (idle : isIdle frontier = true) : frontier.total = 0 ∧ ∀ key, frontier.line key = [] := by
  simp only [isIdle, Frontier.isEmpty, Bool.and_eq_true, decide_eq_true_eq] at idle
  obtain ⟨⟨queued, _⟩, waiting⟩ := idle
  have pending : frontier.gateway.pending = [] := List.isEmpty_iff.mp waiting
  have contents : frontier.contents.length = 0 := by
    have counted : frontier.stats.queued = frontier.contents.length := sound.counted
    rw [← counted, queued]
  refine ⟨by rw [Frontier.total, queued, pending]; rfl, fun key => ?_⟩
  have items : (frontier.lane key).items = [] := by
    cases found : frontier.queue? key with
    | none => rw [Frontier.lane_missing frontier key found, Lane.empty]
    | some queue =>
        have held := Frontier.queue_contents frontier key queue found
        rw [contents] at held
        rw [Frontier.lane_of_queue frontier key queue found]
        exact List.length_eq_zero_iff.mp (Nat.le_zero.mp held)
  rw [Frontier.line, items, pending]
  rfl

theorem Progress.monitor (progress : Progress workers seeds simulation dispatched finished) :
    Progress workers seeds simulation.goMonitor dispatched finished := by
  rw [goMonitor]
  cases phase : simulation.monitor with
  | stopped => exact progress
  | watching seen tick =>
      have going : simulation.monitor ≠ .stopped := by simp [phase]
      have unfinished := progress.watching going
      by_cases done : isDrained simulation.frontier = true
      · simp only [if_pos done]
        have idle : isIdle simulation.frontier = true := by
          simp only [isDrained, Bool.or_eq_true, decide_eq_true_eq, Bool.and_eq_true] at done
          exact (done.resolve_left unfinished).2
        have keeps := (Frontier.request_keeps simulation.frontier .finish progress.explored.sound
          unfinished).1
        refine ⟨progress.settings, progress.explored.keeps keeps, progress.staffed.keeps keeps,
          fun going => absurd rfl going, fun _ => ?_⟩
        rw [keeps.line, keeps.total]
        exact idle_drained simulation.frontier progress.explored.sound idle
      · simp only [if_neg done]
        exact progress.rests _ progress.explored.sound.rests rfl rfl (by simp [phase])

theorem put_assign (simulation : Simulation) (after : Frontier) (id : Nat) (old phase : WorkerPhase)
    (found : simulation.phase? id = some old) :
    ({ simulation with frontier := after }.putWorker { id, phase }).phase? =
      assign simulation.phase? id phase :=
  put_phase { simulation with frontier := after } { id, phase } old found

theorem Progress.onward (progress : Progress workers seeds simulation dispatched finished)
    (after : Frontier) (id : Nat) (call : Call) (phase : WorkerPhase)
    (here : simulation.phase? id = some (.calling call)) (rests : simulation.frontier.Rests after)
    (free : phase.fetched? = none)
    (open_ : ∀ call, phase = .calling call → ∀ answer, call.phase ≠ .done answer) :
    Progress workers seeds ({ simulation with frontier := after }.putWorker { id, phase })
      (dispatched ++ phase.fetched?.toList) finished := by
  rw [free, Option.toList_none, List.append_nil]
  refine ⟨progress.settings, progress.explored.keeps rests.toKeeps, ?_,
    fun going finish => progress.watching going (rests.finish.mp finish), fun stopped => ?_⟩
  · rw [put_assign simulation after id _ phase here]
    exact (progress.staffed.keeps rests.toKeeps).assign id phase free open_
  · change after.total = 0 ∧ ∀ key, after.line key = []
    rw [rests.line, rests.total]
    exact progress.drained stopped

theorem Progress.hands (progress : Progress workers seeds simulation dispatched finished)
    (after : Frontier) (id : Nat) (call : Call) (uri : CrawlUri) (until_ : Time.Instant)
    (here : simulation.phase? id = some (.calling call))
    (hands : simulation.frontier.Hands after uri) :
    Progress workers seeds
      ({ simulation with frontier := after }.putWorker { id, phase := .fetching uri until_ })
      (dispatched ++ [uri]) finished where
  settings := progress.settings
  explored := progress.explored.hands hands
  staffed := by
    rw [put_assign simulation after id _ _ here]
    exact progress.staffed.hands hands id until_
  watching going finish := progress.watching going (hands.finish.mp finish)
  drained stopped := by
    change after.total = 0 ∧ ∀ key, after.line key = []
    rw [hands.line, hands.total]
    exact progress.drained stopped

theorem Progress.call (progress : Progress workers seeds simulation dispatched finished)
    (steps id : Nat) (call : Call) (here : simulation.phase? id = some (.calling call)) :
    Progress workers seeds (simulation.callOn steps id call)
      (dispatched ++ (((simulation.callOn steps id call).phase? id).bind
        WorkerPhase.fetched?).toList) finished := by
  have open_ := progress.staffed.open_ id call here
  have goes := Frontier.resume_goes steps simulation.frontier call progress.explored.sound open_
  rw [callOn]
  cases result : simulation.frontier.resume steps call with
  | mk after later =>
      rw [result] at goes
      simp only
      rw [put_assign simulation after id _ _ here, assign, if_pos rfl, Option.bind_some]
      cases phase : later.phase with
      | done answer =>
          rw [phase] at goes
          cases answer with
          | some uri =>
              have taken : { simulation with frontier := after }.afterCall later =
                  .fetching uri (after.now + simulation.fetchTime) := by
                rw [afterCall, phase]
                rfl
              rw [taken]
              exact progress.hands after id call uri _ here goes
          | none =>
              have taken : { simulation with frontier := after }.afterCall later = .stopped := by
                rw [afterCall, phase]
              rw [taken]
              exact progress.onward after id call .stopped here goes rfl (by simp)
      | failed =>
          rw [phase] at goes
          have taken : { simulation with frontier := after }.afterCall later = .stopped := by
            rw [afterCall, phase]
          rw [taken]
          exact progress.onward after id call .stopped here goes rfl (by simp)
      | _ =>
          rw [phase] at goes
          have taken : { simulation with frontier := after }.afterCall later = .calling later := by
            rw [afterCall, phase]
          rw [taken]
          refine progress.onward after id call (.calling later) here goes rfl fun call same answer => ?_
          cases same
          simp [phase]

theorem Progress.finish (progress : Progress workers seeds simulation dispatched finished) (id : Nat)
    (uri : CrawlUri) (until_ : Time.Instant)
    (here : simulation.phase? id = some (.fetching uri until_)) :
    Progress workers seeds
      ((simulation.finishFetch uri).putWorker { id, phase := .calling (Call.start id) })
      dispatched (finished ++ [uri]) := by
  obtain ⟨busy, head⟩ := progress.staffed.holds id uri until_ here
  have going : simulation.monitor ≠ .stopped := by
    intro stopped
    rw [(progress.drained stopped).2] at head
    cases head
  have unfinished := progress.watching going
  have reports := progress.explored.reports (Outcome.new (.success 200) simulation.fetchTime) 200 rfl
    unfinished busy head
  have explored := progress.explored.report reports busy
  have fetched : simulation.finishFetch uri = { simulation with
      frontier := (((discoverLinks workers uri).foldl offer simulation.frontier).complete uri
        (Outcome.new (.success 200) simulation.fetchTime)).1 } := by
    rw [finishFetch, progress.settings]
  rw [fetched]
  refine ⟨progress.settings, explored, ?_, fun _ finish => unfinished (reports.finish.mp finish),
    fun stopped => absurd stopped going⟩
  rw [put_assign simulation _ id _ _ here]
  exact progress.staffed.report here reports rfl fun call same answer => by
    cases same
    simp [Call.start]

theorem call_put (simulation : Simulation) (steps id : Nat) (phase : WorkerPhase) (call : Call) :
    (simulation.putWorker { id, phase }).callOn steps id call = simulation.callOn steps id call := by
  have same : (simulation.putWorker { id, phase }).frontier = simulation.frontier := rfl
  rw [callOn, callOn, same]
  cases simulation.frontier.resume steps call with
  | mk after later => exact put_put { simulation with frontier := after } { id, phase } _ rfl

theorem Progress.worker (progress : Progress workers seeds simulation dispatched finished)
    (steps id : Nat) :
    ∃ done, Progress workers seeds (simulation.take (.worker id steps))
      (dispatched ++ simulation.gained (.worker id steps)) done := by
  rw [gained, mayGo, take]
  cases found : simulation.worker? id with
  | none => exact ⟨finished, (List.append_nil dispatched).symm ▸ progress⟩
  | some worker =>
      rw [Option.filter_some, Option.any_some]
      by_cases may : simulation.mayGoWorker worker = true
      · have named := worker_id simulation id worker found
        have here : simulation.phase? id = some worker.phase := by
          rw [phase?, found]
          rfl
        rw [if_pos may, if_pos may]
        simp only [workOn]
        cases phase : worker.phase with
        | stopped => simp [mayGoWorker, phase] at may
        | calling call =>
            rw [phase] at here
            simp only [named]
            exact ⟨finished, progress.call steps id call here⟩
        | fetching uri until_ =>
            rw [phase] at here
            simp only [named]
            have reported := progress.finish id uri until_ here
            have called := reported.call steps id (Call.start id) (by
              rw [put_phase (simulation.finishFetch uri) { id, phase := .calling (Call.start id) } _
                here, assign, if_pos rfl])
            rw [call_put] at called
            exact ⟨finished ++ [uri], called⟩
      · rw [if_neg may, if_neg may]
        exact ⟨finished, (List.append_nil dispatched).symm ▸ progress⟩

theorem Progress.act (progress : Progress workers seeds simulation dispatched finished)
    (actor : Actor)
    (goes : Progress workers seeds (simulation.go actor) dispatched finished) :
    Progress workers seeds (simulation.goIfMay actor) dispatched finished := by
  rw [goIfMay]
  by_cases may : simulation.mayGo actor = true
  · rw [if_pos may]
    exact goes
  · rw [if_neg may]
    exact progress

theorem Progress.turn (progress : Progress workers seeds simulation dispatched finished)
    (turn : Turn) :
    ∃ done, Progress workers seeds (simulation.take turn) (dispatched ++ simulation.gained turn)
      done := by
  have sound := progress.explored.sound
  cases turn with
  | worker id steps => exact progress.worker steps id
  | monitor =>
      have went := progress.act .monitor progress.monitor
      exact ⟨finished, (List.append_nil dispatched).symm ▸ went⟩
  | supervisor =>
      have turned := Frontier.turn_rests simulation.frontier simulation.supervisor sound
      have went := progress.act .supervisor
        (progress.rests simulation.goSupervisor turned rfl rfl Iff.rfl)
      exact ⟨finished, (List.append_nil dispatched).symm ▸ went⟩
  | clock time =>
      have rests := progress.rests (simulation.setClock time) (sound.unmoved rfl) rfl rfl Iff.rfl
      exact ⟨finished, (List.append_nil dispatched).symm ▸ rests⟩

theorem Progress.play (progress : Progress workers seeds simulation dispatched finished)
    (turns : List Turn) :
    ∃ done, Progress workers seeds (simulation.play turns) (dispatched ++ simulation.dispatched turns)
      done := by
  induction turns generalizing simulation dispatched finished with
  | nil =>
      refine ⟨finished, ?_⟩
      rw [Simulation.dispatched, List.append_nil]
      exact progress
  | cons turn rest ih =>
      obtain ⟨done, later⟩ := progress.turn turn
      have whole := ih later
      rw [List.append_assoc] at whole
      exact whole

end Progress

end PoliteCrawl.Crawl
