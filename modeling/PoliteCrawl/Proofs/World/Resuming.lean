import PoliteCrawl.Proofs.World.Vigils
import PoliteCrawl.Proofs.World.Wakeups

set_option autoImplicit false

namespace PoliteCrawl

-- Works toward the target or goes on with a call, and does nothing else.
def Event.tends : Event → Bool
  | .proceed _ | .manage | .hire | .supervise _ => true
  | _ => false

theorem Event.tends_ordered {event : Event} (tends : event.tends = true) : event.Ordered := by
  cases event with
  | request state => cases tends
  | _ => trivial

namespace Frontier

theorem request_target (frontier : Frontier) (state : CrawlState)
    (unfinished : frontier.target ≠ .finish) : (frontier.requestState state).target = state := by
  obtain ⟨ready, snooze, shape⟩ := World.request_shape frontier state
  rw [shape, if_neg fun both => unfinished both.1]
  rfl

theorem declared_empty (frontier : Frontier) :
    frontier.requestState .empty = frontier ∨
      frontier.target ≠ .finish ∧ frontier.requestState .empty =
        { frontier.setTarget .empty with snoozeSignal := frontier.snoozeSignal.notifyOne } := by
  rw [requestState]
  by_cases refused : frontier.target = .finish ∧ CrawlState.empty ≠ .finish
  · exact .inl (if_pos refused)
  · refine .inr ⟨fun ends => refused ⟨ends, by simp⟩, ?_⟩
    rw [if_neg refused]
    simp only [announce, ite_self]
    rfl

theorem run_heeded (frontier : Frontier) (unfinished : frontier.target ≠ .finish)
    (other : frontier.target ≠ .run) : (frontier.requestState .run).readySignal.Heeded := by
  rw [requestState, if_neg fun both => unfinished both.1]
  simp only [if_neg other]
  exact Signal.notify_one_heeded _

def Going (frontier : Frontier) : Prop :=
  frontier.target = .run ∨ frontier.target = .empty

theorem Going.allows {frontier : Frontier} (goes : frontier.Going) :
    frontier.target.allowsDispatch = true := by
  rcases goes with target | target <;> rw [target] <;> rfl

theorem management_goes (frontier : Frontier) (calm : frontier.Calm) (registered : frontier.Registered)
    (ordered : frontier.Ordered) (goes : frontier.Going) :
    (∃ span, frontier.managementStep.2 = .rests span) ∧ frontier.managementStep.1.Going := by
  rcases goes with asked | asked
  · by_cases drained : frontier.isEmpty = true
    · simp only [managementStep, asked, manageRun, if_pos drained]
      exact ⟨⟨_, rfl⟩, .inr rfl⟩
    · obtain ⟨after, woken, _, target, _⟩ := marked_wakes frontier .run calm registered ordered
      simp only [managementStep, asked, manageRun, if_neg drained, woken]
      refine ⟨⟨_, rfl⟩, .inl ?_⟩
      split <;> exact target.trans asked
  · by_cases drained : frontier.isEmpty = true
    · obtain ⟨after, woken, _, target, _⟩ := marked_wakes frontier .empty calm registered ordered
      simp only [managementStep, asked, manageEmpty, drained, woken, Bool.not_true,
        Bool.false_eq_true, if_false]
      exact ⟨⟨_, rfl⟩, .inr (target.trans asked)⟩
    · simp only [managementStep, asked, manageEmpty, drained, Bool.not_false, if_true]
      exact ⟨⟨_, rfl⟩, .inl rfl⟩

theorem manage_rests (frontier : Frontier) (span : Time.Span)
    (rests : frontier.managementStep.2 = .rests span) :
    frontier.manage.1 = frontier.managementStep.1 := by
  have ended : frontier.managementStep = (frontier.managementStep.1, .rests span) :=
    Prod.ext rfl rests
  rw [manage, ended]

theorem manage_goes (frontier : Frontier) (calm : frontier.Calm) (registered : frontier.Registered)
    (ordered : frontier.Ordered) (goes : frontier.Going) : frontier.manage.1.Going := by
  obtain ⟨⟨span, rests⟩, still⟩ := management_goes frontier calm registered ordered goes
  rw [manage_rests frontier span rests]
  exact still

theorem turn_goes (frontier : Frontier) (supervisor : Supervisor) (calm : frontier.Calm)
    (registered : frontier.Registered) (ordered : frontier.Ordered) (goes : frontier.Going) :
    (frontier.superviseTurn supervisor).1.Going := by
  obtain ⟨first, last, still | managed⟩ := turn_manages frontier supervisor
  · rw [still]
    exact goes
  · have next := manage_goes { frontier with snoozeSignal := first } calm
      ⟨registered.once, registered.ascending, registered.settled⟩ ordered goes
    rw [managed]
    exact next

-- The crawl goes on, there are URIs, keys are in line, and no queue is to be woken yet.
structure Laden (frontier : Frontier) : Prop where
  goes : frontier.Going
  burdened : frontier.isEmpty = false
  line : frontier.ready ≠ []
  asleep : ∀ entry ∈ frontier.snoozed, frontier.now < entry.wake

structure Unnoticed (before after : Frontier) : Prop where
  laden : after.Laden
  signal : after.readySignal = before.readySignal
  line : after.ready = before.ready
  now : after.now = before.now

theorem Laden.still {frontier after : Frontier} (laden : frontier.Laden) (goes : after.Going)
    (signal : after.readySignal = frontier.readySignal) (line : after.ready = frontier.ready)
    (snoozed : after.snoozed = frontier.snoozed) (now : after.now = frontier.now)
    (burdened : after.isEmpty = frontier.isEmpty) : frontier.Unnoticed after := by
  refine ⟨⟨goes, burdened.trans laden.burdened, line ▸ laden.line, ?_⟩, signal, line, now⟩
  rw [snoozed, now]
  exact laden.asleep

theorem Unnoticed.trans {first second third : Frontier} (one : first.Unnoticed second)
    (two : second.Unnoticed third) : first.Unnoticed third :=
  ⟨two.laden, two.signal.trans one.signal, two.line.trans one.line, two.now.trans one.now⟩

theorem wake_nobody (frontier : Frontier)
    (asleep : ∀ entry ∈ frontier.snoozed, frontier.now < entry.wake) :
    frontier.wakeQueues = (frontier, some frontier.untilNextWake) := by
  have woken : frontier.wakeDue frontier.snoozed = (frontier, some ()) := by
    cases listed : frontier.snoozed with
    | nil => rfl
    | cons entry rest =>
        have late : ¬ entry.wake ≤ frontier.now := Nat.not_le.mpr (asleep entry (by simp [listed]))
        rw [wakeDue, if_neg late]
  simp only [wakeQueues, woken]

theorem Laden.management {frontier : Frontier} (laden : frontier.Laden) :
    (∃ span, frontier.managementStep.2 = .rests span) ∧
      frontier.Unnoticed frontier.managementStep.1 := by
  rcases laden.goes with asked | asked
  · have marked : frontier.Unnoticed (frontier.markReached .run) :=
      laden.still (.inl ((frontier.mark_target .run).trans asked)) rfl rfl rfl rfl rfl
    simp only [managementStep, asked, manageRun, laden.burdened, Bool.false_eq_true, if_false,
      wake_nobody _ marked.laden.asleep]
    -- Keys are in line, so no worker is woken.
    rw [if_neg (by simpa using marked.laden.line)]
    exact ⟨⟨_, rfl⟩, marked⟩
  · simp only [managementStep, asked, manageEmpty, laden.burdened, Bool.not_false, if_true]
    exact ⟨⟨_, rfl⟩, laden.still (.inl rfl) rfl rfl rfl rfl rfl⟩

theorem Laden.manage {frontier : Frontier} (laden : frontier.Laden) :
    frontier.Unnoticed frontier.manage.1 := by
  obtain ⟨⟨span, rests⟩, unnoticed⟩ := laden.management
  rw [manage_rests frontier span rests]
  exact unnoticed

theorem Laden.turn {frontier : Frontier} (laden : frontier.Laden) (supervisor : Supervisor) :
    frontier.Unnoticed (frontier.superviseTurn supervisor).1 := by
  have signalled (signal : Signal) : frontier.Unnoticed { frontier with snoozeSignal := signal } :=
    laden.still laden.goes rfl rfl rfl rfl rfl
  obtain ⟨first, last, still | managed⟩ := turn_manages frontier supervisor
  · rw [still]
    exact signalled last
  · have unnoticed := (signalled first).trans (signalled first).laden.manage
    rw [managed]
    exact unnoticed.trans (unnoticed.laden.still unnoticed.laden.goes rfl rfl rfl rfl rfl)

theorem step_stuck (frontier : Frontier) (call : Call) (stuck : frontier.canStep call = false) :
    frontier.step call = (frontier, call) ∧ call.phase.awaits = true := by
  obtain ⟨id, phase⟩ := call
  cases phase with
  | waiting =>
      have unwoken : frontier.readySignal.isAwake id = false := stuck
      simp [step, stepPhase, awake, unwoken, CallPhase.awaits]
  | resting attempt until_ =>
      have early : ¬ until_ ≤ frontier.now := of_decide_eq_false stuck
      simp [step, stepPhase, if_neg early, CallPhase.awaits]
  | flushing due deadline =>
      obtain ⟨early, patient⟩ := Bool.or_eq_false_iff.mp stuck
      simp [step, stepPhase, if_neg (of_decide_eq_false early),
        if_neg (of_decide_eq_false patient), CallPhase.awaits]
  | done answer | failed => exact ⟨rfl, rfl⟩
  | _ => cases stuck

end Frontier

namespace World

-- What became of a world in which no call can go on: the calls are as they were, and there is nothing
-- for them to notice.
structure Torpid (world after : World) : Prop where
  idle : after.turn = none
  calls : ∀ id, after.call? id = world.call? id
  unnoticed : world.frontier.Unnoticed after.frontier

theorem Torpid.stuck {world after : World} (torpid : world.Torpid after) (call : Call)
    (stuck : world.frontier.canStep call = false) : after.frontier.canStep call = false := by
  rwa [Frontier.canStep, torpid.unnoticed.signal, torpid.unnoticed.now]

theorem Torpid.act {world after : World} (torpid : world.Torpid after) (event : Event)
    (tends : event.tends = true)
    (stuck : ∀ id call, world.call? id = some call → world.frontier.canStep call = false) :
    world.Torpid (after.act event) := by
  cases event with
  | proceed id =>
      simp only [World.act]
      cases found : after.call? id with
      | none => exact torpid
      | some call =>
          obtain ⟨still, awaits⟩ := after.frontier.step_stuck call
            (torpid.stuck call (stuck id call (torpid.calls id ▸ found)))
          have named := call_id after id call found
          refine ⟨by simp [World.proceed, still, awaits], fun other => ?_, ?_⟩
          · rw [← torpid.calls other, Option.elim, call_proceed, still]
            cases present : after.call? other with
            | none => rfl
            | some old =>
                by_cases same : old.id = call.id
                · rw [← call_id after other old present, same, named, found] at present
                  simpa [same] using present
                · simp [same]
          · have frontier : (after.proceed call).frontier = after.frontier := congrArg Prod.fst still
            exact frontier ▸ torpid.unnoticed
  | manage =>
      exact ⟨torpid.idle, torpid.calls, torpid.unnoticed.trans torpid.unnoticed.laden.management.2⟩
  | hire => exact ⟨torpid.idle, torpid.calls, torpid.unnoticed⟩
  | supervise id =>
      simp only [World.act]
      cases after.supervisor? id with
      | none => exact torpid
      | some supervisor =>
          exact ⟨torpid.idle, torpid.calls,
            torpid.unnoticed.trans (torpid.unnoticed.laden.turn supervisor)⟩
  | _ => cases tends

theorem Torpid.run {world after : World} (torpid : world.Torpid after) (later : List Event)
    (tends : ∀ event ∈ later, event.tends = true)
    (stuck : ∀ id call, world.call? id = some call → world.frontier.canStep call = false) :
    world.Torpid (later.foldl World.step after) := by
  induction later generalizing after with
  | nil => exact torpid
  | cons event rest ih =>
      have admitted : after.admits event = true := by simp [admits, torpid.idle]
      have next : world.Torpid (after.step event) := by
        rw [World.step, if_pos admitted]
        exact torpid.act event (tends event List.mem_cons_self) stuck
      exact ih next fun other listed => tends other (List.mem_cons_of_mem event listed)

theorem act_declared (world : World) (enlisted : world.Enlisted) :
    (world.act (.request .empty)).Enlisted := by
  rcases world.frontier.declared_empty with same | ⟨_, declared⟩
  · simp only [act, same]
    exact enlisted
  · simp only [act, declared]
    exact ⟨enlisted.fresh, enlisted.once, enlisted.roll, enlisted.turn, fun ends => by cases ends⟩

theorem step_unordered (world : World) (event : Event) (unordered : ¬ event.Ordered) :
    world.step event = world ∨ world.step event = world.act (.request .empty) := by
  cases event with
  | request state =>
      have declared : state = .empty := by simpa [Event.Ordered] using unordered
      subst declared
      rw [World.step]
      split
      · exact .inr rfl
      · exact .inl rfl
  | _ => exact absurd trivial unordered

theorem run_listed (setup : Setup) (events : List Event) (calm : Calm setup events) :
    (run setup events).Enlisted := by
  refine run_induction (motive := fun events world => Calm setup events → world.Enlisted)
    setup (fun _ => start_enlisted setup) ?_ events calm
  intro events event ih calm
  have enlisted := ih calm.earlier
  by_cases ordered : event.Ordered
  · exact (step_happens _ event (run_kept setup events calm.earlier) enlisted ordered).enlisted enlisted
  · rcases step_unordered (World.run setup events) event ordered with same | declared
    · rw [same]
      exact enlisted
    · rw [declared]
      exact act_declared _ enlisted

theorem run_unsuspended (setup : Setup) (events : List Event) (calm : Calm setup events)
    (prompt : Prompt setup events) :
    (run setup events).frontier.pulling = false ∧
      ∀ id call, (run setup events).call? id = some call → call.phase.suspended = false := by
  revert calm prompt
  refine run_induction (motive := fun events world => Calm setup events → Prompt setup events →
    world.frontier.pulling = false ∧
      ∀ id call, world.call? id = some call → call.phase.suspended = false) setup ?_ ?_ events
  · exact fun _ _ => ⟨rfl, fun id call found => by simp [start, call?] at found⟩
  · intro events event ih calm prompt
    obtain ⟨free, active⟩ := ih calm.earlier fun earlier short =>
      prompt earlier (short.trans (List.prefix_append events [event]))
    by_cases ordered : event.Ordered
    · have enlisted := run_listed setup events calm.earlier
      exact (step_happens _ event (run_kept setup events calm.earlier) enlisted ordered).prompt
        enlisted (prompt events (List.prefix_append events [event])) free active
    · rcases step_unordered (World.run setup events) event ordered with same | declared
      · rw [same]
        exact ⟨free, active⟩
      · obtain ⟨ready, snooze, shape⟩ := request_shape (World.run setup events).frontier .empty
        rw [declared]
        refine ⟨?_, active⟩
        simp only [World.act, shape]
        exact free

theorem attended_onward (setup : Setup) (before later : List Event)
    (calm : Calm setup (before ++ later)) (prompt : Prompt setup (before ++ later))
    (ordered : ∀ event ∈ later, event.Ordered)
    (begins : (run setup before).turn = none → (run setup before).Attended) :
    (run setup (before ++ later)).turn = none → (run setup (before ++ later)).Attended := by
  induction later generalizing before with
  | nil => simpa using begins
  | cons event rest ih =>
      rw [List.append_cons before event rest] at calm prompt ⊢
      refine ih (before ++ [event]) calm prompt
        (fun other listed => ordered other (List.mem_cons_of_mem event listed)) fun idle => ?_
      have earlier := calm.earlier.earlier
      have quick : Prompt setup before := fun part short =>
        prompt part (short.trans ((List.prefix_append before [event]).trans (List.prefix_append _ rest)))
      have enlisted := run_listed setup before earlier
      have happens := step_happens _ event (run_kept setup before earlier) enlisted
        (ordered event List.mem_cons_self)
      rw [run_snoc] at idle ⊢
      refine (happens.attended enlisted idle begins).resolve_right ?_
      rintro ⟨id, _, deserts⟩
      obtain ⟨call, found, suspended⟩ := deserts.suspended
      rw [(run_unsuspended setup before earlier quick).2 id call found] at suspended
      cases suspended

theorem stuck_unattended (setup : Setup) (events : List Event) (calm : Calm setup events)
    (prompt : Prompt setup events) (idle : (run setup events).turn = none)
    (work : (run setup events).HasWork)
    (stuck : ∀ id call, (run setup events).call? id = some call →
      (run setup events).frontier.canStep call = false)
    (id : Nat) (call : Call) (found : (run setup events).call? id = some call)
    (waits : call.phase = .waiting) : ¬ (run setup events).Attended := by
  have enlisted := run_listed setup events calm
  have active := (run_unsuspended setup events calm prompt).2
  intro attended
  obtain ⟨charged, other, present, suspended | picked⟩ :=
    attended work ⟨id, call, found, waits, enlisted.asleep found waits (stuck id call found)⟩
  · rw [active charged other present] at suspended
    cases suspended
  · have goes := run_picked setup events idle enlisted charged other present
      (active charged other present) picked
    rw [stuck charged other present] at goes
    cases goes

-- Where somebody waits in vain in the end, this was so at every moment since a given one, and no call was
-- in its turn.
theorem vain_throughout (setup : Setup) (before later : List Event)
    (calm : Calm setup (before ++ later)) (prompt : Prompt setup (before ++ later))
    (ordered : ∀ event ∈ later, event.Ordered) (idle : (run setup (before ++ later)).turn = none)
    (unattended : ¬ (run setup (before ++ later)).Attended) (part : List Event)
    (short : part <+: later) :
    (run setup (before ++ part)).turn = none ∧ ¬ (run setup (before ++ part)).Attended := by
  obtain ⟨rest, whole⟩ := short
  have split : before ++ later = before ++ part ++ rest := by rw [List.append_assoc, whole]
  rw [split] at calm prompt idle unattended
  refine Classical.not_imp.mp fun begins => ?_
  exact unattended (attended_onward setup (before ++ part) rest calm prompt
    (fun event listed => ordered event (whole ▸ List.mem_append_right part listed)) begins idle)

theorem act_goes {origin : Gateway} (world : World) (event : Event)
    (kept : Kept origin world.frontier world.journal) (ordered : world.frontier.Ordered)
    (tends : event.tends = true) (goes : world.frontier.Going) : (world.act event).frontier.Going := by
  cases event with
  | proceed id =>
      have cell := act_cell world (.proceed id) (by simp) (by simp) (by simp)
      rwa [Frontier.Going, Frontier.target, cell]
  | manage =>
      exact (world.frontier.management_goes kept.calm kept.registered ordered goes).2
  | hire => exact goes
  | supervise id =>
      simp only [World.act]
      cases world.supervisor? id with
      | none => exact goes
      | some supervisor =>
          exact world.frontier.turn_goes supervisor kept.calm kept.registered ordered goes
  | _ => cases tends

theorem run_goes (setup : Setup) (before later : List Event) (calm : Calm setup (before ++ later))
    (tends : ∀ event ∈ later, event.tends = true) (goes : (run setup before).frontier.Going) :
    (run setup (before ++ later)).frontier.Going := by
  induction later generalizing before with
  | nil => simpa using goes
  | cons event rest ih =>
      rw [List.append_cons before event rest] at calm ⊢
      refine ih (before ++ [event]) calm
        (fun other listed => tends other (List.mem_cons_of_mem event listed)) ?_
      rw [run_snoc, World.step]
      split
      · exact act_goes _ event (run_kept setup before calm.earlier.earlier) (run_ordered setup before)
          (tends event List.mem_cons_self) goes
      · exact goes

end World

/-- A crawl that holds or pauses is told to run or declared empty, and from then on nothing happens but
that calls and supervisors go on; the gateway takes no time. Once no call can go on, either no key is in
line or no call waits, unless the crawl was declared empty and, at every moment since, no call was in its
turn and somebody waited in vain. Who lets the crawl run wakes somebody; who declares it empty wakes
nobody. If no call can go on then, while there are URIs, keys are in line and no queue is to be woken yet,
all calls stay as they are although the crawl goes on. -/
theorem resuming_reaches_workers (setup : Setup) (before : List Event) (state : CrawlState)
    (later : List Event) (calm : Calm setup (before ++ [.request state] ++ later))
    (prompt : World.Prompt setup (before ++ [.request state] ++ later))
    (tends : ∀ event ∈ later, event.tends = true) (idle : (World.run setup before).turn = none)
    (halted : (World.run setup before).frontier.target = .hold ∨
      (World.run setup before).frontier.target = .pause)
    (resumes : state.allowsDispatch = true) :
    let resumed := World.run setup (before ++ [.request state])
    let world := World.run setup (before ++ [.request state] ++ later)
    (world.turn = none →
      (∀ id call, world.call? id = some call → world.frontier.canStep call = false) →
        world.frontier.ready = [] ∨
          (∀ id call, world.call? id = some call → call.phase ≠ .waiting) ∨
          state = .empty ∧ ∀ part, part <+: later →
            (World.run setup (before ++ [.request state] ++ part)).turn = none ∧
              ¬ (World.run setup (before ++ [.request state] ++ part)).Attended) ∧
      (state = .run → resumed.frontier.readySignal.Heeded) ∧
      (state = .empty →
        resumed.frontier.readySignal = (World.run setup before).frontier.readySignal) ∧
      (resumed.frontier.Laden →
        (∀ id call, resumed.call? id = some call → resumed.frontier.canStep call = false) →
          world.frontier.target.allowsDispatch = true ∧ world.frontier.ready ≠ [] ∧
            ∀ id call, resumed.call? id = some call →
              world.call? id = some call ∧ world.frontier.canStep call = false) := by
  intro resumed world
  have unfinished : (World.run setup before).frontier.target ≠ .finish := by
    rcases halted with target | target <;> simp [target]
  have asked : resumed = (World.run setup before).act (.request state) :=
    World.run_next setup before (.request state) idle
  have resting : resumed.turn = none := by
    rw [asked]
    exact idle
  have goes : resumed.frontier.Going := by
    have target : resumed.frontier.target = state := by
      rw [asked]
      exact Frontier.request_target _ state unfinished
    cases state with
    | run => exact .inl target
    | empty => exact .inr target
    | _ => cases resumes
  have heeds (runs : state = .run) : resumed.frontier.readySignal.Heeded := by
    rw [asked, runs]
    refine Frontier.run_heeded _ unfinished ?_
    rcases halted with target | target <;> simp [target]
  refine ⟨fun idle stuck => ?_, heeds, fun declared => ?_, fun laden stuck => ?_⟩
  · by_cases line : world.frontier.ready = []
    · exact .inl line
    · refine .inr (Classical.or_iff_not_imp_left.mpr fun waiting => ?_)
      obtain ⟨id, call, found, waits⟩ :
          ∃ id call, world.call? id = some call ∧ call.phase = .waiting := by
        simpa using waiting
      have running : world.frontier.Going := World.run_goes setup _ later calm tends goes
      have since := World.vain_throughout setup _ later calm prompt
        (fun event listed => Event.tends_ordered (tends event listed)) idle
        (World.stuck_unattended setup _ calm prompt idle ⟨running.allows, line⟩ stuck id call found
          waits)
      refine ⟨?_, since⟩
      cases state with
      | empty => rfl
      | run =>
          -- Somebody was woken at once, so that not everybody waited in vain from the start.
          have enlisted : resumed.Enlisted := World.run_listed setup _ calm.earlier
          have attended := enlisted.attended fun _ => heeds rfl
          have begins := (since [] List.nil_prefix).2
          rw [List.append_nil] at begins
          exact absurd attended begins
      | _ => cases resumes
  · rw [asked, declared]
    obtain same | ⟨_, same⟩ := (World.run setup before).frontier.declared_empty
    · simp only [World.act, same]
    · simp only [World.act, same]
      rfl
  · have torpid : resumed.Torpid (later.foldl World.step resumed) :=
      World.Torpid.run ⟨resting, fun _ => rfl, laden.still goes rfl rfl rfl rfl rfl⟩ later tends stuck
    have same : world = later.foldl World.step resumed := by
      simp [world, resumed, World.run]
    rw [same]
    refine ⟨torpid.unnoticed.laden.goes.allows, torpid.unnoticed.laden.line, fun id call found => ?_⟩
    exact ⟨(torpid.calls id).trans found, torpid.stuck call (stuck id call found)⟩

-- A worker waits while the crawl pauses. It has noticed the page that is in line and waits again.
def heldBack : List Event :=
  [.call, .proceed 0, .hire, .supervise 1, .schedule (page "a.com" "1"), .proceed 0, .proceed 0]

def declaredEmpty : List Event :=
  heldBack ++ [.request .empty] ++ [.supervise 1, .supervise 1]

theorem resuming_reaches_workers_held_back :
    (World.run Setup.plain (heldBack ++ [.request .empty])).frontier.Laden ∧
      (World.run Setup.plain declaredEmpty).frontier.target.allowsDispatch = true ∧
      (World.run Setup.plain declaredEmpty).call? 0 = some ⟨0, .waiting⟩ := by
  have prompt : World.Prompt Setup.plain declaredEmpty := by
    intro earlier short
    have fast : ∀ n < 11,
        (World.run Setup.plain (declaredEmpty.take n)).frontier.gateway.latency = 0 := by
      decide
    rw [List.prefix_iff_eq_take.mp short]
    exact fast _ (Nat.lt_succ_of_le short.length_le)
  have laden : (World.run Setup.plain (heldBack ++ [.request .empty])).frontier.Laden :=
    ⟨.inr rfl, rfl, by decide, fun entry listed => by cases listed⟩
  have calls : (World.run Setup.plain (heldBack ++ [.request .empty])).calls = [⟨0, .waiting⟩] := rfl
  obtain ⟨goes, _, waits⟩ := (resuming_reaches_workers Setup.plain heldBack .empty
    [.supervise 1, .supervise 1] ⟨rfl, by simp [heldBack, Event.Calm]⟩ prompt (by simp [Event.tends])
    rfl (.inr rfl) rfl).2.2.2 laden fun id call found => by
      have listed := List.mem_of_find?_eq_some found
      rw [calls, List.mem_singleton] at listed
      rw [listed]
      rfl
  exact ⟨laden, goes, (waits 0 ⟨0, .waiting⟩ rfl).1⟩

-- The crawl runs with a page in line, nobody can go on, and the worker waits on.
theorem declared_empty_wakes_nobody :
    let world := World.run Setup.plain declaredEmpty
    (World.run Setup.plain heldBack).frontier.target = .pause ∧ world.frontier.target = .run ∧
      world.turn = none ∧ world.frontier.ready = ["a.com"] ∧ world.calls = [⟨0, .waiting⟩] ∧
      (∀ call ∈ world.calls, world.frontier.canStep call = false) ∧
      ∀ supervisor ∈ world.supervisors, world.frontier.canSupervise supervisor = false :=
  ⟨rfl, rfl, rfl, rfl, rfl, by decide, by decide⟩

end PoliteCrawl
