import PoliteCrawl.Proofs.World.Finish
import PoliteCrawl.Proofs.World.Flights

set_option autoImplicit false

namespace PoliteCrawl

namespace Frontier

structure Drains (before after : Frontier) : Prop where
  claims : after.claims = before.claims
  paused : after.reached = some .pause → before.reached = some .pause ∨
    ((before.target = .pause ∨ before.target = .hold) ∧ before.claims = [])

theorem woken_reached (frontier : Frontier) (state : CrawlState) :
    (frontier.markReached state).wakeQueues.1.reached = some state := by
  have stays := wake_stays (frontier.markReached state)
  exact (congrArg (StateCell.reached ∘ Setting.cell) stays.setting).trans
    (frontier.mark_reached state)

theorem management_drains (frontier : Frontier) :
    frontier.Drains frontier.managementStep.1 := by
  refine ⟨(management_permitted oversees_permits frontier).claims, fun paused => ?_⟩
  have woken (state : CrawlState) (other : state ≠ .pause)
      (same : frontier.managementStep.1.reached =
        (frontier.markReached state).wakeQueues.1.reached) : False := by
    rw [paused, woken_reached, Option.some.injEq] at same
    exact other same.symm
  cases target : frontier.target with
  | empty =>
      by_cases empty : frontier.isEmpty = true
      · refine (woken .empty (by simp) ?_).elim
        simp only [managementStep, target, manageEmpty, empty, Bool.not_true, Bool.false_eq_true,
          if_false]
        cases (frontier.markReached .empty).wakeQueues with
        | mk after answer => cases answer <;> rfl
      · have same : frontier.managementStep.1 = frontier.setTarget .run := by
          simp [managementStep, target, manageEmpty, empty]
        rw [same] at paused
        exact .inl paused
  | run =>
      by_cases empty : frontier.isEmpty = true
      · have same : frontier.managementStep.1 = frontier.setTarget .empty := by
          simp [managementStep, target, manageRun, empty]
        rw [same] at paused
        exact .inl paused
      · refine (woken .run (by simp) ?_).elim
        simp only [managementStep, target, manageRun, if_neg empty]
        cases (frontier.markReached .run).wakeQueues with
        | mk after answer =>
            cases answer with
            | none => rfl
            | some span =>
                by_cases dry : after.ready.isEmpty = true
                · simp only [if_pos dry]
                  rfl
                · simp only [if_neg dry]
  | pause | hold =>
      by_cases drained : frontier.claims = []
      · exact .inr ⟨by simp, drained⟩
      · left
        simpa [managementStep, target, managePause, drained] using paused
  | finish =>
      by_cases drained : frontier.claims = []
      · have ends := ((management_finishes frontier target).closes (by
          simp [closings, target, drained])).2.2.2.1
        rw [paused] at ends
        cases ends
      · left
        simpa [managementStep, target, manageFinish, drained] using paused

theorem manage_drains (frontier : Frontier) : frontier.Drains frontier.manage.1 := by
  have drains := management_drains frontier
  refine ⟨(manage_permitted oversees_permits frontier).claims, fun paused => drains.paused ?_⟩
  have same (after : Frontier) : after.forcePause.reached = after.reached := by
    rw [forcePause]
    split <;> rfl
  rw [manage] at paused
  cases result : frontier.managementStep with
  | mk after ended =>
      rw [result] at paused
      cases ended with
      | rests span => exact paused
      | refused cause => exact (same after).symm.trans paused
      | failed => exact (same after).symm.trans paused

theorem turn_drains (frontier : Frontier) (supervisor : Supervisor) :
    frontier.Drains (frontier.superviseTurn supervisor).1 := by
  obtain ⟨first, last, still | managed⟩ := turn_manages frontier supervisor
  · rw [still]
    exact ⟨rfl, .inl⟩
  · have drains := manage_drains { frontier with snoozeSignal := first }
    rw [managed]
    exact ⟨drains.claims, drains.paused⟩

end Frontier

namespace World

theorem step_drains (world : World) (event : Event)
    (paused : (world.step event).frontier.reached = some .pause) :
    world.frontier.reached = some .pause ∨
      ((world.frontier.target = .pause ∨ world.frontier.target = .hold) ∧
        world.frontier.claims = [] ∧ (world.step event).frontier.claims = []) := by
  rw [step] at paused ⊢
  by_cases admitted : world.admits event = true
  · rw [if_pos admitted] at paused ⊢
    have kept (drains : world.frontier.Drains (world.act event).frontier) :
        world.frontier.reached = some .pause ∨
          ((world.frontier.target = .pause ∨ world.frontier.target = .hold) ∧
            world.frontier.claims = [] ∧ (world.act event).frontier.claims = []) := by
      refine (drains.paused paused).imp_right fun halted => ?_
      exact ⟨halted.1, halted.2, drains.claims.trans halted.2⟩
    have still (cell : (world.act event).frontier.cell = world.frontier.cell) :
        world.frontier.reached = some .pause :=
      (congrArg StateCell.reached cell).symm.trans paused
    cases event with
    | request state =>
        obtain ⟨ready, snooze, shape⟩ := request_shape world.frontier state
        simp only [act, shape] at paused
        left
        split at paused <;> exact paused
    | manage => exact kept world.frontier.management_drains
    | supervise id =>
        apply kept
        simp only [act]
        cases world.supervisor? id with
        | none => exact ⟨rfl, .inl⟩
        | some supervisor => exact world.frontier.turn_drains supervisor
    | _ => exact .inl (still (act_cell world _ (by simp) (by simp) (by simp)))
  · rw [if_neg admitted] at paused
    exact .inl paused

-- A key that a call took, and that was claimed ever since, all while a pause counted as reached.
inductive TakenLate (setup : Setup) (key : String) (id : Nat) (before : List Event) :
    List Event → Prop where
  | taken (paused : (run setup before).frontier.reached = some .pause)
      (free : key ∉ (run setup before).frontier.claims)
      (held : key ∈ (run setup (before ++ [.proceed id])).frontier.claims) :
      TakenLate setup key id before (before ++ [.proceed id])
  | kept {events : List Event} {event : Event} (late : TakenLate setup key id before events)
      (paused : (run setup (events ++ [event])).frontier.reached = some .pause)
      (held : key ∈ (run setup (events ++ [event])).frontier.claims) :
      TakenLate setup key id before (events ++ [event])

theorem step_takes (world : World) (event : Event) (key : String)
    (free : key ∉ world.frontier.claims) (held : key ∈ (world.step event).frontier.claims) :
    ∃ id call, event = .proceed id ∧ world.call? id = some call ∧ call.phase.looks = true ∧
      call.phase.awaits = false := by
  rw [step] at held
  by_cases admitted : world.admits event = true
  · rw [if_pos admitted] at held
    by_cases other : ∀ id, event ≠ .proceed id
    · exact absurd ((act_claims world event other).subset held) free
    · obtain ⟨id, same⟩ : ∃ id, event = .proceed id := by simpa using other
      subst same
      simp only [act] at held
      cases found : world.call? id with
      | none =>
          rw [found] at held
          exact absurd held free
      | some call =>
          rw [found] at held
          refine ⟨id, call, rfl, found, ?_⟩
          by_cases polls : ∃ progress, call.phase = .polling progress
          · obtain ⟨progress, polling⟩ := polls
            rw [polling]
            exact ⟨rfl, rfl⟩
          · have minds := world.frontier.step_minds call.id call.phase (by simpa using polls)
            exact absurd (minds.claims ▸ held) free
  · rw [if_neg admitted] at held
    exact absurd held free

theorem TakenLate.held {setup : Setup} {key : String} {id : Nat} {before events : List Event}
    (late : TakenLate setup key id before events) : key ∈ (run setup events).frontier.claims := by
  cases late with
  | taken paused free held => exact held
  | kept late paused held => exact held

theorem TakenLate.looks {setup : Setup} {key : String} {id : Nat} {before events : List Event}
    (late : TakenLate setup key id before events) :
    (run setup before).frontier.target.allowsDispatch = true ∨
      ∃ earlier, KeptTurn setup id earlier before ∧ (run setup earlier).Overtaken id := by
  induction late with
  | taken paused free held =>
      rw [run_snoc] at held
      obtain ⟨other, call, same, found, looks, awake⟩ := step_takes _ _ key free held
      cases same
      exact run_looks setup before id call found looks awake
  | kept late paused held ih => exact ih

theorem run_taken (setup : Setup) (events : List Event) (key : String)
    (paused : (run setup events).frontier.reached = some .pause)
    (held : key ∈ (run setup events).frontier.claims) :
    ∃ before id, TakenLate setup key id before events := by
  revert paused held
  refine run_induction (motive := fun events world => world.frontier.reached = some .pause →
    key ∈ world.frontier.claims → ∃ before id, TakenLate setup key id before events) setup ?_ ?_
    events
  · intro paused
    cases paused
  · intro events event before paused held
    rcases step_drains _ event paused with earlier | ⟨_, _, drained⟩
    · by_cases free : key ∈ (run setup events).frontier.claims
      · obtain ⟨start, id, late⟩ := before earlier free
        rw [← run_snoc] at paused held
        exact ⟨start, id, .kept late paused held⟩
      · obtain ⟨id, _, same, _⟩ := step_takes _ event key free held
        subst same
        rw [← run_snoc] at held
        exact ⟨events, id, .taken earlier free held⟩
    · rw [drained] at held
      cases held

end World

/-- A pause is reached only while the target is to pause or to hold and nothing is claimed. While it
counts as reached, whatever is claimed was taken since, by a call that the target allowed to look for
work, or that had been overtaken when its turn began: then, and only then, the target did not. If nothing
is claimed and no call is overtaken, nothing is claimed as long as the target forbids it. A claim stands
for a URI in flight, as long as the routing does not fail. -/
theorem late_claims_outlive_pause (setup : Setup) (events : List Event) :
    let world := World.run setup events
    (∀ event, world.frontier.reached ≠ some .pause →
      (World.run setup (events ++ [event])).frontier.reached = some .pause →
        (world.frontier.target = .pause ∨ world.frontier.target = .hold) ∧
          world.frontier.claims = [] ∧
          (World.run setup (events ++ [event])).frontier.claims = []) ∧
    (world.frontier.reached = some .pause → ∀ key,
      (key ∈ world.frontier.claims ↔
        ∃ before id, World.TakenLate setup key id before events) ∧
      ∀ before id, World.TakenLate setup key id before events →
        (((World.run setup before).frontier.target = .run ∨
            (World.run setup before).frontier.target = .empty) ↔
          ¬ ∃ earlier, World.KeptTurn setup id earlier before ∧
            (World.run setup earlier).Overtaken id)) ∧
    (world.frontier.claims = [] → world.turn = none → (∀ id, ¬ world.Overtaken id) →
      ∀ later, (∀ middle rest, later = middle ++ rest →
          (World.run setup (events ++ middle)).frontier.target.allowsDispatch = false) →
        (World.run setup (events ++ later)).frontier.claims = []) ∧
    (Calm setup events → ∀ key,
      (inFlight? (deedsOn key world.journal)).isSome = true ↔ key ∈ world.frontier.claims) := by
  intro world
  refine ⟨fun event before after => ?_, fun paused key => ⟨⟨?_, ?_⟩, ?_⟩, ?_, fun calm key => ?_⟩
  · rw [World.run_snoc] at after ⊢
    exact (World.step_drains world event after).resolve_left before
  · exact World.run_taken setup events key paused
  · intro ⟨_, _, late⟩
    exact late.held
  · intro before id late
    exact World.allowed_unless_overtaken setup before id late.looks
  · intro drained turn heeded later halted
    have onward (middle : List Event) :
        World.run setup (events ++ middle) = middle.foldl World.step world := by
      simp [world, World.run]
    have forbids := halted [] later rfl
    rw [List.append_nil] at forbids
    have idle : world.Idle := .begins setup events forbids drained turn heeded
    rw [onward]
    refine (idle.run later fun middle rest same => ?_).1.drained
    rw [← onward]
    exact halted middle rest same
  · exact (World.run_kept setup events calm).flying key

-- A crawl pauses, runs, hands out a page and is to pause again before its supervisor notices.
def quickPause : List Event :=
  [.hire, .supervise 0, .request .run, .schedule (page "a.com" "1"), .call, .proceed 1, .proceed 1,
    .proceed 1, .proceed 1, .request .pause]

def pausedCall : List Event :=
  [.schedule (page "a.com" "1"), .call, .proceed 1]

theorem late_claims_outlive_pause_quick_pause :
    (∃ before id, World.TakenLate Setup.plain "a.com" id before quickPause) ∧
      (World.run Setup.plain [.hire]).frontier.reached ≠ some .pause ∧
      (World.run Setup.plain ([.hire] ++ [.supervise 0])).frontier.claims = [] ∧
      (World.run Setup.plain ([.hire] ++ [.supervise 0] ++ pausedCall)).frontier.claims = [] ∧
      (inFlight? (deedsOn "a.com" (World.run Setup.plain quickPause).journal)).isSome = true := by
  obtain ⟨_, taken, _, flying⟩ := late_claims_outlive_pause Setup.plain quickPause
  obtain ⟨reaches, _⟩ := late_claims_outlive_pause Setup.plain [.hire]
  obtain ⟨_, _, still, _⟩ := late_claims_outlive_pause Setup.plain ([.hire] ++ [.supervise 0])
  have held : "a.com" ∈ (World.run Setup.plain quickPause).frontier.claims := by decide +kernel
  refine ⟨((taken rfl "a.com").1).mp held, by decide, (reaches (.supervise 0) (by decide) rfl).2.2,
    ?_, (flying ⟨rfl, by simp [quickPause, Event.Calm]⟩ "a.com").mpr held⟩
  refine still rfl rfl (fun id overtaken => ?_) pausedCall fun middle rest same => ?_
  · obtain ⟨call, found, _⟩ := overtaken
    cases found
  · rcases middle with _ | ⟨first, _ | ⟨second, _ | ⟨third, _ | ⟨fourth, more⟩⟩⟩⟩ <;>
      cases same <;> rfl

-- A call that awaits what the service hands over comes back after the pause was reached.
def latePause : List Event :=
  [.request .run, .offer (.supply [page "a.com" "1"] 1), .call, .proceed 0, .proceed 0, .proceed 0,
    .hire, .request .pause, .supervise 1, .advance (Time.millis 100), .proceed 0, .proceed 0]

theorem paused_crawl_has_claims :
    ((World.run Setup.slow latePause).frontier.target = .pause ∧
      (World.run Setup.slow latePause).frontier.reached = some .pause ∧
      (World.run Setup.slow latePause).frontier.claims = ["a.com"]) ∧
    (World.run Setup.plain quickPause).frontier.target = .pause ∧
      (World.run Setup.plain quickPause).frontier.reached = some .pause ∧
      (World.run Setup.plain quickPause).frontier.claims = ["a.com"] :=
  ⟨⟨rfl, rfl, rfl⟩, rfl, rfl, rfl⟩

end PoliteCrawl
