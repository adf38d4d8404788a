import PoliteCrawl.Proofs.Frontier.Losses
import PoliteCrawl.Proofs.World.Hollow
import PoliteCrawl.Proofs.World.Stranding

set_option autoImplicit false

namespace PoliteCrawl

namespace World

theorem act_orderly (world : World) (event : Event) (tidy : world.frontier.Tidy) :
    world.frontier.Orderly (world.act event).frontier := by
  cases event with
  | schedule uri => exact Frontier.send_orderly world.frontier _ tidy
  | proceed id =>
      simp only [act]
      cases world.call? id with
      | none => exact .refl tidy
      | some call => exact Frontier.step_orderly world.frontier call.id call.phase tidy
  | drop id =>
      simp only [act]
      cases world.call? id with
      | none => exact .refl tidy
      | some call =>
          simp only [Option.elim, drop]
          split
          · exact .refl tidy
          · exact Frontier.cancel_orderly world.frontier call tidy
  | complete uri outcome => exact Frontier.complete_orderly world.frontier uri outcome tidy
  | request state =>
      obtain ⟨ready, snooze, same⟩ := request_shape world.frontier state
      simp only [act, same]
      exact tidy.still rfl id fun _ => rfl
  | unretire => exact (Frontier.unretire_orderly world.frontier tidy).1
  | manage => exact Frontier.management_permitted Frontier.orderly_permits world.frontier tidy
  | supervise id =>
      simp only [act]
      cases world.supervisor? id with
      | none => exact .refl tidy
      | some supervisor =>
          exact Frontier.turn_permitted Frontier.orderly_permits world.frontier supervisor tidy
  | _ => exact tidy.still rfl id fun _ => rfl

theorem step_orderly (world : World) (event : Event) (tidy : world.frontier.Tidy) :
    world.frontier.Orderly (world.step event).frontier := by
  rw [step]
  by_cases admitted : world.admits event = true
  · rw [if_pos admitted]
    exact act_orderly world event tidy
  · rw [if_neg admitted]
    exact .refl tidy

theorem run_orderly (world : World) (later : List Event) (tidy : world.frontier.Tidy) :
    world.frontier.Orderly (later.foldl step world).frontier := by
  induction later generalizing world with
  | nil => exact .refl tidy
  | cons event rest ih =>
      have next := step_orderly world event tidy
      exact next.trans (ih (world.step event) next.tidy)

theorem run_tidy (setup : Setup) (events : List Event) : (run setup events).frontier.Tidy := by
  have begins : (start setup).frontier.Tidy := ⟨.nil, .nil, fun _ => .inl rfl⟩
  exact (run_orderly (start setup) events begins).tidy

end World

/-- In every reachable state, whatever failed before, a key stands in the one register that the state of
its queue names, or in none, and then its queue is neither ready nor asleep. A pull that the routing fails
while it looks for an inactive queue loses one: the key was filed once, and is filed nowhere now although
its queue is still inactive. All other keys stand where they stood, and the watermark is what it was, up
to date or not. A recall that the routing fails loses the key that it failed at and all that came after
it: their queues are still retired, but in no register, and those before it stand where they belong. A key
that is lost so is lost for good: whatever happens later, its queue keeps its state and stands nowhere,
and every report about it is refused. -/
theorem failed_recalls_lose_sites (setup : Setup) (events : List Event) :
    let world := World.run setup events
    let frontier := world.frontier
    frontier.Tidy ∧
      (∀ id call, world.admits (.proceed id) = true → world.call? id = some call →
        frontier.Falters call.phase →
          let after := (World.run setup (events ++ [.proceed id])).frontier
          after.tiers.watermark = frontier.tiers.watermark ∧
            ∃ key, Frontier.Mislays key frontier after) ∧
      (world.turn = none → frontier.unretireQueues.2 = none →
        let after := (World.run setup (events ++ [.unretire])).frontier
        (∃ done key rest, frontier.retired = done ++ key :: rest ∧
          (∀ other ∈ done, after.Settled other) ∧
          ∀ other ∈ key :: rest, after.Adrift other .retired) ∧
        Frontier.Beyond frontier.retired frontier after) ∧
      ∀ key state, state ≠ .empty → frontier.Adrift key state → ∀ later,
        let final := (World.run setup (events ++ later)).frontier
        final.Adrift key state ∧
          ∀ uri outcome, uri.siteKey = key →
            ∃ cause, final.complete uri outcome = (final, .refused cause) := by
  intro world frontier
  have tidy : frontier.Tidy := World.run_tidy setup events
  refine ⟨tidy, ?_, ?_, ?_⟩
  · intro id call admitted found falters after
    have next : after = (frontier.stepPhase call.id call.phase).1 := by
      have acted : World.run setup (events ++ [.proceed id]) = world.act (.proceed id) := by
        rw [World.run_snoc, World.step, if_pos admitted]
      simp only [after, acted, World.act, found]
      rfl
    obtain ⟨_, watermark, mislays⟩ := falters.mislays call.id tidy
    rw [next]
    exact ⟨watermark, mislays⟩
  · intro idle failed after
    have next : after = frontier.unretireQueues.1 := by
      have admitted : world.admits .unretire = true := by simp [World.admits, idle]
      simp only [after, World.run_snoc, World.step]
      rw [if_pos admitted]
      rfl
    obtain ⟨_, recalled, beyond⟩ := Frontier.unretire_orderly frontier tidy
    rw [next]
    refine ⟨?_, beyond⟩
    cases result : frontier.unretireQueues with
    | mk last answer =>
        rw [result] at recalled failed
        simp only at failed
        subst failed
        exact recalled
  · intro key state some adrift later final
    have whole : World.run setup (events ++ later) = later.foldl World.step world := by
      simp [world, World.run]
    have drifts : final.Adrift key state := by
      simp only [final, whole]
      exact (World.run_orderly world later tidy).adrift key state some adrift
    refine ⟨drifts, fun uri outcome named => ?_⟩
    rcases final.complete_reported uri outcome with refused | ⟨_, _, _, reported⟩
    · exact refused
    · have unclaimed := congrArg Standing.claimed drifts.1
      have absent : key ∉ final.claims := List.count_eq_zero.mp unclaimed
      exact absurd reported.claimed (named ▸ absent)

def Setup.holding : Setup :=
  { Setup.plain with config := { FrontierConfig.default with holdQueues := true } }

-- Two sites are held back, and a worker is about to pull when the routing begins to fail.
def failingPull : List Event :=
  [.schedule (page "a.com" "1"), .schedule (page "b.com" "1"), .reroute Routing.failing,
    .request .run, .call, .proceed 0, .proceed 0]

def failingRecall : List Event :=
  emptyRecall ++ [.reroute Routing.failing]

theorem failed_recalls_lose_sites_held_sites :
    (∃ key, Frontier.Mislays key (World.run Setup.holding failingPull).frontier
      (World.run Setup.holding (failingPull ++ [.proceed 0])).frontier) ∧
    (∃ done key rest, (World.run Setup.plain failingRecall).frontier.retired = done ++ key :: rest ∧
      (World.run Setup.plain (failingRecall ++ [.unretire])).frontier.Adrift key .retired) ∧
    (World.run Setup.holding (failingPull ++ [.proceed 0] ++ firstCall)).frontier.Adrift "a.com"
      .inactive := by
  obtain ⟨_, pulls, _, _⟩ := failed_recalls_lose_sites Setup.holding failingPull
  obtain ⟨_, _, recalls, _⟩ := failed_recalls_lose_sites Setup.plain failingRecall
  obtain ⟨_, _, _, drifts⟩ := failed_recalls_lose_sites Setup.holding (failingPull ++ [.proceed 0])
  have falters : (World.run Setup.holding failingPull).frontier.Falters (.contending 0) :=
    ⟨⟨0, rfl⟩, by decide +kernel, by decide +kernel, by decide +kernel⟩
  have held : (World.run Setup.holding (failingPull ++ [.proceed 0])).frontier.queueState? "a.com" =
      some .inactive := by
    decide +kernel
  obtain ⟨queue, found, inactive⟩ := Option.map_eq_some_iff.mp held
  obtain ⟨_, mislays⟩ := pulls 0 ⟨0, .contending 0⟩ (by decide +kernel) (by decide +kernel) falters
  obtain ⟨⟨done, key, rest, line, _, lost⟩, _⟩ := recalls (by decide +kernel) (by decide +kernel)
  refine ⟨mislays, ⟨done, key, rest, line, lost key List.mem_cons_self⟩, ?_⟩
  exact (drifts "a.com" .inactive (by decide) ⟨by decide +kernel, queue, found, inactive⟩
    firstCall).1

-- The call fails at the first site and the recall at the only one. Their queues are in the states that
-- they were in, but neither is in the register that its state names.
theorem failed_recalls_empty_registers :
    let pulled := (World.run Setup.holding (failingPull ++ [.proceed 0])).frontier
    let recalled := (World.run Setup.plain (failingRecall ++ [.unretire])).frontier
    (pulled.queueState? "a.com" = some .inactive ∧ "a.com" ∉ pulled.tiers.keys) ∧
      recalled.queueState? "a.com" = some .retired ∧ recalled.retired = [] := by
  decide +kernel

end PoliteCrawl
