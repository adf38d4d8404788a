import PoliteCrawl.Proofs.World.Wakeups

set_option autoImplicit false

namespace PoliteCrawl

def CallPhase.flushes : CallPhase → Bool
  | .flushing _ _ => true
  | _ => false

namespace Frontier

theorem flushes_suspended (phase : CallPhase) (active : phase.suspended = false) :
    phase.flushes = false := by
  cases phase with
  | flushing due deadline => cases active
  | _ => rfl

theorem collect_ends (frontier : Frontier) (id : Nat) :
    (frontier.collect id).1.pulling = false ∧ (frontier.collect id).2.flushes = false :=
  (frontier.collect_prompt id).imp_right (flushes_suspended _)

theorem flush_holds (frontier : Frontier) (id : Nat) (holds : frontier.pulling = true) :
    (frontier.flush id).1.pulling = (frontier.flush id).2.flushes := by
  rw [flush]
  by_cases prompt : frontier.gateway.latency = 0
  · obtain ⟨free, ended⟩ := frontier.collect_ends id
    rw [if_pos prompt, free, ended]
  · rw [if_neg prompt]
    exact holds

theorem pull_holds (frontier : Frontier) (id : Nat) (holds : frontier.pulling = true) :
    (frontier.pull id).1.pulling = (frontier.pull id).2.flushes := by
  rw [pull]
  by_cases may : frontier.mayActivate = true
  · have stays := activate_placed stays_dozing.toPlacing frontier
    rw [if_pos may]
    cases result : frontier.activateInactive with
    | mk after answer =>
        rw [result] at stays
        cases answer with
        | none => rfl
        | some found =>
            cases found with
            | true => rfl
            | false => exact flush_holds after id ((congrArg Setting.pulling stays.setting).trans holds)
  · rw [if_neg may]
    exact flush_holds frontier id holds

theorem contend_yields (frontier : Frontier) (id attempt : Nat) (taken : frontier.pulling = true) :
    (frontier.contend id attempt).1 = frontier ∧ (frontier.contend id attempt).2.flushes = false := by
  simp only [contend, taken, Bool.not_true, Bool.false_eq_true, if_false]
  split <;> exact ⟨rfl, rfl⟩

theorem step_holds (frontier : Frontier) (id : Nat) (phase : CallPhase)
    (holds : phase.flushes = true → frontier.pulling = true) :
    (frontier.stepPhase id phase).1.pulling.toNat + phase.flushes.toNat =
      frontier.pulling.toNat + (frontier.stepPhase id phase).2.flushes.toNat := by
  cases phase with
  | entering =>
      simp only [stepPhase, enter]
      split
      · rfl
      · split <;> rfl
  | seeking =>
      simp only [stepPhase, seek]
      split
      · rfl
      · split <;> rfl
  | contending attempt =>
      cases taken : frontier.pulling with
      | true =>
          obtain ⟨same, waits⟩ := frontier.contend_yields id attempt taken
          simp only [stepPhase, same, waits, taken]
          rfl
      | false =>
          have held := pull_holds { frontier with pulling := true } id rfl
          simp only [stepPhase, contend, taken, Bool.not_false, if_true]
          rw [held]
          exact Nat.add_comm _ _
  | resting attempt until_ =>
      simp only [stepPhase]
      split <;> rfl
  | flushing due deadline =>
      have taken : frontier.pulling = true := holds rfl
      simp only [stepPhase]
      split
      · obtain ⟨free, ended⟩ := frontier.collect_ends id
        rw [free, ended, taken]
        rfl
      · split
        · rw [taken]
          rfl
        · rfl
  | polling progress =>
      have same := congrArg Setting.pulling (frontier.poll_setting id progress)
      change (frontier.poll id progress).1.pulling = frontier.pulling at same
      simp only [stepPhase, same]
      congr 1
      simp only [poll]
      split
      · split <;> rfl
      · split <;> rfl
  | waiting =>
      simp only [stepPhase, awake]
      split <;> rfl
  | done answer => rfl
  | failed => rfl

theorem flushing_ends (frontier : Frontier) (id : Nat) (due deadline : Time.Instant) :
    if due ≤ frontier.now ∨ deadline ≤ frontier.now then
      (frontier.stepPhase id (.flushing due deadline)).1.pulling = false ∧
        (frontier.stepPhase id (.flushing due deadline)).2.flushes = false
    else frontier.stepPhase id (.flushing due deadline) = (frontier, .flushing due deadline) := by
  simp only [stepPhase]
  by_cases handed : due ≤ frontier.now
  · simp only [handed, true_or, if_true]
    exact frontier.collect_ends id
  · by_cases late : deadline ≤ frontier.now
    · simp only [if_neg handed, late, or_true, if_true]
      exact ⟨rfl, rfl⟩
    · simp only [handed, late, or_self, if_false]

theorem cancel_leaves (frontier : Frontier) (call : Call) :
    frontier.cancel call =
      { frontier with
        pulling := frontier.pulling && !call.phase.flushes
        readySignal := frontier.readySignal.leave call.id } := by
  rw [cancel]
  cases phase : call.phase <;> simp [CallPhase.flushes, leaveReady, endPull]

end Frontier

namespace World

-- Each call has its own number, and those who wait for a flush are as many as hold the pull.
structure Solitary (world : World) : Prop where
  fresh : ∀ call ∈ world.calls, call.id < world.nextId
  once : (world.calls.map (·.id)).Nodup
  flushes : world.calls.countP (·.phase.flushes) = world.frontier.pulling.toNat

theorem start_solitary (setup : Setup) : (start setup).Solitary where
  fresh call listed := by simp [start] at listed
  once := List.nodup_nil
  flushes := rfl

theorem Solitary.taken {world : World} {call : Call} (solitary : world.Solitary)
    (listed : call ∈ world.calls) (waits : call.phase.flushes = true) :
    world.frontier.pulling = true := by
  have some : 0 < world.calls.countP (·.phase.flushes) :=
    List.countP_pos_iff.mpr ⟨call, listed, waits⟩
  rw [solitary.flushes] at some
  cases pulling : world.frontier.pulling with
  | true => rfl
  | false => simp [pulling] at some

theorem call_among (world : World) (id : Nat) (call : Call)
    (once : (world.calls.map (·.id)).Nodup) (found : world.call? id = some call) :
    ∃ front back, world.calls = front ++ call :: back ∧
      ∀ other ∈ front ++ back, other.id ≠ call.id := by
  obtain ⟨front, back, split⟩ := List.append_of_mem (List.mem_of_find?_eq_some found)
  refine ⟨front, back, split, fun other listed same => ?_⟩
  have apart := List.perm_middle.nodup_iff.mp (by simpa [split] using once)
  rw [List.nodup_cons, ← List.map_append, ← same] at apart
  exact apart.1 (List.mem_map_of_mem listed)

theorem proceed_among (world : World) (call : Call) (front back : List Call)
    (split : world.calls = front ++ call :: back)
    (apart : ∀ other ∈ front ++ back, other.id ≠ call.id) :
    (world.proceed call).calls = front ++ (world.frontier.step call).2 :: back := by
  have others (part : List Call) (among : ∀ other ∈ part, other ∈ front ++ back) :
      part.map (fun old => if old.id = call.id then (world.frontier.step call).2 else old) = part := by
    conv_rhs => rw [← List.map_id part]
    exact List.map_congr_left fun other listed => if_neg (apart other (among other listed))
  simp only [proceed, split, List.map_append, List.map_cons, if_true]
  rw [others front fun _ => List.mem_append_left _, others back fun _ => List.mem_append_right _]

theorem drop_among (world : World) (call : Call) (front back : List Call)
    (split : world.calls = front ++ call :: back)
    (apart : ∀ other ∈ front ++ back, other.id ≠ call.id) :
    world.calls.filter (·.id ≠ call.id) = front ++ back := by
  rw [split, List.filter_append, List.filter_cons_of_neg (by simp), ← List.filter_append]
  exact List.filter_eq_self.mpr fun other listed => by simpa using apart other listed

theorem Solitary.proceed {world : World} {id : Nat} {call : Call} (solitary : world.Solitary)
    (found : world.call? id = some call) : (world.proceed call).Solitary := by
  obtain ⟨front, back, split, apart⟩ := call_among world id call solitary.once found
  have calls := proceed_among world call front back split apart
  have named : (world.frontier.step call).2.id = call.id := rfl
  have counted := solitary.flushes
  rw [split, List.countP_append, List.countP_cons] at counted
  refine ⟨fun other listed => ?_, ?_, ?_⟩
  · have fresh := solitary.fresh
    rw [split] at fresh
    rw [calls] at listed
    simp only [List.mem_append, List.mem_cons] at listed fresh
    change other.id < world.nextId
    rcases listed with before | same | after
    · exact fresh other (.inl before)
    · rw [same, named]
      exact fresh call (.inr (.inl rfl))
    · exact fresh other (.inr (.inr after))
  · have once := solitary.once
    rw [split] at once
    rw [calls]
    simpa [named] using once
  · have holds := world.frontier.step_holds call.id call.phase
      (solitary.taken (List.mem_of_find?_eq_some found))
    rw [calls, List.countP_append, List.countP_cons]
    change _ = (world.frontier.stepPhase call.id call.phase).1.pulling.toNat
    have phase : (world.frontier.step call).2.phase =
        (world.frontier.stepPhase call.id call.phase).2 := rfl
    rw [phase]
    have weight (flushes : Bool) : (if flushes = true then 1 else 0) = flushes.toNat := by
      cases flushes <;> rfl
    rw [weight] at counted ⊢
    omega

theorem Solitary.drop {world : World} {id : Nat} {call : Call} (solitary : world.Solitary)
    (found : world.call? id = some call) (going : call.hasEnded = false) :
    (world.drop call).Solitary := by
  obtain ⟨front, back, split, apart⟩ := call_among world id call solitary.once found
  have calls : (world.drop call).calls = front ++ back := by
    rw [World.drop, if_neg (by simp [going])]
    exact drop_among world call front back split apart
  have frontier : (world.drop call).frontier = world.frontier.cancel call := by
    simp [World.drop, going]
  have counted := solitary.flushes
  rw [split, List.countP_append, List.countP_cons] at counted
  have less : (front ++ back).Sublist world.calls := by
    rw [split]
    exact (List.Sublist.refl front).append (List.sublist_cons_self call back)
  refine ⟨fun other listed => ?_, ?_, ?_⟩
  · rw [calls] at listed
    rw [World.drop, if_neg (by simp [going])]
    exact solitary.fresh other (less.subset listed)
  · rw [calls]
    exact solitary.once.sublist (less.map _)
  · rw [calls, frontier, Frontier.cancel_leaves, List.countP_append]
    cases waits : call.phase.flushes with
    | false => simpa [waits] using counted
    | true =>
        have most := Bool.toNat_le world.frontier.pulling
        simp only [waits, if_true] at counted
        simp only [Bool.not_true, Bool.and_false, Bool.toNat_false]
        omega

theorem Solitary.beside {world : World} (solitary : world.Solitary) (event : Event)
    (uncalled : ∀ id, event ≠ .proceed id ∧ event ≠ .drop id) : (world.act event).Solitary := by
  have same : (world.act event).frontier.pulling = world.frontier.pulling :=
    steady_outside.act world event uncalled (fun state _ => by
      obtain ⟨ready, snooze, shape⟩ := request_shape world.frontier state
      rw [shape]) fun _ no => no.elim
  obtain ⟨_, later, calls⟩ := act_beside world event uncalled
  have older (call : Call) (listed : call ∈ world.calls) : call.id < (world.act event).nextId :=
    Nat.lt_of_lt_of_le (solitary.fresh call listed) later
  rcases calls with unchanged | ⟨added, next⟩
  · exact ⟨unchanged ▸ older, unchanged ▸ solitary.once, by rw [unchanged, same, solitary.flushes]⟩
  · refine ⟨fun call listed => ?_, ?_, ?_⟩
    · rw [added, List.mem_append, List.mem_singleton] at listed
      rcases listed with old | new
      · exact older call old
      · exact new ▸ next
    · rw [added, List.map_append, List.nodup_append]
      refine ⟨solitary.once, List.nodup_singleton _, fun id listed other new => ?_⟩
      obtain ⟨call, old, named⟩ := List.mem_map.mp listed
      have number : other = world.nextId := by simpa [Call.start] using new
      exact number ▸ named ▸ Nat.ne_of_lt (solitary.fresh call old)
    · rw [added, List.countP_append, same, solitary.flushes]
      rfl

theorem Solitary.act {world : World} (solitary : world.Solitary) (event : Event) :
    (world.act event).Solitary := by
  by_cases uncalled : ∀ id, event ≠ .proceed id ∧ event ≠ .drop id
  · exact solitary.beside event uncalled
  · cases event with
    | proceed id =>
        simp only [World.act]
        cases found : world.call? id with
        | none => exact solitary
        | some call => exact solitary.proceed found
    | drop id =>
        simp only [World.act]
        cases found : world.call? id with
        | none => exact solitary
        | some call =>
            by_cases ended : call.hasEnded = true
            · simpa only [Option.elim, World.drop, if_pos ended] using solitary
            · exact solitary.drop found (by simpa using ended)
    | _ => exact absurd (by simp) uncalled

theorem run_solitary (setup : Setup) (events : List Event) : (run setup events).Solitary := by
  refine run_induction (motive := fun _ world => world.Solitary) setup (start_solitary setup) ?_ events
  intro events event solitary
  rw [step]
  split
  · exact solitary.act event
  · exact solitary

end World

/-- In every world that can be reached, whatever the routing and the gateway do, at most one call waits
for a flush, and the frontier is marked as pulling if and only if there is exactly one. Meanwhile another
call that wants to pull changes nothing and gets no flush. A flush that hands over, fails, takes too long
or brings what cannot be routed ends the pull. A call that is given up at any moment at which no call has
its turn lets go of the pull if it waited for a flush, and gives up its place on the roll; a wakeup that
was meant for it alone goes to the one who has waited longest, or is kept if nobody waits. A permit it
took is used up. Nothing else changes. -/
theorem one_flush_at_a_time (setup : Setup) (events : List Event) :
    let world := World.run setup events
    world.calls.countP (·.phase.flushes) ≤ 1 ∧
      (world.frontier.pulling = true ↔ ∃! call, call ∈ world.calls ∧ call.phase.flushes = true) ∧
      (∀ call attempt, call.phase = .contending attempt →
        (∃ other ∈ world.calls, other.phase.flushes = true) →
          (world.frontier.step call).1 = world.frontier ∧
            (world.frontier.step call).2.phase.flushes = false) ∧
      (∀ call due deadline, call.phase = .flushing due deadline →
        if due ≤ world.frontier.now ∨ deadline ≤ world.frontier.now then
          (world.frontier.step call).1.pulling = false ∧
            (world.frontier.step call).2.phase.flushes = false
        else world.frontier.step call = (world.frontier, call)) ∧
      ∀ id call, world.turn = none → world.call? id = some call → call.hasEnded = false →
        World.run setup (events ++ [.drop id]) =
          { world with
            calls := world.calls.filter (·.id ≠ id)
            frontier :=
              { world.frontier with
                pulling := world.frontier.pulling && !call.phase.flushes
                readySignal :=
                  if world.frontier.readySignal.wakeOf? id = some .picked then
                    (world.frontier.readySignal.consume id).notifyOne
                  else world.frontier.readySignal.consume id } } := by
  intro world
  have solitary : world.Solitary := World.run_solitary setup events
  have counted := solitary.flushes
  refine ⟨?_, ?_, fun call attempt phase ⟨other, listed, waits⟩ => ?_,
    fun call due deadline phase => ?_, fun id call idle found going => ?_⟩
  · rw [counted]
    exact Bool.toNat_le _
  · constructor
    · intro pulling
      rw [pulling, List.countP_eq_length_filter] at counted
      obtain ⟨call, only⟩ := List.length_eq_one_iff.mp counted
      have alone (other : Call) :
          other ∈ world.calls ∧ other.phase.flushes = true ↔ other = call := by
        have sifted : other ∈ world.calls.filter (·.phase.flushes) ↔ other = call := by
          rw [only, List.mem_singleton]
        rwa [List.mem_filter] at sifted
      exact ⟨call, (alone call).mpr rfl, fun other waits => (alone other).mp waits⟩
    · rintro ⟨call, ⟨listed, waits⟩, _⟩
      exact solitary.taken listed waits
  · have taken := solitary.taken listed waits
    simp only [Frontier.step, phase, Frontier.stepPhase]
    exact world.frontier.contend_yields call.id attempt taken
  · have ends := world.frontier.flushing_ends call.id due deadline
    rw [← phase] at ends
    split
    · rwa [if_pos (by assumption)] at ends
    · rw [if_neg (by assumption)] at ends
      rw [Frontier.step, ends]
  · have acts : (world.step (.drop id)) = world.drop call := by
      simp [World.step, World.admits, idle, World.act, found]
    have named := World.call_id world id call found
    rw [World.run_snoc, acts, World.drop, if_neg (by simp [going]), Frontier.cancel_leaves, named]
    rfl

-- A worker waits for the gateway, another one for work, when two more sites come into line: both are
-- woken.
def wokenPull : List Event :=
  lonePull ++ [.schedule (page "y.com" "1"), .schedule (page "z.com" "1")]

theorem one_flush_at_a_time_woken_pull :
    let world := World.run Setup.slow wokenPull
    world.calls = [⟨0, .waiting⟩, ⟨1, .flushing (Time.millis 100) (Time.millis 30000)⟩] ∧
      world.frontier.readySignal = { permit := false, enrolled := [(0, .picked), (1, .picked)] } ∧
      (world.frontier.step ⟨2, .contending 0⟩).1 = world.frontier ∧
      World.run Setup.slow (wokenPull ++ [.drop 1]) =
        { world with
          calls := [⟨0, .waiting⟩]
          frontier :=
            { world.frontier with
              pulling := false
              readySignal := { permit := true, enrolled := [(0, .picked)] } } } :=
  have alone := one_flush_at_a_time Setup.slow wokenPull
  ⟨rfl, rfl,
    (alone.2.2.1 ⟨2, .contending 0⟩ 0 rfl ⟨⟨1, _⟩, List.mem_cons_of_mem _ List.mem_cons_self, rfl⟩).1,
    alone.2.2.2.2 1 ⟨1, _⟩ rfl rfl rfl⟩

end PoliteCrawl
