import PoliteCrawl.Proofs.Frontier.Toil
import PoliteCrawl.Proofs.World.Flushes

set_option autoImplicit false

namespace PoliteCrawl

namespace Frontier

def stepMany (frontier : Frontier) (id : Nat) (phase : CallPhase) : Nat → Frontier × CallPhase
  | 0 => (frontier, phase)
  | count + 1 =>
      (frontier.stepPhase id phase).1.stepMany id (frontier.stepPhase id phase).2 count

-- An attempt is over: there is a URI, or the call has to wait because nothing is in line, or because
-- nothing may be handed out.
def Over (frontier : Frontier) (phase : CallPhase) : Prop :=
  (∃ uri, phase = .done (some uri)) ∨
    (phase = .waiting ∧ (frontier.ready = [] ∨ frontier.target.allowsDispatch = false))

-- Some steps lead to something, and the call looks for work all the while, without waiting.
def Leads (frontier : Frontier) (id : Nat) (phase : CallPhase) (count : Nat)
    (reached : Frontier → CallPhase → Prop) : Prop :=
  (∀ fewer < count, (frontier.stepMany id phase fewer).2.looks = true ∧
    (frontier.stepMany id phase fewer).2.awaits = false) ∧
    reached (frontier.stepMany id phase count).1 (frontier.stepMany id phase count).2

section Leads

variable {frontier : Frontier} {id : Nat} {phase : CallPhase}
  {reached : Frontier → CallPhase → Prop}

theorem Leads.here (holds : reached frontier phase) : Leads frontier id phase 0 reached :=
  ⟨fun _ less => absurd less (Nat.not_lt_zero _), holds⟩

theorem Leads.step {count : Nat} (active : phase.looks = true ∧ phase.awaits = false)
    (leads : Leads (frontier.stepPhase id phase).1 id (frontier.stepPhase id phase).2 count
      reached) : Leads frontier id phase (count + 1) reached := by
  refine ⟨fun fewer less => ?_, leads.2⟩
  cases fewer with
  | zero => exact active
  | succ fewer => exact leads.1 fewer (Nat.lt_of_succ_lt_succ less)

theorem Leads.trans {count : Nat} {between : Frontier → CallPhase → Prop}
    (leads : Leads frontier id phase count between) (most : Nat)
    (onward : ∀ after next, between after next →
      ∃ more, more ≤ most ∧ Leads after id next more reached) :
    ∃ total, total ≤ count + most ∧ Leads frontier id phase total reached := by
  induction count generalizing frontier phase with
  | zero =>
      obtain ⟨more, bound, last⟩ := onward _ _ leads.2
      exact ⟨more, by omega, last⟩
  | succ count ih =>
      have rest : Leads (frontier.stepPhase id phase).1 id (frontier.stepPhase id phase).2 count
          between := ⟨fun fewer less => leads.1 (fewer + 1) (Nat.succ_lt_succ less), leads.2⟩
      obtain ⟨total, bound, last⟩ := ih rest
      exact ⟨total + 1, by omega, .step (leads.1 0 (Nat.succ_pos count)) last⟩

end Leads

-- A frontier in which a call does not have to wait for anyone while it looks for work.
structure Clear (frontier : Frontier) : Prop where
  calm : frontier.Calm
  registered : frontier.Registered
  memory : ∃ filter, frontier.gateway = .memory filter
  free : frontier.pulling = false
  positive : 1 ≤ frontier.budgets.session

section Clear

variable {frontier : Frontier} (clear : frontier.Clear)

include clear

theorem Clear.contend (id attempt : Nat) : (frontier.contend id attempt).1.Clear := by
  have proceeds := contend_proceeds frontier id attempt clear.calm clear.registered
  have drawn := contend_draws clear.calm clear.registered id attempt clear.memory clear.free
  have heard := frontier.step_heard id (.contending attempt)
  obtain ⟨filter, memory⟩ := clear.memory
  refine ⟨proceeds.calm clear.calm, proceeds.registered, ?_, drawn.free,
    drawn.toils.budgets ▸ clear.positive⟩
  change frontier.gateway.Heard [] (frontier.contend id attempt).1.gateway at heard
  cases kind : (frontier.contend id attempt).1.gateway with
  | memory filter => exact ⟨filter, rfl⟩
  | remote service =>
      rw [memory, kind] at heard
      exact heard.elim

theorem Clear.poll (id : Nat) (progress : Bool) :
    Over (frontier.poll id progress).1 (frontier.poll id progress).2 ∨
      ((frontier.poll id progress).2 = .seeking ∧ (frontier.poll id progress).1.Clear ∧
        (frontier.poll id progress).1.toil ≤ frontier.toil ∧
        ((frontier.poll id progress).1.toil = frontier.toil →
          progress = true ∧ frontier.ready = [])) := by
  rw [Frontier.poll]
  cases line : frontier.ready with
  | nil =>
      cases progress with
      | false => exact .inl (.inr ⟨rfl, .inl line⟩)
      | true => exact .inr ⟨rfl, clear, Nat.le_refl _, fun _ => ⟨rfl, rfl⟩⟩
  | cons key rest =>
      obtain ⟨answer, answers, proceeds⟩ :=
        dispatch_proceeds frontier key rest clear.calm clear.registered line
      have toils := dispatch_toils clear.registered.once key rest clear.registered.tidy line
        clear.positive
      have setting := dispatch_setting { frontier with ready := rest } key
      simp only
      cases result : { frontier with ready := rest }.dispatchFrom key with
      | mk after told =>
          rw [result] at answers proceeds toils setting
          cases answers
          cases answer with
          | some uri => exact .inl (.inl ⟨uri, rfl⟩)
          | none =>
              have done : Toils 1 0 frontier after := toils rfl
              have less := done.bound
              have gateway : after.gateway = frontier.gateway := congrArg Setting.gateway setting
              have still : after.Clear :=
                ⟨proceeds.calm clear.calm, proceeds.registered, by rw [gateway]; exact clear.memory,
                  (congrArg Setting.pulling setting).trans clear.free,
                  by rw [done.budgets]; exact clear.positive⟩
              exact .inr ⟨rfl, still, show after.toil ≤ frontier.toil by omega,
                fun same => absurd (show after.toil = frontier.toil from same) (by omega)⟩

theorem Clear.round (id : Nat) : ∃ count, count ≤ 3 ∧
    Leads frontier id .seeking count fun after next => Over after next ∨
      (next = .seeking ∧ after.Clear ∧ after.toil < frontier.toil) := by
  have seeks : CallPhase.seeking.looks = true ∧ CallPhase.seeking.awaits = false := ⟨rfl, rfl⟩
  by_cases may : frontier.target.allowsDispatch = true
  · by_cases few : frontier.ready.length < frontier.config.pullTriggerLevel
    · have drawn := contend_draws clear.calm clear.registered id 0 clear.memory clear.free
      have contends : frontier.stepPhase id .seeking = (frontier, .contending 0) := by
        simp [stepPhase, seek, may, few]
      obtain ⟨progress, polls, done⟩ := drawn.polls
      have polled := (clear.contend id 0).poll id progress
      refine ⟨3, Nat.le_refl 3, .step seeks ?_⟩
      rw [contends]
      refine .step ⟨rfl, rfl⟩ (.step ?_ (.here ?_))
      · simp only [stepPhase, polls]
        exact ⟨rfl, rfl⟩
      · simp only [stepPhase, polls]
        refine polled.imp_right ?_
        rintro ⟨seeking, still, less, same⟩
        have toils := drawn.toils.bound
        refine ⟨seeking, still, ?_⟩
        by_cases equal : ((frontier.contend id 0).1.poll id progress).1.toil =
            (frontier.contend id 0).1.toil
        · obtain ⟨more, none⟩ := same equal
          have fetched := (done more none).bound
          omega
        · omega
    · have polls : frontier.stepPhase id .seeking = (frontier, .polling false) := by
        simp [stepPhase, seek, may, few]
      refine ⟨2, by omega, .step seeks ?_⟩
      rw [polls]
      refine .step ⟨rfl, rfl⟩ (.here ?_)
      refine (clear.poll id false).imp_right ?_
      rintro ⟨seeking, still, less, same⟩
      refine ⟨seeking, still, Nat.lt_of_le_of_ne less fun equal => ?_⟩
      cases (same equal).1
  · have waits : frontier.stepPhase id .seeking = (frontier, .waiting) := by
      simp [stepPhase, seek, may]
    refine ⟨1, by omega, .step seeks ?_⟩
    rw [waits]
    exact .here (.inl (.inr ⟨rfl, .inr (by simpa using may)⟩))

end Clear

-- By induction on what there is to do, round by round.
theorem Clear.ends {frontier : Frontier} (clear : frontier.Clear) (id : Nat) :
    ∃ count, count ≤ 3 * (frontier.toil + 1) ∧ Leads frontier id .seeking count Over := by
  induction toil : frontier.toil using Nat.strongRecOn generalizing frontier with
  | ind most ih =>
      obtain ⟨count, bound, leads⟩ := clear.round id
      obtain ⟨total, whole, ends⟩ := leads.trans (3 * most) fun after next reached => by
        rcases reached with ended | ⟨rfl, still, less⟩
        · exact ⟨0, Nat.zero_le _, .here ended⟩
        · obtain ⟨more, fewer, last⟩ := ih after.toil (by omega) still rfl
          exact ⟨more, by omega, last⟩
      exact ⟨total, by omega, ends⟩

theorem step_dry (frontier : Frontier) (id : Nat) (phase : CallPhase)
    (prompt : frontier.gateway.latency = 0) (free : frontier.pulling = false)
    (dry : phase.flushes = false) : (frontier.stepPhase id phase).1.pulling = false := by
  by_cases active : phase.suspended = false
  · exact (frontier.step_prompt id phase prompt free active).1
  · cases phase with
    | resting attempt until_ =>
        rw [stepPhase]
        split <;> exact free
    | flushing due deadline => cases dry
    | _ => exact absurd rfl active

end Frontier

namespace World

variable {setup : Setup} {events : List Event}

theorem run_free (calm : Calm setup events) (memory : ∃ filter, setup.gateway = .memory filter) :
    (run setup events).frontier.pulling = false := by
  revert calm
  refine run_induction (motive := fun events world => Calm setup events →
    world.frontier.pulling = false) setup (fun _ => rfl) ?_ events
  intro events event ih calm
  have free := ih calm.earlier
  have heard := (run_kept setup events calm.earlier).heard
  have solitary := run_solitary setup events
  generalize run setup events = world at free heard solitary ⊢
  have prompt : world.frontier.gateway.latency = 0 := by
    obtain ⟨filter, same⟩ := memory
    rw [same] at heard
    cases kind : world.frontier.gateway with
    | memory _ => rfl
    | remote service =>
        rw [kind] at heard
        exact heard.elim
  rw [step]
  split
  · by_cases uncalled : ∀ id, event ≠ .proceed id ∧ event ≠ .drop id
    · have same := steady_outside.act world event uncalled (fun state _ => by
        obtain ⟨ready, snooze, shape⟩ := request_shape world.frontier state
        rw [shape]) fun _ no => no.elim
      exact same.trans free
    · cases event with
      | proceed id =>
          simp only [World.act]
          cases found : world.call? id with
          | none => exact free
          | some call =>
              have dry : call.phase.flushes = false := by
                apply Bool.eq_false_iff.mpr
                intro flushes
                have taken := solitary.taken (List.mem_of_find?_eq_some found) flushes
                cases free.symm.trans taken
              exact world.frontier.step_dry call.id call.phase prompt free dry
      | drop id =>
          simp only [World.act]
          cases found : world.call? id with
          | none => exact free
          | some call =>
              simp only [Option.elim, World.drop]
              split
              · exact free
              · rw [Frontier.cancel_leaves]
                simp [free]
      | _ => exact absurd (by simp) uncalled
  · exact free

theorem run_clear (calm : Calm setup events) (filter : UniqFilter)
    (memory : (run setup events).frontier.gateway = .memory filter)
    (positive : 1 ≤ (run setup events).frontier.budgets.session) :
    (run setup events).frontier.Clear := by
  have kept := run_kept setup events calm
  have heard := kept.heard
  rw [memory] at heard
  refine ⟨kept.calm, kept.registered, ⟨filter, memory⟩, run_free calm ?_, positive⟩
  cases kind : setup.gateway with
  | memory filter => exact ⟨filter, rfl⟩
  | remote service =>
      rw [kind] at heard
      exact heard.elim

theorem run_steps (setup : Setup) (events : List Event) (id : Nat) (phase : CallPhase) (count : Nat)
    (found : (run setup events).call? id = some ⟨id, phase⟩)
    (turn : (run setup events).turn = some id)
    (looks : ∀ fewer < count, ((run setup events).frontier.stepMany id phase fewer).2.awaits = false) :
    let after := run setup (events ++ List.replicate count (.proceed id))
    after.frontier = ((run setup events).frontier.stepMany id phase count).1 ∧
      after.call? id = some ⟨id, ((run setup events).frontier.stepMany id phase count).2⟩ := by
  induction count generalizing events phase with
  | zero =>
      rw [List.replicate_zero, List.append_nil]
      exact ⟨rfl, found⟩
  | succ count ih =>
      rw [List.replicate_succ, List.append_cons]
      have acts : run setup (events ++ [.proceed id]) =
          (run setup events).proceed ⟨id, phase⟩ := by
        rw [run_snoc, step, if_pos (by simp [admits, turn]), act, found]
        rfl
      have frontier : (run setup (events ++ [.proceed id])).frontier =
          ((run setup events).frontier.stepPhase id phase).1 := by
        rw [acts]
        rfl
      have present : (run setup (events ++ [.proceed id])).call? id =
          some ⟨id, ((run setup events).frontier.stepPhase id phase).2⟩ := by
        rw [acts, call_proceed, found]
        simp [Frontier.step]
      cases count with
      | zero =>
          rw [List.replicate_zero, List.append_nil]
          exact ⟨frontier, present⟩
      | succ count =>
          have onward := looks 1 (by omega)
          have still : (run setup (events ++ [.proceed id])).turn = some id := by
            rw [acts]
            exact if_neg (by rw [Bool.not_eq_true]; exact onward)
          have rest := ih (events ++ [.proceed id]) _ present still fun fewer less => by
            rw [frontier]
            exact looks (fewer + 1) (Nat.succ_lt_succ less)
          rw [frontier] at rest
          exact rest

end World

/-- Wherever the routing does not fail, the gateway is a filter and the budget of a session is not zero,
an attempt to get a URI ends, after no more steps than three for all that there is to do and three more:
there is a URI, or nothing is in line, or nothing may be handed out. Until then the call looks for work
without waiting for anything; so it keeps its turn, and that is what becomes of it in the world. -/
theorem attempts_end (setup : Setup) (events : List Event) (filter : UniqFilter) (id : Nat)
    (calm : Calm setup events)
    (memory : (World.run setup events).frontier.gateway = .memory filter)
    (positive : 1 ≤ (World.run setup events).frontier.budgets.session) :
    let world := World.run setup events
    let most := 3 * (world.frontier.toil + 1)
    (∃ count ≤ most, world.frontier.Leads id .seeking count Frontier.Over) ∧
      (world.call? id = some ⟨id, .seeking⟩ → ∃ count ≤ most,
        let after := World.run setup (events ++ List.replicate count (.proceed id))
        ∃ phase, after.call? id = some ⟨id, phase⟩ ∧ after.frontier.Over phase) := by
  intro world most
  have clear : world.frontier.Clear := World.run_clear calm filter memory positive
  obtain ⟨count, bound, leads⟩ := clear.ends id
  refine ⟨⟨count, bound, leads⟩, fun found => ⟨count, bound, ?_⟩⟩
  have turn : world.turn = some id := by
    rcases World.run_turn setup events id _ found with awaits | enters | turn
    · cases awaits
    · cases enters
    · exact turn
  obtain ⟨frontier, present⟩ := World.run_steps setup events id .seeking count found turn
    fun fewer less => (leads.1 fewer less).2
  refine ⟨_, present, ?_⟩
  rw [frontier]
  exact leads.2

-- A site is in line with a session that is spent by now, and another site is to be fetched, when a second
-- worker begins to look for work.
def spentSession : List Event :=
  firstCall ++ [.complete firstPage (Outcome.new (.success 200) 0), .setBudgets 1 none,
    .offer (.add (page "b.com" "1")), .call, .proceed 1]

theorem attempts_end_spent_session :
    (World.run Setup.plain spentSession).call? 1 = some ⟨1, .seeking⟩ ∧
      ∃ count ≤ 15,
        let after := World.run Setup.plain (spentSession ++ List.replicate count (.proceed 1))
        ∃ phase, after.call? 1 = some ⟨1, phase⟩ ∧ after.frontier.Over phase := by
  have calm : Calm Setup.plain spentSession := ⟨rfl, by simp [spentSession, firstCall, Event.Calm]⟩
  have found : (World.run Setup.plain spentSession).call? 1 = some ⟨1, .seeking⟩ := by
    decide +kernel
  have toil : (World.run Setup.plain spentSession).frontier.toil = 4 := by decide +kernel
  have memory : (World.run Setup.plain spentSession).frontier.gateway =
      .memory ((UniqFilter.new 1000).noteFinished.add (page "b.com" "1")).1 := by decide +kernel
  have ends := (attempts_end Setup.plain spentSession _ 1 calm memory (by decide +kernel)).2 found
  rw [toil] at ends
  exact ⟨found, ends⟩

end PoliteCrawl
