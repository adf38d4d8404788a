import PoliteCrawl.Proofs.Frontier.Activation
import PoliteCrawl.Proofs.Frontier.Pulls
import PoliteCrawl.Proofs.Frontier.Tidy

set_option autoImplicit false

namespace PoliteCrawl.Frontier

-- The key of an inactive queue was taken from its tier, and is in no register now. All other keys stand
-- where they stood, if maybe in another tier, and no queue has changed its state.
structure Mislays (key : String) (before after : Frontier) : Prop where
  filed : before.standing key = { Standing.nowhere with inactive := 1 }
  lost : after.Adrift key .inactive
  others : ∀ other, other ≠ key → after.standing other = before.standing other
  states : ∀ other, after.queueState? other = before.queueState? other

structure Sifting (start state : Frontier) (filed : Filed) : Prop where
  orderly : start.Orderly (state.withFiled filed)
  standing : ∀ key, (state.withFiled filed).standing key = start.standing key
  states : ∀ key, state.queueState? key = start.queueState? key

def Sought (start : Frontier) : Frontier × Filed × ScanEnd → Prop
  | (after, left, .exhausted) => Sifting start after left
  | (after, left, .activated key) => start.Orderly ((after.withFiled left).publish key)
  | (after, left, .failed) => start.Orderly (after.withFiled left) ∧
      ∃ key, Mislays key start (after.withFiled left)

inductive Sights (start : Frontier) (tier : Nat) (key : String)
    (taken : Filed) : Frontier × Option Inspection → Prop where
  | fails (after : Frontier) (orderly : start.Orderly (after.withFiled taken))
      (mislays : Mislays key start (after.withFiled taken)) :
      Sights start tier key taken (after, none)
  | readies (after : Frontier)
      (orderly : start.Orderly ((after.withFiled taken).publish key)) :
      Sights start tier key taken (after, some .activated)
  | misfiled (after : Frontier) (current : Nat) (elsewhere : current ≠ tier)
      (sifting : Sifting start after (Filed.append current key taken)) :
      Sights start tier key taken (after, some (.misfiled current))

theorem rated_states (frontier : Frontier) (queue asked : WorkQueue)
    (found : frontier.queue? queue.key = some queue) (key : asked.key = queue.key)
    (state : asked.state = queue.state) (other : String) :
    (frontier.store asked).queueState? other = frontier.queueState? other := by
  by_cases here : other = queue.key
  · subst here
    rw [queueState?, queueState?, found, ← key, store_same frontier asked queue (key ▸ found)]
    exact congrArg some state
  · rw [queueState?, queueState?, store_other frontier asked other (key ▸ here)]

theorem inspect_sights (start state : Frontier) (tier : Nat) (key : String) (rest : List String)
    (filed : Filed) (sifting : Sifting start state filed)
    (line : Filed.keysAt filed tier = key :: rest) :
    Sights start tier key (Filed.setKeys tier rest filed) (state.inspect key tier) := by
  have tidy := sifting.orderly.tidy
  obtain ⟨listed, same, nowhere⟩ := take_inactive state tier key rest filed tidy line
  obtain ⟨queue, found, named, inactive, here, awake⟩ := tidy.inactive listed
  have stood : (state.withFiled filed).standing key ≠ .nowhere := by
    rw [here]
    simp [Standing.nowhere]
  let base := state.withFiled (Filed.setKeys tier rest filed)
  have taken : Shift key (state.withFiled filed) base :=
    ⟨id, Filed.set_keys_ascending tier rest filed, same⟩
  have present : state.queue? key = some queue := found
  subst named
  rw [inspect, present]
  simp only [if_pos inactive]
  obtain ⟨routing, _, fails | ⟨told, asks⟩⟩ := refresh_cases state queue
  · rw [fails]
    have routed : Shift queue.key (state.withFiled filed) { base with routing } :=
      taken.trans (.still rfl id fun _ => rfl)
    refine .fails _ (sifting.orderly.trans (routed.moves tidy stood
      (.inr ⟨nowhere, queue, found, awake, by simp [inactive], by simp [inactive]⟩)))
        ⟨?_, ⟨nowhere, queue, found, inactive⟩, ?_, sifting.states⟩
    · exact (sifting.standing queue.key).symm.trans here
    · intro other different
      exact (same.standing other different).trans (sifting.standing other)
  · let asked := queue.setPrecedence told
    have allowed : asked.state.allows .ready = true := by
      simp [asked, WorkQueue.setPrecedence, inactive, QueueState.allows]
    have routed : Shift queue.key (state.withFiled filed) { base with routing } :=
      taken.trans (.still rfl id fun _ => rfl)
    rw [asks]
    by_cases right : asked.precedence = tier
    · let ready : WorkQueue := { asked with state := .ready }
      have moors := ready_moors { base with routing } ready found nowhere rfl awake
      have stored : ({ state with routing }.store asked).store ready =
          { state with routing }.store ready := store_store _ asked ready rfl
      simp only [asked] at right allowed stored
      simp only [if_pos right, WorkQueue.transition_allowed _ .ready allowed]
      refine .readies _ ?_
      rw [stored]
      exact sifting.orderly.trans ((routed.settles moors).moves tidy stood (.inl moors.settled))
    · have moors := inactive_moors { base with routing } asked found nowhere asked.precedence
        inactive awake
      have shift := routed.settles moors
      have moved := shift.moves tidy stood (.inl moors.settled)
      simp only [asked] at right
      simp only [if_neg right]
      refine .misfiled _ _ right ⟨sifting.orderly.trans (moved.still rfl id fun _ => rfl), ?_, ?_⟩
      · intro other
        rw [← sifting.standing other]
        by_cases same : other = queue.key
        · subst same
          have filed := file_here ({ base with routing }.store asked) queue.key asked.precedence
          have loose : ({ base with routing }.store asked).standing queue.key = .nowhere := nowhere
          rw [loose] at filed
          rw [here]
          exact filed
        · exact shift.same.standing other same
      · intro other
        rw [← sifting.states other]
        exact rated_states { state with routing } queue asked present rfl rfl other

theorem scan_tier_sought (start state : Frontier) (tier : Nat) (line : List String)
    (filed : Filed) (sifting : Sifting start state filed) (whole : Filed.keysAt filed tier = line) :
    Sought start (Tiers.scanTier inspect tier line state filed) := by
  induction line generalizing state filed with
  | nil => exact sifting
  | cons key rest ih =>
      have sights := inspect_sights start state tier key rest filed sifting whole
      rw [Tiers.scanTier]
      generalize state.inspect key tier = result at sights
      cases sights with
      | fails after orderly mislays => exact ⟨orderly, key, mislays⟩
      | readies after orderly => exact orderly
      | misfiled after current elsewhere onward =>
          have present : tier ∈ Filed.tiers filed :=
            Filed.keys_at_present tier key filed (by simp [whole])
          apply ih after _ onward
          rw [Filed.append_keys_at current tier key _ elsewhere,
            Filed.set_keys_at tier rest filed present]

theorem scan_sought (start state : Frontier) (tiers : List Nat) (filed : Filed)
    (sifting : Sifting start state filed) : Sought start (Tiers.scan inspect tiers state filed) := by
  induction tiers generalizing state filed with
  | nil => exact sifting
  | cons tier rest ih =>
      have first := scan_tier_sought start state tier _ filed sifting rfl
      rw [Tiers.scan]
      cases result : Tiers.scanTier inspect tier (Filed.keysAt filed tier) state filed with
      | mk after others =>
          obtain ⟨left, ended⟩ := others
          rw [result] at first
          cases ended with
          | exhausted => exact ih after left first
          | activated key => exact first
          | failed => exact first

theorem activate_orderly (frontier : Frontier) (tidy : frontier.Tidy) :
    frontier.Orderly frontier.activateInactive.1 ∧
      (frontier.activateInactive.2 = none →
        (∃ key, Mislays key frontier frontier.activateInactive.1) ∧
          frontier.activateInactive.1.tiers.watermark = frontier.tiers.watermark) := by
  have start : Sifting frontier frontier frontier.tiers.filed :=
    ⟨.refl tidy, fun _ => rfl, fun _ => rfl⟩
  have sought := scan_sought frontier frontier (frontier.tiers.filed.map (·.1)) _ start
  simp only [activateInactive, Tiers.activateNext]
  cases result : Tiers.scan inspect (frontier.tiers.filed.map (·.1)) frontier
      frontier.tiers.filed with
  | mk after others =>
      obtain ⟨left, ended⟩ := others
      rw [result] at sought
      have occupied := Filed.occupied_ascending left
      cases ended with
      | exhausted =>
          refine ⟨sought.orderly.still rfl occupied fun key => ?_, by simp⟩
          simp only [standing, withFiled, Tiers.keys, Filed.occupied_keys]
      | activated found =>
          refine ⟨sought.still rfl occupied fun key => ?_, by simp⟩
          simp only [standing, publish, withFiled, Tiers.keys, Filed.occupied_keys]
      | failed =>
          obtain ⟨orderly, key, mislays⟩ := sought
          refine ⟨orderly.still rfl id fun _ => rfl, fun _ => ⟨⟨key, ?_⟩, rfl⟩⟩
          exact ⟨mislays.filed, mislays.lost, mislays.others, mislays.states⟩

inductive Recalls (frontier : Frontier) (key : String) : Frontier × Option Bool → Prop where
  | fails (after : Frontier) (shift : Shift key frontier after) (tidy : after.Tidy)
      (adrift : after.Adrift key .retired) : Recalls frontier key (after, none)
  | moors (after : Frontier) (back : Bool) (moors : Moors key frontier after) :
      Recalls frontier key (after, some back)

theorem unretire_queue_recalls (frontier : Frontier) (key : String) (tidy : frontier.Tidy)
    (adrift : frontier.Adrift key .retired) :
    Recalls frontier key (frontier.unretireQueue key) := by
  obtain ⟨nowhere, queue, found, retired⟩ := adrift
  have named := queue_key frontier key queue found
  have awake : queue.wakeTime = none := by
    rcases tidy.neat key with settled | ⟨_, other, present, awake, _⟩
    · simp only [Settled, found, WorkQueue.StandsAt, retired] at settled
      exact settled.2
    · cases found.symm.trans present
      exact awake
  subst named
  let funded := queue.setTotalBudget frontier.budgets.total
  have state : funded.state = .retired := retired
  have stored : (frontier.store funded).queue? queue.key = some funded :=
    store_same frontier funded queue found
  rw [unretireQueue, found]
  simp only [if_pos retired]
  by_cases spent : funded.isOverTotal = true
  · rw [if_pos spent]
    exact .moors _ _ (retired_moors frontier funded found nowhere retired awake)
  · have requeued := reenqueue_cases (frontier.store funded) funded
      (by simp [state, QueueState.allows])
    have berthed := requeued.berthed (frontier.store funded) funded stored nowhere awake
    have funds : Shift queue.key frontier (frontier.store funded) := store_shift frontier funded
    rw [if_neg spent]
    generalize (frontier.store funded).reenqueue funded = result at berthed ⊢
    cases berthed with
    | moored after placement moors => exact .moors _ _ (funds.settles moors)
    | failed routing =>
        have routed : Shift queue.key frontier { frontier.store funded with routing } :=
          funds.trans (.still rfl id fun _ => rfl)
        have strays : { frontier.store funded with routing }.Strays queue.key :=
          ⟨nowhere, funded, stored, awake, by simp [state], by simp [state]⟩
        exact .fails _ routed (routed.tidies tidy (.inr strays)) ⟨nowhere, funded, stored, retired⟩

-- All retired keys were taken, and those of a line are still to be considered.
structure Draining (frontier : Frontier) (line : List String) : Prop where
  tidy : frontier.Tidy
  once : ∀ key ∈ line, line.count key = 1
  adrift : ∀ key ∈ line, frontier.Adrift key .retired

section Draining

variable {frontier after : Frontier} {key : String} {rest : List String}
  (draining : Draining frontier (key :: rest))

include draining

theorem Draining.fresh : key ∉ rest := by
  simpa [List.count_eq_zero] using draining.once key List.mem_cons_self

theorem Draining.later (shift : Shift key frontier after) (other : String) (listed : other ∈ rest) :
    after.Adrift other .retired :=
  shift.same.adrift (fun same => draining.fresh (same ▸ listed))
    (draining.adrift other (List.mem_cons_of_mem key listed))

theorem Draining.onward (moors : Moors key frontier after) : Draining after rest := by
  refine ⟨moors.tidies draining.tidy (.inl moors.settled), fun other listed => ?_,
    draining.later moors.toShift⟩
  have different : key ≠ other := fun same => draining.fresh (same ▸ listed)
  rw [← List.count_cons_of_ne different]
  exact draining.once other (List.mem_cons_of_mem key listed)

end Draining

def Recalled (line : List String) : Frontier × Option Nat → Prop
  | (after, some _) => ∀ key ∈ line, after.Settled key
  | (after, none) => ∃ done key rest, line = done ++ key :: rest ∧
      (∀ other ∈ done, after.Settled other) ∧ ∀ other ∈ key :: rest, after.Adrift other .retired

def Beyond (line : List String) (before after : Frontier) : Prop :=
  ∀ key, key ∉ line → after.queue? key = before.queue? key ∧ after.standing key = before.standing key

theorem Shift.beyond {key : String} {first second third : Frontier} {rest : List String}
    (shift : Shift key first second) (beyond : Beyond rest second third) :
    Beyond (key :: rest) first third := by
  intro other outside
  rw [List.mem_cons, not_or] at outside
  obtain ⟨queue, standing⟩ := beyond other outside.2
  exact ⟨queue.trans (shift.same.queue other outside.1),
    standing.trans (shift.same.standing other outside.1)⟩

theorem Beyond.settled {line : List String} {before after : Frontier} {key : String}
    (beyond : Beyond line before after) (outside : key ∉ line) (settled : before.Settled key) :
    after.Settled key := by
  obtain ⟨queue, standing⟩ := beyond key outside
  unfold Settled at settled ⊢
  rwa [queue, standing]

theorem unretire_all_recalls (line : List String) (frontier : Frontier) (count : Nat)
    (draining : Draining frontier line) :
    (frontier.unretireAll count line).1.Tidy ∧ Recalled line (frontier.unretireAll count line) ∧
      Beyond line frontier (frontier.unretireAll count line).1 := by
  induction line generalizing frontier count with
  | nil => exact ⟨draining.tidy, by simp [unretireAll, Recalled], fun _ _ => ⟨rfl, rfl⟩⟩
  | cons key rest ih =>
      have recalls := unretire_queue_recalls frontier key draining.tidy
        (draining.adrift key List.mem_cons_self)
      rw [unretireAll]
      generalize frontier.unretireQueue key = result at recalls
      cases recalls with
      | fails after shift tidy adrift =>
          refine ⟨tidy, ⟨[], key, rest, rfl, by simp, fun other listed => ?_⟩,
            shift.beyond fun _ _ => ⟨rfl, rfl⟩⟩
          rcases List.mem_cons.mp listed with same | later
          · exact same ▸ adrift
          · exact draining.later shift other later
      | moors after back moors =>
          have onward := draining.onward moors
          have finishes (counted : Nat) :
              (after.unretireAll counted rest).1.Tidy ∧
                Recalled (key :: rest) (after.unretireAll counted rest) ∧
                Beyond (key :: rest) frontier (after.unretireAll counted rest).1 := by
            obtain ⟨tidy, recalled, beyond⟩ := ih after counted onward
            have settled := beyond.settled draining.fresh moors.settled
            refine ⟨tidy, ?_, moors.toShift.beyond beyond⟩
            generalize after.unretireAll counted rest = final at recalled settled
            obtain ⟨last, answer⟩ := final
            cases answer with
            | some total =>
                intro other listed
                rcases List.mem_cons.mp listed with same | later
                · exact same ▸ settled
                · exact recalled other later
            | none =>
                obtain ⟨done, first, left, whole, well, lost⟩ := recalled
                refine ⟨key :: done, first, left, by rw [whole]; rfl, fun other listed => ?_, lost⟩
                rcases List.mem_cons.mp listed with same | later
                · exact same ▸ settled
                · exact well other later
          cases back with
          | true => exact finishes (count + 1)
          | false => exact finishes count

theorem Tidy.drain {frontier : Frontier} (tidy : frontier.Tidy) :
    Draining { frontier with retired := [] } frontier.retired ∧
      Beyond frontier.retired frontier { frontier with retired := [] } := by
  have nowhere (key : String) (listed : key ∈ frontier.retired) :
      { frontier with retired := [] }.standing key = .nowhere := by
    obtain ⟨_, _, _, _, here, _⟩ := tidy.retired listed
    simp only [standing, Standing.nowhere, Standing.mk.injEq, List.count_nil] at here ⊢
    exact ⟨here.1, here.2.1, here.2.2.1, trivial, here.2.2.2.2⟩
  have elsewhere (key : String) (outside : key ∉ frontier.retired) :
      { frontier with retired := [] }.standing key = frontier.standing key := by
    simp [standing, List.count_eq_zero.mpr outside]
  refine ⟨⟨⟨tidy.once, tidy.ascending, fun key => ?_⟩, fun key listed => ?_, fun key listed => ?_⟩,
    fun key outside => ⟨rfl, elsewhere key outside⟩⟩
  · by_cases listed : key ∈ frontier.retired
    · obtain ⟨queue, found, _, retired, _, awake⟩ := tidy.retired listed
      exact .inr ⟨nowhere key listed, queue, found, awake, by simp [retired], by simp [retired]⟩
    · have neat := tidy.neat key
      unfold Settled Strays at neat ⊢
      rwa [elsewhere key listed]
  · obtain ⟨_, _, _, _, here, _⟩ := tidy.retired listed
    exact congrArg Standing.retired here
  · obtain ⟨queue, found, _, retired, _⟩ := tidy.retired listed
    exact ⟨nowhere key listed, queue, found, retired⟩

theorem unretire_orderly (frontier : Frontier) (tidy : frontier.Tidy) :
    frontier.Orderly frontier.unretireQueues.1 ∧
      Recalled frontier.retired frontier.unretireQueues ∧
      Beyond frontier.retired frontier frontier.unretireQueues.1 := by
  obtain ⟨draining, drained⟩ := tidy.drain
  obtain ⟨tidied, recalled, beyond⟩ :=
    unretire_all_recalls frontier.retired { frontier with retired := [] } 0 draining
  have whole : Beyond frontier.retired frontier frontier.unretireQueues.1 := by
    intro key outside
    obtain ⟨queue, standing⟩ := beyond key outside
    exact ⟨queue, standing.trans (drained key outside).2⟩
  refine ⟨⟨tidied, fun key state _ adrift => ?_⟩, recalled, whole⟩
  -- A retired key is in its register, so it was not adrift before.
  have outside : key ∉ frontier.retired := by
    intro listed
    obtain ⟨_, _, _, _, here, _⟩ := tidy.retired listed
    rw [adrift.1] at here
    simp [Standing.nowhere] at here
  obtain ⟨queue, standing⟩ := whole key outside
  unfold Adrift at adrift ⊢
  rwa [queue, standing]

theorem collect_orderly (frontier : Frontier) (worker : Nat) (tidy : frontier.Tidy) :
    frontier.Orderly (frontier.collect worker).1 := by
  rw [collect]
  cases frontier.gateway.takeBatch with
  | error cause => exact tidy.still rfl id fun _ => rfl
  | ok taken =>
      obtain ⟨gateway, handover⟩ := taken
      have took : frontier.Orderly { frontier with gateway } := tidy.still rfl id fun _ => rfl
      have received :=
        took.trans (receive_all_orderly handover.uris { frontier with gateway } took.tidy)
      simp only
      cases result : { frontier with gateway }.receiveAll handover.uris with
      | mk after answer =>
          rw [result] at received
          cases answer <;> exact received.still rfl id fun _ => rfl

theorem flush_orderly (frontier : Frontier) (worker : Nat) (tidy : frontier.Tidy) :
    frontier.Orderly (frontier.flush worker).1 := by
  by_cases fast : frontier.gateway.latency = 0
  · rw [flush, if_pos fast]
    exact collect_orderly frontier worker tidy
  · rw [flush, if_neg fast]
    exact .refl tidy

theorem pull_orderly (frontier : Frontier) (worker : Nat) (tidy : frontier.Tidy) :
    frontier.Orderly (frontier.pull worker).1 := by
  by_cases may : frontier.mayActivate = true
  · have activated := (activate_orderly frontier tidy).1
    rw [pull, if_pos may]
    cases result : frontier.activateInactive with
    | mk after answer =>
        rw [result] at activated
        cases answer with
        | none => exact activated.still rfl id fun _ => rfl
        | some found =>
            cases found with
            | true => exact activated.still rfl id fun _ => rfl
            | false => exact activated.trans (flush_orderly after worker activated.tidy)
  · rw [pull, if_neg may]
    exact flush_orderly frontier worker tidy

theorem contend_orderly (frontier : Frontier) (worker attempt : Nat) (tidy : frontier.Tidy) :
    frontier.Orderly (frontier.contend worker attempt).1 := by
  rw [contend]
  split
  · have began : frontier.Orderly { frontier with pulling := true } :=
      tidy.still rfl id fun _ => rfl
    exact began.trans (pull_orderly { frontier with pulling := true } worker began.tidy)
  · split <;> exact .refl tidy

theorem poll_orderly (frontier : Frontier) (worker : Nat) (progress : Bool) (tidy : frontier.Tidy) :
    frontier.Orderly (frontier.poll worker progress).1 := by
  rw [poll]
  cases line : frontier.ready with
  | nil => exact .refl tidy
  | cons key rest =>
      have dispatched := dispatch_orderly frontier key rest tidy line
      simp only
      cases result : { frontier with ready := rest }.dispatchFrom key with
      | mk after answer =>
          rw [result] at dispatched
          cases answer with
          | none => exact dispatched.still rfl id fun _ => rfl
          | some found =>
              cases found with
              | none => exact dispatched
              | some uri =>
                  simp only [hand]
                  split <;> exact dispatched.still rfl id fun _ => rfl

theorem step_orderly (frontier : Frontier) (worker : Nat) (phase : CallPhase) (tidy : frontier.Tidy) :
    frontier.Orderly (frontier.stepPhase worker phase).1 := by
  cases phase with
  | entering =>
      simp only [stepPhase, enter]
      split
      · exact tidy.still rfl id fun _ => rfl
      · split <;> exact tidy.still rfl id fun _ => rfl
  | contending attempt => exact contend_orderly frontier worker attempt tidy
  | polling progress => exact poll_orderly frontier worker progress tidy
  | flushing due deadline =>
      simp only [stepPhase]
      split
      · exact collect_orderly frontier worker tidy
      · split <;> exact tidy.still rfl id fun _ => rfl
  | resting attempt until_ =>
      simp only [stepPhase]
      split <;> exact .refl tidy
  | waiting =>
      simp only [stepPhase, awake]
      split <;> exact tidy.still rfl id fun _ => rfl
  | seeking | done answer | failed => exact .refl tidy

theorem cancel_orderly (frontier : Frontier) (call : Call) (tidy : frontier.Tidy) :
    frontier.Orderly (frontier.cancel call) := by
  rw [cancel]
  split <;> exact tidy.still rfl id fun _ => rfl

structure Falters (frontier : Frontier) (phase : CallPhase) : Prop where
  contends : ∃ attempt, phase = .contending attempt
  free : frontier.pulling = false
  may : frontier.mayActivate = true
  fails : { frontier with pulling := true }.activateInactive.2 = none

theorem Falters.mislays {frontier : Frontier} {phase : CallPhase} (falters : Falters frontier phase)
    (worker : Nat) (tidy : frontier.Tidy) :
    (frontier.stepPhase worker phase).2 = .failed ∧
      (frontier.stepPhase worker phase).1.tiers.watermark = frontier.tiers.watermark ∧
        ∃ key, Mislays key frontier (frontier.stepPhase worker phase).1 := by
  obtain ⟨⟨attempt, rfl⟩, free, may, fails⟩ := falters
  have began : frontier.Orderly { frontier with pulling := true } := tidy.still rfl id fun _ => rfl
  obtain ⟨⟨key, mislays⟩, mark⟩ := (activate_orderly _ began.tidy).2 fails
  have allowed : { frontier with pulling := true }.mayActivate = true := may
  simp only [stepPhase, contend, free, Bool.not_false, if_true, pull, if_pos allowed]
  cases result : { frontier with pulling := true }.activateInactive with
  | mk after answer =>
      rw [result] at mislays mark fails
      simp only at fails
      subst fails
      exact ⟨rfl, mark, key, mislays.filed, mislays.lost, mislays.others, mislays.states⟩

end PoliteCrawl.Frontier
