import PoliteCrawl.Proofs.Frontier.Requeue
import PoliteCrawl.Proofs.Frontier.Supervision

set_option autoImplicit false

namespace PoliteCrawl.Frontier

-- A queue has served its pause: it is exhausted, or it is ready or parked with all its URIs.
def Roused (before : Frontier) (key : String) (after : Frontier) : Prop :=
  ∃ old new, before.queue? key = some old ∧ after.queue? key = some new ∧ new.items = old.items ∧
    (old.items = [] → new.state = .empty) ∧
    (old.items ≠ [] → new.state = .ready ∨ new.state = .inactive)

structure Wakes (before : Frontier) (entry : SnoozeEntry) (rest : Snoozed) (after : Frontier) :
    Prop where
  registered : after.Registered
  roused : before.Roused entry.key after
  snoozed : after.snoozed = rest
  others : Beside entry.key before after
  posted : before.ledger.Posted [] after.ledger

-- The first of the snoozed could not be woken: it sleeps again, from now until now.
structure Relapses (before : Frontier) (entry : SnoozeEntry) (rest : Snoozed) (after : Frontier) :
    Prop where
  registered : after.Registered
  asleep : ∃ queue, before.queue? entry.key = some queue ∧ queue.state = .snoozed ∧
    after.queue? entry.key = some (queue.setWakeTime (some before.now))
  snoozed : after.snoozed = Snoozed.insert { wake := before.now, key := entry.key } rest
  others : Beside entry.key before after
  posted : before.ledger.Posted [] after.ledger

section Waking

variable (frontier : Frontier) (entry : SnoozeEntry) (rest : Snoozed)
  (registered : frontier.Registered) (first : frontier.snoozed = entry :: rest)

include registered in
theorem awake_wakes (queue new : WorkQueue) (after : Frontier)
    (found : frontier.queue? entry.key = some queue) (asleep : queue.state = .snoozed)
    (key : new.key = queue.key) (items : new.items = queue.items)
    (place : new.state = .empty ∧ queue.items = [] ∨
      (new.state = .ready ∨ new.state = .inactive) ∧ queue.items ≠ [])
    (queues : after.queues = (frontier.store new).queues)
    (queued : after.stats.queued = frontier.stats.queued) (settled : after.Registered)
    (snoozed : after.snoozed = rest) : frontier.Wakes entry rest after := by
  have named : new.key = entry.key := key.trans (queue_key frontier entry.key queue found)
  have idle : new.state ≠ .inProcess := by
    rcases place with ⟨state, _⟩ | ⟨state | state, _⟩ <;> simp [state]
  have lane : new.lane = queue.lane := by
    simp [WorkQueue.lane, items, idle, asleep]
  have stored (other : String) : after.queue? other = (frontier.store new).queue? other :=
    queues_queue _ _ other queues
  refine ⟨settled, ⟨queue, new, found, ?_, items, fun none => ?_, fun some => ?_⟩, snoozed,
    fun other different => ?_, ?_⟩
  · rw [stored, ← named]
    exact store_same frontier new queue (named ▸ found)
  · exact (place.resolve_right fun both => both.2 none).1
  · exact (place.resolve_left fun both => some both.2).1
  · rw [stored, store_other frontier new other (named ▸ different)]
  · exact store_same_posted frontier after queue new registered.once (named ▸ found) queues lane
      queued

include registered in
theorem asleep_relapses (queue : WorkQueue) (routing : Routing)
    (first : frontier.snoozed = entry :: rest)
    (found : frontier.queue? entry.key = some queue) (asleep : queue.state = .snoozed) :
    frontier.Relapses entry rest
      (({ { frontier with snoozed := rest }.store (queue.setWakeTime none) with
        routing }).resnooze entry.key) := by
  have named := queue_key frontier entry.key queue found
  let base := { frontier with snoozed := rest, routing := routing }
  let woken := queue.setWakeTime none
  let again := queue.setWakeTime (some frontier.now)
  have present : base.queue? woken.key = some queue := named.symm ▸ found
  have stored : (base.store woken).queue? entry.key = some woken := by
    rw [← named]
    exact store_same base woken queue present
  have loose : base.Loose again.key := by
    have loosened := loosen_snoozed frontier entry rest registered first
    rw [← named] at loosened
    exact ⟨loosened.once, loosened.ascending, loosened.known, loosened.nowhere, loosened.others⟩
  have whole : (base.store woken).resnooze entry.key =
      (base.store again).snooze again.key frontier.now := by
    have twice := store_store base woken again rfl
    have key : again.key = entry.key := named
    have state : woken.state = .snoozed := asleep
    have replaced : woken.setWakeTime (some (base.store woken).now) = again := rfl
    rw [resnooze, stored]
    simp only [if_pos state, replaced, twice, key]
    rfl
  change frontier.Relapses entry rest ((base.store woken).resnooze entry.key)
  rw [whole]
  refine ⟨land_snoozed base again loose frontier.now asleep rfl,
    ⟨queue, found, asleep, ?_⟩, ?_, fun other different => ?_, ?_⟩
  · rw [← named]
    exact store_same base again queue present
  · rw [← named]
    rfl
  · exact store_other base again other (named.symm ▸ different)
  · exact store_same_posted frontier _ queue again registered.once present rfl rfl rfl

include registered first in
theorem wake_queue_cases :
    match { frontier with snoozed := rest }.wakeQueue entry.key with
    | (after, some _) => frontier.Wakes entry rest after
    | (after, none) => frontier.Relapses entry rest (after.resnooze entry.key) := by
  obtain ⟨queue, found, named, asleep, _, _⟩ :=
    snoozed_queue frontier entry registered (by simp [first])
  let base := { frontier with snoozed := rest }
  let woken := queue.setWakeTime none
  have present : base.queue? entry.key = some queue := found
  have state : woken.state = .snoozed := asleep
  have loose (routing : Routing) : { base.store woken with routing }.Loose woken.key := by
    have loosened := loosen_snoozed frontier entry rest registered first
    rw [← named] at loosened
    have stored : (base.store woken).Loose woken.key := loosened.store woken
    exact ⟨stored.once, stored.ascending, stored.known, stored.nowhere, stored.others⟩
  have twice (routing : Routing) (new : WorkQueue) (key : new.key = queue.key) :
      ({ base.store woken with routing }.store new).queues = (frontier.store new).queues := by
    rw [← store_store frontier woken new key.symm]
    rfl
  rw [wakeQueue, present]
  simp only [if_pos asleep]
  by_cases dry : woken.isEmpty = true
  · have none : queue.items = [] := List.isEmpty_iff.mp dry
    let noted : WorkQueue := { woken.noteExhausted with state := .empty }
    have marked : (base.store woken).markExhausted woken = (base.store woken).store noted := by
      have allowed : woken.noteExhausted.state.allows .empty = true := by
        simp [WorkQueue.noteExhausted, state, QueueState.allows]
      rw [markExhausted, woken.noteExhausted.transition_allowed .empty allowed]
    rw [if_pos dry]
    change frontier.Wakes entry rest ((base.store woken).markExhausted woken)
    rw [marked]
    exact awake_wakes frontier entry rest registered queue noted _ found asleep rfl rfl
      (.inl ⟨rfl, none⟩) (twice frontier.routing noted rfl) rfl
      (land_empty _ noted (loose frontier.routing) rfl none rfl) rfl
  · have more : queue.items ≠ [] := fun none => dry (List.isEmpty_iff.mpr none)
    have placed := reenqueue_cases (base.store woken) woken (by simp [state, QueueState.allows])
    rw [if_neg dry]
    generalize (base.store woken).reenqueue woken = result at placed ⊢
    cases placed with
    | fails routing =>
        exact asleep_relapses frontier entry rest registered queue routing first found asleep
    | parks routing asked told =>
        obtain ⟨tier, rfl⟩ := told
        have lands := land_inactive _ (parked (woken.setPrecedence tier))
          (loose routing) (woken.setPrecedence tier).precedence rfl rfl
        have key : (parked (woken.setPrecedence tier)).key = entry.key := named
        rw [key] at lands
        exact awake_wakes frontier entry rest registered queue (parked (woken.setPrecedence tier)) _
          found asleep rfl rfl (.inr ⟨.inr rfl, more⟩) (twice routing _ rfl) rfl lands rfl
    | readies routing asked told =>
        obtain ⟨tier, rfl⟩ := told
        let ready : WorkQueue := { woken.setPrecedence tier with state := .ready }
        have lands := land_ready _ ready (loose routing) rfl rfl
        have key : ready.key = entry.key := named
        rw [key] at lands
        exact awake_wakes frontier entry rest registered queue ready _
          found asleep rfl rfl (.inr ⟨.inl rfl, more⟩) (twice routing _ rfl) rfl lands rfl

end Waking

structure Awoken (before : Frontier) (woken : Snoozed) (after : Frontier) : Prop where
  registered : after.Registered
  line : before.snoozed = woken ++ after.snoozed
  due : ∀ entry ∈ woken, entry.wake ≤ before.now
  roused : ∀ entry ∈ woken, before.Roused entry.key after
  others : ∀ key, (∀ entry ∈ woken, entry.key ≠ key) → after.queue? key = before.queue? key
  stays : before.Stays after
  posted : before.ledger.Posted [] after.ledger

inductive Swept (before : Frontier) : Frontier × Option Unit → Prop where
  | whole {woken : Snoozed} {after : Frontier} (awoken : before.Awoken woken after)
      (early : ∀ entry ∈ after.snoozed.head?, before.now < entry.wake) :
      Swept before (after, some ())
  | breaks {woken rest : Snoozed} {entry : SnoozeEntry} {between after : Frontier}
      (awoken : before.Awoken woken between) (line : between.snoozed = entry :: rest)
      (due : entry.wake ≤ before.now) (relapses : between.Relapses entry rest after)
      (stays : before.Stays after) : Swept before (after, none)

theorem Awoken.nobody {frontier : Frontier} (registered : frontier.Registered) :
    frontier.Awoken [] frontier :=
  ⟨registered, rfl, by simp, by simp, fun _ _ => rfl, .refl frontier, .refl _⟩

theorem Registered.asleep_once {frontier : Frontier} (registered : frontier.Registered) :
    (frontier.snoozed.map (·.key)).Nodup := by
  refine List.nodup_iff_count.mpr fun key => ?_
  have counted : (frontier.snoozed.map (·.key)).count key =
      (frontier.standing key).snoozed.length := by
    rw [List.count, List.countP_map, List.countP_eq_length_filter]
    rfl
  have settled := registered.settled key
  unfold Settled at settled
  rw [counted]
  cases found : frontier.queue? key with
  | none =>
      rw [found] at settled
      simp [settled, Standing.nowhere]
  | some queue =>
      rw [found] at settled
      rw [(stands_counts queue _ settled).2.2.1]
      split <;> decide

theorem Awoken.cons {before between after : Frontier} {entry : SnoozeEntry} {rest woken : Snoozed}
    (registered : before.Registered) (first : before.snoozed = entry :: rest)
    (due : entry.wake ≤ before.now) (wakes : before.Wakes entry rest between)
    (stays : before.Stays between) (awoken : between.Awoken woken after) :
    before.Awoken (entry :: woken) after := by
  have now : between.now = before.now := congrArg Setting.now stays.setting
  have line : rest = woken ++ after.snoozed := wakes.snoozed.symm.trans awoken.line
  have once := registered.asleep_once
  rw [first, line, List.map_cons, List.nodup_cons] at once
  have apart : ∀ other ∈ woken, other.key ≠ entry.key := fun other listed same =>
    once.1 (List.mem_map.mpr ⟨other, List.mem_append_left _ listed, same⟩)
  refine ⟨awoken.registered, by rw [first, line, List.cons_append], fun other listed => ?_,
    fun other listed => ?_, fun key elsewhere => ?_, stays.trans awoken.stays,
    wakes.posted.trans awoken.posted⟩
  · rcases List.mem_cons.mp listed with same | later
    · exact same ▸ due
    · exact now ▸ awoken.due other later
  · rcases List.mem_cons.mp listed with same | later
    · subst same
      obtain ⟨old, new, found, woke, rest⟩ := wakes.roused
      exact ⟨old, new, found, (awoken.others other.key apart).trans woke, rest⟩
    · obtain ⟨old, new, found, rest⟩ := awoken.roused other later
      exact ⟨old, new, (wakes.others other.key (apart other later)).symm.trans found, rest⟩
  · rw [awoken.others key fun other later => elsewhere other (List.mem_cons_of_mem _ later)]
    exact wakes.others key (Ne.symm (elsewhere entry List.mem_cons_self))

theorem wake_due_sweeps (entries : Snoozed) (frontier : Frontier)
    (registered : frontier.Registered) (asleep : frontier.snoozed = entries) :
    frontier.Swept (frontier.wakeDue entries) := by
  induction entries generalizing frontier with
  | nil => exact .whole (.nobody registered) (by simp [asleep])
  | cons entry rest ih =>
      rw [wakeDue]
      by_cases due : entry.wake ≤ frontier.now
      · have woken := wake_queue_cases frontier entry rest registered asleep
        have kept := wake_queue_placed stays_dozing.toPlacing { frontier with snoozed := rest }
          entry.key
        rw [if_pos due]
        cases result : { frontier with snoozed := rest }.wakeQueue entry.key with
        | mk between answer =>
            rw [result] at woken kept
            have stays : frontier.Stays between := ⟨kept.setting, kept.claims⟩
            cases answer with
            | none =>
                exact .breaks (.nobody registered) asleep due woken
                  (stays.trans (resnooze_dozed stays_dozing between entry.key))
            | some done =>
                have now : between.now = frontier.now := congrArg Setting.now stays.setting
                have others := ih between woken.registered woken.snoozed
                simp only
                generalize between.wakeDue rest = ended at others
                cases others with
                | whole awoken early =>
                    exact .whole (awoken.cons registered asleep due woken stays) (now ▸ early)
                | breaks awoken line late relapses still =>
                    exact .breaks (awoken.cons registered asleep due woken stays) line (now ▸ late)
                      relapses (stays.trans still)
      · rw [if_neg due]
        exact .whole (.nobody registered) (by simpa [asleep] using due)

structure Broken (before : Frontier) (woken : Snoozed) (failed : SnoozeEntry) (rest : Snoozed)
    (after : Frontier) : Prop where
  registered : after.Registered
  line : before.snoozed = woken ++ failed :: rest
  due : ∀ entry ∈ woken ++ [failed], entry.wake ≤ before.now
  roused : ∀ entry ∈ woken, before.Roused entry.key after
  asleep : ∃ queue, before.queue? failed.key = some queue ∧ queue.state = .snoozed ∧
    after.queue? failed.key = some (queue.setWakeTime (some before.now))
  snoozed : after.snoozed = Snoozed.insert { wake := before.now, key := failed.key } rest
  others : ∀ key, (∀ entry ∈ woken ++ [failed], entry.key ≠ key) →
    after.queue? key = before.queue? key
  now : after.now = before.now
  gateway : after.gateway = before.gateway
  posted : before.ledger.Posted [] after.ledger

theorem Awoken.breaks {before between after : Frontier} {woken rest : Snoozed}
    {failed : SnoozeEntry} (awoken : before.Awoken woken between)
    (line : between.snoozed = failed :: rest) (due : failed.wake ≤ before.now)
    (relapses : between.Relapses failed rest after) (stays : before.Stays after) :
    before.Broken woken failed rest after := by
  have now : between.now = before.now := congrArg Setting.now awoken.stays.setting
  obtain ⟨queue, found, sleeps, again⟩ := relapses.asleep
  have apart : ∀ entry ∈ woken, entry.key ≠ failed.key := by
    intro entry listed same
    obtain ⟨old, new, _, here, _, empty, more⟩ := awoken.roused entry listed
    rw [same, found] at here
    cases here
    by_cases none : old.items = []
    · simp [empty none] at sleeps
    · rcases more none with state | state <;> simp [state] at sleeps
  refine ⟨relapses.registered, by rw [awoken.line, line], fun entry listed => ?_,
    fun entry listed => ?_, ⟨queue, ?_, sleeps, now ▸ again⟩, now ▸ relapses.snoozed,
    fun key elsewhere => ?_, congrArg Setting.now stays.setting,
    congrArg Setting.gateway stays.setting, awoken.posted.trans relapses.posted⟩
  · rcases List.mem_append.mp listed with early | last
    · exact awoken.due entry early
    · exact List.mem_singleton.mp last ▸ due
  · obtain ⟨old, new, before, here, rest⟩ := awoken.roused entry listed
    exact ⟨old, new, before, (relapses.others entry.key (apart entry listed)).trans here, rest⟩
  · rw [← awoken.others failed.key apart]
    exact found
  · rw [relapses.others key (Ne.symm (elsewhere failed (by simp)))]
    exact awoken.others key fun entry listed => elsewhere entry (List.mem_append_left _ listed)

theorem Broken.behind {before after : Frontier} {woken rest : Snoozed} {failed : SnoozeEntry}
    (broken : before.Broken woken failed rest after) (registered : before.Registered) :
    ∀ entry ∈ rest, after.queue? entry.key = before.queue? entry.key := by
  have once := registered.asleep_once
  rw [broken.line, List.append_cons, List.map_append, List.nodup_append] at once
  intro entry listed
  refine broken.others entry.key fun other early same => ?_
  exact once.2.2 other.key (List.mem_map_of_mem early) entry.key (List.mem_map_of_mem listed) same

theorem Broken.still {before between after last : Frontier} {woken rest : Snoozed}
    {failed : SnoozeEntry} (broken : between.Broken woken failed rest after)
    (cell : StateCell) (signal : Signal) (first : between = { before with
      cell := between.cell, snoozeSignal := between.snoozeSignal })
    (same : last = { after with cell, snoozeSignal := signal }) :
    before.Broken woken failed rest last := by
  obtain ⟨registered, line, due, roused, asleep, snoozed, others, now, gateway, posted⟩ := broken
  rw [first] at line due roused asleep snoozed others now gateway posted
  rw [same]
  exact ⟨⟨registered.once, registered.ascending, registered.settled⟩, line, due, roused, asleep,
    snoozed, others, now, gateway, posted⟩

theorem wake_breaks (frontier : Frontier) (registered : frontier.Registered)
    (failed : frontier.wakeQueues.2 = none) :
    ∃ woken entry rest, frontier.Broken woken entry rest frontier.wakeQueues.1 := by
  have swept := wake_due_sweeps frontier.snoozed frontier registered rfl
  rw [wakeQueues] at failed ⊢
  generalize frontier.wakeDue frontier.snoozed = result at swept failed
  cases swept with
  | whole => cases failed
  | breaks awoken line due relapses stays =>
      exact ⟨_, _, _, awoken.breaks line due relapses stays⟩

theorem management_fails (frontier : Frontier) (failed : frontier.managementStep.2 = .failed) :
    ∃ state, frontier.target = state ∧ (state = .run ∨ state = .empty) ∧
      (frontier.markReached state).wakeQueues = (frontier.managementStep.1, none) := by
  rw [managementStep] at failed ⊢
  cases target : frontier.target with
  | run =>
      rw [target] at failed
      refine ⟨.run, rfl, .inl rfl, ?_⟩
      simp only [manageRun] at failed ⊢
      by_cases empty : frontier.isEmpty = true
      · rw [if_pos empty] at failed
        cases failed
      · rw [if_neg empty] at failed ⊢
        cases woken : (frontier.markReached .run).wakeQueues with
        | mk after answer =>
            rw [woken] at failed
            cases answer with
            | none => rfl
            | some span => cases failed
  | empty =>
      rw [target] at failed
      refine ⟨.empty, rfl, .inr rfl, ?_⟩
      simp only [manageEmpty] at failed ⊢
      by_cases empty : (!frontier.isEmpty) = true
      · rw [if_pos empty] at failed
        cases failed
      · rw [if_neg empty] at failed ⊢
        cases woken : (frontier.markReached .empty).wakeQueues with
        | mk after answer =>
            rw [woken] at failed
            cases answer with
            | none => rfl
            | some span => cases failed
  | pause | hold =>
      rw [target] at failed
      cases failed
  | finish =>
      rw [target] at failed
      simp only [manageFinish] at failed
      split at failed
      · cases failed
      · split at failed <;> cases failed

end PoliteCrawl.Frontier
