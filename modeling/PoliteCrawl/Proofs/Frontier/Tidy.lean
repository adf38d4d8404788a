import PoliteCrawl.Proofs.Frontier.Requeue
import PoliteCrawl.Proofs.Frontier.Stranding

set_option autoImplicit false

namespace PoliteCrawl.Frontier

-- A key stands nowhere, and its queue is in some state. Unless that is the empty one, the key
-- drifts for ever: operations only take up keys from the registers.
def Adrift (frontier : Frontier) (key : String) (state : QueueState) : Prop :=
  frontier.standing key = .nowhere ∧
    ∃ queue, frontier.queue? key = some queue ∧ queue.state = state

-- An operation leaves the registers tidy, and takes up no key that is adrift.
structure Orderly (before after : Frontier) : Prop where
  tidy : after.Tidy
  adrift : ∀ key state, state ≠ .empty → before.Adrift key state → after.Adrift key state

-- A queue that was placed is moored. If the routing failed, nothing happened but that it was asked.
inductive Berthed (key : String) (before : Frontier) : Frontier × Option Placement → Prop where
  | moored (after : Frontier) (placement : Placement)
      (moors : Moors key before (after.place key placement)) :
      Berthed key before (after, some placement)
  | failed (routing : Routing) : Berthed key before ({ before with routing }, none)

section Orderly

variable {key : String} {first second third : Frontier}

theorem Orderly.refl (tidy : first.Tidy) : first.Orderly first :=
  ⟨tidy, fun _ _ _ adrift => adrift⟩

theorem Orderly.trans (one : first.Orderly second) (two : second.Orderly third) :
    first.Orderly third :=
  ⟨two.tidy, fun key state some adrift =>
    two.adrift key state some (one.adrift key state some adrift)⟩

theorem Tidy.still (tidy : first.Tidy) (queues : second.queues = first.queues)
    (ascending : Filed.Ascending first.tiers.filed → Filed.Ascending second.tiers.filed)
    (standing : ∀ key, second.standing key = first.standing key) : first.Orderly second := by
  have queue (key : String) : second.queue? key = first.queue? key :=
    queues_queue first second key queues
  refine ⟨⟨?_, ascending tidy.ascending, fun key => ?_⟩, fun key state _ adrift => ?_⟩
  · rw [keys, queues]
    exact tidy.once
  · have neat := tidy.neat key
    unfold Settled Strays at neat ⊢
    rwa [queue, standing]
  · unfold Adrift at adrift ⊢
    rwa [queue, standing]

theorem Orderly.still (kept : first.Orderly second) (queues : third.queues = second.queues)
    (ascending : Filed.Ascending second.tiers.filed → Filed.Ascending third.tiers.filed)
    (standing : ∀ key, third.standing key = second.standing key) : first.Orderly third :=
  kept.trans (kept.tidy.still queues ascending standing)

theorem SameElsewhere.adrift {other : String} {state : QueueState}
    (same : SameElsewhere key first second) (different : other ≠ key)
    (adrift : first.Adrift other state) : second.Adrift other state := by
  unfold Adrift at adrift ⊢
  rwa [same.queue other different, same.standing other different]

theorem Shift.tidies (shift : Shift key first second) (tidy : first.Tidy)
    (neat : second.Settled key ∨ second.Strays key) : second.Tidy := by
  refine ⟨shift.once tidy.once, shift.ascending tidy.ascending, fun other => ?_⟩
  by_cases here : other = key
  · exact here ▸ neat
  · have before := tidy.neat other
    unfold Settled Strays at before ⊢
    rwa [shift.same.queue other here, shift.same.standing other here]

theorem Shift.orderly (shift : Shift key first second) (tidy : first.Tidy)
    (drifts : ∀ state, state ≠ .empty → first.Adrift key state → second.Adrift key state)
    (neat : second.Settled key ∨ second.Strays key) : first.Orderly second := by
  refine ⟨shift.tidies tidy neat, fun other state some adrift => ?_⟩
  by_cases here : other = key
  · subst here
    exact drifts state some adrift
  · exact shift.same.adrift here adrift

theorem Shift.moves (shift : Shift key first second) (tidy : first.Tidy)
    (stood : first.standing key ≠ .nowhere) (neat : second.Settled key ∨ second.Strays key) :
    first.Orderly second :=
  shift.orderly tidy (fun _ _ adrift => absurd adrift.1 stood) neat

end Orderly

section Tidy

variable {frontier : Frontier} (tidy : frontier.Tidy)

include tidy

theorem Tidy.store (old new : WorkQueue) (found : frontier.queue? new.key = some old)
    (state : new.state = old.state) (wake : new.wakeTime = old.wakeTime)
    (empty : new.state = .empty → new.items = [])
    (process : new.state = .inProcess → new.items ≠ []) :
    frontier.Orderly (frontier.store new) := by
  have named := queue_key frontier new.key old found
  have stored := store_same frontier new old found
  refine (store_shift frontier new).orderly tidy (fun kind _ adrift => ?_) ?_
  · obtain ⟨nowhere, queue, present, same⟩ := adrift
    cases found.symm.trans present
    exact ⟨nowhere, new, stored, state.trans same⟩
  · rcases tidy.neat new.key with settled | ⟨nowhere, queue, present, awake, idle⟩
    · simp only [Settled, found] at settled
      simp only [Settled, stored]
      exact .inl (stands_kept old new _ named.symm state wake empty process settled)
    · cases found.symm.trans present
      exact .inr ⟨nowhere, new, stored, wake.trans awake, state ▸ idle⟩

theorem Tidy.idle {key : String} {queue : WorkQueue} (found : frontier.queue? key = some queue)
    (empty : queue.state = .empty) :
    frontier.standing key = .nowhere ∧ queue.wakeTime = none := by
  rcases tidy.neat key with settled | ⟨nowhere, other, present, awake, _⟩
  · simp only [Settled, found, WorkQueue.StandsAt, empty] at settled
    exact ⟨settled.1, settled.2.2⟩
  · cases found.symm.trans present
    exact ⟨nowhere, awake⟩

theorem Tidy.unknown {key : String} (missing : frontier.queue? key = none) :
    frontier.standing key = .nowhere := by
  rcases tidy.neat key with settled | ⟨nowhere, _⟩
  · simpa only [Settled, missing] using settled
  · exact nowhere

end Tidy

theorem add_shift (frontier : Frontier) (key : String) (tier : Nat)
    (missing : frontier.queue? key = none) :
    Shift key frontier (frontier.addQueue (WorkQueue.new key tier)) := by
  have fresh := (queue_missing frontier key).mp missing
  refine ⟨fun once => ?_, id, fun other different => ?_, fun _ _ => rfl⟩
  · simpa [keys, addQueue, WorkQueue.new, List.nodup_append] using
      ⟨once, fun other member same => fresh (same ▸ List.mem_map_of_mem member)⟩
  · simp [add_queue, WorkQueue.new, different]

section Moors

variable (frontier : Frontier) (queue : WorkQueue) {old : WorkQueue} (found : frontier.queue? queue.key = some old)
  (nowhere : frontier.standing queue.key = .nowhere)

include found nowhere

theorem exhausted_moors (allowed : queue.state.allows .empty = true) (none : queue.items = [])
    (awake : queue.wakeTime = .none) : Moors queue.key frontier (frontier.markExhausted queue) := by
  simp only [markExhausted, queue.noteExhausted.transition_allowed .empty allowed]
  exact empty_moors frontier { queue.noteExhausted with state := .empty } found nowhere rfl none awake

theorem retire_moors (allowed : queue.state.allows .retired = true)
    (awake : queue.wakeTime = none) : Moors queue.key frontier (frontier.retire queue) := by
  simp only [retire, queue.transition_allowed .retired allowed]
  exact retired_moors frontier (WorkQueue.deactivate { queue with state := .retired }) found nowhere
    rfl awake

theorem rest_moors (pause : Time.Span) (allowed : queue.state.allows .snoozed = true) :
    Moors queue.key frontier (frontier.rest queue pause) := by
  simp only [rest, queue.transition_allowed .snoozed allowed]
  exact snoozed_moors frontier
    (WorkQueue.setWakeTime { queue with state := .snoozed } (some (frontier.now + pause))) found
    nowhere _ rfl rfl

theorem parked_moors (tier : Nat) (awake : queue.wakeTime = none) :
    Moors queue.key frontier ((frontier.store (parked queue)).file queue.key tier) :=
  inactive_moors frontier (parked queue) found nowhere tier rfl awake

theorem Requeued.berthed {result : Frontier × Option Placement}
    (requeued : Requeued frontier queue result) (awake : queue.wakeTime = none) :
    Berthed queue.key frontier result := by
  have routed (routing : Routing) : Shift queue.key frontier { frontier with routing } :=
    .still rfl id fun _ => rfl
  cases requeued with
  | fails routing => exact .failed routing
  | parks routing asked told =>
      obtain ⟨tier, same⟩ := told
      subst same
      exact .moored _ _ ((routed routing).settles
        (parked_moors { frontier with routing } (queue.setPrecedence tier) found nowhere _ awake))
  | readies routing asked told =>
      obtain ⟨tier, same⟩ := told
      subst same
      exact .moored _ _ ((routed routing).settles (ready_moors { frontier with routing }
        { queue.setPrecedence tier with state := .ready } found nowhere rfl awake))

theorem settle_berthed (pause : Time.Span) (process : queue.state = .inProcess)
    (awake : queue.wakeTime = none) :
    Berthed queue.key frontier (frontier.settle queue pause) := by
  have allowed (state : QueueState) (moves : QueueState.inProcess.allows state = true) :
      queue.state.allows state = true := by
    rw [process]
    exact moves
  by_cases spent : queue.isOverTotal = true
  · rw [settle, if_pos spent]
    exact .moored _ .stay (retire_moors frontier queue found nowhere (allowed .retired rfl) awake)
  · by_cases owed : pause ≠ 0
    · rw [settle, if_neg spent, if_pos owed]
      exact .moored _ .stay (rest_moors frontier queue found nowhere pause (allowed .snoozed rfl))
    · by_cases dry : queue.isEmpty = true
      · rw [settle, if_neg spent, if_neg owed, if_pos dry]
        exact .moored _ .stay (exhausted_moors frontier queue found nowhere (allowed .empty rfl)
          (List.isEmpty_iff.mp dry) awake)
      · rw [settle, if_neg spent, if_neg owed, if_neg dry]
        exact (reenqueue_cases frontier queue ⟨allowed .ready rfl, allowed .inactive rfl⟩).berthed
          frontier queue found nowhere awake

end Moors

theorem Ensured.idle {frontier base : Frontier} {key : String} {queue : WorkQueue}
    (ensured : Ensured frontier key (base, some queue)) (tidy : frontier.Tidy)
    (empty : queue.state = .empty) :
    Shift key frontier base ∧ base.standing key = .nowhere ∧ queue.wakeTime = none ∧
      ∀ state, state ≠ .empty → ¬ frontier.Adrift key state := by
  cases ensured with
  | known _ found =>
      obtain ⟨nowhere, awake⟩ := tidy.idle found empty
      refine ⟨.still rfl id fun _ => rfl, nowhere, awake, fun state some adrift => ?_⟩
      obtain ⟨_, other, present, same⟩ := adrift
      cases found.symm.trans present
      exact some (same.symm.trans empty)
  | adds routing tier missing =>
      have routed : Shift key frontier { frontier with routing } := .still rfl id fun _ => rfl
      refine ⟨routed.trans (add_shift { frontier with routing } key tier missing),
        tidy.unknown missing, rfl, fun state _ adrift => ?_⟩
      obtain ⟨_, other, present, _⟩ := adrift
      cases missing.symm.trans present

structure Joined (frontier : Frontier) (uri : CrawlUri) (queue : WorkQueue) (after : Frontier) :
    Prop where
  shift : Shift uri.siteKey frontier after
  key : queue.key = uri.siteKey
  stored : after.queue? uri.siteKey = some queue
  nowhere : after.standing uri.siteKey = .nowhere
  awake : queue.wakeTime = none
  moored : ∀ state, state ≠ .empty → ¬ frontier.Adrift uri.siteKey state

theorem Ensured.joins {frontier base : Frontier} {uri : CrawlUri} {queue : WorkQueue}
    (ensured : Ensured frontier uri.siteKey (base, some queue)) (tidy : frontier.Tidy)
    (empty : queue.state = .empty) :
    Joined frontier uri (queue.enqueue uri) (base.store (queue.enqueue uri)).countQueued := by
  obtain ⟨arrives, nowhere, awake, moored⟩ := ensured.idle tidy empty
  have found := ensured.stored
  have key : (queue.enqueue uri).key = uri.siteKey :=
    (queue.enqueue_key uri).trans (queue_key base uri.siteKey queue found)
  rw [← key] at found arrives
  refine ⟨?_, key, key ▸ store_same base _ queue found, nowhere,
    (queue.enqueue_wake uri).trans awake, moored⟩
  exact key ▸ (arrives.trans (store_shift base _)).trans (.still rfl id fun _ => rfl)

theorem send_orderly (frontier : Frontier) (uri : CrawlUri)
    (tidy : frontier.Tidy) : frontier.Orderly (frontier.send uri).1 := by
  have sent := send_cases frontier uri
  generalize frontier.send uri = result at sent
  cases sent with
  | lost routing missing => exact tidy.still rfl id fun _ => rfl
  | joins queue found busy =>
      have key := (queue.enqueue_key uri).trans (queue_key frontier uri.siteKey queue found)
      have state := queue.enqueue_state uri
      have stored : frontier.Orderly (frontier.store (queue.enqueue uri)) :=
        tidy.store queue (queue.enqueue uri) (key.symm ▸ found) state (queue.enqueue_wake uri)
          (fun empty => absurd (state.symm.trans empty) busy) (fun _ => by simp)
      exact stored.still rfl id fun _ => rfl
  | places ensured empty requeued =>
      have joined := ensured.joins tidy empty
      have berthed := requeued.berthed _ _ (joined.key.symm ▸ joined.stored)
        (joined.key.symm ▸ joined.nowhere) joined.awake
      rw [joined.key] at berthed
      cases berthed with
      | moored _ _ moors =>
          have settles := joined.shift.settles moors
          exact settles.orderly tidy
            (fun state some adrift => absurd adrift (joined.moored state some))
            (.inl settles.settled)
  | @sticks base queue routing ensured empty =>
      have joined := ensured.joins tidy empty
      have routed : Shift uri.siteKey frontier
          { (base.store (queue.enqueue uri)).countQueued with routing } :=
        joined.shift.trans (.still rfl id fun _ => rfl)
      exact routed.orderly tidy
        (fun state some adrift => absurd adrift (joined.moored state some))
        (.inr ⟨joined.nowhere, _, joined.stored, joined.awake, by simp [empty], by simp [empty]⟩)

theorem receive_all_orderly (uris : List CrawlUri) (frontier : Frontier)
    (tidy : frontier.Tidy) : frontier.Orderly (frontier.receiveAll uris).1 := by
  induction uris generalizing frontier with
  | nil => exact .refl tidy
  | cons uri rest ih =>
      have sent : frontier.Orderly (frontier.schedule uri).1 := send_orderly frontier _ tidy
      rw [receiveAll]
      cases result : frontier.schedule uri with
      | mk after answer =>
          rw [result] at sent
          cases answer with
          | none => exact sent
          | some _ => exact sent.trans (ih after sent.tidy)

theorem complete_orderly (frontier : Frontier) (uri : CrawlUri)
    (outcome : Outcome) (tidy : frontier.Tidy) :
    frontier.Orderly (frontier.complete uri outcome).1 := by
  rcases complete_reported frontier uri outcome with ⟨cause, refused⟩ | ⟨queue, head, rest, reported⟩
  · rw [refused]
    exact .refl tidy
  · obtain ⟨other, present, named, process, here, _, awake⟩ := tidy.claimed reported.claimed
    cases reported.found.symm.trans present
    let left := frontier.billed queue head outcome
    let base := frontier.givenUp left (frontier.billedStats queue head outcome)
    have key : left.key = uri.siteKey := (frontier.billed_key queue head outcome).trans named
    obtain ⟨_, state, wake⟩ := frontier.billed_shape queue head rest outcome reported.line
    have stood : frontier.standing left.key ≠ .nowhere := by
      rw [key, here]
      simp [Standing.nowhere]
    have taken := take_claim frontier left.key tidy (key.symm ▸ reported.claimed)
    have released : Shift left.key frontier (frontier.release left.key) := ⟨id, id, taken.same⟩
    have given : Shift left.key frontier base :=
      (released.trans (store_shift (frontier.release left.key) left)).trans
        (.still rfl id fun _ => rfl)
    have stored : base.queue? left.key = some left :=
      store_same (frontier.release left.key) left queue (key.symm ▸ reported.found)
    have berthed := settle_berthed base left stored taken.nowhere
      (frontier.pauseAfter head outcome) (state.trans process) (wake.trans awake)
    rw [complete_shape frontier uri head rest outcome queue reported, ← key]
    generalize base.settle left (frontier.pauseAfter head outcome) = result at berthed ⊢
    cases berthed with
    | failed routing =>
        have routed : Shift left.key frontier { base with routing } :=
          given.trans (.still rfl id fun _ => rfl)
        have still : left.state = .inProcess := state.trans process
        exact routed.moves tidy stood
          (.inr ⟨taken.nowhere, left, stored, wake.trans awake, by simp [still], by simp [still]⟩)
    | moored after placement moors =>
        have settles := given.settles moors
        have placed : frontier.Orderly (after.place left.key placement) :=
          settles.moves tidy stood (.inl settles.settled)
        obtain ⟨gateway, signal, same⟩ := report_drained (after.place left.key placement)
          (frontier.grantsRetry head outcome) head outcome
        simp only [same]
        exact placed.still rfl id fun _ => rfl

def Slept {α : Type} (key : String) : Frontier × Option α → Frontier
  | (after, some _) => after
  | (after, none) => after.resnooze key

theorem wake_queue_orderly (frontier : Frontier) (entry : SnoozeEntry)
    (rest : Snoozed) (tidy : frontier.Tidy) (first : frontier.snoozed = entry :: rest) :
    frontier.Orderly
      (Slept entry.key ({ frontier with snoozed := rest }.wakeQueue entry.key)) := by
  have listed : entry ∈ frontier.snoozed := by simp [first]
  obtain ⟨queue, found, named, asleep, here, _⟩ := tidy.snoozed listed
  let base := { frontier with snoozed := rest }
  let woken := queue.setWakeTime none
  have key : woken.key = entry.key := named
  have taken := take_snoozed frontier entry rest tidy first
  have stood : frontier.standing woken.key ≠ .nowhere := by
    rw [key, here]
    simp [Standing.nowhere]
  have nowhere : base.standing woken.key = .nowhere := key.symm ▸ taken.nowhere
  have popped : Shift woken.key frontier base := ⟨id, id, key.symm ▸ taken.same⟩
  have roused : Shift woken.key frontier (base.store woken) := popped.trans (store_shift base woken)
  have stored : (base.store woken).queue? woken.key = some woken :=
    store_same base woken queue (key.symm ▸ found)
  have present : base.queue? entry.key = some queue := found
  have state : woken.state = .snoozed := asleep
  change frontier.Orderly (Slept entry.key (base.wakeQueue entry.key))
  rw [wakeQueue, present, ← key]
  simp only [if_pos asleep]
  by_cases dry : woken.isEmpty = true
  · have exhausted := exhausted_moors (base.store woken) woken stored nowhere
      (by simp [state, QueueState.allows]) (List.isEmpty_iff.mp dry) rfl
    rw [if_pos dry]
    exact (roused.settles exhausted).moves tidy stood (.inl exhausted.settled)
  · have requeued := reenqueue_cases (base.store woken) woken (by simp [state, QueueState.allows])
    have berthed := requeued.berthed (base.store woken) woken stored nowhere rfl
    rw [if_neg dry]
    generalize (base.store woken).reenqueue woken = result at berthed ⊢
    cases berthed with
    | moored after placement moors =>
        exact (roused.settles moors).moves tidy stood (.inl moors.settled)
    | failed routing =>
        let left := { base.store woken with routing }
        have again : left.resnooze woken.key =
            (left.store (woken.setWakeTime (some left.now))).snooze woken.key left.now := by
          have same : left.queue? woken.key = some woken := stored
          rw [resnooze, same]
          exact if_pos state
        have moors := snoozed_moors left (woken.setWakeTime (some left.now)) stored nowhere left.now
          asleep rfl
        have routed : Shift woken.key frontier left := roused.trans (.still rfl id fun _ => rfl)
        change frontier.Orderly (left.resnooze woken.key)
        rw [again]
        exact (routed.settles moors).moves tidy stood (.inl moors.settled)

theorem wake_due_orderly (entries : Snoozed) (frontier : Frontier)
    (tidy : frontier.Tidy) (whole : frontier.snoozed = entries) :
    frontier.Orderly (frontier.wakeDue entries).1 := by
  induction entries generalizing frontier with
  | nil => exact .refl tidy
  | cons entry rest ih =>
      rw [wakeDue]
      by_cases due : entry.wake ≤ frontier.now
      · have woken : frontier.Orderly _ := wake_queue_orderly frontier entry rest tidy whole
        have others := wake_queue_placed snoozed_placing { frontier with snoozed := rest } entry.key
        rw [if_pos due]
        cases result : { frontier with snoozed := rest }.wakeQueue entry.key with
        | mk after answer =>
            rw [result] at woken others
            cases answer with
            | none => exact woken
            | some _ => exact woken.trans (ih after woken.tidy others)
      · rw [if_neg due]
        exact .refl tidy

theorem orderly_permits :
    Permits fun before after => before.Tidy → before.Orderly after where
  refl _ tidy := .refl tidy
  trans _ _ _ one two tidy := (one tidy).trans (two (one tidy).tidy)
  mark _ _ _ tidy := tidy.still rfl id fun _ => rfl
  retarget _ _ _ _ _ tidy := tidy.still rfl id fun _ => rfl
  notify _ tidy := tidy.still rfl id fun _ => rfl
  call _ tidy := tidy.still rfl id fun _ => rfl
  snooze _ _ tidy := tidy.still rfl id fun _ => rfl
  close _ _ _ _ tidy := tidy.still rfl id fun _ => rfl
  wake frontier tidy := by
    have woken : frontier.Orderly _ := wake_due_orderly frontier.snoozed frontier tidy rfl
    rw [wakeQueues]
    cases result : frontier.wakeDue frontier.snoozed with
    | mk after answer =>
        rw [result] at woken
        cases answer <;> exact woken

def Considered (key : String) : Frontier × Claim → Frontier
  | (after, .parked tier) => after.place key (.inactive tier)
  | (after, _) => after

theorem Claiming.moors {frontier : Frontier} {queue : WorkQueue} {result : Frontier × Claim}
    (claiming : Claiming frontier queue result) (found : frontier.queue? queue.key = some queue)
    (nowhere : frontier.standing queue.key = .nowhere) (ready : queue.state = .ready)
    (awake : queue.wakeTime = none) : Moors queue.key frontier (Considered queue.key result) := by
  obtain ⟨key, items, state, rested⟩ := frontier.opened_shape queue
  have present : frontier.queue? (frontier.opened queue).key = some queue := key.symm ▸ found
  have loose : frontier.standing (frontier.opened queue).key = .nowhere := key.symm ▸ nowhere
  cases claiming with
  | dry none =>
      exact exhausted_moors frontier queue found nowhere (by simp [ready, QueueState.allows]) none
        awake
  | parks some => exact key ▸ parked_moors frontier (frontier.opened queue) present loose _ rested
  | retires some =>
      have stored := store_same frontier (frontier.opened queue) queue present
      have retired := retire_moors (frontier.store (frontier.opened queue))
        (frontier.opened queue) stored loose (by simp [state, QueueState.allows]) rested
      exact key ▸ (store_shift frontier (frontier.opened queue)).settles retired
  | claimed some =>
      exact key ▸ held_moors frontier (frontier.opened queue) present loose state
        (items.symm ▸ some) rested

theorem drop_orderly (frontier : Frontier) (queue : WorkQueue)
    (head : CrawlUri) (rest : List CrawlUri) (tidy : frontier.Tidy)
    (found : frontier.queue? queue.key = some queue) (listed : queue.key ∈ frontier.claims)
    (line : queue.items = head :: rest) :
    frontier.Orderly (frontier.dropped queue head) := by
  obtain ⟨other, present, _, process, here, _, awake⟩ := tidy.claimed listed
  cases found.symm.trans present
  let shorter : WorkQueue := { queue with items := rest }
  have counted (after : Frontier) (kept : frontier.Orderly after) :
      frontier.Orderly after.countReclassified.discountQueued :=
    kept.still rfl id fun _ => rfl
  by_cases last : rest = []
  · subst last
    have taken := take_claim frontier queue.key tidy listed
    have released : Shift queue.key frontier (frontier.release queue.key) := ⟨id, id, taken.same⟩
    have stored : ((frontier.release queue.key).store shorter).queue? queue.key = some shorter :=
      store_same (frontier.release queue.key) shorter queue found
    have exhausted := exhausted_moors ((frontier.release queue.key).store shorter) shorter stored
      taken.nowhere (by simp [shorter, process, QueueState.allows]) rfl awake
    rw [dropped_last frontier queue head line]
    exact counted _ <| ((released.trans (store_shift _ shorter)).settles exhausted).moves tidy
      (by rw [here]; simp [Standing.nowhere]) (.inl exhausted.settled)
  · rw [dropped_more frontier queue head rest line last]
    exact counted _ <| tidy.store queue shorter found rfl rfl
      (fun empty => by simp [shorter, process] at empty) (fun _ => last)

theorem dropped_claimed (frontier : Frontier) (queue : WorkQueue) (head : CrawlUri)
    (rest : List CrawlUri) (found : frontier.queue? queue.key = some queue)
    (listed : queue.key ∈ frontier.claims) (line : queue.items = head :: rest) (more : rest ≠ []) :
    (frontier.dropped queue head).queue? queue.key = some { queue with items := rest } ∧
      queue.key ∈ (frontier.dropped queue head).claims := by
  rw [dropped_more frontier queue head rest line more]
  exact ⟨store_same frontier { queue with items := rest } queue found, listed⟩

theorem resolve_orderly (items : List CrawlUri) (frontier : Frontier)
    (queue : WorkQueue) (tidy : frontier.Tidy)
    (found : frontier.queue? queue.key = some queue) (listed : queue.key ∈ frontier.claims)
    (line : queue.items = items) (some : items ≠ []) :
    frontier.Orderly (frontier.resolve queue.key items).1 := by
  induction items generalizing frontier queue with
  | nil => exact absurd rfl some
  | cons head rest ih =>
      by_cases home : frontier.routing.siteKey head.url = queue.key
      · have recorded : frontier.Orderly
            (frontier.store (queue.recordDispatch frontier.moment)) := by
          apply tidy.store queue (queue.recordDispatch frontier.moment) found rfl rfl
          · intro empty
            obtain ⟨_, present, _, process, _⟩ := tidy.claimed listed
            cases found.symm.trans present
            cases process.symm.trans empty
          · intro _
            simp [WorkQueue.recordDispatch, line]
        rw [resolve_home frontier queue head rest found home]
        exact recorded.still rfl id fun _ => rfl
      · have dropped : frontier.Orderly (frontier.dropped queue head) :=
          drop_orderly frontier queue head rest tidy found listed line
        have sent : (frontier.dropped queue head).Orderly
            ((frontier.dropped queue head).send (frontier.relocated head)).1 :=
          send_orderly _ (frontier.relocated head) dropped.tidy
        have kept := send_beside (frontier.dropped queue head) (frontier.relocated head) queue.key
          (Ne.symm home)
        have claims := (send_placed stays_dozing.toPlacing (frontier.dropped queue head)
          (frontier.relocated head)).claims
        rw [resolve_away frontier queue head rest found home]
        cases result : (frontier.dropped queue head).send (frontier.relocated head) with
        | mk after answer =>
            rw [result] at sent kept claims
            cases answer with
            | none => exact dropped.trans sent
            | some _ =>
                by_cases last : rest = []
                · simp only [last, List.isEmpty_nil, if_true]
                  exact dropped.trans sent
                · obtain ⟨present, still⟩ :=
                    dropped_claimed frontier queue head rest found listed line last
                  simp only [List.isEmpty_iff, if_neg last]
                  exact (dropped.trans sent).trans
                    (ih after { queue with items := rest } sent.tidy (kept.trans present)
                      (claims ▸ still) rfl last)

theorem dispatch_orderly (frontier : Frontier) (key : String)
    (rest : List String) (tidy : frontier.Tidy) (first : frontier.ready = key :: rest) :
    frontier.Orderly ({ frontier with ready := rest }.dispatchFrom key).1 := by
  have listed : key ∈ frontier.ready := by simp [first]
  obtain ⟨queue, found, named, ready, here, awake⟩ := tidy.ready listed
  obtain ⟨same, nowhere⟩ := take_ready frontier key rest tidy first
  subst named
  let base := { frontier with ready := rest }
  have present : base.queue? queue.key = some queue := found
  have free : queue.key ∉ base.claims := by
    have counted := congrArg Standing.claimed nowhere
    simpa [standing, Standing.nowhere, List.count_eq_zero] using counted
  have popped : Shift queue.key frontier base := ⟨id, id, same⟩
  have claiming := claim_cases base queue ready free
  have moors := popped.settles (claiming.moors present nowhere ready awake)
  have considered : frontier.Orderly (Considered queue.key (base.claim queue)) :=
    moors.moves tidy (by rw [here]; simp [Standing.nowhere]) (.inl moors.settled)
  change frontier.Orderly (base.dispatchFrom queue.key).1
  simp only [dispatchFrom, present]
  cases result : base.claim queue with
  | mk after ended =>
      rw [result] at considered claiming
      cases ended with
      | skipped => exact considered
      | parked tier => exact considered
      | claimed =>
          cases claiming with
          | claimed some =>
              obtain ⟨key, items, _, _⟩ := base.opened_shape queue
              have stored := store_same base (base.opened queue) queue (key.symm ▸ present)
              let held := (base.store (base.opened queue)).hold (base.opened queue).key
              have resolved : held.Orderly _ :=
                resolve_orderly queue.items held (base.opened queue) considered.tidy stored
                  (by simp [held, hold]) items some
              rw [key] at resolved
              exact considered.trans resolved

end PoliteCrawl.Frontier
