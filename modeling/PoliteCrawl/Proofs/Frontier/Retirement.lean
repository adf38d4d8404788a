import PoliteCrawl.Proofs.Frontier.Activation
import PoliteCrawl.Proofs.Frontier.Call
import PoliteCrawl.Proofs.Frontier.Requeue
import PoliteCrawl.Proofs.Frontier.Stranding
import PoliteCrawl.Proofs.Frontier.Supervision

set_option autoImplicit false

namespace PoliteCrawl

namespace WorkQueue

def joinAll (queue : WorkQueue) (uris : List CrawlUri) : WorkQueue :=
  uris.foldl enqueue queue

theorem join_all_state (queue : WorkQueue) (uris : List CrawlUri) :
    (queue.joinAll uris).state = queue.state := by
  induction uris generalizing queue with
  | nil => rfl
  | cons uri rest ih => exact (ih (queue.enqueue uri)).trans (queue.enqueue_state uri)

theorem join_all_items (queue : WorkQueue) (uris : List CrawlUri) :
    (queue.joinAll uris).items = queue.items ++ uris := by
  induction uris generalizing queue with
  | nil => exact (List.append_nil queue.items).symm
  | cons uri rest ih =>
      refine (ih (queue.enqueue uri)).trans ?_
      rw [queue.enqueue_items uri, List.append_assoc]
      rfl

end WorkQueue

namespace Frontier

def Spares (key : String) (before after : Frontier) : Prop :=
  ∀ queue, before.queue? key = some queue → queue.state = .retired →
    ∃ uris, after.queue? key = some (queue.joinAll uris)

section Spares

variable {key other : String} {before after : Frontier}

theorem Spares.same (queue : after.queue? key = before.queue? key) : Spares key before after :=
  fun _ found _ => ⟨[], queue.trans found⟩

theorem Spares.still (queues : after.queues = before.queues) : Spares key before after :=
  .same (queues_queue before after key queues)

theorem Spares.trans {first second third : Frontier} (one : Spares key first second)
    (two : Spares key second third) : Spares key first third := by
  intro queue found retired
  obtain ⟨early, between⟩ := one queue found retired
  obtain ⟨late, last⟩ := two _ between ((queue.join_all_state early).trans retired)
  refine ⟨early ++ late, last.trans ?_⟩
  rw [WorkQueue.joinAll, WorkQueue.joinAll, WorkQueue.joinAll, List.foldl_append]

theorem Beside.elsewhere (beside : Beside other before after) (different : key ≠ other) :
    Spares key before after :=
  .same (beside key different)

theorem Beside.spares (beside : Beside other before after)
    (active : ∀ queue, before.queue? other = some queue → queue.state ≠ .retired) :
    Spares key before after := by
  by_cases here : key = other
  · subst here
    exact fun queue found retired => absurd retired (active queue found)
  · exact beside.elsewhere here

end Spares

theorem place_beside (frontier : Frontier) (key other : String) (placement : Placement) :
    Beside key frontier (frontier.place other placement) :=
  .same (place_queues frontier other placement)

theorem exhausted_beside (frontier : Frontier) (queue : WorkQueue) :
    Beside queue.key frontier (frontier.markExhausted queue) := by
  by_cases allowed : queue.noteExhausted.state.allows .empty = true
  · simp only [markExhausted, queue.noteExhausted.transition_allowed .empty allowed]
    exact store_beside frontier { queue.noteExhausted with state := .empty }
  · simp only [markExhausted, WorkQueue.transition, if_neg allowed]
    exact store_beside frontier queue.noteExhausted

theorem retire_beside (frontier : Frontier) (queue : WorkQueue) :
    Beside queue.key frontier (frontier.retire queue) := by
  by_cases allowed : queue.state.allows .retired = true
  · simp only [retire, queue.transition_allowed .retired allowed]
    exact (store_beside frontier (WorkQueue.deactivate { queue with state := .retired })).trans
      (.same rfl)
  · simp only [retire, WorkQueue.transition, if_neg allowed]
    exact .same rfl

theorem rest_beside (frontier : Frontier) (queue : WorkQueue) (pause : Time.Span) :
    Beside queue.key frontier (frontier.rest queue pause) := by
  by_cases allowed : queue.state.allows .snoozed = true
  · simp only [rest, queue.transition_allowed .snoozed allowed]
    exact (store_beside frontier (WorkQueue.setWakeTime { queue with state := .snoozed }
      (some (frontier.now + pause)))).trans (.same rfl)
  · simp only [rest, WorkQueue.transition, if_neg allowed]
    exact .same rfl

theorem settle_beside (frontier : Frontier) (queue : WorkQueue) (pause : Time.Span) :
    Beside queue.key frontier (frontier.settle queue pause).1 := by
  rw [settle]
  split
  · exact retire_beside frontier queue
  · split
    · exact rest_beside frontier queue pause
    · split
      · exact exhausted_beside frontier queue
      · exact reenqueue_beside frontier queue

theorem wake_queue_beside (frontier : Frontier) (key : String) :
    Beside key frontier (frontier.wakeQueue key).1 := by
  rw [wakeQueue]
  cases found : frontier.queue? key with
  | none => exact .same rfl
  | some queue =>
      obtain rfl := queue_key frontier key queue found
      let woken := queue.setWakeTime none
      have stored : Beside queue.key frontier (frontier.store woken) := store_beside frontier woken
      have exhausted : Beside queue.key (frontier.store woken) _ :=
        exhausted_beside (frontier.store woken) woken
      have again : Beside queue.key (frontier.store woken) _ :=
        reenqueue_beside (frontier.store woken) woken
      simp only
      split
      · split
        · exact stored.trans exhausted
        · cases result : (frontier.store woken).reenqueue woken with
          | mk after answer =>
              rw [result] at again
              cases answer with
              | none => exact stored.trans again
              | some placement => exact (stored.trans again).trans (place_beside after _ _ placement)
      · exact .same rfl

theorem apply_budgets_beside (frontier : Frontier) (queue : WorkQueue) :
    Beside queue.key frontier (frontier.applyBudgets queue).1 := by
  obtain ⟨opened, whole⟩ : ∃ opened, opened = openSession frontier.budgets queue := ⟨_, rfl⟩
  have named : opened.key = queue.key := by
    rw [whole]
    exact opened_key frontier.budgets queue
  rw [← named]
  have stored := store_beside frontier opened
  have released : Beside opened.key frontier ((frontier.store opened).release opened.key) :=
    stored.trans (.same rfl)
  simp only [applyBudgets, ← whole]
  split
  · have parked := deactivate_beside ((frontier.store opened).release opened.key) opened
      opened.precedence
    split <;> rename_i result <;> rw [result] at parked <;> exact released.trans parked
  · split
    · exact released.trans (retire_beside _ opened)
    · exact stored

theorem claim_beside (frontier : Frontier) (queue : WorkQueue) :
    Beside queue.key frontier (frontier.claim queue).1 := by
  rw [claim]
  split
  · exact .same rfl
  · split
    · exact exhausted_beside frontier queue
    · split
      · exact .same rfl
      · by_cases allowed : queue.state.allows .inProcess = true
        · let held : WorkQueue := { queue with state := .inProcess }
          have stored : Beside queue.key frontier
              ({ frontier with claims := queue.key :: frontier.claims }.store held) :=
            store_beside { frontier with claims := queue.key :: frontier.claims } held
          simp only [queue.transition_allowed .inProcess allowed]
          exact stored.trans (apply_budgets_beside _ held)
        · simp only [WorkQueue.transition, if_neg allowed]
          exact .same rfl

theorem complete_beside (frontier : Frontier) (uri : CrawlUri) (outcome : Outcome) :
    Beside uri.siteKey frontier (frontier.complete uri outcome).1 := by
  rcases complete_reported frontier uri outcome with ⟨cause, refused⟩ | ⟨queue, head, rest, reported⟩
  · rw [refused]
    exact .same rfl
  · let left := frontier.billed queue head outcome
    let base := frontier.givenUp left (frontier.billedStats queue head outcome)
    have key : left.key = uri.siteKey := (frontier.billed_key queue head outcome).trans
      (queue_key frontier uri.siteKey queue reported.found)
    have given : Beside uri.siteKey frontier base :=
      key ▸ (store_beside (frontier.release left.key) left).trans (.same rfl)
    have settled : Beside uri.siteKey base (base.settle left (frontier.pauseAfter head outcome)).1 :=
      key ▸ settle_beside base left (frontier.pauseAfter head outcome)
    rw [complete_shape frontier uri head rest outcome queue reported]
    cases result : base.settle left (frontier.pauseAfter head outcome) with
    | mk after answer =>
        rw [result] at settled
        cases answer with
        | none => exact given.trans settled
        | some placement =>
            obtain ⟨gateway, signal, same⟩ := report_drained (after.place uri.siteKey placement)
              (frontier.grantsRetry head outcome) head outcome
            simp only [same]
            exact (given.trans settled).trans (.same (place_queues after uri.siteKey placement))

theorem send_spares (frontier : Frontier) (uri : CrawlUri) (key : String) :
    Spares key frontier (frontier.send uri).1 := by
  by_cases here : key = uri.siteKey
  · subst here
    intro queue found retired
    have sent := send_cases frontier uri
    generalize frontier.send uri = result at sent
    have busy {base : Frontier} {other : WorkQueue}
        (ensured : Ensured frontier uri.siteKey (base, some other)) : other.state ≠ .empty := by
      intro empty
      cases ensured with
      | known _ present =>
          cases found.symm.trans present
          cases retired.symm.trans empty
      | adds _ _ missing _ => cases found.symm.trans missing
    cases sent with
    | lost _ missing _ => cases found.symm.trans missing
    | joins other present _ =>
        cases found.symm.trans present
        have key := (queue.enqueue_key uri).trans (queue_key frontier uri.siteKey queue found)
        have stored := store_same frontier (queue.enqueue uri) queue (key.symm ▸ found)
        rw [key] at stored
        exact ⟨[uri], stored⟩
    | places ensured empty _ => exact absurd empty (busy ensured)
    | sticks _ ensured empty _ => exact absurd empty (busy ensured)
  · exact (send_beside frontier uri).elsewhere here

theorem receive_all_spares (uris : List CrawlUri) (frontier : Frontier) (key : String) :
    Spares key frontier (frontier.receiveAll uris).1 := by
  induction uris generalizing frontier with
  | nil => exact .still rfl
  | cons uri rest ih =>
      have sent : Spares key frontier (frontier.schedule uri).1 := send_spares frontier _ key
      rw [receiveAll]
      cases result : frontier.schedule uri with
      | mk after answer =>
          rw [result] at sent
          cases answer with
          | none => exact sent
          | some _ => exact sent.trans (ih after)

theorem inspect_spares (frontier : Frontier) (looked : String) (tier : Nat) (key : String) :
    Spares key frontier (frontier.inspect looked tier).1 := by
  have inspected := inspect_cases frontier looked tier
  generalize frontier.inspect looked tier = result at inspected
  have spared {queue : WorkQueue} {after : Frontier}
      (found : frontier.queue? queue.key = some queue) (inactive : queue.state = .inactive)
      (beside : Beside queue.key frontier after) : Spares key frontier after := by
    refine beside.spares fun other present => ?_
    cases found.symm.trans present
    simp [inactive]
  cases inspected with
  | stale _ => exact .still rfl
  | @fails queue after found inactive same =>
      have refreshed := (refresh_beside frontier queue).1
      rw [same] at refreshed
      exact spared found inactive refreshed
  | @readies queue asked after found inactive same _ =>
      obtain ⟨refreshed, named⟩ := refresh_beside frontier queue
      rw [same] at refreshed named
      have stored : Beside queue.key after (after.store { asked with state := .ready }) :=
        named asked rfl ▸ store_beside after { asked with state := .ready }
      exact spared found inactive (refreshed.trans stored)
  | @misfiled queue asked after found inactive same _ =>
      have refreshed := (refresh_beside frontier queue).1
      rw [same] at refreshed
      exact spared found inactive refreshed

theorem activate_spares (frontier : Frontier) (key : String) :
    Spares key frontier frontier.activateInactive.1 := by
  have scanned : Spares key frontier
      (Tiers.scan inspect (frontier.tiers.filed.map (·.1)) frontier frontier.tiers.filed).1 := by
    refine (Tiers.scan_keeps inspect (Spares key frontier) ?_ _ _ _ (.still rfl)).1
    intro state looked tier kept
    exact kept.trans (inspect_spares state looked tier key)
  simp only [activateInactive, Tiers.activateNext]
  cases result : Tiers.scan inspect (frontier.tiers.filed.map (·.1)) frontier
      frontier.tiers.filed with
  | mk after others =>
      obtain ⟨left, ended⟩ := others
      rw [result] at scanned
      cases ended <;> exact scanned.trans (.still rfl)

theorem collect_spares (frontier : Frontier) (worker : Nat) (key : String) :
    Spares key frontier (frontier.collect worker).1 := by
  rw [collect]
  cases frontier.gateway.takeBatch with
  | error cause => exact .still rfl
  | ok taken =>
      obtain ⟨gateway, handover⟩ := taken
      have received := receive_all_spares handover.uris { frontier with gateway } key
      simp only
      cases result : { frontier with gateway }.receiveAll handover.uris with
      | mk after answer =>
          rw [result] at received
          have whole : Spares key frontier after := received
          cases answer <;> exact whole.trans (.still rfl)

theorem flush_spares (frontier : Frontier) (worker : Nat) (key : String) :
    Spares key frontier (frontier.flush worker).1 := by
  rw [flush]
  split
  · exact collect_spares frontier worker key
  · exact .still rfl

theorem pull_spares (frontier : Frontier) (worker : Nat) (key : String) :
    Spares key frontier (frontier.pull worker).1 := by
  rw [pull]
  split
  · have activated := activate_spares frontier key
    cases result : frontier.activateInactive with
    | mk after answer =>
        rw [result] at activated
        cases answer with
        | none => exact activated.trans (.still rfl)
        | some progress =>
            cases progress with
            | true => exact activated.trans (.still rfl)
            | false => exact activated.trans (flush_spares after worker key)
  · exact flush_spares frontier worker key

theorem drop_head_beside (frontier : Frontier) (queue : WorkQueue) (head : CrawlUri) :
    Beside queue.key frontier (frontier.dropHead queue head) := by
  let shorter := (queue.dequeue head.url).1
  have stored : Beside queue.key frontier (frontier.store shorter) := store_beside frontier shorter
  have released : Beside queue.key frontier ((frontier.store shorter).release shorter.key) :=
    stored.trans (.same rfl)
  simp only [dropHead]
  split
  · exact released.trans (exhausted_beside _ shorter)
  · exact stored

theorem resolve_spares (items : List CrawlUri) (frontier : Frontier) (claimed key : String)
    (different : key ≠ claimed) : Spares key frontier (frontier.resolve claimed items).1 := by
  induction items generalizing frontier with
  | nil =>
      rw [resolve]
      cases found : frontier.queue? claimed with
      | none => exact .still rfl
      | some queue =>
          obtain rfl := queue_key frontier claimed queue found
          have released : Beside queue.key frontier (frontier.release queue.key) := .same rfl
          exact (released.trans (exhausted_beside _ queue)).elsewhere different
  | cons head rest ih =>
      rw [resolve]
      cases found : frontier.queue? claimed with
      | none => exact .still rfl
      | some queue =>
          obtain rfl := queue_key frontier claimed queue found
          simp only
          split
          · have recorded := store_beside frontier (queue.recordDispatch frontier.moment)
            exact (recorded.trans (.same rfl)).elsewhere different
          · let dropped := (frontier.dropHead queue head).countReclassified.discountQueued
            have beside : Beside queue.key frontier dropped :=
              (drop_head_beside frontier queue head).trans (.same rfl)
            have sent := (beside.elsewhere different).trans (send_spares dropped
              { head with siteKey := frontier.routing.siteKey head.url } key)
            cases result : dropped.send
                { head with siteKey := frontier.routing.siteKey head.url } with
            | mk after answer =>
                rw [result] at sent
                cases answer with
                | none => exact sent
                | some _ =>
                    simp only
                    split
                    · exact sent
                    · exact sent.trans (ih after)

theorem dispatch_spares (frontier : Frontier) (taken key : String) :
    Spares key frontier (frontier.dispatchFrom taken).1 := by
  rw [dispatchFrom]
  cases found : frontier.queue? taken with
  | none => exact .still rfl
  | some queue =>
      obtain rfl := queue_key frontier taken queue found
      by_cases here : key = queue.key
      · subst here
        intro other present retired
        cases found.symm.trans present
        have skipped : frontier.claim queue = (frontier, .skipped) := by
          rw [claim, if_pos (by simp [retired])]
        simp only [skipped]
        exact ⟨[], found⟩
      · have claimed := (claim_beside frontier queue).elsewhere here
        simp only
        cases result : frontier.claim queue with
        | mk after ended =>
            rw [result] at claimed
            cases ended with
            | skipped => exact claimed
            | parked tier => exact claimed.trans (.still rfl)
            | claimed => exact claimed.trans (resolve_spares queue.items after queue.key key here)

theorem poll_spares (frontier : Frontier) (worker : Nat) (progress : Bool) (key : String) :
    Spares key frontier (frontier.poll worker progress).1 := by
  rw [poll]
  cases frontier.ready with
  | nil => exact .still rfl
  | cons first rest =>
      have popped : Spares key frontier { frontier with ready := rest } := .still rfl
      have dispatched := popped.trans (dispatch_spares { frontier with ready := rest } first key)
      simp only
      cases result : { frontier with ready := rest }.dispatchFrom first with
      | mk after answer =>
          rw [result] at dispatched
          cases answer with
          | none => exact dispatched.trans (.still rfl)
          | some given =>
              cases given with
              | none => exact dispatched
              | some uri =>
                  refine dispatched.trans (.still ?_)
                  simp only [hand]
                  split <;> rfl

theorem step_spares (frontier : Frontier) (worker : Nat) (phase : CallPhase) (key : String) :
    Spares key frontier (frontier.stepPhase worker phase).1 := by
  cases phase with
  | entering =>
      simp only [stepPhase, enter]
      split
      · exact .still rfl
      · split <;> exact .still rfl
  | contending attempt =>
      simp only [stepPhase, contend]
      split
      · exact pull_spares { frontier with pulling := true } worker key
      · split <;> exact .still rfl
  | resting attempt until_ =>
      simp only [stepPhase]
      split <;> exact .still rfl
  | flushing due deadline =>
      simp only [stepPhase]
      split
      · exact collect_spares frontier worker key
      · split <;> exact .still rfl
  | polling progress => exact poll_spares frontier worker progress key
  | waiting =>
      simp only [stepPhase, awake]
      split <;> exact .still rfl
  | seeking | done _ | failed => exact .still rfl

theorem complete_spares (frontier : Frontier) (uri : CrawlUri) (outcome : Outcome) (key : String) :
    Spares key frontier (frontier.complete uri outcome).1 := by
  rcases complete_reported frontier uri outcome with ⟨cause, refused⟩ | ⟨queue, _, _, reported⟩
  · rw [refused]
    exact .still rfl
  · refine (complete_beside frontier uri outcome).spares fun other present => ?_
    cases reported.found.symm.trans present
    simp [reported.process]

theorem wake_due_spares (entries : Snoozed) (frontier : Frontier) (key : String) :
    Spares key frontier (frontier.wakeDue entries).1 := by
  have asleep (base : Frontier) (woken : String) : Spares key base (base.wakeQueue woken).1 := by
    cases found : base.queue? woken with
    | none =>
        simp only [wakeQueue, found]
        exact .still rfl
    | some queue =>
        by_cases sleeps : queue.state = .snoozed
        · refine (wake_queue_beside base woken).spares fun other present => ?_
          cases found.symm.trans present
          simp [sleeps]
        · simp only [wakeQueue, found, if_neg sleeps]
          exact .still rfl
  have again (base : Frontier) (woken : String) : Spares key base (base.resnooze woken) := by
    rw [resnooze]
    cases found : base.queue? woken with
    | none => exact .still rfl
    | some queue =>
        obtain rfl := queue_key base woken queue found
        by_cases sleeps : queue.state = .snoozed
        · let asleep := queue.setWakeTime (some base.now)
          have stored : Beside queue.key base (base.store asleep) := store_beside base asleep
          have rested : Beside queue.key base ((base.store asleep).snooze queue.key base.now) :=
            stored.trans (.same rfl)
          simp only [if_pos sleeps]
          refine rested.spares fun other present => ?_
          cases found.symm.trans present
          simp [sleeps]
        · simp only [if_neg sleeps]
          exact .still rfl
  induction entries generalizing frontier with
  | nil => exact .still rfl
  | cons entry rest ih =>
      rw [wakeDue]
      split
      · have popped : Spares key frontier { frontier with snoozed := rest } := .still rfl
        have woken := popped.trans (asleep { frontier with snoozed := rest } entry.key)
        cases result : { frontier with snoozed := rest }.wakeQueue entry.key with
        | mk after answer =>
            rw [result] at woken
            cases answer with
            | none => exact woken.trans (again after entry.key)
            | some _ => exact woken.trans (ih after)
      · exact .still rfl

theorem spares_permits (key : String) : Permits (Spares key) where
  refl _ := .still rfl
  trans _ _ _ := .trans
  mark _ _ _ := .still rfl
  retarget _ _ _ _ _ := .still rfl
  notify _ := .still rfl
  call _ := .still rfl
  snooze _ _ := .still rfl
  close _ _ _ _ := .still rfl
  wake frontier := by
    have woken := wake_due_spares frontier.snoozed frontier key
    rw [wakeQueues]
    cases result : frontier.wakeDue frontier.snoozed with
    | mk after answer =>
        rw [result] at woken
        cases answer <;> exact woken

-- What a recall makes of a retired queue: it gets the lifetime budget in force, and if that is not spent
-- it is put in line as it is.
inductive Fares (budgets : Budgets) (queue : WorkQueue) : WorkQueue → Prop where
  | stays (spent : (queue.setTotalBudget budgets.total).isOverTotal = true) :
      Fares budgets queue (queue.setTotalBudget budgets.total)
  | parks (tier : Nat) (left : (queue.setTotalBudget budgets.total).isOverTotal = false) :
      Fares budgets queue (parked ((queue.setTotalBudget budgets.total).setPrecedence tier))
  | readies (tier : Nat) (left : (queue.setTotalBudget budgets.total).isOverTotal = false) :
      Fares budgets queue
        { (queue.setTotalBudget budgets.total).setPrecedence tier with state := .ready }

def Recallable (frontier : Frontier) (key : String) : Prop :=
  ∃ queue, frontier.queue? key = some queue ∧ queue.state = .retired ∧
    (queue.setTotalBudget frontier.budgets.total).isOverTotal = false

theorem reenqueue_enters (frontier : Frontier) (queue old : WorkQueue) (calm : frontier.Calm)
    (found : frontier.queue? queue.key = some old)
    (free : queue.state.allows .ready = true ∧ queue.state.allows .inactive = true) :
    ∃ after placement tier, frontier.reenqueue queue = (after, some placement) ∧
      (after.queue? queue.key = some (parked (queue.setPrecedence tier)) ∨
        after.queue? queue.key = some { queue.setPrecedence tier with state := .ready }) := by
  let asked := queue.setPrecedence (frontier.routing.precedence queue.key)
  have present : (frontier.store asked).queue? queue.key = some asked :=
    store_same frontier asked old found
  simp only [reenqueue, refresh_calm frontier queue calm]
  by_cases waits : (frontier.store asked).mustWait asked = true
  · rw [if_pos waits, deactivate_allowed _ asked _ free.2]
    exact ⟨_, _, _, rfl, .inl (store_same _ (parked asked) asked present)⟩
  · rw [if_neg waits, asked.transition_allowed .ready free.1]
    exact ⟨_, _, _, rfl, .inr (store_same _ { asked with state := .ready } asked present)⟩

theorem unretire_queue_fares (frontier : Frontier) (key : String) (queue : WorkQueue)
    (calm : frontier.Calm) (found : frontier.queue? key = some queue)
    (retired : queue.state = .retired) :
    ∃ landed, (frontier.unretireQueue key).1.queue? key = some landed ∧
      Fares frontier.budgets queue landed := by
  obtain rfl := queue_key frontier key queue found
  let funded := queue.setTotalBudget frontier.budgets.total
  have stored : (frontier.store funded).queue? queue.key = some funded :=
    store_same frontier funded queue found
  have free : funded.state.allows .ready = true ∧ funded.state.allows .inactive = true := by
    simp [funded, WorkQueue.setTotalBudget, retired, QueueState.allows]
  simp only [unretireQueue, found, if_pos retired]
  by_cases spent : funded.isOverTotal = true
  · rw [if_pos spent]
    exact ⟨funded, stored, .stays spent⟩
  · have left : funded.isOverTotal = false := by simpa using spent
    obtain ⟨after, placement, tier, landed, there⟩ :=
      reenqueue_enters (frontier.store funded) funded funded calm stored free
    have placed : (after.place queue.key placement).queue? queue.key = after.queue? queue.key :=
      queues_queue _ _ _ (place_queues after queue.key placement)
    rw [if_neg spent, landed]
    rcases there with parks | readies
    · exact ⟨_, placed.trans parks, .parks tier left⟩
    · exact ⟨_, placed.trans readies, .readies tier left⟩

theorem unretire_all_beside (line : List String) (frontier : Frontier) (count : Nat) (key : String)
    (absent : key ∉ line) : (frontier.unretireAll count line).1.queue? key = frontier.queue? key := by
  induction line generalizing frontier count with
  | nil => rfl
  | cons first rest ih =>
      have different : key ≠ first := fun same => absent (same ▸ List.mem_cons_self)
      have beside := unretire_queue_beside frontier first key different
      have others (after : Frontier) (counted : Nat) := ih after counted
        fun listed => absent (List.mem_cons_of_mem _ listed)
      rw [unretireAll]
      cases result : frontier.unretireQueue first with
      | mk after answer =>
          rw [result] at beside
          cases answer with
          | none => exact beside
          | some recalled => cases recalled <;> exact (others after _).trans beside

theorem unretire_all_fares (line : List String) (frontier : Frontier) (count : Nat) (key : String)
    (queue : WorkQueue) (calm : frontier.Calm) (registered : (frontier.recalling line).Registered)
    (listed : key ∈ line) (found : frontier.queue? key = some queue)
    (retired : queue.state = .retired) :
    ∃ landed, (frontier.unretireAll count line).1.queue? key = some landed ∧
      Fares frontier.budgets queue landed := by
  induction line generalizing frontier count with
  | nil => cases listed
  | cons first rest ih =>
      obtain ⟨back, answer, proceeds⟩ := unretire_queue_calm frontier first rest calm registered
      have beside := unretire_queue_beside frontier first
      have fares := unretire_queue_fares frontier key queue calm found retired
      have budgets : (frontier.unretireQueue first).1.budgets = frontier.budgets :=
        congrArg Setting.budgets
          (unretire_queue_shelved stays_dozing.toShelving frontier first).setting
      have fresh : first ∉ rest := by
        obtain ⟨_, _, _, _, once, _⟩ := retired_queue _ first registered (by simp [recalling])
        have counted := congrArg Standing.retired once
        simp only [standing, recalling, List.count_append, List.count_cons_self] at counted
        exact List.count_eq_zero.mp (by omega)
      rw [unretireAll]
      cases result : frontier.unretireQueue first with
      | mk after given =>
          rw [result] at answer proceeds beside budgets
          simp only at answer
          subst answer
          have whole (counted : Nat) :
              ∃ landed, (after.unretireAll counted rest).1.queue? key = some landed ∧
                Fares frontier.budgets queue landed := by
            by_cases same : key = first
            · subst same
              obtain ⟨landed, there, kind⟩ := fares
              rw [result] at there
              exact ⟨landed, (unretire_all_beside rest after counted key fresh).trans there, kind⟩
            · rw [← budgets]
              exact ih after counted (proceeds.calm calm) proceeds.registered
                ((List.mem_cons.mp listed).resolve_left same) ((beside key same).trans found)
          cases back with
          | true => exact whole (count + 1)
          | false => exact whole count

theorem retired_listed (frontier : Frontier) (key : String) (queue : WorkQueue)
    (registered : frontier.Registered) (found : frontier.queue? key = some queue)
    (retired : queue.state = .retired) :
    key ∈ frontier.retired ∧ queue.wakeTime = none ∧
      ∀ entry ∈ frontier.snoozed, entry.key ≠ key := by
  have stands := settled_queue frontier key queue registered found
  simp only [WorkQueue.StandsAt, retired] at stands
  have once : frontier.retired.count key = 1 := congrArg Standing.retired stands.1
  refine ⟨List.count_pos_iff.mp (by omega), stands.2, fun entry asleep same => ?_⟩
  obtain ⟨other, present, _, snoozed, _⟩ := snoozed_queue frontier entry registered asleep
  rw [same, found] at present
  cases present
  cases retired.symm.trans snoozed

theorem unretire_fares (frontier : Frontier) (key : String) (queue : WorkQueue)
    (calm : frontier.Calm) (registered : frontier.Registered)
    (found : frontier.queue? key = some queue) (retired : queue.state = .retired) :
    ∃ landed, frontier.unretireQueues.1.queue? key = some landed ∧
      Fares frontier.budgets queue landed :=
  unretire_all_fares frontier.retired { frontier with retired := [] } 0 key queue calm registered
    (retired_listed frontier key queue registered found retired).1 found retired

end Frontier

end PoliteCrawl
