import PoliteCrawl.Proofs.Frontier.Call
import PoliteCrawl.Proofs.Frontier.Completion
import PoliteCrawl.Proofs.Frontier.Upkeep

set_option autoImplicit false

namespace PoliteCrawl

structure Upkeep.Handing (settled loose opened : WorkQueue → Prop) (budgets : Budgets) : Prop
    extends Upkeep settled loose where
  opens : ∀ queue, settled queue → queue.state = .ready →
    loose (Frontier.openSession budgets { queue with state := .inProcess })
  admits : ∀ queue, settled queue → queue.state = .ready →
    (Frontier.openSession budgets { queue with state := .inProcess }).isOverSession = false →
    (Frontier.openSession budgets { queue with state := .inProcess }).isOverTotal = false →
    opened (Frontier.openSession budgets { queue with state := .inProcess })
  drops : ∀ queue url, opened queue → opened (queue.dequeue url).1
  process : ∀ queue, opened queue → queue.state = .inProcess
  gives : ∀ queue, opened queue → loose queue
  bills : ∀ (frontier : Frontier) queue head rest outcome, settled queue →
    queue.state = .inProcess → queue.items = head :: rest →
    loose (frontier.billed queue head outcome)

-- And queues that come back from retirement meet the terms.
structure Upkeep.Serving (settled loose opened : WorkQueue → Prop) (budgets : Budgets) : Prop
    extends Upkeep.Handing settled loose opened budgets where
  recalls : Recalling settled

namespace Frontier

structure Gives (settled opened : WorkQueue → Prop) (key : String) (uri : CrawlUri)
    (after : Frontier) : Prop where
  others : after.Upheld (away key settled)
  taken : ∃ queue : WorkQueue, ∃ moment, opened queue ∧ queue.items.head? = some uri ∧
    after.queue? key = some (queue.recordDispatch moment)

inductive Served (settled opened : WorkQueue → Prop) (key : String) :
    Frontier × Option (Option CrawlUri) → Prop where
  | gave (after : Frontier) (uri : CrawlUri) (gives : after.Gives settled opened key uri) :
      Served settled opened key (after, some (some uri))
  | dry (after : Frontier) (upheld : after.Upheld settled) :
      Served settled opened key (after, some none)

section Upkeep

variable {settled loose : WorkQueue → Prop} (upkeep : Upkeep settled loose)

include upkeep

theorem collect_upheld (frontier : Frontier) (id : Nat) (upheld : frontier.Upheld settled) :
    (frontier.collect id).1.Upheld settled := by
  rw [collect]
  cases frontier.gateway.takeBatch with
  | error cause => exact upheld.same rfl rfl rfl
  | ok taken =>
      obtain ⟨gateway, handover⟩ := taken
      have received := receive_all_upheld upkeep { frontier with gateway } handover.uris
        (upheld.same rfl rfl rfl)
      simp only
      generalize { frontier with gateway }.receiveAll handover.uris = result at received
      obtain ⟨after, answer, kept⟩ := received
      exact kept.same rfl rfl rfl

theorem flush_upheld (frontier : Frontier) (id : Nat) (upheld : frontier.Upheld settled) :
    (frontier.flush id).1.Upheld settled := by
  by_cases fast : frontier.gateway.latency = 0
  · rw [flush, if_pos fast]
    exact collect_upheld upkeep frontier id upheld
  · rw [flush, if_neg fast]
    exact upheld

theorem pull_upheld (frontier : Frontier) (id : Nat) (upheld : frontier.Upheld settled) :
    (frontier.pull id).1.Upheld settled := by
  by_cases may : frontier.mayActivate = true
  · have activated := activate_upheld upkeep frontier upheld
    rw [pull, if_pos may]
    generalize frontier.activateInactive = result at activated
    obtain ⟨after, found, kept⟩ := activated
    cases found with
    | true => exact kept.same rfl rfl rfl
    | false => exact flush_upheld upkeep after id kept
  · rw [pull, if_neg may]
    exact flush_upheld upkeep frontier id upheld

theorem contend_upheld (frontier : Frontier) (id attempt : Nat)
    (upheld : frontier.Upheld settled) : (frontier.contend id attempt).1.Upheld settled := by
  rw [contend]
  split
  · exact pull_upheld upkeep { frontier with pulling := true } id (upheld.same rfl rfl rfl)
  · split <;> exact upheld

theorem settle_upheld (frontier : Frontier) (queue : WorkQueue) (pause : Time.Span)
    (others : frontier.Upheld (away queue.key settled)) (met : loose queue)
    (process : queue.state = .inProcess) : Ends settled (frontier.settle queue pause) := by
  have allowed (state : QueueState) (moves : QueueState.inProcess.allows state = true) :
      queue.state.allows state = true := by
    rw [process]
    exact moves
  by_cases spent : queue.isOverTotal = true
  · rw [settle, if_pos spent]
    exact .ends _ _ (retire_upheld upkeep frontier queue others met (allowed .retired rfl))
  · by_cases owed : pause ≠ 0
    · rw [settle, if_neg spent, if_pos owed]
      let wake := frontier.now + pause
      let asleep := WorkQueue.setWakeTime { queue with state := .snoozed } (some wake)
      have dozed : settled asleep := upkeep.dozes queue wake met (allowed .snoozed rfl)
      have stored : (frontier.store asleep).Upheld settled := Upheld.store others dozed
      simp only [rest, queue.transition_allowed .snoozed (allowed .snoozed rfl)]
      exact .ends _ _ (stored.same rfl rfl rfl)
    · by_cases dry : queue.isEmpty = true
      · rw [settle, if_neg spent, if_neg owed, if_pos dry]
        exact .ends _ _ (exhausted_upheld upkeep frontier queue others met (allowed .empty rfl))
      · rw [settle, if_neg spent, if_neg owed, if_neg dry]
        have free := And.intro (allowed .ready rfl) (allowed .inactive rfl)
        have some : queue.items ≠ [] := by simpa [WorkQueue.isEmpty] using dry
        exact reenqueue_upheld frontier queue others (upkeep.enters queue met some free) free

end Upkeep

section Handing

variable {settled loose opened : WorkQueue → Prop} {budgets : Budgets}
  (handing : Upkeep.Handing settled loose opened budgets)

include handing

theorem complete_upheld (frontier : Frontier) (uri : CrawlUri) (outcome : Outcome)
    (registered : frontier.Registered) (upheld : frontier.Upheld settled) :
    (frontier.complete uri outcome).1.Upheld settled := by
  rcases frontier.complete_cases uri outcome registered with
    ⟨_, refused⟩ | ⟨_, _, _, refused⟩ | ⟨_, _, _, _, _, _, _, refused⟩ |
    ⟨queue, head, rest, found, process, line, same⟩
  · exact refused ▸ upheld
  · exact refused ▸ upheld
  · exact refused ▸ upheld
  · have claimed := (process_claimed frontier uri.siteKey queue registered found process).1
    let billed := frontier.billed queue head outcome
    let base := frontier.givenUp billed (frontier.billedStats queue head outcome)
    have others : base.Upheld (away billed.key settled) :=
      ((upheld.away billed.key).stored billed rfl).same rfl rfl rfl
    have state := (frontier.billed_shape queue head rest outcome line).2.1
    have met : loose billed :=
      handing.bills frontier queue head rest outcome
        (upheld.meets uri.siteKey queue found) process line
    obtain ⟨after, placement, landed, kept⟩ :=
      (settle_upheld handing.toUpkeep base billed (frontier.pauseAfter head outcome) others met
        (state.trans process)).place uri.siteKey
    obtain ⟨gateway, signal, told⟩ := report_drained (after.place uri.siteKey placement)
      (frontier.grantsRetry head outcome) head outcome
    simp only [base, billed] at landed
    rw [complete_shape frontier uri head rest outcome queue ⟨found, process, claimed, line, same⟩,
      landed]
    simp only [told]
    exact kept.same rfl rfl rfl

omit handing in
theorem apply_budgets_served (upkeep : Upkeep settled loose) (opened : WorkQueue → Prop)
    (frontier : Frontier) (queue old : WorkQueue) (process : queue.state = .inProcess)
    (some : queue.items ≠ []) (found : frontier.queue? queue.key = .some old)
    (others : frontier.Upheld (away queue.key settled))
    (met : loose (openSession frontier.budgets queue))
    (admits : (openSession frontier.budgets queue).isOverSession = false →
      (openSession frontier.budgets queue).isOverTotal = false →
        opened (openSession frontier.budgets queue)) :
    match frontier.applyBudgets queue with
    | (after, .claimed) => after.Upheld (away queue.key settled) ∧
        ∃ fresh, after.queue? queue.key = .some fresh ∧ opened fresh ∧ fresh.items = queue.items
    | (after, .skipped) => after.Upheld settled
    | (after, .parked _) => after.Upheld settled := by
  obtain ⟨key, items, state, _⟩ := open_session_shape frontier.budgets queue
  rw [process] at state
  have stored : (frontier.store (openSession frontier.budgets queue)).Upheld
      (away queue.key settled) := others.stored _ key
  have beside : ((frontier.store (openSession frontier.budgets queue)).release
      (openSession frontier.budgets queue).key).Upheld
        (away (openSession frontier.budgets queue).key settled) :=
    (key.symm ▸ stored).same rfl rfl rfl
  rw [applyBudgets]
  by_cases spent : (openSession frontier.budgets queue).isOverSession = true
  · have allowed : (openSession frontier.budgets queue).state.allows .inactive = true := by
      simp [state, QueueState.allows]
    rw [if_pos spent, deactivate_allowed _ _ _ allowed]
    exact Upheld.store beside (upkeep.parks _ met (items ▸ some) allowed)
  · rw [if_neg spent]
    by_cases exceeded : (openSession frontier.budgets queue).isOverTotal = true
    · rw [if_pos exceeded]
      exact retire_upheld upkeep _ _ beside met (by simp [state, QueueState.allows])
    · rw [if_neg exceeded]
      refine ⟨stored, openSession frontier.budgets queue, ?_, ?_, items⟩
      · rw [← key]
        exact store_same frontier (openSession frontier.budgets queue) old (key.symm ▸ found)
      · exact admits (by simpa using spent) (by simpa using exceeded)

theorem claim_served (frontier : Frontier) (queue : WorkQueue)
    (found : frontier.queue? queue.key = some queue) (upheld : frontier.Upheld settled)
    (funded : frontier.budgets = budgets) :
    match frontier.claim queue with
    | (after, .claimed) => queue.items ≠ [] ∧ after.Upheld (away queue.key settled) ∧
        ∃ fresh, after.queue? queue.key = some fresh ∧ opened fresh ∧ fresh.items = queue.items
    | (after, .skipped) => after.Upheld settled
    | (after, .parked _) => after.Upheld settled := by
  have met := upheld.meets queue.key queue found
  by_cases ready : queue.state = .ready
  · by_cases dry : queue.isEmpty = true
    · rw [claim, if_neg (by simp [ready]), if_pos dry]
      exact exhausted_upheld handing.toUpkeep frontier queue (upheld.away _)
        (handing.loosens queue met (by simp [ready])) (by simp [ready, QueueState.allows])
    · by_cases claimed : frontier.claims.contains queue.key = true
      · rw [claim, if_neg (by simp [ready]), if_neg dry, if_pos claimed]
        exact upheld
      · let process : WorkQueue := { queue with state := .inProcess }
        let base := { frontier with claims := queue.key :: frontier.claims }
        let held := base.store process
        have same : held.budgets = budgets := funded
        have kept : base.Upheld settled := upheld.same rfl rfl rfl
        have others : held.Upheld (away process.key settled) :=
          (kept.away process.key).stored process rfl
        have present : held.queue? process.key = some process :=
          store_same base process queue found
        have some : queue.items ≠ [] := by simpa [WorkQueue.isEmpty] using dry
        have budgeted := apply_budgets_served handing.toUpkeep opened held process process rfl
          some present others (by rw [same]; exact handing.opens queue met ready)
          (by rw [same]; exact handing.admits queue met ready)
        rw [claim, if_neg (by simp [ready]), if_neg dry, if_neg claimed,
          queue.transition_allowed .inProcess (by simp [ready, QueueState.allows])]
        change match held.applyBudgets process with
          | (after, .claimed) => _
          | (after, .skipped) => _
          | (after, .parked _) => _
        cases result : held.applyBudgets process with
        | mk after ended =>
            rw [result] at budgeted
            cases ended with
            | claimed => exact ⟨some, budgeted⟩
            | skipped => exact budgeted
            | parked tier => exact budgeted
  · rw [claim, if_pos ready]
    exact upheld

theorem drop_served (frontier : Frontier) (queue : WorkQueue) (head : CrawlUri)
    (rest : List CrawlUri) (found : frontier.queue? queue.key = some queue)
    (others : frontier.Upheld (away queue.key settled)) (open_ : opened queue)
    (line : queue.items = head :: rest) :
    (rest = [] → (frontier.dropped queue head).Upheld settled) ∧
      (rest ≠ [] → (frontier.dropped queue head).Upheld (away queue.key settled) ∧
        (frontier.dropped queue head).queue? queue.key = some { queue with items := rest } ∧
          opened { queue with items := rest }) := by
  have shorter := handing.drops queue head.url open_
  have stored : (frontier.store { queue with items := rest }).Upheld (away queue.key settled) :=
    others.stored { queue with items := rest } rfl
  rw [dequeue_head queue head rest line] at shorter
  constructor
  · intro last
    subst last
    have allowed : queue.state.allows .empty = true := by
      rw [handing.process queue open_]
      rfl
    have exhausted := exhausted_upheld handing.toUpkeep
      ((frontier.store { queue with items := [] }).release queue.key) { queue with items := [] }
      (stored.same rfl rfl rfl) (handing.gives _ shorter) allowed
    rw [dropped_last frontier queue head line]
    exact exhausted.same rfl rfl rfl
  · intro more
    rw [dropped_more frontier queue head rest line more]
    exact ⟨stored.same rfl rfl rfl, store_same frontier { queue with items := rest } queue found,
      shorter⟩

theorem resolve_served (items : List CrawlUri) (frontier : Frontier) (queue : WorkQueue)
    (some : items ≠ []) (line : queue.items = items)
    (found : frontier.queue? queue.key = .some queue)
    (others : frontier.Upheld (away queue.key settled)) (open_ : opened queue) :
    Served settled opened queue.key (frontier.resolve queue.key items) := by
  induction items generalizing frontier queue with
  | nil => exact absurd rfl some
  | cons head rest ih =>
      by_cases here : frontier.routing.siteKey head.url = queue.key
      · rw [resolve_home frontier queue head rest found here]
        refine .gave _ _ ⟨?_, queue, frontier.moment, open_, by simp [line], ?_⟩
        · exact (others.stored (queue.recordDispatch frontier.moment) rfl).same rfl rfl rfl
        · exact store_same frontier (queue.recordDispatch frontier.moment) queue found
      · obtain ⟨dries, keeps⟩ := drop_served handing frontier queue head rest found others open_ line
        rw [resolve_away frontier queue head rest found here]
        by_cases last : rest = []
        · have sent := send_upheld handing.toUpkeep _ (frontier.relocated head) (dries last)
          generalize (frontier.dropped queue head).send (frontier.relocated head) = result at sent
          obtain ⟨after, answer, kept⟩ := sent
          simp only [last, List.isEmpty_nil, if_true]
          exact .dry after kept
        · obtain ⟨beside, present, shorter⟩ := keeps last
          have sent := send_upheld (handing.toUpkeep.away queue.key) _ (frontier.relocated head) beside
          have same := send_beside (frontier.dropped queue head) (frontier.relocated head) queue.key
            (Ne.symm here)
          rw [present] at same
          generalize (frontier.dropped queue head).send (frontier.relocated head) = result at sent same
          obtain ⟨after, answer, kept⟩ := sent
          simp only [List.isEmpty_iff, if_neg last]
          exact ih after { queue with items := rest } last rfl same kept shorter

theorem dispatch_served (frontier : Frontier) (key : String) (upheld : frontier.Upheld settled)
    (funded : frontier.budgets = budgets) :
    Served settled opened key (frontier.dispatchFrom key) := by
  rw [dispatchFrom]
  cases found : frontier.queue? key with
  | none => exact .dry frontier upheld
  | some queue =>
      have named := queue_key frontier key queue found
      subst named
      have claimed := claim_served handing frontier queue found upheld funded
      simp only
      cases result : frontier.claim queue with
      | mk after ended =>
          rw [result] at claimed
          cases ended with
          | skipped => exact .dry after claimed
          | parked tier => exact .dry _ (claimed.place queue.key (.inactive tier))
          | claimed =>
              obtain ⟨some, others, fresh, present, open_, items⟩ := claimed
              have key := queue_key after queue.key fresh present
              rw [← key] at present others ⊢
              exact resolve_served handing queue.items after fresh some items present others open_

theorem poll_served (frontier : Frontier) (id : Nat) (progress : Bool)
    (upheld : frontier.Upheld settled) (funded : frontier.budgets = budgets) :
    match (CallPhase.polling progress).gain? (frontier.poll id progress).2 with
    | none => (frontier.poll id progress).1.Upheld settled
    | some uri => (frontier.poll id progress).1.Gives settled opened (frontier.ready.headD "") uri := by
  rw [poll]
  cases line : frontier.ready with
  | nil => cases progress <;> exact upheld
  | cons key rest =>
      have dispatched := dispatch_served handing { frontier with ready := rest } key
        (upheld.same rfl rfl rfl) funded
      simp only
      generalize { frontier with ready := rest }.dispatchFrom key = result at dispatched
      cases dispatched with
      | dry after kept => exact kept
      | gave after uri gives =>
          obtain ⟨others, queue, moment, open_, first, present⟩ := gives
          have handed : (after.hand id uri).1.routing = after.routing ∧
              (after.hand id uri).1.queues = after.queues ∧
              (after.hand id uri).1.tiers = after.tiers := by
            rw [hand]
            by_cases last : after.ready.isEmpty = true
            · simp only [if_pos last]
              exact ⟨rfl, rfl, rfl⟩
            · simp only [if_neg last]
              exact ⟨rfl, rfl, rfl⟩
          obtain ⟨routing, queues, tiers⟩ := handed
          refine ⟨others.same routing queues tiers, queue, moment, open_, first, ?_⟩
          exact (queues_queue _ _ key queues).trans present

theorem step_served (frontier : Frontier) (id : Nat) (phase : CallPhase)
    (upheld : frontier.Upheld settled) (funded : frontier.budgets = budgets) :
    match phase.gain? (frontier.stepPhase id phase).2 with
    | none => (frontier.stepPhase id phase).1.Upheld settled
    | some uri =>
        (frontier.stepPhase id phase).1.Gives settled opened (frontier.ready.headD "") uri := by
  have nothing (other : ∀ progress, phase ≠ .polling progress)
      (kept : (frontier.stepPhase id phase).1.Upheld settled) :
      match phase.gain? (frontier.stepPhase id phase).2 with
      | none => (frontier.stepPhase id phase).1.Upheld settled
      | some uri =>
          (frontier.stepPhase id phase).1.Gives settled opened (frontier.ready.headD "") uri := by
    rw [frontier.no_gain id phase other]
    exact kept
  cases phase with
  | polling progress => exact poll_served handing frontier id progress upheld funded
  | entering =>
      apply nothing (by simp)
      simp only [stepPhase, enter]
      split
      · exact upheld.same rfl rfl rfl
      · split <;> exact upheld.same rfl rfl rfl
  | contending attempt =>
      exact nothing (by simp) (contend_upheld handing.toUpkeep frontier id attempt upheld)
  | flushing due deadline =>
      apply nothing (by simp)
      simp only [stepPhase]
      split
      · exact collect_upheld handing.toUpkeep frontier id upheld
      · split <;> exact upheld.same rfl rfl rfl
  | resting attempt until_ =>
      apply nothing (by simp)
      simp only [stepPhase]
      split <;> exact upheld
  | waiting =>
      apply nothing (by simp)
      simp only [stepPhase, awake]
      split <;> exact upheld.same rfl rfl rfl
  | seeking => exact nothing (by simp) upheld
  | done answer => exact nothing (by simp) upheld
  | failed => exact nothing (by simp) upheld

end Handing

theorem Upheld.cancel {terms : WorkQueue → Prop} {frontier : Frontier}
    (upheld : frontier.Upheld terms) (call : Call) : (frontier.cancel call).Upheld terms := by
  rw [Frontier.cancel]
  split <;> exact upheld.same rfl rfl rfl

end Frontier

end PoliteCrawl
