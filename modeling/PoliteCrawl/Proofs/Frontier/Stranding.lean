import PoliteCrawl.Proofs.Frontier.Completion
import PoliteCrawl.Proofs.Frontier.Supervision

set_option autoImplicit false

namespace PoliteCrawl

namespace Frontier

def Stranded (frontier : Frontier) (key : String) : Prop :=
  ∃ queue, frontier.queue? key = some queue ∧ queue.state = .inProcess ∧ key ∉ frontier.claims

structure Guarding (spared : String → Prop) (related : Frontier → Frontier → Prop) : Prop where
  still : ∀ before after : Frontier, after.queues = before.queues → after.claims = before.claims →
    related before after
  trans : ∀ first second third, related first second → related second third → related first third
  store : ∀ (frontier : Frontier) queue, frontier.Fits spared queue →
    related frontier (frontier.store queue)
  add : ∀ (frontier : Frontier) key tier, frontier.queue? key = none →
    related frontier (frontier.addQueue (WorkQueue.new key tier))
  hold : ∀ (frontier : Frontier) key, ¬ spared key → key ∉ frontier.claims →
    related frontier { frontier with claims := key :: frontier.claims }
  release : ∀ (frontier : Frontier) key, related frontier (frontier.release key)

section Guarding

variable {spared : String → Prop} {related : Frontier → Frontier → Prop}
  (guarding : Guarding spared related)

include guarding

theorem Guarding.shelving : Shelving spared related where
  refl _ := guarding.still _ _ rfl rfl
  trans := guarding.trans
  route _ _ := guarding.still _ _ rfl rfl
  store := guarding.store
  add := guarding.add
  file _ _ _ := guarding.still _ _ rfl rfl
  count _ := guarding.still _ _ rfl rfl
  publish _ _ := guarding.still _ _ rfl rfl
  shelve _ _ := guarding.still _ _ rfl rfl

theorem Guarding.dispatching : Dispatching spared related where
  toShelving := guarding.shelving
  hold := guarding.hold
  release := guarding.release
  reclassify _ := guarding.still _ _ rfl rfl

theorem Guarding.completing : Completing spared related where
  toShelving := guarding.shelving
  snooze _ _ _ := guarding.still _ _ rfl rfl
  awaken _ _ _ _ _ := guarding.still _ _ rfl rfl
  release := guarding.release
  charge _ _ := guarding.still _ _ rfl rfl
  alarm _ _ := guarding.still _ _ rfl rfl
  tell _ _ _ := guarding.still _ _ rfl rfl

theorem Guarding.pulling : Pulling spared related where
  toPlacing := guarding.shelving.toPlacing
  take _ _ _ _ := guarding.still _ _ rfl rfl
  pull _ _ := guarding.still _ _ rfl rfl
  signal _ _ := guarding.still _ _ rfl rfl

theorem Guarding.permits : Permits related where
  refl _ := guarding.still _ _ rfl rfl
  trans := guarding.trans
  mark _ _ _ := guarding.still _ _ rfl rfl
  retarget _ _ _ _ _ := guarding.still _ _ rfl rfl
  notify _ := guarding.still _ _ rfl rfl
  call _ := guarding.still _ _ rfl rfl
  snooze _ _ := guarding.still _ _ rfl rfl
  close _ _ _ _ := guarding.still _ _ rfl rfl
  wake := wake_dozed guarding.completing.toDozing

end Guarding

theorem once_guarding :
    Guarding nobody fun before after => before.claims.Nodup → after.claims.Nodup where
  still _ _ _ claims once := claims.symm ▸ once
  trans _ _ _ one two once := two (one once)
  store _ _ _ := id
  add _ _ _ _ := id
  hold _ _ _ fresh once := List.nodup_cons.mpr ⟨fresh, once⟩
  release _ _ once := once.sublist List.erase_sublist

theorem stranded_guarding (key : String) :
    Guarding (· = key) fun before after => before.Stranded key → after.Stranded key where
  still before after queues claims := by
    intro ⟨queue, found, process, free⟩
    refine ⟨queue, ?_, process, claims.symm ▸ free⟩
    rw [queues_queue before after key queues]
    exact found
  trans _ _ _ one two stranded := two (one stranded)
  store frontier queue fits := by
    intro ⟨old, found, process, free⟩
    by_cases here : queue.key = key
    · subst here
      exact ⟨queue, store_same frontier queue old found, fits rfl old found process, free⟩
    · refine ⟨old, ?_, process, free⟩
      rw [store_other frontier queue key (Ne.symm here)]
      exact found
  add frontier other tier _ := by
    intro ⟨queue, found, process, free⟩
    refine ⟨queue, ?_, process, free⟩
    rw [add_queue, found]
    rfl
  hold frontier other away _ := by
    intro ⟨queue, found, process, free⟩
    refine ⟨queue, found, process, ?_⟩
    simp [Ne.symm away, free]
  release frontier other := by
    intro ⟨queue, found, process, free⟩
    exact ⟨queue, found, process, fun listed => free (List.mem_of_mem_erase listed)⟩

theorem Stranded.stuck {frontier : Frontier} {key : String} (stranded : frontier.Stranded key) :
    (∀ uri outcome, uri.siteKey = key →
      frontier.complete uri outcome = (frontier, .refused (.notInProcess key))) ∧
      frontier.dispatchFrom key = (frontier, some none) := by
  obtain ⟨queue, found, process, free⟩ := stranded
  constructor
  · intro uri outcome named
    subst named
    simp [complete, found, process, free]
  · have skipped : frontier.claim queue = (frontier, .skipped) := by
      rw [claim, if_pos (by simp [process])]
    simp only [dispatchFrom, found, skipped]

theorem ask_answer (routing : Routing) (key : String) :
    (routing.ask key).2 = none ↔ routing.faults.head? = some true := by
  cases faults : routing.faults with
  | nil => simp [Routing.ask, faults]
  | cons fault rest => cases fault <;> simp [Routing.ask, faults]

theorem refresh_fails (frontier : Frontier) (queue : WorkQueue) :
    (frontier.refresh queue).2 = none ↔ frontier.routing.faults.head? = some true := by
  rw [← ask_answer frontier.routing queue.key, refresh]
  cases frontier.routing.ask queue.key with
  | mk routing answer => cases answer <;> simp

theorem reenqueue_fails (frontier : Frontier) (queue : WorkQueue) :
    (frontier.reenqueue queue).2 = none ↔ frontier.routing.faults.head? = some true := by
  rw [← refresh_fails frontier queue, reenqueue]
  cases frontier.refresh queue with
  | mk after answer =>
      cases answer with
      | none => simp
      | some asked =>
          by_cases waits : after.mustWait asked = true
          · simp [waits]
          · by_cases allowed : asked.state.allows .ready = true <;>
              simp [waits, WorkQueue.transition, allowed]

structure Asks (queue : WorkQueue) (pause : Time.Span) : Prop where
  solvent : queue.isOverTotal = false
  awake : pause = 0
  more : queue.items ≠ []

theorem settle_fails (frontier : Frontier) (queue : WorkQueue) (pause : Time.Span) :
    (frontier.settle queue pause).2 = none ↔
      Asks queue pause ∧ frontier.routing.faults.head? = some true := by
  rw [settle]
  by_cases spent : queue.isOverTotal = true
  · rw [if_pos spent]
    refine ⟨by simp, fun both => ?_⟩
    rw [both.1.solvent] at spent
    cases spent
  · rw [if_neg spent]
    by_cases owed : pause ≠ 0
    · rw [if_pos owed]
      exact ⟨by simp, fun both => absurd both.1.awake owed⟩
    · rw [if_neg owed]
      by_cases dry : queue.isEmpty = true
      · rw [if_pos dry]
        exact ⟨by simp, fun both => absurd (List.isEmpty_iff.mp dry) both.1.more⟩
      · rw [if_neg dry, reenqueue_fails]
        have asks : Asks queue pause :=
          ⟨by simpa using spent, by simpa using owed, fun none => dry (List.isEmpty_iff.mpr none)⟩
        exact ⟨fun fault => ⟨asks, fault⟩, fun both => both.2⟩

-- A queue that fails to settle is left as it was, and one fault of the routing is used up.
theorem settle_failed (frontier : Frontier) (queue : WorkQueue) (pause : Time.Span)
    (failed : (frontier.settle queue pause).2 = none) :
    ∃ routing, (frontier.settle queue pause).1 = { frontier with routing } := by
  obtain ⟨asks, fault⟩ := (settle_fails frontier queue pause).mp failed
  have dry : queue.isEmpty = false := by simpa [WorkQueue.isEmpty] using asks.more
  have unknown := (ask_answer frontier.routing queue.key).mpr fault
  rw [settle, if_neg (by simp [asks.solvent]), if_neg (by simp [asks.awake]), if_neg (by simp [dry]),
    reenqueue, refresh]
  cases result : frontier.routing.ask queue.key with
  | mk routing answer =>
      rw [result] at unknown
      simp only at unknown
      subst unknown
      exact ⟨routing, rfl⟩

theorem complete_reported (frontier : Frontier) (uri : CrawlUri) (outcome : Outcome) :
    (∃ cause, frontier.complete uri outcome = (frontier, .refused cause)) ∨
      ∃ queue head rest, frontier.Reported uri queue head rest := by
  cases found : frontier.queue? uri.siteKey with
  | none => exact .inl ⟨_, complete_missing frontier uri outcome found⟩
  | some queue =>
      by_cases process : queue.state = .inProcess
      · by_cases claimed : uri.siteKey ∈ frontier.claims
        · cases line : queue.items with
          | nil => exact .inl ⟨_, by simp [complete, found, process, claimed, line]; rfl⟩
          | cons head rest =>
              by_cases same : head.url = uri.url
              · exact .inr ⟨queue, head, rest, found, process, claimed, line, same⟩
              · exact .inl ⟨_, by simp [complete, found, process, claimed, line, same]; rfl⟩
        · exact .inl ⟨_, by simp [complete, found, process, claimed]; rfl⟩
      · exact .inl ⟨_, complete_idle frontier uri outcome queue found process⟩

theorem complete_fails (frontier : Frontier) (uri : CrawlUri) (outcome : Outcome) :
    (frontier.complete uri outcome).2 = .failed ↔
      ∃ queue head rest, frontier.Reported uri queue head rest ∧
        Asks (frontier.billed queue head outcome) (frontier.pauseAfter head outcome) ∧
        frontier.routing.faults.head? = some true := by
  have answered (queue : WorkQueue) (head : CrawlUri) (rest : List CrawlUri)
      (reported : frontier.Reported uri queue head rest) :
      (frontier.complete uri outcome).2 = .failed ↔
        Asks (frontier.billed queue head outcome) (frontier.pauseAfter head outcome) ∧
          frontier.routing.faults.head? = some true := by
    let base := frontier.givenUp (frontier.billed queue head outcome)
      (frontier.billedStats queue head outcome)
    have settled := settle_fails base (frontier.billed queue head outcome)
      (frontier.pauseAfter head outcome)
    have routing : base.routing = frontier.routing := rfl
    rw [routing] at settled
    rw [complete_shape frontier uri head rest outcome queue reported, ← settled]
    cases base.settle (frontier.billed queue head outcome) (frontier.pauseAfter head outcome) with
    | mk after answer => cases answer <;> simp
  constructor
  · intro failed
    rcases complete_reported frontier uri outcome with ⟨cause, refused⟩ | ⟨queue, head, rest, reported⟩
    · rw [refused] at failed
      cases failed
    · exact ⟨queue, head, rest, reported, (answered queue head rest reported).mp failed⟩
  · intro ⟨queue, head, rest, reported, asks⟩
    exact (answered queue head rest reported).mpr asks

theorem complete_failed (frontier : Frontier) (uri head : CrawlUri) (rest : List CrawlUri)
    (outcome : Outcome) (queue : WorkQueue) (reported : frontier.Reported uri queue head rest)
    (failed : (frontier.complete uri outcome).2 = .failed) :
    ∃ routing, (frontier.complete uri outcome).1 =
      { frontier.givenUp (frontier.billed queue head outcome)
          (frontier.billedStats queue head outcome) with routing } := by
  rw [complete_shape frontier uri head rest outcome queue reported] at failed ⊢
  have left := settle_failed (frontier.givenUp (frontier.billed queue head outcome)
      (frontier.billedStats queue head outcome)) (frontier.billed queue head outcome)
    (frontier.pauseAfter head outcome)
  cases result : (frontier.givenUp (frontier.billed queue head outcome)
      (frontier.billedStats queue head outcome)).settle (frontier.billed queue head outcome)
        (frontier.pauseAfter head outcome) with
  | mk after answer =>
      rw [result] at failed left
      cases answer with
      | none => exact left rfl
      | some placement => cases failed

theorem given_up_stranded (frontier : Frontier) (uri head : CrawlUri) (rest : List CrawlUri)
    (outcome : Outcome) (queue : WorkQueue) (reported : frontier.Reported uri queue head rest)
    (once : frontier.claims.Nodup) (stats : Stats) (routing : Routing) :
    let left := frontier.billed queue head outcome
    let after := { frontier.givenUp left stats with routing }
    after.queue? uri.siteKey = some left ∧ left.state = .inProcess ∧
      uri.siteKey ∉ after.claims := by
  intro left after
  have named := queue_key frontier uri.siteKey queue reported.found
  have key : left.key = uri.siteKey := (frontier.billed_key queue head outcome).trans named
  have state := (frontier.billed_shape queue head rest outcome reported.line).2.1
  have stored : after.queue? uri.siteKey = some left := by
    rw [← key]
    exact store_same (frontier.release left.key) left queue (key.symm ▸ reported.found)
  refine ⟨stored, state.trans reported.process, ?_⟩
  have claims : after.claims = frontier.claims.erase uri.siteKey := by
    rw [← key]
    rfl
  rw [claims]
  exact once.not_mem_erase

end Frontier

end PoliteCrawl
