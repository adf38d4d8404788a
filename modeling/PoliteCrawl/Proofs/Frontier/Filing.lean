import PoliteCrawl.Proofs.Frontier.Call
import PoliteCrawl.Proofs.Frontier.Choice
import PoliteCrawl.Proofs.Frontier.Completion
import PoliteCrawl.Proofs.Frontier.Supervision

set_option autoImplicit false

namespace PoliteCrawl

def improved (answer : Nat) (hint : Option Nat) : Nat :=
  hint.elim answer (min answer)

theorem WorkQueue.precedence_improved (queue : WorkQueue) :
    queue.precedence = improved queue.assigned queue.hinted :=
  rfl

theorem Filed.append_member {place tier : Nat} {fresh key : String} {filed : Filed}
    (member : key ∈ keysAt (append place fresh filed) tier) :
    key ∈ keysAt filed tier ∨ key = fresh ∧ tier = place := by
  induction filed with
  | nil =>
      simp only [append, keysAt] at member
      split at member
      · rename_i here
        exact .inr ⟨List.mem_singleton.mp member, here.symm⟩
      · cases member
  | cons first rest ih =>
      obtain ⟨other, held⟩ := first
      by_cases different : place = tier
      · subst different
        rw [append] at member
        by_cases before : place < other
        · rw [if_pos before, keysAt, if_pos rfl] at member
          exact .inr ⟨List.mem_singleton.mp member, rfl⟩
        · rw [if_neg before] at member
          by_cases here : place = other
          · rw [if_pos here, keysAt, if_pos here.symm] at member
            rw [keysAt, if_pos here.symm]
            exact (List.mem_append.mp member).imp_right fun last => ⟨List.mem_singleton.mp last, rfl⟩
          · rw [if_neg here, keysAt, if_neg (Ne.symm here)] at member
            rw [keysAt, if_neg (Ne.symm here)]
            exact ih member
      · rw [append_keys_at place tier fresh _ different] at member
        exact .inl member

namespace Frontier

theorem Tidy.filed {frontier : Frontier} (tidy : frontier.Tidy) :
    Filed.Neat frontier.tiers.filed := by
  refine ⟨tidy.ascending, List.nodup_iff_count.mpr fun key => ?_⟩
  by_cases listed : key ∈ frontier.tiers.keys
  · obtain ⟨_, _, _, _, here, _⟩ := tidy.inactive listed
    exact Nat.le_of_eq (congrArg Standing.inactive here)
  · exact Nat.le_trans (Nat.le_of_eq (List.count_eq_zero_of_not_mem listed)) (Nat.zero_le 1)

def hinted (frontier : Frontier) (key : String) : Option Nat :=
  (frontier.queue? key).bind (·.hinted)

def due (frontier : Frontier) (key : String) : Nat :=
  improved (frontier.routing.precedence key) (frontier.hinted key)

-- What a site in line was told when it was lined up.
def linedAt? (frontier : Frontier) (key : String) : Option Nat :=
  (frontier.queue? key).bind fun queue => if queue.state = .ready then some queue.assigned else none

-- Whoever is in line by now was in line before, or was told just now.
def Lines (before after : Frontier) : Prop :=
  ∀ key answer, after.linedAt? key = some answer →
    before.linedAt? key = some answer ∨ answer = before.routing.precedence key

structure Steady (before after : Frontier) : Prop where
  routing : after.routing = before.routing
  hinted : ∀ key, after.hinted key = before.hinted key
  lines : before.Lines after
  tiers : after.tiers = before.tiers

structure Refiles (before after : Frontier) : Prop where
  routing : after.routing = before.routing
  hinted : ∀ key, after.hinted key = before.hinted key
  lines : before.Lines after
  files : ∀ tier, ∀ key ∈ Filed.keysAt after.tiers.filed tier,
    key ∈ Filed.keysAt before.tiers.filed tier ∨ tier = before.due key

section Steady

variable {first second third : Frontier}

theorem Lines.still (queues : second.queues = first.queues) : first.Lines second := by
  intro key answer told
  rw [linedAt?, queues_queue first second key queues] at told
  exact .inl told

theorem Lines.trans (one : first.Lines second) (routing : second.routing = first.routing)
    (two : second.Lines third) : first.Lines third := by
  intro key answer told
  rcases two key answer told with before | now
  · exact one key answer before
  · exact .inr (routing ▸ now)

theorem Steady.still (routing : second.routing = first.routing)
    (queues : second.queues = first.queues) (tiers : second.tiers = first.tiers) :
    first.Steady second := by
  refine ⟨routing, fun key => ?_, .still queues, tiers⟩
  rw [Frontier.hinted, queues_queue first second key queues]
  rfl

theorem Steady.refl (frontier : Frontier) : frontier.Steady frontier :=
  .still rfl rfl rfl

theorem Steady.trans (one : first.Steady second) (two : second.Steady third) :
    first.Steady third :=
  ⟨two.routing.trans one.routing, fun key => (two.hinted key).trans (one.hinted key),
    one.lines.trans one.routing two.lines, two.tiers.trans one.tiers⟩

theorem Steady.refiles (steady : first.Steady second) : first.Refiles second :=
  ⟨steady.routing, steady.hinted, steady.lines, fun _ _ filed => .inl (steady.tiers ▸ filed)⟩

theorem Refiles.calm (refiles : first.Refiles second) (calm : first.Calm) : second.Calm :=
  (congrArg Routing.faults refiles.routing).trans calm

theorem Refiles.due (refiles : first.Refiles second) (key : String) :
    second.due key = first.due key := by
  rw [Frontier.due, Frontier.due, refiles.routing, refiles.hinted]

theorem Refiles.trans (one : first.Refiles second) (two : second.Refiles third) :
    first.Refiles third := by
  refine ⟨two.routing.trans one.routing, fun key => (two.hinted key).trans (one.hinted key),
    one.lines.trans one.routing two.lines, fun tier key filed => ?_⟩
  rcases two.files tier key filed with before | right
  · exact one.files tier key before
  · exact .inr (right.trans (one.due key))

end Steady

theorem found_hinted {frontier : Frontier} {key : String} {queue : WorkQueue}
    (found : frontier.queue? key = some queue) : frontier.hinted key = queue.hinted := by
  rw [hinted, found]
  rfl

-- A queue that may stand for its site: it has the hint of the site, and if it is ready, then the site was in
-- line and told the same, or the queue has been told by now.
structure Bears (frontier : Frontier) (queue : WorkQueue) : Prop where
  hinted : frontier.hinted queue.key = queue.hinted
  lined : queue.state = .ready → frontier.linedAt? queue.key = some queue.assigned ∨
    queue.assigned = frontier.routing.precedence queue.key

theorem found_bears {frontier : Frontier} {queue : WorkQueue}
    (found : frontier.queue? queue.key = some queue) : frontier.Bears queue := by
  refine ⟨found_hinted found, fun ready => .inl ?_⟩
  rw [linedAt?, found]
  exact if_pos ready

theorem Bears.still {first second : Frontier} {queue : WorkQueue} (bears : first.Bears queue)
    (routing : second.routing = first.routing) (queues : second.queues = first.queues) :
    second.Bears queue := by
  have same := queues_queue first second queue.key queues
  refine ⟨?_, fun ready => ?_⟩
  · rw [Frontier.hinted, same]
    exact bears.hinted
  · rw [linedAt?, same, routing]
    exact bears.lined ready

section Bears

variable {frontier : Frontier} {queue other : WorkQueue} (bears : frontier.Bears queue)
  (key : other.key = queue.key) (hinted : other.hinted = queue.hinted)

include bears key hinted

theorem Bears.same (state : other.state = queue.state) (assigned : other.assigned = queue.assigned) :
    frontier.Bears other := by
  refine ⟨by rw [key, hinted, bears.hinted], fun ready => ?_⟩
  rw [key, assigned]
  exact bears.lined (state.symm.trans ready)

theorem Bears.resting (state : other.state ≠ .ready) : frontier.Bears other :=
  ⟨by rw [key, hinted, bears.hinted], fun ready => absurd ready state⟩

theorem Bears.told (assigned : other.assigned = frontier.routing.precedence queue.key) :
    frontier.Bears other :=
  ⟨by rw [key, hinted, bears.hinted], fun _ => .inr (key ▸ assigned)⟩

end Bears

inductive Directs (frontier : Frontier) (key : String) : Frontier × Option Placement → Prop where
  | directs (after : Frontier) (placement : Placement) (steady : frontier.Steady after)
      (right : ∀ tier, placement = .inactive tier → tier = frontier.due key) :
      Directs frontier key (after, some placement)

theorem place_member {frontier : Frontier} {key other : String} {placement : Placement} {tier : Nat}
    (member : other ∈ Filed.keysAt (frontier.place key placement).tiers.filed tier) :
    other ∈ Filed.keysAt frontier.tiers.filed tier ∨
      other = key ∧ placement = .inactive tier := by
  cases placement with
  | ready => exact .inl member
  | stay => exact .inl member
  | inactive place =>
      exact (Filed.append_member member).imp_right fun ⟨same, right⟩ => ⟨same, right ▸ rfl⟩

theorem Directs.placed {frontier : Frontier} {key : String} {result : Frontier × Option Placement}
    (directs : Directs frontier key result) :
    ∃ after placement, result = (after, some placement) ∧
      frontier.Refiles (after.place key placement) := by
  obtain ⟨after, placement, steady, right⟩ := directs
  refine ⟨after, placement, rfl, ?_⟩
  have routing : (after.place key placement).routing = frontier.routing := by
    cases placement <;> exact steady.routing
  have queues := place_queues after key placement
  refine ⟨routing, fun other => ?_, steady.lines.trans steady.routing (.still queues),
    fun tier other member => ?_⟩
  · rw [hinted, queues_queue after _ other queues]
    exact steady.hinted other
  · rcases place_member member with before | ⟨rfl, files⟩
    · exact .inl (steady.tiers ▸ before)
    · exact .inr (right tier files)

theorem Directs.after {first second : Frontier} {key : String}
    {result : Frontier × Option Placement} (steady : first.Steady second)
    (directs : Directs second key result) : Directs first key result := by
  obtain ⟨after, placement, steadies, right⟩ := directs
  exact .directs after placement (steady.trans steadies) fun tier files =>
    (right tier files).trans (steady.refiles.due key)

section Placing

variable (frontier : Frontier) (queue : WorkQueue)

theorem store_lines (lined : queue.state = .ready →
    frontier.linedAt? queue.key = some queue.assigned ∨
      queue.assigned = frontier.routing.precedence queue.key) :
    frontier.Lines (frontier.store queue) := by
  intro key answer told
  rw [linedAt?] at told
  by_cases here : key = queue.key
  · subst here
    cases known : frontier.queue? queue.key with
    | none => simp [store_queue, known] at told
    | some old =>
        rw [store_same frontier queue old known, Option.bind_some] at told
        split at told
        case isTrue ready =>
          cases told
          exact lined ready
        case isFalse => cases told
  · rw [store_other frontier queue key here] at told
    exact .inl told

variable (bears : frontier.Bears queue)

include bears

theorem store_hinted (key : String) :
    (frontier.store queue).hinted key = frontier.hinted key := by
  by_cases here : key = queue.key
  · subst here
    rw [hinted, store_queue, if_pos rfl, bears.hinted]
    cases known : frontier.queue? queue.key with
    | none =>
        have same := bears.hinted
        rw [hinted, known] at same
        exact same
    | some old => rfl
  · rw [hinted, store_other frontier queue key here]
    rfl

theorem store_steady : frontier.Steady (frontier.store queue) :=
  ⟨rfl, store_hinted frontier queue bears, store_lines frontier queue bears.lined, rfl⟩

theorem store_bears : (frontier.store queue).Bears queue := by
  cases known : frontier.queue? queue.key with
  | some old => exact found_bears (store_same frontier queue old known)
  | none =>
      refine ⟨(store_hinted frontier queue bears queue.key).trans bears.hinted, fun ready => ?_⟩
      rcases bears.lined ready with lined | told
      · simp [linedAt?, known] at lined
      · exact .inr told

theorem deactivate_directs (tier : Nat) (right : tier = frontier.due queue.key) :
    Directs frontier queue.key
      ((frontier.deactivate queue tier).1, some (frontier.deactivate queue tier).2) := by
  by_cases allowed : queue.state.allows .inactive = true
  · rw [deactivate_allowed frontier queue tier allowed]
    have parks : frontier.Bears (parked queue) :=
      bears.resting rfl rfl (by simp [parked, WorkQueue.deactivate])
    refine .directs _ _ (store_steady frontier (parked queue) parks) fun place told => ?_
    cases told
    exact right
  · simp only [deactivate, WorkQueue.transition, if_neg allowed]
    exact .directs _ _ (.refl frontier) (by simp)

theorem exhausted_steady : frontier.Steady (frontier.markExhausted queue) := by
  by_cases allowed : queue.noteExhausted.state.allows .empty = true
  · simp only [markExhausted, WorkQueue.transition, if_pos allowed]
    exact store_steady frontier { queue.noteExhausted with state := .empty }
      (bears.resting rfl rfl (by simp))
  · simp only [markExhausted, WorkQueue.transition, if_neg allowed]
    exact store_steady frontier queue.noteExhausted (bears.same rfl rfl rfl rfl)

theorem retire_steady : frontier.Steady (frontier.retire queue) := by
  by_cases allowed : queue.state.allows .retired = true
  · simp only [retire, WorkQueue.transition, if_pos allowed]
    let retired := WorkQueue.deactivate { queue with state := .retired }
    have bear : frontier.Bears retired :=
      bears.resting rfl rfl (by simp [retired, WorkQueue.deactivate])
    exact (store_steady frontier retired bear).trans (.still rfl rfl rfl)
  · simp only [retire, WorkQueue.transition, if_neg allowed]
    exact .refl frontier

theorem rest_steady (pause : Time.Span) : frontier.Steady (frontier.rest queue pause) := by
  by_cases allowed : queue.state.allows .snoozed = true
  · simp only [rest, WorkQueue.transition, if_pos allowed]
    let asleep := WorkQueue.setWakeTime { queue with state := .snoozed } (some (frontier.now + pause))
    have bear : frontier.Bears asleep :=
      bears.resting rfl rfl (by simp [asleep, WorkQueue.setWakeTime])
    exact (store_steady frontier asleep bear).trans (.still rfl rfl rfl)
  · simp only [rest, WorkQueue.transition, if_neg allowed]
    exact .refl frontier

section Calm

variable (calm : frontier.Calm)

include calm

theorem refresh_steady :
    let asked := queue.setPrecedence (frontier.routing.precedence queue.key)
    frontier.refresh queue = (frontier.store asked, some asked) ∧
      frontier.Steady (frontier.store asked) ∧ (frontier.store asked).Bears asked ∧
      asked.precedence = frontier.due queue.key := by
  intro asked
  have told : frontier.Bears asked := bears.told rfl rfl rfl
  refine ⟨refresh_calm frontier queue calm, store_steady frontier asked told,
    store_bears frontier asked told, ?_⟩
  rw [due, bears.hinted]
  rfl

theorem reenqueue_directs : Directs frontier queue.key (frontier.reenqueue queue) := by
  obtain ⟨answer, asks, known, right⟩ := refresh_steady frontier queue bears calm
  let asked := queue.setPrecedence (frontier.routing.precedence queue.key)
  simp only [reenqueue, answer]
  by_cases waits : (frontier.store asked).mustWait asked = true
  · rw [if_pos waits]
    exact .after asks (deactivate_directs _ asked known _ (right.trans (asks.refiles.due _).symm))
  · rw [if_neg waits]
    by_cases allowed : asked.state.allows .ready = true
    · rw [asked.transition_allowed .ready allowed]
      let ready : WorkQueue := { asked with state := .ready }
      exact .directs _ _
        (asks.trans (store_steady (frontier.store asked) ready (known.told rfl rfl rfl))) (by simp)
    · rw [WorkQueue.transition, if_neg allowed]
      exact .directs _ .stay asks (by simp)

theorem receive_first_directs : Directs frontier queue.key (frontier.receiveFirst queue) := by
  by_cases held : frontier.holdsBack = true
  · obtain ⟨answer, asks, known, right⟩ := refresh_steady frontier queue bears calm
    simp only [receiveFirst, if_pos held, answer]
    exact .after asks (deactivate_directs _ _ known _ (right.trans (asks.refiles.due _).symm))
  · rw [receiveFirst, if_neg held]
    exact reenqueue_directs frontier queue bears calm

theorem settle_directs (pause : Time.Span) :
    Directs frontier queue.key (frontier.settle queue pause) := by
  by_cases spent : queue.isOverTotal = true
  · rw [settle, if_pos spent]
    exact .directs _ .stay (retire_steady frontier queue bears) (by simp)
  · by_cases owed : pause ≠ 0
    · rw [settle, if_neg spent, if_pos owed]
      exact .directs _ .stay (rest_steady frontier queue bears pause) (by simp)
    · by_cases dry : queue.isEmpty = true
      · rw [settle, if_neg spent, if_neg owed, if_pos dry]
        exact .directs _ .stay (exhausted_steady frontier queue bears) (by simp)
      · rw [settle, if_neg spent, if_neg owed, if_neg dry]
        exact reenqueue_directs frontier queue bears calm

end Calm

end Placing

theorem billed_hinted (frontier : Frontier) (queue : WorkQueue) (head : CrawlUri)
    (outcome : Outcome) : (frontier.billed queue head outcome).hinted = queue.hinted := by
  cases retried : frontier.grantsRetry head outcome with
  | false =>
      rw [billed, retried]
      rfl
  | true =>
      rw [billed, retried, if_pos rfl, WorkQueue.retryHead]
      split <;> rfl

theorem complete_refiles (frontier : Frontier) (uri : CrawlUri) (outcome : Outcome)
    (calm : frontier.Calm) (registered : frontier.Registered) :
    frontier.Refiles (frontier.complete uri outcome).1 := by
  rcases frontier.complete_cases uri outcome registered with
    ⟨_, refused⟩ | ⟨_, _, _, refused⟩ | ⟨_, _, _, _, _, _, _, refused⟩ |
    ⟨queue, head, rest, found, process, line, same⟩
  · exact refused ▸ (Steady.refl frontier).refiles
  · exact refused ▸ (Steady.refl frontier).refiles
  · exact refused ▸ (Steady.refl frontier).refiles
  · have claimed := (process_claimed frontier uri.siteKey queue registered found process).1
    let billed := frontier.billed queue head outcome
    let base := frontier.givenUp billed (frontier.billedStats queue head outcome)
    have key : billed.key = uri.siteKey :=
      (frontier.billed_key queue head outcome).trans (queue_key frontier uri.siteKey queue found)
    have billing : (frontier.release billed.key).Bears billed := by
      refine ⟨?_, fun ready => ?_⟩
      · rw [key, frontier.billed_hinted queue head outcome]
        exact found_hinted found
      · rw [(frontier.billed_shape queue head rest outcome line).2.1, process] at ready
        cases ready
    have released : frontier.Steady (frontier.release billed.key) := .still rfl rfl rfl
    have given : frontier.Steady base :=
      (released.trans (store_steady (frontier.release billed.key) billed billing)).trans
        (.still rfl rfl rfl)
    have bears : base.Bears billed := (store_bears _ billed billing).still rfl rfl
    have settles := settle_directs base billed bears (given.refiles.calm calm)
      (frontier.pauseAfter head outcome)
    obtain ⟨after, placement, settled, placed⟩ := (settles.after given).placed
    obtain ⟨gateway, signal, told⟩ := report_drained (after.place uri.siteKey placement)
      (frontier.grantsRetry head outcome) head outcome
    rw [complete_shape frontier uri head rest outcome queue ⟨found, process, claimed, line, same⟩,
      settled]
    simp only [told]
    rw [key] at placed
    have reported : (after.place uri.siteKey placement).Steady
        { after.place uri.siteKey placement with gateway, snoozeSignal := signal } :=
      .still rfl rfl rfl
    exact placed.trans reported.refiles

section Calm

variable (frontier : Frontier) (calm : frontier.Calm)

include calm

theorem wake_queue_refiles (key : String) :
    ∃ after, frontier.wakeQueue key = (after, some ()) ∧ frontier.Refiles after := by
  rw [wakeQueue]
  cases found : frontier.queue? key with
  | none => exact ⟨frontier, rfl, (Steady.refl frontier).refiles⟩
  | some queue =>
      obtain rfl := queue_key frontier key queue found
      by_cases asleep : queue.state = .snoozed
      · let woken := queue.setWakeTime none
        have bears : frontier.Bears woken := (found_bears found).same rfl rfl rfl rfl
        have stores := store_steady frontier woken bears
        have known := store_bears frontier woken bears
        simp only [if_pos asleep]
        by_cases dry : woken.isEmpty = true
        · rw [if_pos dry]
          exact ⟨_, rfl, (stores.trans (exhausted_steady _ woken known)).refiles⟩
        · have placed := reenqueue_directs (frontier.store woken) woken known
            (stores.refiles.calm calm)
          obtain ⟨after, placement, same, refiles⟩ := (placed.after stores).placed
          rw [if_neg dry, same]
          exact ⟨_, rfl, refiles⟩
      · simp only [if_neg asleep]
        exact ⟨frontier, rfl, (Steady.refl frontier).refiles⟩

theorem unretire_queue_refiles (key : String) :
    ∃ after back, frontier.unretireQueue key = (after, some back) ∧ frontier.Refiles after := by
  rw [unretireQueue]
  cases found : frontier.queue? key with
  | none => exact ⟨frontier, false, rfl, (Steady.refl frontier).refiles⟩
  | some queue =>
      obtain rfl := queue_key frontier key queue found
      by_cases retired : queue.state = .retired
      · let funded := queue.setTotalBudget frontier.budgets.total
        have bears : frontier.Bears funded := (found_bears found).same rfl rfl rfl rfl
        have stores := store_steady frontier funded bears
        have known := store_bears frontier funded bears
        simp only [if_pos retired]
        by_cases spent : funded.isOverTotal = true
        · rw [if_pos spent]
          exact ⟨_, _, rfl, Steady.refiles (stores.trans (.still rfl rfl rfl))⟩
        · have placed := reenqueue_directs (frontier.store funded) funded known
            (stores.refiles.calm calm)
          obtain ⟨after, placement, same, refiles⟩ := (placed.after stores).placed
          rw [if_neg spent, same]
          exact ⟨_, _, rfl, refiles⟩
      · simp only [if_neg retired]
        exact ⟨frontier, false, rfl, (Steady.refl frontier).refiles⟩

theorem inspect_steady (key : String) (tier : Nat) :
    frontier.Steady (frontier.inspect key tier).1 := by
  rw [inspect]
  cases found : frontier.queue? key with
  | none => exact .refl frontier
  | some queue =>
      obtain rfl := queue_key frontier key queue found
      by_cases inactive : queue.state = .inactive
      · obtain ⟨answer, asks, known, _⟩ := refresh_steady frontier queue (found_bears found) calm
        let asked := queue.setPrecedence (frontier.routing.precedence queue.key)
        simp only [if_pos inactive, answer]
        by_cases right : asked.precedence = tier
        · have allowed : asked.state.allows .ready = true := by
            simp [asked, WorkQueue.setPrecedence, inactive, QueueState.allows]
          rw [if_pos right, asked.transition_allowed .ready allowed]
          let ready : WorkQueue := { asked with state := .ready }
          exact asks.trans
            (store_steady (frontier.store asked) ready (known.told rfl rfl rfl))
        · rw [if_neg right]
          exact asks
      · simp only [if_neg inactive]
        exact .refl frontier

end Calm

theorem unretire_all_refiles (frontier : Frontier) (count : Nat) (line : List String)
    (calm : frontier.Calm) : frontier.Refiles (frontier.unretireAll count line).1 := by
  induction line generalizing frontier count with
  | nil => exact (Steady.refl frontier).refiles
  | cons key rest ih =>
      obtain ⟨after, back, recalled, refiles⟩ := unretire_queue_refiles frontier calm key
      rw [unretireAll, recalled]
      cases back with
      | true => exact refiles.trans (ih after _ (refiles.calm calm))
      | false => exact refiles.trans (ih after _ (refiles.calm calm))

theorem unretire_refiles (frontier : Frontier) (calm : frontier.Calm) :
    frontier.Refiles frontier.unretireQueues.1 := by
  have emptied : frontier.Steady { frontier with retired := [] } := .still rfl rfl rfl
  exact emptied.refiles.trans
    (unretire_all_refiles { frontier with retired := [] } 0 frontier.retired calm)

theorem wake_due_refiles (entries : Snoozed) (frontier : Frontier) (calm : frontier.Calm) :
    frontier.Refiles (frontier.wakeDue entries).1 := by
  induction entries generalizing frontier with
  | nil => exact (Steady.refl frontier).refiles
  | cons entry rest ih =>
      rw [wakeDue]
      by_cases due : entry.wake ≤ frontier.now
      · have popped : frontier.Steady { frontier with snoozed := rest } := .still rfl rfl rfl
        obtain ⟨after, woken, refiles⟩ :=
          wake_queue_refiles { frontier with snoozed := rest } calm entry.key
        rw [if_pos due, woken]
        exact (popped.refiles.trans refiles).trans (ih after (refiles.calm calm))
      · rw [if_neg due]
        exact (Steady.refl frontier).refiles

theorem refiles_permits : Permits fun before after => before.Calm → before.Refiles after where
  refl frontier _ := (Steady.refl frontier).refiles
  trans _ _ _ one two calm := (one calm).trans (two ((one calm).calm calm))
  mark _ _ _ _ := Steady.refiles (.still rfl rfl rfl)
  retarget _ _ _ _ _ _ := Steady.refiles (.still rfl rfl rfl)
  notify _ _ := Steady.refiles (.still rfl rfl rfl)
  call _ _ := Steady.refiles (.still rfl rfl rfl)
  snooze _ _ _ := Steady.refiles (.still rfl rfl rfl)
  close _ _ _ _ _ := Steady.refiles (.still rfl rfl rfl)
  wake frontier calm := by
    have woken := wake_due_refiles frontier.snoozed frontier calm
    rw [wakeQueues]
    cases result : frontier.wakeDue frontier.snoozed with
    | mk after answer =>
        rw [result] at woken
        cases answer <;> exact woken

theorem look_all_steady (looked : List (String × Nat)) (frontier : Frontier)
    (calm : frontier.Calm) : frontier.Steady (Tiers.lookAll inspect frontier looked) := by
  induction looked generalizing frontier with
  | nil => exact .refl frontier
  | cons look rest ih =>
      have first := inspect_steady frontier calm look.1 look.2
      exact first.trans (ih _ (first.refiles.calm calm))

theorem current_due {frontier : Frontier} {key : String} {tier : Nat}
    (belongs : frontier.currentTier? key = some tier) : tier = frontier.due key := by
  obtain ⟨queue, found, rest⟩ := Option.bind_eq_some_iff.mp belongs
  split at rest
  · rw [due, found_hinted found, ← Option.some.inj rest]
    rfl
  · cases rest

theorem misfiled_due {frontier after : Frontier} {key : String} {tier place : Nat}
    (looked : frontier.Looked after) (told : (after.inspect key tier).2 = some (.misfiled place)) :
    place = frontier.due key := by
  have same := frontier.inspect_honest.answers after key tier _ looked told
  cases belongs : frontier.currentTier? key with
  | none =>
      rw [belongs] at same
      cases same
  | some current =>
      rw [belongs, Tiers.verdict] at same
      split at same
      · cases same
      · cases same
        exact current_due belongs

theorem activate_refiles (frontier : Frontier) (calm : frontier.Calm)
    (registered : frontier.Registered) : frontier.Refiles frontier.activateInactive.1 := by
  obtain ⟨found, answer, _⟩ := activate_proceeds frontier calm registered
  obtain ⟨looked, left, ended, walk, kept, ends⟩ :=
    activate_walks frontier registered.ascending (by rw [answer]; simp)
  have looks := look_all_steady looked frontier calm
  have files : ∀ tier, ∀ key ∈ Filed.keysAt (Tiers.remaining left).filed tier,
      key ∈ Filed.keysAt frontier.tiers.filed tier ∨ tier = frontier.due key := by
    intro tier key member
    rw [Tiers.remaining, Tiers.occupied_keys_at left kept] at member
    exact (walk.files registered.tidy.filed tier key member).imp_right current_due
  rw [activateInactive, ends]
  generalize Tiers.lookAll inspect frontier looked = state at looks
  cases ended with
  | failed => exact absurd rfl walk.ends
  | exhausted => exact ⟨looks.routing, looks.hinted, looks.lines, files⟩
  | activated key => exact ⟨looks.routing, looks.hinted, looks.lines, files⟩

end Frontier

end PoliteCrawl
