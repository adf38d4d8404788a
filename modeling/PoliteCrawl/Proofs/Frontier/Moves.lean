import PoliteCrawl.Frontier.Call
import PoliteCrawl.Frontier.Supervision
import PoliteCrawl.Proofs.Frontier.Lookup
import PoliteCrawl.Proofs.Register.Scan

set_option autoImplicit false

namespace PoliteCrawl.Frontier

def nobody : String → Prop := fun _ => False

-- May a queue be stored? One that is spared and in process stays in process.
def Fits (spared : String → Prop) (frontier : Frontier) (queue : WorkQueue) : Prop :=
  spared queue.key → ∀ old, frontier.queue? queue.key = some old → old.state = .inProcess →
    queue.state = .inProcess

def Free (spared : String → Prop) (frontier : Frontier) (queue : WorkQueue) : Prop :=
  spared queue.key → queue.state ≠ .inProcess ∧
    ∀ old, frontier.queue? queue.key = some old → old.state ≠ .inProcess

-- What each of the moves that operations are made of keeps is kept by every operation, whether the
-- routing fails or not. Some keys may be spared: a queue of theirs that is in process remains so.
structure Placing (spared : String → Prop) (related : Frontier → Frontier → Prop) : Prop where
  refl : ∀ frontier, related frontier frontier
  trans : ∀ first second third, related first second → related second third → related first third
  route : ∀ frontier routing, related frontier { frontier with routing }
  store : ∀ (frontier : Frontier) queue, frontier.Fits spared queue →
    related frontier (frontier.store queue)
  add : ∀ (frontier : Frontier) key tier, frontier.queue? key = none →
    related frontier (frontier.addQueue (WorkQueue.new key tier))
  file : ∀ (frontier : Frontier) tiers,
    (Filed.Ascending frontier.tiers.filed → Filed.Ascending tiers.filed) →
      related frontier { frontier with tiers }
  count : ∀ frontier : Frontier, related frontier frontier.countQueued
  publish : ∀ (frontier : Frontier) key, related frontier (frontier.publish key)

structure Shelving (spared : String → Prop) (related : Frontier → Frontier → Prop) : Prop
    extends Placing spared related where
  shelve : ∀ frontier retired, related frontier { frontier with retired }

structure Dispatching (spared : String → Prop) (related : Frontier → Frontier → Prop) : Prop
    extends Shelving spared related where
  hold : ∀ (frontier : Frontier) key, ¬ spared key → key ∉ frontier.claims →
    related frontier { frontier with claims := key :: frontier.claims }
  release : ∀ (frontier : Frontier) key, related frontier (frontier.release key)
  reclassify : ∀ frontier : Frontier, related frontier frontier.countReclassified.discountQueued

structure Dozing (spared : String → Prop) (related : Frontier → Frontier → Prop) : Prop
    extends Shelving spared related where
  snooze : ∀ (frontier : Frontier) key wake, related frontier (frontier.snooze key wake)
  awaken : ∀ (frontier : Frontier) entry rest, frontier.snoozed = entry :: rest →
    entry.wake ≤ frontier.now → related frontier { frontier with snoozed := rest }

structure Completing (spared : String → Prop) (related : Frontier → Frontier → Prop) : Prop
    extends Dozing spared related where
  release : ∀ (frontier : Frontier) key, related frontier (frontier.release key)
  charge : ∀ frontier stats, related frontier { frontier with stats }
  alarm : ∀ frontier signal, related frontier { frontier with snoozeSignal := signal }
  tell : ∀ (frontier : Frontier) uri outcome,
    related frontier { frontier with gateway := frontier.gateway.noteFinished uri outcome }

structure Fetching (spared : String → Prop) (related : Frontier → Frontier → Prop) : Prop
    extends Placing spared related where
  take : ∀ (frontier : Frontier) gateway handover,
    frontier.gateway.takeBatch = .ok (gateway, handover) → related frontier { frontier with gateway }
  pull : ∀ frontier pulling, related frontier { frontier with pulling }

structure Pulling (spared : String → Prop) (related : Frontier → Frontier → Prop) : Prop
    extends Fetching spared related where
  signal : ∀ frontier signal, related frontier { frontier with readySignal := signal }

section Free

variable {spared : String → Prop} {frontier : Frontier} {queue : WorkQueue}

theorem Free.other (other : ¬ spared queue.key) : frontier.Free spared queue :=
  fun same => absurd same other

theorem free_nobody (frontier : Frontier) (queue : WorkQueue) : frontier.Free nobody queue :=
  .other id

theorem Free.found (found : frontier.queue? queue.key = some queue)
    (idle : queue.state ≠ .inProcess) : frontier.Free spared queue := by
  intro _
  refine ⟨idle, fun old present => ?_⟩
  rw [found] at present
  cases present
  exact idle

theorem Free.fits {new : WorkQueue} (free : frontier.Free spared queue)
    (key : new.key = queue.key) : frontier.Fits spared new := by
  intro same old found process
  rw [key] at same found
  exact absurd process ((free same).2 old found)

theorem Free.store {new : WorkQueue} (free : frontier.Free spared queue)
    (key : new.key = queue.key) (state : new.state = queue.state) :
    (frontier.store new).Free spared new := by
  intro same
  have idle : new.state ≠ .inProcess := by
    rw [state]
    exact (free (key ▸ same)).1
  refine ⟨idle, fun old found => ?_⟩
  rw [store_queue, if_pos rfl] at found
  obtain ⟨_, _, now⟩ := Option.map_eq_some_iff.mp found
  exact now ▸ idle

end Free

inductive Inspected (frontier : Frontier) (tier : Nat) :
    String → Frontier × Option Inspection → Prop where
  | stale {key : String}
      (idle : ∀ queue, frontier.queue? key = some queue → queue.state ≠ .inactive) :
      Inspected frontier tier key (frontier, some .stale)
  | fails {queue : WorkQueue} {after : Frontier}
      (found : frontier.queue? queue.key = some queue) (inactive : queue.state = .inactive)
      (same : frontier.refresh queue = (after, none)) :
      Inspected frontier tier queue.key (after, none)
  | readies {queue asked : WorkQueue} {after : Frontier}
      (found : frontier.queue? queue.key = some queue) (inactive : queue.state = .inactive)
      (same : frontier.refresh queue = (after, some asked)) (right : asked.precedence = tier) :
      Inspected frontier tier queue.key (after.store { asked with state := .ready }, some .activated)
  | misfiled {queue asked : WorkQueue} {after : Frontier}
      (found : frontier.queue? queue.key = some queue) (inactive : queue.state = .inactive)
      (same : frontier.refresh queue = (after, some asked)) (wrong : asked.precedence ≠ tier) :
      Inspected frontier tier queue.key (after, some (.misfiled asked.precedence))

theorem refresh_asked (frontier : Frontier) (queue asked : WorkQueue)
    (told : (frontier.refresh queue).2 = some asked) :
    ∃ tier, asked = queue.setPrecedence tier := by
  rw [refresh] at told
  generalize frontier.routing.ask queue.key = result at told
  obtain ⟨routing, answer⟩ := result
  cases answer with
  | none => cases told
  | some tier => exact ⟨tier, (Option.some.inj told).symm⟩

theorem inspect_cases (frontier : Frontier) (key : String) (tier : Nat) :
    Inspected frontier tier key (frontier.inspect key tier) := by
  rw [inspect]
  cases found : frontier.queue? key with
  | none => exact .stale (by simp [found])
  | some queue =>
      obtain rfl := queue_key frontier key queue found
      by_cases inactive : queue.state = .inactive
      · have asks := refresh_asked frontier queue
        simp only [if_pos inactive]
        cases same : frontier.refresh queue with
        | mk after answer =>
            rw [same] at asks
            cases answer with
            | none => exact .fails found inactive same
            | some asked =>
                obtain ⟨rate, whole⟩ := asks asked rfl
                have allowed : asked.state.allows .ready = true := by
                  simp [whole, WorkQueue.setPrecedence, inactive, QueueState.allows]
                by_cases right : asked.precedence = tier
                · simp only [if_pos right, asked.transition_allowed .ready allowed]
                  exact .readies found inactive same right
                · simp only [if_neg right]
                  exact .misfiled found inactive same right
      · simp only [if_neg inactive]
        refine .stale fun other present => ?_
        rw [found] at present
        cases present
        exact inactive

section Placing

variable {spared : String → Prop} {related : Frontier → Frontier → Prop}
  (placing : Placing spared related)

include placing

theorem refresh_placed (frontier : Frontier) (queue : WorkQueue)
    (free : frontier.Free spared queue) :
    related frontier (frontier.refresh queue).1 ∧
      ∀ asked, (frontier.refresh queue).2 = some asked →
        asked.key = queue.key ∧ (frontier.refresh queue).1.Free spared asked := by
  rw [refresh]
  cases frontier.routing.ask queue.key with
  | mk routing answer =>
      have routed := placing.route frontier routing
      cases answer with
      | none => exact ⟨routed, by simp⟩
      | some tier =>
          let asked := queue.setPrecedence tier
          have still : { frontier with routing }.Free spared queue := free
          refine ⟨placing.trans _ _ _ routed (placing.store _ asked (still.fits rfl)), ?_⟩
          intro found same
          cases same
          exact ⟨rfl, still.store rfl rfl⟩

theorem deactivate_placed (frontier : Frontier) (queue : WorkQueue) (tier : Nat)
    (free : frontier.Free spared queue) :
    related frontier (frontier.deactivate queue tier).1 := by
  by_cases allowed : queue.state.allows .inactive = true
  · simp only [deactivate, WorkQueue.transition, if_pos allowed]
    exact placing.store frontier _ (free.fits rfl)
  · simp only [deactivate, WorkQueue.transition, if_neg allowed]
    exact placing.refl frontier

theorem exhausted_placed (frontier : Frontier) (queue : WorkQueue)
    (free : frontier.Free spared queue) : related frontier (frontier.markExhausted queue) := by
  by_cases allowed : queue.noteExhausted.state.allows .empty = true
  · simp only [markExhausted, WorkQueue.transition, if_pos allowed]
    exact placing.store frontier _ (free.fits rfl)
  · simp only [markExhausted, WorkQueue.transition, if_neg allowed]
    exact placing.store frontier _ (free.fits rfl)

theorem place_placed (frontier : Frontier) (key : String) (placement : Placement) :
    related frontier (frontier.place key placement) := by
  cases placement with
  | ready => exact placing.publish frontier key
  | inactive tier => exact placing.file frontier _ (Filed.append_ascending tier key _)
  | stay => exact placing.refl frontier

theorem reenqueue_placed (frontier : Frontier) (queue : WorkQueue)
    (free : frontier.Free spared queue) : related frontier (frontier.reenqueue queue).1 := by
  obtain ⟨refreshed, known⟩ := refresh_placed placing frontier queue free
  rw [reenqueue]
  cases result : frontier.refresh queue with
  | mk after answer =>
      rw [result] at refreshed known
      cases answer with
      | none => exact refreshed
      | some asked =>
          obtain ⟨_, still⟩ := known asked rfl
          by_cases waits : after.mustWait asked = true
          · simp only [if_pos waits]
            exact placing.trans _ _ _ refreshed (deactivate_placed placing after asked _ still)
          · by_cases allowed : asked.state.allows .ready = true
            · simp only [if_neg waits, WorkQueue.transition, if_pos allowed]
              exact placing.trans _ _ _ refreshed (placing.store after _ (still.fits rfl))
            · simp only [if_neg waits, WorkQueue.transition, if_neg allowed]
              exact refreshed

theorem receive_first_placed (frontier : Frontier) (queue : WorkQueue)
    (free : frontier.Free spared queue) : related frontier (frontier.receiveFirst queue).1 := by
  obtain ⟨refreshed, known⟩ := refresh_placed placing frontier queue free
  by_cases held : frontier.holdsBack = true
  · simp only [receiveFirst, if_pos held]
    cases result : frontier.refresh queue with
    | mk after answer =>
        rw [result] at refreshed known
        cases answer with
        | none => exact refreshed
        | some asked =>
            exact placing.trans _ _ _ refreshed
              (deactivate_placed placing after asked _ (known asked rfl).2)
  · simp only [receiveFirst, if_neg held]
    exact reenqueue_placed placing frontier queue free

theorem ensure_placed (frontier : Frontier) (key : String) :
    related frontier (frontier.ensureQueue key).1 ∧
      ∀ queue, (frontier.ensureQueue key).2 = some queue →
        (frontier.ensureQueue key).1.queue? queue.key = some queue := by
  rw [ensureQueue]
  cases found : frontier.queue? key with
  | some queue =>
      refine ⟨placing.refl frontier, fun present same => ?_⟩
      cases same
      rw [queue_key frontier key queue found]
      exact found
  | none =>
      cases frontier.routing.ask key with
      | mk routing answer =>
          have routed := placing.route frontier routing
          cases answer with
          | none => exact ⟨routed, by simp⟩
          | some tier =>
              refine ⟨placing.trans _ _ _ routed (placing.add _ key tier found), ?_⟩
              intro present same
              cases same
              have added := add_queue { frontier with routing } (WorkQueue.new key tier) key
              have missing : { frontier with routing }.queue? key = none := found
              have here : key = (WorkQueue.new key tier).key := rfl
              rw [missing, if_pos here] at added
              exact added

theorem send_placed (frontier : Frontier) (uri : CrawlUri) :
    related frontier (frontier.send uri).1 := by
  obtain ⟨ensured, present⟩ := ensure_placed placing frontier uri.siteKey
  rw [send]
  cases result : frontier.ensureQueue uri.siteKey with
  | mk after answer =>
      rw [result] at ensured present
      cases answer with
      | none => exact ensured
      | some queue =>
          have found : after.queue? queue.key = some queue := present queue rfl
          obtain ⟨grown, whole⟩ : ∃ grown, grown = queue.enqueue uri := ⟨_, rfl⟩
          have key : grown.key = queue.key := by
            rw [whole]
            exact queue.enqueue_key uri
          have state : grown.state = queue.state := by
            rw [whole]
            exact queue.enqueue_state uri
          have fits : after.Fits spared grown := by
            intro _ old here process
            rw [key, found] at here
            cases here
            exact state.trans process
          have counted := placing.trans _ _ _ ensured (placing.trans _ _ _
            (placing.store after grown fits) (placing.count (after.store grown)))
          simp only [← whole]
          by_cases empty : grown.state = .empty
          · have idle : queue.state ≠ .inProcess := by
              rw [← state, empty]
              simp
            have free : (after.store grown).countQueued.Free spared grown :=
              (Free.found found idle).store key state
            have received := placing.trans _ _ _ counted (receive_first_placed placing _ grown free)
            rw [if_pos empty]
            cases placed : (after.store grown).countQueued.receiveFirst grown with
            | mk last placement =>
                rw [placed] at received
                cases placement with
                | none => exact received
                | some placement =>
                    exact placing.trans _ _ _ received (place_placed placing last _ placement)
          · rw [if_neg empty]
            exact counted

theorem schedule_placed (frontier : Frontier) (uri : CrawlUri) :
    related frontier (frontier.schedule uri).1 :=
  send_placed placing frontier _

theorem receive_all_placed (frontier : Frontier) (uris : List CrawlUri) :
    related frontier (frontier.receiveAll uris).1 := by
  induction uris generalizing frontier with
  | nil => exact placing.refl frontier
  | cons uri rest ih =>
      have scheduled := schedule_placed placing frontier uri
      rw [receiveAll]
      cases result : frontier.schedule uri with
      | mk after answer =>
          rw [result] at scheduled
          cases answer with
          | none => exact scheduled
          | some received => exact placing.trans _ _ _ scheduled (ih after)

theorem inspect_placed (frontier : Frontier) (key : String) (tier : Nat) :
    related frontier (frontier.inspect key tier).1 := by
  have inspected := inspect_cases frontier key tier
  generalize frontier.inspect key tier = result at inspected
  have refreshed {queue : WorkQueue} (found : frontier.queue? queue.key = some queue)
      (inactive : queue.state = .inactive) :=
    refresh_placed placing frontier queue (.found found (by simp [inactive]))
  cases inspected with
  | stale => exact placing.refl frontier
  | fails found inactive same =>
      have placed := (refreshed found inactive).1
      rwa [same] at placed
  | readies found inactive same right =>
      obtain ⟨placed, known⟩ := refreshed found inactive
      rw [same] at placed known
      obtain ⟨_, still⟩ := known _ rfl
      exact placing.trans _ _ _ placed (placing.store _ _ (still.fits rfl))
  | misfiled found inactive same wrong =>
      have placed := (refreshed found inactive).1
      rwa [same] at placed

omit placing in
theorem inspect_tiers (frontier : Frontier) (key : String) (tier : Nat) :
    (frontier.inspect key tier).1.tiers = frontier.tiers := by
  have refreshed {queue : WorkQueue} {after : Frontier} {answer : Option WorkQueue}
      (same : frontier.refresh queue = (after, answer)) : after.tiers = frontier.tiers := by
    rw [refresh] at same
    split at same <;> cases same <;> rfl
  have inspected := inspect_cases frontier key tier
  generalize frontier.inspect key tier = result at inspected
  cases inspected with
  | stale => rfl
  | fails _ _ same => exact refreshed same
  | readies _ _ same =>
      have kept := refreshed same
      exact kept
  | misfiled _ _ same => exact refreshed same

theorem activate_placed (frontier : Frontier) :
    related frontier frontier.activateInactive.1 := by
  have scanned : related frontier
      (Tiers.scan inspect (frontier.tiers.filed.map (·.1)) frontier frontier.tiers.filed).1 := by
    refine (Tiers.scan_keeps inspect (related frontier) ?_ _ _ _ (placing.refl frontier)).1
    intro state key tier kept
    exact placing.trans _ _ _ kept (inspect_placed placing state key tier)
  have same : (Tiers.scan inspect (frontier.tiers.filed.map (·.1)) frontier
      frontier.tiers.filed).1.tiers = frontier.tiers := by
    refine (Tiers.scan_keeps inspect (fun state => state.tiers = frontier.tiers) ?_ _ _ _ rfl).1
    intro state key tier kept
    exact (inspect_tiers state key tier).trans kept
  have sorted := Tiers.scan_ascending inspect (frontier.tiers.filed.map (·.1)) frontier
    frontier.tiers.filed
  simp only [activateInactive, Tiers.activateNext]
  cases result : Tiers.scan inspect (frontier.tiers.filed.map (·.1)) frontier
      frontier.tiers.filed with
  | mk after others =>
      obtain ⟨left, ended⟩ := others
      rw [result] at scanned same sorted
      have refiled (tiers : Tiers)
          (kept : Filed.Ascending left → Filed.Ascending tiers.filed) :
          related frontier { after with tiers } :=
        placing.trans _ _ _ scanned (placing.file after tiers fun ascending =>
          kept (sorted (same ▸ ascending)))
      have occupied := Filed.occupied_ascending left
      cases ended with
      | exhausted => exact refiled _ occupied
      | activated key => exact placing.trans _ _ _ (refiled _ occupied) (placing.publish _ key)
      | failed => exact refiled _ id

theorem wake_queue_placed (frontier : Frontier) (key : String) :
    related frontier (frontier.wakeQueue key).1 := by
  rw [wakeQueue]
  cases found : frontier.queue? key with
  | none => exact placing.refl frontier
  | some queue =>
      have named := queue_key frontier key queue found
      by_cases asleep : queue.state = .snoozed
      · have free : frontier.Free spared queue := .found (named.symm ▸ found) (by simp [asleep])
        obtain ⟨woken, whole⟩ : ∃ woken, woken = queue.setWakeTime none := ⟨_, rfl⟩
        have key : woken.key = queue.key := by
          rw [whole]
          rfl
        have stored := placing.store frontier woken (free.fits key)
        have still : (frontier.store woken).Free spared woken := free.store key (by rw [whole]; rfl)
        simp only [if_pos asleep, ← whole]
        by_cases dry : woken.isEmpty = true
        · rw [if_pos dry]
          exact placing.trans _ _ _ stored (exhausted_placed placing _ woken still)
        · have reenqueued := placing.trans _ _ _ stored (reenqueue_placed placing _ woken still)
          rw [if_neg dry]
          cases result : (frontier.store woken).reenqueue woken with
          | mk after answer =>
              rw [result] at reenqueued
              cases answer with
              | none => exact reenqueued
              | some placement =>
                  exact placing.trans _ _ _ reenqueued (place_placed placing after _ placement)
      · simp only [if_neg asleep]
        exact placing.refl frontier

end Placing

section Shelving

variable {spared : String → Prop} {related : Frontier → Frontier → Prop}
  (shelving : Shelving spared related)

include shelving

theorem retire_shelved (frontier : Frontier) (queue : WorkQueue)
    (free : frontier.Free spared queue) : related frontier (frontier.retire queue) := by
  by_cases allowed : queue.state.allows .retired = true
  · simp only [retire, WorkQueue.transition, if_pos allowed]
    let retired := WorkQueue.deactivate { queue with state := .retired }
    exact shelving.trans _ _ _ (shelving.store frontier retired (free.fits rfl))
      (shelving.shelve (frontier.store retired) (Retired.insert queue.key frontier.retired))
  · simp only [retire, WorkQueue.transition, if_neg allowed]
    exact shelving.refl frontier

theorem unretire_queue_shelved (frontier : Frontier) (key : String) :
    related frontier (frontier.unretireQueue key).1 := by
  rw [unretireQueue]
  cases found : frontier.queue? key with
  | none => exact shelving.refl frontier
  | some queue =>
      have named := queue_key frontier key queue found
      by_cases retired : queue.state = .retired
      · have free : frontier.Free spared queue := .found (named.symm ▸ found) (by simp [retired])
        obtain ⟨funded, whole⟩ : ∃ funded, funded = queue.setTotalBudget frontier.budgets.total :=
          ⟨_, rfl⟩
        have same : funded.key = queue.key := by
          rw [whole]
          rfl
        have stored := shelving.store frontier funded (free.fits same)
        have still : (frontier.store funded).Free spared funded :=
          free.store same (by rw [whole]; rfl)
        simp only [if_pos retired, ← whole]
        by_cases spent : funded.isOverTotal = true
        · rw [if_pos spent]
          exact shelving.trans _ _ _ stored
            (shelving.shelve (frontier.store funded) (Retired.insert key frontier.retired))
        · have reenqueued := shelving.trans _ _ _ stored
            (reenqueue_placed shelving.toPlacing _ funded still)
          rw [if_neg spent]
          cases result : (frontier.store funded).reenqueue funded with
          | mk after answer =>
              rw [result] at reenqueued
              cases answer with
              | none => exact reenqueued
              | some placement =>
                  exact shelving.trans _ _ _ reenqueued
                    (place_placed shelving.toPlacing after key placement)
      · simp only [if_neg retired]
        exact shelving.refl frontier

theorem unretire_all_shelved (frontier : Frontier) (count : Nat) (keys : List String) :
    related frontier (frontier.unretireAll count keys).1 := by
  induction keys generalizing frontier count with
  | nil => exact shelving.refl frontier
  | cons key rest ih =>
      have recalled := unretire_queue_shelved shelving frontier key
      rw [unretireAll]
      cases result : frontier.unretireQueue key with
      | mk after answer =>
          rw [result] at recalled
          cases answer with
          | none => exact recalled
          | some back => cases back <;> exact shelving.trans _ _ _ recalled (ih after _)

theorem unretire_shelved (frontier : Frontier) : related frontier frontier.unretireQueues.1 :=
  shelving.trans _ _ _ (shelving.shelve frontier []) (unretire_all_shelved shelving _ _ _)

end Shelving

theorem opened_key (budgets : Budgets) (queue : WorkQueue) :
    (openSession budgets queue).key = queue.key := by
  cases active : queue.active <;> simp [openSession, WorkQueue.considerActive, active,
    WorkQueue.setTotalBudget, WorkQueue.setSessionBudget, WorkQueue.setWakeTime]

section Dispatching

variable {spared : String → Prop} {related : Frontier → Frontier → Prop}
  (dispatching : Dispatching spared related)

include dispatching

theorem apply_budgets_moved (frontier : Frontier) (queue : WorkQueue) (other : ¬ spared queue.key) :
    related frontier (frontier.applyBudgets queue).1 := by
  obtain ⟨opened, whole⟩ : ∃ opened, opened = openSession frontier.budgets queue := ⟨_, rfl⟩
  have away : ¬ spared opened.key := by
    rw [whole, opened_key]
    exact other
  have stored := dispatching.store frontier opened ((Free.other away).fits rfl)
  have released := dispatching.trans _ _ _ stored
    (dispatching.release (frontier.store opened) opened.key)
  simp only [applyBudgets, ← whole]
  by_cases spent : opened.isOverSession = true
  · have parked := dispatching.trans _ _ _ released
      (deactivate_placed dispatching.toPlacing _ opened opened.precedence (.other away))
    rw [if_pos spent]
    cases result : ((frontier.store opened).release opened.key).deactivate opened
        opened.precedence with
    | mk after placement =>
        rw [result] at parked
        cases placement <;> exact parked
  · rw [if_neg spent]
    by_cases exceeded : opened.isOverTotal = true
    · rw [if_pos exceeded]
      exact dispatching.trans _ _ _ released
        (retire_shelved dispatching.toShelving _ opened (.other away))
    · rw [if_neg exceeded]
      exact stored

theorem claim_moved (frontier : Frontier) (queue : WorkQueue) (other : ¬ spared queue.key) :
    related frontier (frontier.claim queue).1 := by
  rw [claim]
  by_cases ready : queue.state = .ready
  · rw [if_neg (by simp [ready])]
    by_cases dry : queue.isEmpty = true
    · rw [if_pos dry]
      exact exhausted_placed dispatching.toPlacing frontier queue (.other other)
    · rw [if_neg dry]
      by_cases claimed : frontier.claims.contains queue.key = true
      · rw [if_pos claimed]
        exact dispatching.refl frontier
      · have held := dispatching.hold frontier queue.key other (by simpa using claimed)
        let process : WorkQueue := { queue with state := .inProcess }
        have away : ¬ spared process.key := other
        have stored := dispatching.trans _ _ _ held
          (dispatching.store _ process ((Free.other away).fits rfl))
        have allowed : queue.state.allows .inProcess = true := by simp [ready, QueueState.allows]
        simp only [if_neg claimed, WorkQueue.transition, if_pos allowed]
        exact dispatching.trans _ _ _ stored (apply_budgets_moved dispatching _ process away)
  · rw [if_pos ready]
    exact dispatching.refl frontier

theorem release_empty_moved (frontier : Frontier) (queue : WorkQueue) (other : ¬ spared queue.key) :
    related frontier (frontier.releaseEmpty queue) :=
  dispatching.trans _ _ _ (dispatching.release frontier queue.key)
    (exhausted_placed dispatching.toPlacing _ queue (.other other))

theorem drop_head_moved (frontier : Frontier) (queue : WorkQueue) (head : CrawlUri)
    (other : ¬ spared queue.key) : related frontier (frontier.dropHead queue head) := by
  obtain ⟨shorter, whole⟩ : ∃ shorter, shorter = (queue.dequeue head.url).1 := ⟨_, rfl⟩
  have away : ¬ spared shorter.key := by
    rw [whole]
    exact other
  have stored := dispatching.store frontier shorter ((Free.other away).fits rfl)
  simp only [dropHead, ← whole]
  by_cases dry : shorter.isEmpty = true
  · rw [if_pos dry]
    exact dispatching.trans _ _ _ stored (release_empty_moved dispatching _ shorter away)
  · rw [if_neg dry]
    exact stored

theorem resolve_moved (items : List CrawlUri) (frontier : Frontier) (key : String)
    (other : ¬ spared key) :
    match frontier.resolve key items with
    | (after, some (some _)) => ∃ moved queue, related frontier moved ∧ queue.key = key ∧
        moved.queue? key = some queue ∧ after = moved.recordDispatch queue
    | (after, _) => related frontier after := by
  induction items generalizing frontier with
  | nil =>
      rw [resolve]
      cases found : frontier.queue? key with
      | none => exact dispatching.refl frontier
      | some queue =>
          have named := queue_key frontier key queue found
          exact release_empty_moved dispatching frontier queue (named.symm ▸ other)
  | cons head rest ih =>
      rw [resolve]
      cases found : frontier.queue? key with
      | none => exact dispatching.refl frontier
      | some queue =>
          have named := queue_key frontier key queue found
          by_cases home : frontier.routing.siteKey head.url = key
          · simp only [if_pos home]
            exact ⟨frontier, queue, dispatching.refl frontier, named, found, rfl⟩
          · let relocated := { head with siteKey := frontier.routing.siteKey head.url }
            have dropped := dispatching.trans _ _ _
              (drop_head_moved dispatching frontier queue head (named.symm ▸ other))
              (dispatching.reclassify _)
            have sent := dispatching.trans _ _ _ dropped
              (send_placed dispatching.toPlacing _ relocated)
            simp only [if_neg home]
            cases result : (frontier.dropHead queue head).countReclassified.discountQueued.send
                relocated with
            | mk after answer =>
                rw [result] at sent
                cases answer with
                | none => exact sent
                | some done =>
                    by_cases last : rest.isEmpty = true
                    · simp only [if_pos last]
                      exact sent
                    · have others := ih after
                      simp only [if_neg last]
                      cases resolved : after.resolve key rest with
                      | mk final answer =>
                          rw [resolved] at others
                          match answer with
                          | none => exact dispatching.trans _ _ _ sent others
                          | some none => exact dispatching.trans _ _ _ sent others
                          | some (some uri) =>
                              obtain ⟨moved, last, kept, same⟩ := others
                              exact ⟨moved, last, dispatching.trans _ _ _ sent kept, same⟩

theorem dispatch_moved (frontier : Frontier) (key : String)
    (busy : spared key → ∀ queue, frontier.queue? key = some queue → queue.state ≠ .ready) :
    match frontier.dispatchFrom key with
    | (after, some (some _)) => ∃ moved queue, related frontier moved ∧ queue.key = key ∧
        moved.queue? key = some queue ∧ ¬ spared key ∧ after = moved.recordDispatch queue
    | (after, _) => related frontier after := by
  rw [dispatchFrom]
  cases found : frontier.queue? key with
  | none => exact dispatching.refl frontier
  | some queue =>
      have named := queue_key frontier key queue found
      by_cases other : spared key
      · have skipped : frontier.claim queue = (frontier, .skipped) := by
          rw [claim, if_pos (busy other queue found)]
        simp only [skipped]
        exact dispatching.refl frontier
      · have claimed := claim_moved dispatching frontier queue (named.symm ▸ other)
        simp only
        cases result : frontier.claim queue with
        | mk after ended =>
            rw [result] at claimed
            cases ended with
            | skipped => exact claimed
            | parked tier =>
                exact dispatching.trans _ _ _ claimed
                  (place_placed dispatching.toPlacing after key (.inactive tier))
            | claimed =>
                have resolved := resolve_moved dispatching queue.items after key other
                simp only
                cases whole : after.resolve key queue.items with
                | mk final answer =>
                    rw [whole] at resolved
                    match answer with
                    | none => exact dispatching.trans _ _ _ claimed resolved
                    | some none => exact dispatching.trans _ _ _ claimed resolved
                    | some (some uri) =>
                        obtain ⟨moved, last, kept, key, here, same⟩ := resolved
                        exact ⟨moved, last, dispatching.trans _ _ _ claimed kept, key, here, other,
                          same⟩

theorem dispatch_kept (frontier : Frontier) (key : String)
    (busy : spared key → ∀ queue, frontier.queue? key = some queue → queue.state ≠ .ready)
    (record : ∀ (frontier : Frontier) queue, ¬ spared queue.key →
      related frontier (frontier.recordDispatch queue)) :
    related frontier (frontier.dispatchFrom key).1 := by
  have dispatched := dispatch_moved dispatching frontier key busy
  cases result : frontier.dispatchFrom key with
  | mk after answer =>
      rw [result] at dispatched
      match answer with
      | none => exact dispatched
      | some none => exact dispatched
      | some (some uri) =>
          obtain ⟨moved, queue, kept, named, _, other, same⟩ := dispatched
          rw [same]
          exact dispatching.trans _ _ _ kept (record moved queue (named.symm ▸ other))

end Dispatching

theorem snoozed_placing : Placing nobody fun before after => after.snoozed = before.snoozed where
  refl _ := rfl
  trans _ _ _ one two := two.trans one
  route _ _ := rfl
  store _ _ _ := rfl
  add _ _ _ _ := rfl
  file _ _ _ := rfl
  count _ := rfl
  publish _ _ := rfl

section Dozing

variable {spared : String → Prop} {related : Frontier → Frontier → Prop}
  (dozing : Dozing spared related)

include dozing

theorem snooze_dozed (frontier : Frontier) (old queue : WorkQueue) (key : String)
    (wake : Time.Instant) (free : frontier.Free spared old) (same : queue.key = old.key) :
    related frontier ((frontier.store queue).snooze key wake) :=
  dozing.trans _ _ _ (dozing.store frontier queue (free.fits same)) (dozing.snooze _ key wake)

theorem resnooze_dozed (frontier : Frontier) (key : String) :
    related frontier (frontier.resnooze key) := by
  rw [resnooze]
  cases found : frontier.queue? key with
  | none => exact dozing.refl frontier
  | some queue =>
      have named := queue_key frontier key queue found
      by_cases asleep : queue.state = .snoozed
      · have free : frontier.Free spared queue := .found (named.symm ▸ found) (by simp [asleep])
        simp only [if_pos asleep]
        exact snooze_dozed dozing frontier queue _ key _ free rfl
      · simp only [if_neg asleep]
        exact dozing.refl frontier

theorem wake_due_dozed (entries : Snoozed) (frontier : Frontier)
    (asleep : frontier.snoozed = entries) :
    related frontier (frontier.wakeDue entries).1 := by
  induction entries generalizing frontier with
  | nil => exact dozing.refl frontier
  | cons entry rest ih =>
      rw [wakeDue]
      by_cases due : entry.wake ≤ frontier.now
      · have woken := dozing.trans _ _ _ (dozing.awaken frontier entry rest asleep due)
          (wake_queue_placed dozing.toPlacing _ entry.key)
        have others := wake_queue_placed snoozed_placing { frontier with snoozed := rest } entry.key
        rw [if_pos due]
        cases result : { frontier with snoozed := rest }.wakeQueue entry.key with
        | mk after answer =>
            rw [result] at woken others
            cases answer with
            | none => exact dozing.trans _ _ _ woken (resnooze_dozed dozing after entry.key)
            | some done => exact dozing.trans _ _ _ woken (ih after others)
      · rw [if_neg due]
        exact dozing.refl frontier

theorem wake_dozed (frontier : Frontier) : related frontier frontier.wakeQueues.1 := by
  have woken := wake_due_dozed dozing frontier.snoozed frontier rfl
  rw [wakeQueues]
  cases result : frontier.wakeDue frontier.snoozed with
  | mk after answer =>
      rw [result] at woken
      cases answer <;> exact woken

theorem settle_dozed (frontier : Frontier) (queue : WorkQueue) (pause : Time.Span)
    (free : frontier.Free spared queue) : related frontier (frontier.settle queue pause).1 := by
  rw [settle]
  by_cases spent : queue.isOverTotal = true
  · rw [if_pos spent]
    exact retire_shelved dozing.toShelving frontier queue free
  · rw [if_neg spent]
    by_cases owed : pause ≠ 0
    · rw [if_pos owed]
      by_cases allowed : queue.state.allows .snoozed = true
      · simp only [rest, WorkQueue.transition, if_pos allowed]
        exact snooze_dozed dozing frontier queue _ _ _ free rfl
      · simp only [rest, WorkQueue.transition, if_neg allowed]
        exact dozing.refl frontier
    · rw [if_neg owed]
      by_cases dry : queue.isEmpty = true
      · rw [if_pos dry]
        exact exhausted_placed dozing.toPlacing frontier queue free
      · rw [if_neg dry]
        exact reenqueue_placed dozing.toPlacing frontier queue free

end Dozing

section Completing

variable {spared : String → Prop} {related : Frontier → Frontier → Prop}
  (completing : Completing spared related)

include completing

theorem drained_moved (frontier : Frontier) : related frontier frontier.noteDrained := by
  rw [noteDrained]
  by_cases drained : (!frontier.target.allowsDispatch && frontier.claims.isEmpty) = true
  · rw [if_pos drained]
    exact completing.alarm frontier _
  · rw [if_neg drained]
    exact completing.refl frontier

theorem retry_moved (frontier : Frontier) (queue : WorkQueue) (pause : Time.Span)
    (other : ¬ spared queue.key) : related frontier (frontier.completeRetry queue pause).1 := by
  obtain ⟨again, whole⟩ : ∃ again, again = queue.retryHead := ⟨_, rfl⟩
  have away : ¬ spared again.key := by
    rw [whole, WorkQueue.retryHead]
    cases queue.items <;> exact other
  have given := completing.trans _ _ _
    (completing.trans _ _ _ (completing.charge frontier frontier.countRetry.stats)
      (completing.store frontier.countRetry again ((Free.other away).fits rfl)))
    (completing.release _ queue.key)
  simp only [completeRetry, ← whole]
  have settled (pause : Time.Span) := completing.trans _ _ _ given
    (settle_dozed completing.toDozing _ again pause (.other away))
  cases result : ((frontier.countRetry.store again).release queue.key).settle again
      (max pause ((frontier.countRetry.store again).release queue.key).config.retryDelay) with
  | mk after answer =>
      have landed := settled (max pause
        ((frontier.countRetry.store again).release queue.key).config.retryDelay)
      rw [result] at landed
      cases answer with
      | none => exact landed
      | some placement =>
          exact completing.trans _ _ _ (completing.trans _ _ _ landed
            (place_placed completing.toPlacing after _ placement)) (drained_moved completing _)

theorem final_moved (frontier : Frontier) (queue : WorkQueue) (head : CrawlUri) (outcome : Outcome)
    (pause : Time.Span) (other : ¬ spared queue.key) :
    related frontier (frontier.completeFinal queue head outcome pause).1 := by
  obtain ⟨paid, whole⟩ : ∃ paid, paid = (frontier.finishHead queue head outcome).2 := ⟨_, rfl⟩
  have away : ¬ spared paid.key := by
    rw [whole]
    exact other
  have finished : related frontier (frontier.finishHead queue head outcome).1 := by
    have charged := completing.charge frontier (frontier.finishHead queue head outcome).1.stats
    have stored := completing.store
      { frontier with stats := (frontier.finishHead queue head outcome).1.stats } paid
      ((Free.other away).fits rfl)
    rw [whole] at stored
    exact completing.trans _ _ _ charged stored
  have settled := completing.trans _ _ _
    (completing.trans _ _ _ finished (completing.release _ paid.key))
    (settle_dozed completing.toDozing _ paid pause (.other away))
  simp only [completeFinal, ← whole]
  cases result : ((frontier.finishHead queue head outcome).1.release paid.key).settle paid pause with
  | mk after answer =>
      rw [result] at settled
      cases answer with
      | none => exact settled
      | some placement =>
          have placed := completing.trans _ _ _ settled
            (place_placed completing.toPlacing after paid.key placement)
          exact completing.trans _ _ _ (completing.trans _ _ _ placed (completing.tell _ head outcome))
            (drained_moved completing _)

theorem complete_moved (frontier : Frontier) (uri : CrawlUri) (outcome : Outcome)
    (unclaimed : spared uri.siteKey → uri.siteKey ∉ frontier.claims) :
    related frontier (frontier.complete uri outcome).1 := by
  rw [complete]
  cases found : frontier.queue? uri.siteKey with
  | none => exact completing.refl frontier
  | some queue =>
      have named := queue_key frontier uri.siteKey queue found
      by_cases refused :
          (queue.state ≠ .inProcess || !frontier.claims.contains uri.siteKey) = true
      · simp only [if_pos refused]
        exact completing.refl frontier
      · have other : ¬ spared queue.key := by
          intro same
          have missing := unclaimed (named ▸ same)
          simp [missing] at refused
        simp only [if_neg refused]
        cases queue.items with
        | nil => exact completing.refl frontier
        | cons head rest =>
            by_cases unknown : head.url ≠ uri.url
            · simp only [if_pos unknown]
              exact completing.refl frontier
            · simp only [if_neg unknown]
              by_cases retried : frontier.grantsRetry head outcome = true
              · rw [if_pos retried]
                exact retry_moved completing frontier queue _ other
              · rw [if_neg retried]
                exact final_moved completing frontier queue head outcome _ other

end Completing

inductive Pulled (reached : Frontier → Prop) (id : Nat) : Frontier × CallPhase → Prop where
  | fails {after : Frontier} (kept : reached after) : Pulled reached id (after.failCall id)
  | polls {after : Frontier} (progress : Bool) (kept : reached after) :
      Pulled reached id (after, .polling progress)
  | flushes {after : Frontier} (due deadline : Time.Instant) (kept : reached after) :
      Pulled reached id (after, .flushing due deadline)
  | rests {after : Frontier} (attempt : Nat) (until_ : Time.Instant) (kept : reached after) :
      Pulled reached id (after, .resting attempt until_)

theorem Pulled.weaken {reached wider : Frontier → Prop} {id : Nat} {result : Frontier × CallPhase}
    (pulled : Pulled reached id result) (weaker : ∀ after, reached after → wider after) :
    Pulled wider id result := by
  cases pulled with
  | fails kept => exact .fails (weaker _ kept)
  | polls progress kept => exact .polls progress (weaker _ kept)
  | flushes due deadline kept => exact .flushes due deadline (weaker _ kept)
  | rests attempt until_ kept => exact .rests attempt until_ (weaker _ kept)

section Fetching

variable {spared : String → Prop} {related : Frontier → Frontier → Prop}
  (fetching : Fetching spared related)

include fetching

theorem collect_fetched (frontier : Frontier) (id : Nat) :
    Pulled (related frontier) id (frontier.collect id) := by
  rw [collect]
  cases taken : frontier.gateway.takeBatch with
  | error cause => exact .polls false (fetching.pull frontier false)
  | ok handed =>
      obtain ⟨gateway, handover⟩ := handed
      have received := fetching.trans _ _ _ (fetching.take frontier gateway handover taken)
        (receive_all_placed fetching.toPlacing { frontier with gateway } handover.uris)
      simp only
      cases result : { frontier with gateway }.receiveAll handover.uris with
      | mk after answer =>
          rw [result] at received
          have ended := fetching.trans _ _ _ received (fetching.pull after false)
          cases answer with
          | none => exact .fails ended
          | some done => exact .polls _ ended

theorem flush_fetched (frontier : Frontier) (id : Nat) :
    Pulled (related frontier) id (frontier.flush id) := by
  rw [flush]
  by_cases prompt : frontier.gateway.latency = 0
  · rw [if_pos prompt]
    exact collect_fetched fetching frontier id
  · rw [if_neg prompt]
    exact .flushes _ _ (fetching.refl frontier)

theorem pull_fetched (frontier : Frontier) (id : Nat) :
    Pulled (related frontier) id (frontier.pull id) := by
  rw [pull]
  by_cases may : frontier.mayActivate = true
  · have activated := activate_placed fetching.toPlacing frontier
    rw [if_pos may]
    cases result : frontier.activateInactive with
    | mk after answer =>
        rw [result] at activated
        have ended := fetching.trans _ _ _ activated (fetching.pull after false)
        match answer with
        | none => exact .fails ended
        | some true => exact .polls true ended
        | some false =>
            exact (flush_fetched fetching after id).weaken fun _ =>
              fetching.trans _ _ _ activated
  · rw [if_neg may]
    exact flush_fetched fetching frontier id

theorem contend_fetched (frontier : Frontier) (id attempt : Nat) :
    Pulled (related frontier) id (frontier.contend id attempt) := by
  rw [contend]
  by_cases free : (!frontier.pulling) = true
  · rw [if_pos free]
    exact (pull_fetched fetching _ id).weaken fun _ =>
      fetching.trans _ _ _ (fetching.pull frontier true)
  · rw [if_neg free]
    split
    · exact .polls false (fetching.refl frontier)
    · exact .rests attempt _ (fetching.refl frontier)

end Fetching

section Pulling

variable {spared : String → Prop} {related : Frontier → Frontier → Prop}
  (pulling : Pulling spared related)

include pulling

theorem Pulled.moved {frontier : Frontier} {id : Nat} {result : Frontier × CallPhase}
    (pulled : Pulled (related frontier) id result) : related frontier result.1 := by
  cases pulled with
  | fails kept => exact pulling.trans _ _ _ kept (pulling.signal _ _)
  | polls _ kept => exact kept
  | flushes _ _ kept => exact kept
  | rests _ _ kept => exact kept

theorem step_pulled (frontier : Frontier) (id : Nat) (phase : CallPhase)
    (other : ∀ progress, phase ≠ .polling progress) :
    related frontier (frontier.stepPhase id phase).1 := by
  cases phase with
  | entering =>
      simp only [stepPhase, enter]
      split
      · exact pulling.signal frontier _
      · split <;> exact pulling.signal frontier _
  | contending attempt =>
      exact (contend_fetched pulling.toFetching frontier id attempt).moved pulling
  | resting attempt until_ =>
      simp only [stepPhase]
      split <;> exact pulling.refl frontier
  | flushing due deadline =>
      simp only [stepPhase]
      split
      · exact (collect_fetched pulling.toFetching frontier id).moved pulling
      · split
        · exact pulling.pull frontier false
        · exact pulling.refl frontier
  | polling progress => exact absurd rfl (other progress)
  | waiting =>
      simp only [stepPhase, awake]
      split
      · exact pulling.signal frontier _
      · exact pulling.refl frontier
  | seeking | done _ | failed => exact pulling.refl frontier

theorem poll_kept (frontier : Frontier) (id : Nat) (progress : Bool)
    (advance : ∀ (frontier : Frontier) ready, related frontier { frontier with ready })
    (dispatch : ∀ key, related { frontier with ready := frontier.ready.tail }
      ({ frontier with ready := frontier.ready.tail }.dispatchFrom key).1) :
    related frontier (frontier.poll id progress).1 := by
  rw [poll]
  cases line : frontier.ready with
  | nil => exact pulling.refl frontier
  | cons key rest =>
      have taken := pulling.trans _ _ _ (advance frontier frontier.ready.tail) (dispatch key)
      simp only [line, List.tail_cons] at taken ⊢
      cases result : { frontier with ready := rest }.dispatchFrom key with
      | mk after answer =>
          rw [result] at taken
          match answer with
          | none => exact pulling.trans _ _ _ taken (pulling.signal after _)
          | some none => exact taken
          | some (some uri) =>
              simp only [hand]
              split
              · exact pulling.trans _ _ _ taken (pulling.signal after _)
              · exact pulling.trans _ _ _ taken (pulling.signal after _)

theorem cancel_pulled (frontier : Frontier) (call : Call) :
    related frontier (frontier.cancel call) := by
  rw [cancel]
  split
  · exact pulling.trans _ _ _ (pulling.pull frontier false) (pulling.signal _ _)
  · exact pulling.signal frontier _

end Pulling

end PoliteCrawl.Frontier
