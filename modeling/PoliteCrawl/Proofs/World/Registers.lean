import PoliteCrawl.Frontier.Snapshot
import PoliteCrawl.Proofs.World.Kept

set_option autoImplicit false

namespace PoliteCrawl

theorem Filed.filed_once (filed : Filed) (key : String) (ascending : filed.Ascending)
    (once : (Filed.keys filed).count key = 1) :
    ∃ tier, (Filed.keysAt filed tier).count key = 1 ∧
      ∀ other, other ≠ tier → key ∉ Filed.keysAt filed other := by
  have absent (later : Filed) (none : (Filed.keys later).count key = 0) (tier : Nat) :
      key ∉ Filed.keysAt later tier := by
    induction later with
    | nil => simp [Filed.keysAt]
    | cons entry rest ih =>
        obtain ⟨lowest, held⟩ := entry
        simp only [Filed.keys_cons, List.count_append] at none
        by_cases here : lowest = tier
        · have unheld : held.count key = 0 := by omega
          simpa [Filed.keysAt, here, List.count_eq_zero] using unheld
        · simpa [Filed.keysAt, here] using ih (by omega)
  induction filed with
  | nil => simp [Filed.keys] at once
  | cons entry rest ih =>
      obtain ⟨lowest, held⟩ := entry
      obtain ⟨below, others⟩ := List.pairwise_cons.mp ascending
      simp only [Filed.keys_cons, List.count_append] at once
      by_cases here : held.count key = 1
      · refine ⟨lowest, by simpa [Filed.keysAt] using here, fun other different => ?_⟩
        simpa [Filed.keysAt, Ne.symm different] using absent rest (by omega) other
      · obtain ⟨tier, counted, elsewhere⟩ := ih others (by omega)
        have inside : tier ∈ Filed.tiers rest :=
          Filed.keys_at_present tier key rest (List.count_pos_iff.mp (by omega))
        obtain ⟨later, member, same⟩ := List.mem_map.mp inside
        have higher : lowest < tier := same ▸ below later member
        refine ⟨tier, by simpa [Filed.keysAt, Nat.ne_of_lt higher] using counted,
          fun other different => ?_⟩
        by_cases first : lowest = other
        · have unheld : held.count key = 0 := by omega
          simpa [Filed.keysAt, first, List.count_eq_zero] using unheld
        · simpa [Filed.keysAt, first] using elsewhere other different

namespace Frontier

def keysIn (frontier : Frontier) (state : QueueState) : List String :=
  (frontier.queues.filter (·.state = state)).map (·.key)

theorem keys_in_count (frontier : Frontier) (state : QueueState) (key : String)
    (once : frontier.keys.Nodup) :
    (frontier.keysIn state).count key =
      ((frontier.queue? key).map fun queue => if queue.state = state then 1 else 0).getD 0 := by
  unfold keys at once
  unfold keysIn queue?
  generalize frontier.queues = queues at once
  induction queues with
  | nil => rfl
  | cons first rest ih =>
      obtain ⟨fresh, others⟩ := List.nodup_cons.mp once
      by_cases here : first.key = key
      · have absent : ((rest.filter (·.state = state)).map (·.key)).count key = 0 := by
          rw [List.count_eq_zero]
          intro member
          obtain ⟨queue, inside, same⟩ := List.mem_map.mp member
          exact fresh (List.mem_map.mpr
            ⟨queue, (List.mem_filter.mp inside).1, same.trans here.symm⟩)
        by_cases fits : first.state = state <;> simp [fits, here, absent]
      · have rest := ih others
        by_cases fits : first.state = state <;> simpa [fits, here] using rest

theorem register_perm (frontier : Frontier) (register : List String) (state : QueueState)
    (field : Standing → Nat) (once : frontier.keys.Nodup)
    (counts : ∀ key, field (frontier.standing key) = register.count key)
    (nowhere : field .nowhere = 0)
    (settled : ∀ key, frontier.Settled key)
    (stands : ∀ (queue : WorkQueue) standing, queue.StandsAt standing →
      field standing = if queue.state = state then 1 else 0) :
    register.Perm (frontier.keysIn state) := by
  refine List.perm_iff_count.mpr fun key => ?_
  rw [keys_in_count frontier state key once, ← counts key]
  have here := settled key
  unfold Settled at here
  cases found : frontier.queue? key with
  | none =>
      rw [found] at here
      rw [here, nowhere]
      rfl
  | some queue =>
      rw [found] at here
      simpa using stands queue _ here

theorem Registered.perms {frontier : Frontier} (registered : frontier.Registered) :
    frontier.ready.Perm (frontier.keysIn .ready) ∧
      frontier.tiers.keys.Perm (frontier.keysIn .inactive) ∧
      (frontier.snoozed.map (·.key)).Perm (frontier.keysIn .snoozed) ∧
      frontier.retired.Perm (frontier.keysIn .retired) ∧
      frontier.claims.Perm (frontier.keysIn .inProcess) := by
  have perm (register : List String) (state : QueueState) (field : Standing → Nat)
      (counts : ∀ key, field (frontier.standing key) = register.count key)
      (nowhere : field .nowhere = 0)
      (stands : ∀ (queue : WorkQueue) standing, queue.StandsAt standing →
        field standing = if queue.state = state then 1 else 0) :=
    register_perm frontier register state field registered.once counts nowhere registered.settled
      stands
  refine ⟨?_, ?_, ?_, ?_, ?_⟩
  · exact perm _ _ Standing.ready (fun _ => rfl) rfl fun queue standing stands =>
      (stands_counts queue standing stands).1
  · exact perm _ _ Standing.inactive (fun _ => rfl) rfl fun queue standing stands =>
      (stands_counts queue standing stands).2.1
  · refine perm _ _ (fun standing => standing.snoozed.length) (fun key => ?_) rfl
      fun queue standing stands => (stands_counts queue standing stands).2.2.1
    rw [List.count, List.countP_map, List.countP_eq_length_filter]
    rfl
  · exact perm _ _ Standing.retired (fun _ => rfl) rfl fun queue standing stands =>
      (stands_counts queue standing stands).2.2.2.1
  · exact perm _ _ Standing.claimed (fun _ => rfl) rfl fun queue standing stands =>
      (stands_counts queue standing stands).2.2.2.2

theorem keys_in_all (frontier : Frontier) :
    (frontier.keysIn .ready).length + (frontier.keysIn .inactive).length +
      (frontier.keysIn .snoozed).length + (frontier.keysIn .retired).length +
      (frontier.keysIn .inProcess).length + (frontier.keysIn .empty).length =
        frontier.queues.length := by
  unfold keysIn
  induction frontier.queues with
  | nil => rfl
  | cons first rest ih =>
      simp only [List.length_map] at ih ⊢
      cases state : first.state <;> simp [state] <;> omega

theorem Registered.adds_up {frontier : Frontier} (registered : frontier.Registered) :
    frontier.snapshot.ready + frontier.snapshot.inactive + frontier.snapshot.snoozed +
      frontier.snapshot.retired + frontier.snapshot.inProcess + frontier.snapshot.exhaustedQueues =
        frontier.snapshot.totalQueues := by
  obtain ⟨ready, inactive, snoozed, retired, claimed⟩ := registered.perms
  have all := frontier.keys_in_all
  have asleep := snoozed.length_eq
  rw [List.length_map] at asleep
  rw [← ready.length_eq, ← inactive.length_eq, ← asleep, ← retired.length_eq,
    ← claimed.length_eq] at all
  simpa [snapshot, Tiers.size, keysIn] using all

end Frontier

/-- In every world that can be reached without a fault of the routing, every key stands in the one
register that the state of its queue names, once, and nowhere else; only queues that sleep have a time
to wake, which is that of their entry; and no register holds a key without a queue. -/
theorem registers_match_states (setup : Setup) (events : List Event) (calm : Calm setup events) :
    let frontier := (World.run setup events).frontier
    frontier.keys.Nodup ∧
      (∀ key queue, frontier.queue? key = some queue →
        queue.key = key ∧
        (queue.state = .empty → frontier.standing key = .nowhere ∧ queue.items = []) ∧
        (queue.state = .ready →
          frontier.standing key = { Standing.nowhere with ready := 1 }) ∧
        (queue.state = .inProcess →
          frontier.standing key = { Standing.nowhere with claimed := 1 } ∧ queue.items ≠ []) ∧
        (queue.state = .snoozed → ∃ wake, queue.wakeTime = some wake ∧
          frontier.standing key = { Standing.nowhere with snoozed := [{ wake, key }] }) ∧
        (queue.state = .inactive →
          frontier.standing key = { Standing.nowhere with inactive := 1 } ∧
          ∃ tier, (Filed.keysAt frontier.tiers.filed tier).count key = 1 ∧
            ∀ other, other ≠ tier → key ∉ Filed.keysAt frontier.tiers.filed other) ∧
        (queue.state = .retired →
          frontier.standing key = { Standing.nowhere with retired := 1 }) ∧
        (queue.wakeTime ≠ none → queue.state = .snoozed)) ∧
      (∀ key, frontier.queue? key = none → frontier.standing key = .nowhere) ∧
      frontier.snapshot.ready + frontier.snapshot.inactive + frontier.snapshot.snoozed +
        frontier.snapshot.retired + frontier.snapshot.inProcess +
        frontier.snapshot.exhaustedQueues = frontier.snapshot.totalQueues := by
  intro frontier
  have registered : frontier.Registered := (World.run_kept setup events calm).registered
  refine ⟨registered.once, fun key queue found => ?_, fun key missing => ?_, registered.adds_up⟩
  · have named := frontier.queue_key key queue found
    have stands := frontier.settled_queue key queue registered found
    unfold WorkQueue.StandsAt at stands
    rw [named] at stands
    cases state : queue.state with
    | empty =>
        simp only [state] at stands
        simp [named, stands]
    | ready =>
        simp only [state] at stands
        simp [named, stands]
    | inProcess =>
        simp only [state] at stands
        simp [named, stands]
    | snoozed =>
        simp only [state] at stands
        obtain ⟨wake, here, asleep⟩ := stands
        simp [named, here, asleep]
    | inactive =>
        simp only [state] at stands
        have once := congrArg Standing.inactive stands.1
        have tier := Filed.filed_once frontier.tiers.filed key registered.ascending once
        simpa [named, stands] using tier
    | retired =>
        simp only [state] at stands
        simp [named, stands]
  · have settled := registered.settled key
    unfold Frontier.Settled at settled
    rwa [missing] at settled

theorem registers_match_states_first_call :
    Calm Setup.plain firstCall ∧
      (World.run Setup.plain firstCall).frontier.keys = ["a.com"] ∧
      (World.run Setup.plain firstCall).frontier.standing "a.com" =
        { Standing.nowhere with claimed := 1 } :=
  ⟨first_call_calm, rfl,
    ((registers_match_states Setup.plain firstCall first_call_calm).2.1 "a.com" _ rfl).2.2.2.1
      rfl |>.1⟩

end PoliteCrawl
