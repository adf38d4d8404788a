import PoliteCrawl.Proofs.Frontier.Lineup
import PoliteCrawl.Proofs.World.Journal
import PoliteCrawl.Proofs.World.Losses
import PoliteCrawl.Proofs.World.Retirement

set_option autoImplicit false

namespace PoliteCrawl

namespace World

theorem Kept.resting {origin : Gateway} {world : World} {entries : List Entry} {key : String}
    {queue : WorkQueue} (kept : Kept origin world.frontier world.journal)
    (writes : world.frontier.Writes entries) (found : world.frontier.queue? key = some queue)
    (retired : queue.state = .retired) :
    ∃ uris : List CrawlUri, (deedsOn key entries).map Deed.joined? = uris.map some := by
  refine ⟨_, Lane.joining_deeds _ fun deed happened => Option.isSome_iff_ne_none.mpr fun lined => ?_⟩
  obtain ⟨entry, listed, rfl⟩ := List.mem_map.mp happened
  obtain ⟨inside, here⟩ := List.mem_filter.mp listed
  obtain rfl : entry.key = key := by simpa using here
  obtain ⟨other, present, active⟩ := writes.active kept.registered entry inside lined
  cases found.symm.trans present
  simp [retired] at active

theorem event_rests {setup : Setup} {events : List Event} {event : Event} {key : String}
    {queue : WorkQueue} (calm : Calm setup (events ++ [event])) (other : event ≠ .unretire)
    (found : (run setup events).frontier.queue? key = some queue)
    (retired : queue.state = .retired) :
    ∃ uris entries, (run setup (events ++ [event])).journal = (run setup events).journal ++ entries ∧
      (deedsOn key entries).map Deed.joined? = uris.map some ∧
      (run setup (events ++ [event])).frontier.queue? key = some (queue.joinAll uris) := by
  obtain ⟨entries, journal, writes, lanes⟩ := run_writes calm
  obtain ⟨uris, joining⟩ := (run_kept setup events calm.before.1).resting writes found retired
  have spares : Frontier.Spares key (run setup events).frontier
      (run setup (events ++ [event])).frontier := by
    rw [run_snoc, step]
    split
    · exact act_spares _ event key other
    · exact .still rfl
  obtain ⟨joins, landed⟩ := spares queue found retired
  have line := (lanes key).symm.trans (Lane.replay_joining _ _ uris joining)
  rw [Frontier.lane_of_queue _ key _ found, Frontier.lane_of_queue _ key _ landed] at line
  have same : queue.items ++ joins = queue.items ++ uris :=
    (queue.join_all_items joins).symm.trans (congrArg Lane.items (Option.some.inj line))
  rw [List.append_cancel_left same] at landed
  exact ⟨uris, entries, journal, joining, landed⟩

theorem run_rests (setup : Setup) (before later : List Event) (key : String) (queue : WorkQueue)
    (calm : Calm setup (before ++ later)) (unrecalled : .unretire ∉ later)
    (found : (run setup before).frontier.queue? key = some queue)
    (retired : queue.state = .retired) :
    ∃ uris entries, (run setup (before ++ later)).journal = (run setup before).journal ++ entries ∧
      (deedsOn key entries).map Deed.joined? = uris.map some ∧
      (run setup (before ++ later)).frontier.queue? key = some (queue.joinAll uris) := by
  induction later generalizing before queue with
  | nil =>
      rw [List.append_nil]
      exact ⟨[], [], (List.append_nil _).symm, rfl, found⟩
  | cons event rest ih =>
      have split : before ++ event :: rest = before ++ [event] ++ rest := by simp
      rw [split] at calm ⊢
      rw [List.mem_cons, not_or] at unrecalled
      obtain ⟨early, first, journal, joining, between⟩ :=
        event_rests calm.earlier (Ne.symm unrecalled.1) found retired
      obtain ⟨late, second, whole, joins, last⟩ := ih (before ++ [event]) (queue.joinAll early) calm
        unrecalled.2 between ((queue.join_all_state early).trans retired)
      refine ⟨early ++ late, first ++ second, ?_, ?_, ?_⟩
      · rw [whole, journal, List.append_assoc]
      · rw [deeds_append, List.map_append, joining, joins, List.map_append]
      · rw [last, WorkQueue.joinAll, WorkQueue.joinAll, WorkQueue.joinAll, List.foldl_append]

end World

namespace Frontier

theorem Tidy.retired_once {frontier : Frontier} (tidy : frontier.Tidy) :
    frontier.retired.Nodup := by
  refine List.nodup_iff_count.mpr fun key => ?_
  by_cases listed : key ∈ frontier.retired
  · obtain ⟨_, _, _, _, here, _⟩ := tidy.retired listed
    exact Nat.le_of_eq (congrArg Standing.retired here)
  · rw [List.count_eq_zero.mpr listed]
    exact Nat.zero_le 1

theorem unretire_sifts (frontier : Frontier) (calm : frontier.Calm) (tidy : frontier.Tidy) :
    let total := frontier.budgets.total
    let retired := frontier.queuesOf frontier.retired
    frontier.unretireQueues.2 = some (retired.filter (WorkQueue.mayGoOn total)).length ∧
      { frontier with retired := [] }.Sifts (WorkQueue.mayGoOn total) (·.setTotalBudget total)
        (·.setTotalBudget total) retired frontier.unretireQueues.1 := by
  intro total retired
  obtain ⟨answer, sifts⟩ := unretire_all_sifts frontier.retired { frontier with retired := [] } 0
    calm tidy.retired_once fun key listed => by
      obtain ⟨queue, found, _, state, _⟩ := tidy.retired listed
      exact ⟨queue, found, state⟩
  rw [Nat.zero_add] at answer
  exact ⟨answer, sifts⟩

end Frontier

/-- While the routing does not fail, a queue that is retired rests until the next recall, whatever else
happens: of its URIs none is handed out, moved or done with, those that join it stand behind them in the
order in which they join, and its key is in the register of the retired, once, and in no other. In every
reachable state that register names each queue once, and all that are retired if the routing never failed.
A recall during which the routing does not fail takes those of them that the lifetime budget in force
leaves something to spend, puts them in line one after the other, ready or parked, with all their URIs,
and says how many they are. The others stay retired, but for the budget, and all queues that are not in
the register stay as they are and where they are. -/
theorem retirement_lasts_until_recall (setup : Setup) (events : List Event) :
    let world := World.run setup events
    let frontier := world.frontier
    (∀ later key queue, Calm setup (events ++ later) → .unretire ∉ later →
      frontier.queue? key = some queue → queue.state = .retired →
        let last := World.run setup (events ++ later)
        ∃ uris entries, last.journal = world.journal ++ entries ∧
          (deedsOn key entries).map Deed.joined? = uris.map some ∧
          last.frontier.queue? key = some (queue.joinAll uris) ∧
          (queue.joinAll uris).items = queue.items ++ uris ∧
          (queue.joinAll uris).state = .retired ∧
          last.frontier.standing key = { Standing.nowhere with retired := 1 }) ∧
    (Calm setup events →
      ∀ key, key ∈ frontier.retired ↔ frontier.queueState? key = some .retired) ∧
    (frontier.routing.faults = [] →
      let total := frontier.budgets.total
      let after := frontier.unretireQueues.1
      let retired := frontier.queuesOf frontier.retired
      let back := retired.filter (WorkQueue.mayGoOn total)
      let lined := frontier.lineUp frontier.tiers back
      frontier.retired.Nodup ∧ retired.map (·.key) = frontier.retired ∧
        frontier.unretireQueues.2 = some back.length ∧
        after.ready = frontier.ready ++ lined.1 ∧ after.tiers = lined.2 ∧
        (∀ queue ∈ retired, queue.state = .retired ∧ after.Settled queue.key ∧
          ∃ landed, after.queue? queue.key = some landed ∧ landed.items = queue.items ∧
            (queue.mayGoOn total = true →
              landed.state = if queue.key ∈ lined.1 then .ready else .inactive) ∧
            (queue.mayGoOn total = false → landed = queue.setTotalBudget total)) ∧
        ∀ key ∉ frontier.retired, after.queue? key = frontier.queue? key ∧
          after.standing key = frontier.standing key) := by
  intro world frontier
  have tidy : frontier.Tidy := World.run_tidy setup events
  refine ⟨?_, fun calm key => ?_, ?_⟩
  · intro later key queue calm unrecalled found retired last
    obtain ⟨uris, entries, journal, joining, there⟩ :=
      World.run_rests setup events later key queue calm unrecalled found retired
    have state := (queue.join_all_state uris).trans retired
    have stands := last.frontier.settled_queue key _ (World.run_kept setup _ calm).registered there
    simp only [WorkQueue.StandsAt, state] at stands
    exact ⟨uris, entries, journal, joining, there, queue.join_all_items uris, state, stands.1⟩
  · refine ⟨fun listed => ?_, fun rests => ?_⟩
    · obtain ⟨queue, found, _, state, _⟩ := tidy.retired listed
      exact Option.map_eq_some_iff.mpr ⟨queue, found, state⟩
    · obtain ⟨queue, found, state⟩ := Option.map_eq_some_iff.mp rests
      exact (frontier.retired_listed key queue (World.run_kept setup events calm).registered found
        state).1
  · intro calm total after retired back lined
    obtain ⟨answer, sifts⟩ := frontier.unretire_sifts calm tidy
    obtain ⟨_, recalled, beyond⟩ := frontier.unretire_orderly tidy
    let emptied : Frontier := { frontier with retired := [] }
    have line : emptied.lineUp frontier.tiers (back.map (·.setTotalBudget total)) = lined :=
      (frontier.line_up_still _ emptied _ rfl rfl).trans
        (frontier.line_up_map _ _ _ (fun _ => rfl) (fun _ => rfl) fun _ => rfl)
    have known := frontier.queues_of_keys frontier.retired fun key listed => by
      obtain ⟨queue, found, _⟩ := tidy.retired listed
      exact ⟨queue, found⟩
    refine ⟨tidy.retired_once, known, answer, line ▸ sifts.lined.ready, line ▸ sifts.lined.tiers,
      fun queue listed => ?_, beyond⟩
    obtain ⟨inside, found⟩ := (frontier.queues_of_listed _ queue).mp listed
    obtain ⟨other, present, _, state, _⟩ := tidy.retired inside
    cases found.symm.trans present
    have settled : after.Settled queue.key := by
      have all : Frontier.Recalled frontier.retired (after, frontier.unretireQueues.2) := recalled
      rw [answer] at all
      exact all queue.key inside
    refine ⟨state, settled, ?_⟩
    cases may : queue.mayGoOn total with
    | true =>
        have landed := sifts.lined.landed (queue.setTotalBudget total)
          (List.mem_map_of_mem (List.mem_filter.mpr ⟨listed, may⟩))
        obtain ⟨items, _, seated⟩ := emptied.seated_shape
          (decide ((queue.setTotalBudget total).key ∈ lined.1)) (queue.setTotalBudget total)
        rw [line] at landed
        refine ⟨_, landed, items, fun _ => ?_, by simp⟩
        rw [seated]
        simp only [decide_eq_true_eq]
        rfl
    | false =>
        exact ⟨_, sifts.left queue listed may, rfl, by simp, fun _ => rfl⟩

theorem retirement_lasts_until_recall_third_page :
    let spent := lonePage ++ [.complete firstPage fetched]
    let joined := spent ++ [.schedule (page "a.com" "3"), .call, .proceed 1, .proceed 1, .proceed 1]
    let raised := (World.run Setup.polite (spent ++ [.setBudgets 10 none])).frontier
    (∃ (uris : List CrawlUri) (entries : List Entry), (World.run Setup.polite joined).journal =
        (World.run Setup.polite spent).journal ++ entries ∧
      (deedsOn "a.com" entries).map Deed.joined? = uris.map some) ∧
      raised.unretireQueues.2 = some 1 ∧ raised.unretireQueues.1.ready = ["a.com"] := by
  intro spent joined raised
  have calm : Calm Setup.polite joined :=
    ⟨rfl, by simp [joined, spent, lonePage, firstCall, Event.Calm]⟩
  have rests : (World.run Setup.polite spent).frontier.queueState? "a.com" = some .retired := by
    decide +kernel
  obtain ⟨queue, found, retired⟩ := Option.map_eq_some_iff.mp rests
  obtain ⟨uris, entries, journal, joining, _⟩ :=
    (retirement_lasts_until_recall Setup.polite spent).1 _ "a.com" queue calm (by simp) found retired
  obtain ⟨_, _, answer, ready, _⟩ :=
    (retirement_lasts_until_recall Setup.polite (spent ++ [.setBudgets 10 none])).2.2 rfl
  refine ⟨⟨uris, entries, journal, joining⟩, ?_, ?_⟩
  · rw [answer]
    decide +kernel
  · rw [ready]
    decide +kernel

end PoliteCrawl
