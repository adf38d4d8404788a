import PoliteCrawl.Frontier.Completion
import PoliteCrawl.Proofs.Frontier.Lookup
import PoliteCrawl.Proofs.Register.Sorted
import PoliteCrawl.Proofs.Register.Tiers

set_option autoImplicit false

namespace PoliteCrawl

-- Where a key stands: what each register and the claims hold of it.
structure Standing where
  ready : Nat
  inactive : Nat
  snoozed : List SnoozeEntry
  retired : Nat
  claimed : Nat
deriving DecidableEq, Repr

def Standing.nowhere : Standing :=
  { ready := 0, inactive := 0, snoozed := [], retired := 0, claimed := 0 }

-- Does a queue stand where its state says? It has a time to wake only while it sleeps, an exhausted
-- queue holds no URI, and one in process holds some.
def WorkQueue.StandsAt (queue : WorkQueue) (standing : Standing) : Prop :=
  match queue.state with
  | .empty => standing = .nowhere ∧ queue.items = [] ∧ queue.wakeTime = none
  | .ready => standing = { Standing.nowhere with ready := 1 } ∧ queue.wakeTime = none
  | .inProcess =>
      standing = { Standing.nowhere with claimed := 1 } ∧ queue.items ≠ [] ∧ queue.wakeTime = none
  | .snoozed => ∃ wake,
      standing = { Standing.nowhere with snoozed := [{ wake, key := queue.key }] } ∧
        queue.wakeTime = some wake
  | .inactive => standing = { Standing.nowhere with inactive := 1 } ∧ queue.wakeTime = none
  | .retired => standing = { Standing.nowhere with retired := 1 } ∧ queue.wakeTime = none

namespace Frontier

def standing (frontier : Frontier) (key : String) : Standing :=
  { ready := frontier.ready.count key
    inactive := frontier.tiers.keys.count key
    snoozed := frontier.snoozed.filter (·.key = key)
    retired := frontier.retired.count key
    claimed := frontier.claims.count key }

def Settled (frontier : Frontier) (key : String) : Prop :=
  match frontier.queue? key with
  | some queue => queue.StandsAt (frontier.standing key)
  | none => frontier.standing key = .nowhere

-- Every queue has a key of its own, every tier stands once, and every key is settled.
structure Registered (frontier : Frontier) : Prop where
  once : frontier.keys.Nodup
  ascending : Filed.Ascending frontier.tiers.filed
  settled : ∀ key, frontier.Settled key

-- A key stands nowhere although it has a queue. That one is neither ready nor asleep.
def Strays (frontier : Frontier) (key : String) : Prop :=
  frontier.standing key = .nowhere ∧ ∃ queue, frontier.queue? key = some queue ∧
    queue.wakeTime = none ∧ queue.state ≠ .ready ∧ queue.state ≠ .snoozed

structure Tidy (frontier : Frontier) : Prop where
  once : frontier.keys.Nodup
  ascending : Filed.Ascending frontier.tiers.filed
  neat : ∀ key, frontier.Settled key ∨ frontier.Strays key

theorem Registered.tidy {frontier : Frontier} (registered : frontier.Registered) : frontier.Tidy :=
  ⟨registered.once, registered.ascending, fun key => .inl (registered.settled key)⟩

-- A key with a queue that stands nowhere, while all others are settled. An operation leaves a key
-- so for a while; one that the routing fails may leave it so for good.
structure Loose (frontier : Frontier) (key : String) : Prop where
  once : frontier.keys.Nodup
  ascending : Filed.Ascending frontier.tiers.filed
  known : key ∈ frontier.keys
  nowhere : frontier.standing key = .nowhere
  others : ∀ other, other ≠ key → frontier.Settled other

structure SameElsewhere (key : String) (before after : Frontier) : Prop where
  queue : ∀ other, other ≠ key → after.queue? other = before.queue? other
  standing : ∀ other, other ≠ key → after.standing other = before.standing other

theorem SameElsewhere.trans {key : String} {first second third : Frontier}
    (one : SameElsewhere key first second) (two : SameElsewhere key second third) :
    SameElsewhere key first third :=
  ⟨fun other different => (two.queue other different).trans (one.queue other different),
    fun other different => (two.standing other different).trans (one.standing other different)⟩

theorem SameElsewhere.settled {key other : String} {before after : Frontier}
    (same : SameElsewhere key before after) (different : other ≠ key)
    (settled : before.Settled other) : after.Settled other := by
  unfold Settled at settled ⊢
  rwa [same.queue other different, same.standing other different]

structure Shift (key : String) (before after : Frontier) : Prop where
  once : before.keys.Nodup → after.keys.Nodup
  ascending : Filed.Ascending before.tiers.filed → Filed.Ascending after.tiers.filed
  same : SameElsewhere key before after

structure Moors (key : String) (before after : Frontier) : Prop extends Shift key before after where
  settled : after.Settled key

theorem Shift.trans {key : String} {first second third : Frontier} (one : Shift key first second) (two : Shift key second third) :
    Shift key first third :=
  ⟨fun once => two.once (one.once once), fun filed => two.ascending (one.ascending filed),
    one.same.trans two.same⟩

theorem Shift.still {key : String} {first second : Frontier}
    (queues : second.queues = first.queues)
    (ascending : Filed.Ascending first.tiers.filed → Filed.Ascending second.tiers.filed)
    (standing : ∀ key, second.standing key = first.standing key) : Shift key first second := by
  refine ⟨fun once => ?_, ascending, fun other _ => ?_, fun other _ => standing other⟩
  · rw [keys, queues]
    exact once
  · exact queues_queue first second other queues

theorem Shift.settles {key : String} {first second third : Frontier} (shift : Shift key first second) (moors : Moors key second third) :
    Moors key first third :=
  ⟨shift.trans moors.toShift, moors.settled⟩

theorem settled_queue (frontier : Frontier) (key : String) (queue : WorkQueue)
    (registered : frontier.Registered) (found : frontier.queue? key = some queue) :
    queue.StandsAt (frontier.standing key) := by
  have settled := registered.settled key
  simpa only [Settled, found] using settled

theorem store_elsewhere (frontier : Frontier) (queue : WorkQueue) :
    SameElsewhere queue.key frontier (frontier.store queue) :=
  ⟨store_other frontier queue, fun _ _ => rfl⟩

theorem publish_elsewhere (frontier : Frontier) (key : String) :
    SameElsewhere key frontier (frontier.publish key) := by
  refine ⟨fun _ _ => rfl, fun other different => ?_⟩
  simp [standing, publish, Ne.symm different]

theorem publish_here (frontier : Frontier) (key : String) :
    (frontier.publish key).standing key =
      { frontier.standing key with ready := (frontier.standing key).ready + 1 } := by
  simp [standing, publish]

theorem file_elsewhere (frontier : Frontier) (key : String) (tier : Nat) :
    SameElsewhere key frontier (frontier.file key tier) := by
  refine ⟨fun _ _ => rfl, fun other different => ?_⟩
  simp [standing, file, Tiers.file, Tiers.keys, Filed.append_count, Ne.symm different]

theorem file_here (frontier : Frontier) (key : String) (tier : Nat) :
    (frontier.file key tier).standing key =
      { frontier.standing key with inactive := (frontier.standing key).inactive + 1 } := by
  simp [standing, file, Tiers.file, Tiers.keys, Filed.append_count]

def hold (frontier : Frontier) (key : String) : Frontier :=
  { frontier with claims := key :: frontier.claims }

theorem hold_elsewhere (frontier : Frontier) (key : String) :
    SameElsewhere key frontier (frontier.hold key) := by
  refine ⟨fun _ _ => rfl, fun other different => ?_⟩
  simp [standing, hold, Ne.symm different]

theorem hold_here (frontier : Frontier) (key : String) :
    (frontier.hold key).standing key =
      { frontier.standing key with claimed := (frontier.standing key).claimed + 1 } := by
  simp [standing, hold]

theorem release_elsewhere (frontier : Frontier) (key : String) :
    SameElsewhere key frontier (frontier.release key) := by
  refine ⟨fun _ _ => rfl, fun other different => ?_⟩
  simp [standing, release, List.count_erase_of_ne different]

theorem release_here (frontier : Frontier) (key : String) :
    (frontier.release key).standing key =
      { frontier.standing key with claimed := (frontier.standing key).claimed - 1 } := by
  simp [standing, release]

theorem snooze_elsewhere (frontier : Frontier) (key : String) (wake : Time.Instant) :
    SameElsewhere key frontier (frontier.snooze key wake) := by
  refine ⟨fun _ _ => rfl, fun other different => ?_⟩
  simp only [standing, snooze]
  rw [Snoozed.insert_filter_other { wake, key } other frontier.snoozed different]

theorem snooze_here (frontier : Frontier) (key : String) (wake : Time.Instant)
    (awake : (frontier.standing key).snoozed = []) :
    (frontier.snooze key wake).standing key =
      { frontier.standing key with snoozed := [{ wake, key }] } := by
  simp only [standing, snooze]
  rw [Snoozed.insert_filter_fresh { wake, key } frontier.snoozed awake]

def shelve (frontier : Frontier) (key : String) : Frontier :=
  { frontier with retired := Retired.insert key frontier.retired }

theorem shelve_elsewhere (frontier : Frontier) (key : String) :
    SameElsewhere key frontier (frontier.shelve key) := by
  refine ⟨fun _ _ => rfl, fun other different => ?_⟩
  simp only [standing, shelve]
  rw [Retired.insert_other key other frontier.retired different]

theorem shelve_here (frontier : Frontier) (key : String)
    (fresh : (frontier.standing key).retired = 0) :
    (frontier.shelve key).standing key = { frontier.standing key with retired := 1 } := by
  simp only [standing, shelve]
  rw [Retired.insert_fresh key frontier.retired fresh]

section Stands

variable (frontier : Frontier) (queue : WorkQueue)
  (nowhere : frontier.standing queue.key = .nowhere)

include nowhere

theorem publish_stands (ready : queue.state = .ready) (awake : queue.wakeTime = none) :
    queue.StandsAt ((frontier.publish queue.key).standing queue.key) := by
  rw [publish_here, nowhere]
  simp only [WorkQueue.StandsAt, ready]
  exact ⟨rfl, awake⟩

theorem file_stands (tier : Nat) (inactive : queue.state = .inactive)
    (awake : queue.wakeTime = none) :
    queue.StandsAt ((frontier.file queue.key tier).standing queue.key) := by
  rw [file_here, nowhere]
  simp only [WorkQueue.StandsAt, inactive]
  exact ⟨rfl, awake⟩

theorem hold_stands (process : queue.state = .inProcess) (some : queue.items ≠ [])
    (awake : queue.wakeTime = none) :
    queue.StandsAt ((frontier.hold queue.key).standing queue.key) := by
  rw [hold_here, nowhere]
  simp only [WorkQueue.StandsAt, process]
  exact ⟨rfl, some, awake⟩

theorem snooze_stands (wake : Time.Instant) (snoozed : queue.state = .snoozed)
    (asleep : queue.wakeTime = some wake) :
    queue.StandsAt ((frontier.snooze queue.key wake).standing queue.key) := by
  rw [snooze_here frontier queue.key wake (by rw [nowhere]; rfl), nowhere]
  simp only [WorkQueue.StandsAt, snoozed]
  exact ⟨wake, rfl, asleep⟩

theorem shelve_stands (retired : queue.state = .retired) (awake : queue.wakeTime = none) :
    queue.StandsAt ((frontier.shelve queue.key).standing queue.key) := by
  rw [shelve_here frontier queue.key (by rw [nowhere]; rfl), nowhere]
  simp only [WorkQueue.StandsAt, retired]
  exact ⟨trivial, awake⟩

end Stands

theorem store_shift (frontier : Frontier) (queue : WorkQueue) :
    Shift queue.key frontier (frontier.store queue) :=
  ⟨fun once => by simpa using once, id, store_elsewhere frontier queue⟩

section Moors

variable (frontier : Frontier) (queue : WorkQueue)

theorem stored_moors {after : Frontier} {old : WorkQueue}
    (found : frontier.queue? queue.key = some old)
    (put : Shift queue.key (frontier.store queue) after)
    (queues : after.queues = (frontier.store queue).queues)
    (stands : queue.StandsAt (after.standing queue.key)) : Moors queue.key frontier after := by
  have stored : after.queue? queue.key = some queue :=
    (queues_queue (frontier.store queue) after queue.key queues).trans
      (store_same frontier queue old found)
  exact ⟨(store_shift frontier queue).trans put, by simpa only [Settled, stored] using stands⟩

variable {old : WorkQueue} (found : frontier.queue? queue.key = some old)
  (nowhere : frontier.standing queue.key = .nowhere)

include found nowhere

theorem ready_moors (ready : queue.state = .ready) (awake : queue.wakeTime = none) :
    Moors queue.key frontier ((frontier.store queue).publish queue.key) :=
  stored_moors frontier queue found ⟨id, id, publish_elsewhere _ queue.key⟩ rfl
    (publish_stands (frontier.store queue) queue nowhere ready awake)

theorem inactive_moors (tier : Nat) (inactive : queue.state = .inactive)
    (awake : queue.wakeTime = none) :
    Moors queue.key frontier ((frontier.store queue).file queue.key tier) :=
  stored_moors frontier queue found
    ⟨id, Filed.append_ascending tier queue.key _, file_elsewhere _ queue.key tier⟩ rfl
    (file_stands (frontier.store queue) queue nowhere tier inactive awake)

theorem held_moors (process : queue.state = .inProcess) (some : queue.items ≠ [])
    (awake : queue.wakeTime = none) :
    Moors queue.key frontier ((frontier.store queue).hold queue.key) :=
  stored_moors frontier queue found ⟨id, id, hold_elsewhere _ queue.key⟩ rfl
    (hold_stands (frontier.store queue) queue nowhere process some awake)

theorem snoozed_moors (wake : Time.Instant) (snoozed : queue.state = .snoozed)
    (asleep : queue.wakeTime = some wake) :
    Moors queue.key frontier ((frontier.store queue).snooze queue.key wake) :=
  stored_moors frontier queue found ⟨id, id, snooze_elsewhere _ queue.key wake⟩ rfl
    (snooze_stands (frontier.store queue) queue nowhere wake snoozed asleep)

theorem retired_moors (retired : queue.state = .retired) (awake : queue.wakeTime = none) :
    Moors queue.key frontier ((frontier.store queue).shelve queue.key) :=
  stored_moors frontier queue found ⟨id, id, shelve_elsewhere _ queue.key⟩ rfl
    (shelve_stands (frontier.store queue) queue nowhere retired awake)

theorem empty_moors (empty : queue.state = .empty) (none : queue.items = [])
    (awake : queue.wakeTime = .none) : Moors queue.key frontier (frontier.store queue) := by
  refine stored_moors frontier queue found (.still rfl id fun _ => rfl) rfl ?_
  simp only [WorkQueue.StandsAt, empty]
  exact ⟨nowhere, none, awake⟩

end Moors

theorem Loose.found {frontier : Frontier} {key : String} (loose : frontier.Loose key) :
    ∃ queue, frontier.queue? key = some queue := by
  cases found : frontier.queue? key with
  | some queue => exact ⟨queue, rfl⟩
  | none => exact absurd loose.known ((queue_missing frontier key).mp found)

theorem Loose.store {frontier : Frontier} (queue : WorkQueue) (loose : frontier.Loose queue.key) :
    (frontier.store queue).Loose queue.key :=
  ⟨by simpa using loose.once, loose.ascending, by simpa using loose.known, loose.nowhere,
    fun other different =>
      (store_elsewhere frontier queue).settled different (loose.others other different)⟩

theorem Loose.moor {before after : Frontier} {key : String} (loose : before.Loose key)
    (moors : Moors key before after) : after.Registered := by
  refine ⟨moors.once loose.once, moors.ascending loose.ascending, fun other => ?_⟩
  by_cases here : other = key
  · exact here ▸ moors.settled
  · exact moors.same.settled here (loose.others other here)

section Landing

variable (frontier : Frontier) (queue : WorkQueue) (loose : frontier.Loose queue.key)

include loose

theorem land_ready (ready : queue.state = .ready) (awake : queue.wakeTime = none) :
    ((frontier.store queue).publish queue.key).Registered := by
  obtain ⟨_, found⟩ := loose.found
  exact loose.moor (ready_moors frontier queue found loose.nowhere ready awake)

theorem land_inactive (tier : Nat) (inactive : queue.state = .inactive)
    (awake : queue.wakeTime = none) :
    ((frontier.store queue).file queue.key tier).Registered := by
  obtain ⟨_, found⟩ := loose.found
  exact loose.moor (inactive_moors frontier queue found loose.nowhere tier inactive awake)

theorem land_empty (exhausted : queue.state = .empty) (none : queue.items = [])
    (awake : queue.wakeTime = .none) : (frontier.store queue).Registered := by
  obtain ⟨_, found⟩ := loose.found
  exact loose.moor (empty_moors frontier queue found loose.nowhere exhausted none awake)

theorem land_held (process : queue.state = .inProcess) (some : queue.items ≠ [])
    (awake : queue.wakeTime = none) : ((frontier.store queue).hold queue.key).Registered := by
  obtain ⟨_, found⟩ := loose.found
  exact loose.moor (held_moors frontier queue found loose.nowhere process some awake)

theorem land_snoozed (wake : Time.Instant) (snoozed : queue.state = .snoozed)
    (asleep : queue.wakeTime = some wake) :
    ((frontier.store queue).snooze queue.key wake).Registered := by
  obtain ⟨_, found⟩ := loose.found
  exact loose.moor (snoozed_moors frontier queue found loose.nowhere wake snoozed asleep)

theorem land_retired (retired : queue.state = .retired) (awake : queue.wakeTime = none) :
    ((frontier.store queue).shelve queue.key).Registered := by
  obtain ⟨_, found⟩ := loose.found
  exact loose.moor (retired_moors frontier queue found loose.nowhere retired awake)

end Landing

theorem stands_counts (queue : WorkQueue) (standing : Standing) (stands : queue.StandsAt standing) :
    standing.ready = (if queue.state = .ready then 1 else 0) ∧
      standing.inactive = (if queue.state = .inactive then 1 else 0) ∧
      standing.snoozed.length = (if queue.state = .snoozed then 1 else 0) ∧
      standing.retired = (if queue.state = .retired then 1 else 0) ∧
      standing.claimed = (if queue.state = .inProcess then 1 else 0) := by
  unfold WorkQueue.StandsAt at stands
  cases state : queue.state with
  | snoozed =>
      rw [state] at stands
      obtain ⟨wake, same, _⟩ := stands
      simp [same, Standing.nowhere]
  | empty | ready | inProcess | inactive | retired =>
      rw [state] at stands
      simp [stands.1, Standing.nowhere]

theorem stands_state (queue : WorkQueue) (standing : Standing) (stands : queue.StandsAt standing) :
    (standing.ready ≠ 0 → queue.state = .ready) ∧
      (standing.inactive ≠ 0 → queue.state = .inactive) ∧
      (standing.snoozed ≠ [] → queue.state = .snoozed) ∧
      (standing.retired ≠ 0 → queue.state = .retired) ∧
      (standing.claimed ≠ 0 → queue.state = .inProcess) := by
  obtain ⟨ready, inactive, snoozed, retired, claimed⟩ := stands_counts queue standing stands
  simp only [ne_eq, ← List.length_eq_zero_iff]
  grind

theorem stands_kept (old new : WorkQueue) (standing : Standing) (key : new.key = old.key)
    (state : new.state = old.state) (wake : new.wakeTime = old.wakeTime)
    (empty : new.state = .empty → new.items = []) (process : new.state = .inProcess → new.items ≠ [])
    (stands : old.StandsAt standing) : new.StandsAt standing := by
  unfold WorkQueue.StandsAt at stands ⊢
  rw [← state, ← wake, ← key] at stands
  cases now : new.state with
  | empty =>
      simp only [now] at stands
      exact ⟨stands.1, empty now, stands.2.2⟩
  | inProcess =>
      simp only [now] at stands
      exact ⟨stands.1, process now, stands.2.2⟩
  | ready | snoozed | inactive | retired => simpa only [now] using stands

theorem Tidy.found {frontier : Frontier} (tidy : frontier.Tidy) (key : String)
    (stands : frontier.standing key ≠ .nowhere) :
    ∃ queue, frontier.queue? key = some queue ∧ queue.key = key ∧
      queue.StandsAt (frontier.standing key) := by
  rcases tidy.neat key with settled | strays
  · unfold Settled at settled
    cases found : frontier.queue? key with
    | none =>
        rw [found] at settled
        exact absurd settled stands
    | some queue =>
        rw [found] at settled
        exact ⟨queue, rfl, queue_key frontier key queue found, settled⟩
  · exact absurd strays.1 stands

theorem Tidy.ready {frontier : Frontier} (tidy : frontier.Tidy) {key : String}
    (listed : key ∈ frontier.ready) :
    ∃ queue, frontier.queue? key = some queue ∧ queue.key = key ∧ queue.state = .ready ∧
      frontier.standing key = { Standing.nowhere with ready := 1 } ∧ queue.wakeTime = none := by
  have counted : (frontier.standing key).ready ≠ 0 := by
    simpa [standing, List.count_eq_zero] using listed
  obtain ⟨queue, found, named, stands⟩ := tidy.found key (fun nowhere => by
    simp [nowhere, Standing.nowhere] at counted)
  have state := (stands_state queue _ stands).1 counted
  simp only [WorkQueue.StandsAt, state] at stands
  exact ⟨queue, found, named, state, stands⟩

theorem Tidy.inactive {frontier : Frontier} (tidy : frontier.Tidy) {key : String}
    (listed : key ∈ frontier.tiers.keys) :
    ∃ queue, frontier.queue? key = some queue ∧ queue.key = key ∧ queue.state = .inactive ∧
      frontier.standing key = { Standing.nowhere with inactive := 1 } ∧ queue.wakeTime = none := by
  have counted : (frontier.standing key).inactive ≠ 0 := by
    simpa [standing, List.count_eq_zero] using listed
  obtain ⟨queue, found, named, stands⟩ := tidy.found key (fun nowhere => by
    simp [nowhere, Standing.nowhere] at counted)
  have state := (stands_state queue _ stands).2.1 counted
  simp only [WorkQueue.StandsAt, state] at stands
  exact ⟨queue, found, named, state, stands⟩

theorem Tidy.snoozed {frontier : Frontier} (tidy : frontier.Tidy) {entry : SnoozeEntry}
    (listed : entry ∈ frontier.snoozed) :
    ∃ queue, frontier.queue? entry.key = some queue ∧ queue.key = entry.key ∧
      queue.state = .snoozed ∧
      frontier.standing entry.key = { Standing.nowhere with snoozed := [entry] } ∧
      queue.wakeTime = some entry.wake := by
  have kept : entry ∈ (frontier.standing entry.key).snoozed := by
    simpa [standing] using listed
  have counted : (frontier.standing entry.key).snoozed ≠ [] := List.ne_nil_of_mem kept
  obtain ⟨queue, found, named, stands⟩ := tidy.found entry.key (fun nowhere => by
    simp [nowhere, Standing.nowhere] at counted)
  have state := (stands_state queue _ stands).2.2.1 counted
  simp only [WorkQueue.StandsAt, state] at stands
  obtain ⟨wake, here, asleep⟩ := stands
  rw [here] at kept
  have same : entry = { wake, key := queue.key } := by simpa using kept
  exact ⟨queue, found, named, state, by rw [here, ← same], by rw [asleep, same]⟩

theorem Tidy.retired {frontier : Frontier} (tidy : frontier.Tidy) {key : String}
    (listed : key ∈ frontier.retired) :
    ∃ queue, frontier.queue? key = some queue ∧ queue.key = key ∧ queue.state = .retired ∧
      frontier.standing key = { Standing.nowhere with retired := 1 } ∧ queue.wakeTime = none := by
  have counted : (frontier.standing key).retired ≠ 0 := by
    simpa [standing, List.count_eq_zero] using listed
  obtain ⟨queue, found, named, stands⟩ := tidy.found key (fun nowhere => by
    simp [nowhere, Standing.nowhere] at counted)
  have state := (stands_state queue _ stands).2.2.2.1 counted
  simp only [WorkQueue.StandsAt, state] at stands
  exact ⟨queue, found, named, state, stands⟩

theorem Tidy.claimed {frontier : Frontier} (tidy : frontier.Tidy) {key : String}
    (listed : key ∈ frontier.claims) :
    ∃ queue, frontier.queue? key = some queue ∧ queue.key = key ∧ queue.state = .inProcess ∧
      frontier.standing key = { Standing.nowhere with claimed := 1 } ∧ queue.items ≠ [] ∧
      queue.wakeTime = none := by
  have counted : (frontier.standing key).claimed ≠ 0 := by
    simpa [standing, List.count_eq_zero] using listed
  obtain ⟨queue, found, named, stands⟩ := tidy.found key (fun nowhere => by
    simp [nowhere, Standing.nowhere] at counted)
  have state := (stands_state queue _ stands).2.2.2.2 counted
  simp only [WorkQueue.StandsAt, state] at stands
  exact ⟨queue, found, named, state, stands⟩

theorem ready_queue (frontier : Frontier) (key : String) (registered : frontier.Registered)
    (listed : key ∈ frontier.ready) :
    ∃ queue, frontier.queue? key = some queue ∧ queue.key = key ∧ queue.state = .ready ∧
      frontier.standing key = { Standing.nowhere with ready := 1 } ∧ queue.wakeTime = none :=
  registered.tidy.ready listed

theorem inactive_queue (frontier : Frontier) (key : String) (registered : frontier.Registered)
    (listed : key ∈ frontier.tiers.keys) :
    ∃ queue, frontier.queue? key = some queue ∧ queue.key = key ∧ queue.state = .inactive ∧
      frontier.standing key = { Standing.nowhere with inactive := 1 } ∧ queue.wakeTime = none :=
  registered.tidy.inactive listed

theorem snoozed_queue (frontier : Frontier) (entry : SnoozeEntry)
    (registered : frontier.Registered) (listed : entry ∈ frontier.snoozed) :
    ∃ queue, frontier.queue? entry.key = some queue ∧ queue.key = entry.key ∧
      queue.state = .snoozed ∧
      frontier.standing entry.key = { Standing.nowhere with snoozed := [entry] } ∧
      queue.wakeTime = some entry.wake :=
  registered.tidy.snoozed listed

theorem retired_queue (frontier : Frontier) (key : String) (registered : frontier.Registered)
    (listed : key ∈ frontier.retired) :
    ∃ queue, frontier.queue? key = some queue ∧ queue.key = key ∧ queue.state = .retired ∧
      frontier.standing key = { Standing.nowhere with retired := 1 } ∧ queue.wakeTime = none :=
  registered.tidy.retired listed

theorem claimed_queue (frontier : Frontier) (key : String) (registered : frontier.Registered)
    (listed : key ∈ frontier.claims) :
    ∃ queue, frontier.queue? key = some queue ∧ queue.key = key ∧ queue.state = .inProcess ∧
      frontier.standing key = { Standing.nowhere with claimed := 1 } ∧ queue.items ≠ [] ∧
      queue.wakeTime = none :=
  registered.tidy.claimed listed

structure TakenOff (key : String) (before after : Frontier) : Prop where
  same : SameElsewhere key before after
  nowhere : after.standing key = .nowhere

theorem take_ready (frontier : Frontier) (key : String) (rest : List String)
    (tidy : frontier.Tidy) (first : frontier.ready = key :: rest) :
    TakenOff key frontier { frontier with ready := rest } := by
  have listed : key ∈ frontier.ready := by simp [first]
  obtain ⟨queue, found, _, _, here, _⟩ := tidy.ready listed
  refine ⟨⟨fun _ _ => rfl, fun other different => ?_⟩, ?_⟩
  · simp [standing, first, Ne.symm different]
  · have counted := congrArg Standing.ready here
    simp only [standing, first, List.count_cons_self, Standing.nowhere] at counted here ⊢
    simp_all

theorem take_claim (frontier : Frontier) (key : String) (tidy : frontier.Tidy)
    (listed : key ∈ frontier.claims) : TakenOff key frontier (frontier.release key) := by
  obtain ⟨queue, found, _, _, here, _⟩ := tidy.claimed listed
  refine ⟨release_elsewhere frontier key, ?_⟩
  rw [release_here, here]
  rfl

theorem take_snoozed (frontier : Frontier) (entry : SnoozeEntry) (rest : Snoozed)
    (tidy : frontier.Tidy) (first : frontier.snoozed = entry :: rest) :
    TakenOff entry.key frontier { frontier with snoozed := rest } := by
  have listed : entry ∈ frontier.snoozed := by simp [first]
  obtain ⟨queue, found, _, _, here, _⟩ := tidy.snoozed listed
  refine ⟨⟨fun _ _ => rfl, fun other different => ?_⟩, ?_⟩
  · simp [standing, first, Ne.symm different]
  · simp only [standing, first, List.filter_cons, decide_true, if_true, Standing.nowhere] at here ⊢
    simp_all

theorem Registered.loosen {before after : Frontier} {key : String} {queue : WorkQueue}
    (registered : before.Registered) (found : before.queue? key = some queue)
    (keys : after.keys = before.keys) (ascending : Filed.Ascending after.tiers.filed)
    (same : SameElsewhere key before after) (nowhere : after.standing key = .nowhere) :
    after.Loose key :=
  ⟨keys ▸ registered.once, ascending, keys ▸ queue_known before key queue found, nowhere,
    fun other different => same.settled different (registered.settled other)⟩

theorem loosen_ready (frontier : Frontier) (key : String) (rest : List String)
    (registered : frontier.Registered) (first : frontier.ready = key :: rest) :
    { frontier with ready := rest }.Loose key := by
  obtain ⟨queue, found, _⟩ := ready_queue frontier key registered (by simp [first])
  obtain ⟨same, nowhere⟩ := take_ready frontier key rest registered.tidy first
  exact registered.loosen found rfl registered.ascending same nowhere

theorem loosen_claimed (frontier : Frontier) (key : String) (registered : frontier.Registered)
    (listed : key ∈ frontier.claims) : (frontier.release key).Loose key := by
  obtain ⟨queue, found, _⟩ := claimed_queue frontier key registered listed
  obtain ⟨same, nowhere⟩ := take_claim frontier key registered.tidy listed
  exact registered.loosen found rfl registered.ascending same nowhere

theorem loosen_snoozed (frontier : Frontier) (entry : SnoozeEntry) (rest : Snoozed)
    (registered : frontier.Registered) (first : frontier.snoozed = entry :: rest) :
    { frontier with snoozed := rest }.Loose entry.key := by
  obtain ⟨queue, found, _⟩ := snoozed_queue frontier entry registered (by simp [first])
  obtain ⟨same, nowhere⟩ := take_snoozed frontier entry rest registered.tidy first
  exact registered.loosen found rfl registered.ascending same nowhere

theorem loosen_empty (frontier : Frontier) (key : String) (queue : WorkQueue)
    (registered : frontier.Registered) (found : frontier.queue? key = some queue)
    (empty : queue.state = .empty) : frontier.Loose key := by
  have stands := settled_queue frontier key queue registered found
  simp only [WorkQueue.StandsAt, empty] at stands
  exact registered.loosen found rfl registered.ascending ⟨fun _ _ => rfl, fun _ _ => rfl⟩ stands.1

end Frontier

end PoliteCrawl
