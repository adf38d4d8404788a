import Mathlib.Data.List.Nodup
import PoliteCrawl.Signal

set_option autoImplicit false

namespace PoliteCrawl.Signal

def roll (signal : Signal) : List Nat :=
  signal.enrolled.map (·.1)

-- Who is still enrolled is enrolled as before or was woken; those who need not count may come and go.
structure Stirs (counts : Nat → Prop) (before after : Signal) : Prop where
  roll : ∀ id, counts id → (id ∈ after.roll ↔ id ∈ before.roll)
  kept : ∀ id wake, counts id → wake ≠ .waiting → (id, wake) ∈ before.enrolled →
    (id, wake) ∈ after.enrolled
  asleep : ∀ id, counts id → (id, .waiting) ∈ after.enrolled → (id, .waiting) ∈ before.enrolled

def Silent (signal : Signal) : Prop :=
  ∀ id, (id, .waiting) ∉ signal.enrolled

-- Afterwards one is picked, or nobody waits.
def Heeded (signal : Signal) : Prop :=
  (∃ id, (id, .picked) ∈ signal.enrolled) ∨ signal.Silent

variable {counts : Nat → Prop} {first second third : Signal}

theorem Stirs.refl (signal : Signal) : Stirs counts signal signal :=
  ⟨fun _ _ => Iff.rfl, fun _ _ _ _ => id, fun _ _ => id⟩

theorem Stirs.trans (one : Stirs counts first second) (two : Stirs counts second third) :
    Stirs counts first third where
  roll id counted := (two.roll id counted).trans (one.roll id counted)
  kept id wake counted woken member :=
    two.kept id wake counted woken (one.kept id wake counted woken member)
  asleep id counted waits := one.asleep id counted (two.asleep id counted waits)

theorem Stirs.fewer {fewer : Nat → Prop} (stirs : Stirs counts first second)
    (less : ∀ id, fewer id → counts id) : Stirs fewer first second where
  roll id counted := stirs.roll id (less id counted)
  kept id wake counted := stirs.kept id wake (less id counted)
  asleep id counted := stirs.asleep id (less id counted)

theorem Heeded.stirs (heeded : first.Heeded) (all : ∀ id, counts id)
    (stirs : Stirs counts first second) : second.Heeded := by
  rcases heeded with ⟨id, picked⟩ | silent
  · exact .inl ⟨id, stirs.kept id .picked (all id) (by simp) picked⟩
  · exact .inr fun id waits => silent id (stirs.asleep id (all id) waits)

theorem pick_nobody (enrolled : List (Nat × Wake)) (nobody : pickFirst? enrolled = none) (id : Nat) :
    (id, .waiting) ∉ enrolled := by
  induction enrolled with
  | nil => simp
  | cons entry rest ih =>
      obtain ⟨waiter, wake⟩ := entry
      cases wake with
      | waiting => cases nobody
      | _ =>
          rw [pickFirst?, Option.map_eq_none_iff] at nobody
          · simp [ih nobody]
          · simp

theorem pick_shape (enrolled picked : List (Nat × Wake)) (found : pickFirst? enrolled = some picked) :
    ∃ waiter front back, enrolled = front ++ (waiter, .waiting) :: back ∧
      picked = front ++ (waiter, .picked) :: back := by
  induction enrolled generalizing picked with
  | nil => cases found
  | cons entry rest ih =>
      obtain ⟨waiter, wake⟩ := entry
      cases wake with
      | waiting =>
          cases found
          exact ⟨waiter, [], rest, rfl, rfl⟩
      | _ =>
          rw [pickFirst?, Option.map_eq_some_iff] at found
          · obtain ⟨later, among, same⟩ := found
            obtain ⟨other, front, back, before, after⟩ := ih later among
            subst same before after
            exact ⟨other, _ :: front, back, rfl, rfl⟩
          · simp

theorem notify_one_roll (signal : Signal) : signal.notifyOne.roll = signal.roll := by
  rw [notifyOne]
  cases found : pickFirst? signal.enrolled with
  | none => rfl
  | some picked =>
      obtain ⟨waiter, front, back, before, after⟩ := pick_shape signal.enrolled picked found
      simp [roll, before, after]

theorem notify_one_stirs (signal : Signal) : Stirs counts signal signal.notifyOne := by
  refine ⟨fun id _ => by rw [notify_one_roll], fun id wake _ woken member => ?_, fun id _ waits => ?_⟩
  · rw [notifyOne]
    cases found : pickFirst? signal.enrolled with
    | none => exact member
    | some picked =>
        obtain ⟨waiter, front, back, before, after⟩ := pick_shape signal.enrolled picked found
        simp only [before, after, List.mem_append, List.mem_cons, Prod.mk.injEq] at member ⊢
        grind
  · rw [notifyOne] at waits
    cases found : pickFirst? signal.enrolled with
    | none =>
        rw [found] at waits
        exact waits
    | some picked =>
        obtain ⟨waiter, front, back, before, after⟩ := pick_shape signal.enrolled picked found
        rw [found] at waits
        simp only [before, after, List.mem_append, List.mem_cons, Prod.mk.injEq] at waits ⊢
        grind

theorem notify_one_heeded (signal : Signal) : signal.notifyOne.Heeded := by
  rw [notifyOne]
  cases found : pickFirst? signal.enrolled with
  | none => exact .inr (pick_nobody signal.enrolled found)
  | some picked =>
      obtain ⟨waiter, front, back, before, after⟩ := pick_shape signal.enrolled picked found
      exact .inl ⟨waiter, by simp [after]⟩

theorem call_id (entry : Nat × Wake) : (call entry).1 = entry.1 := by
  obtain ⟨waiter, wake⟩ := entry
  cases wake <;> rfl

theorem call_awake (entry : Nat × Wake) : (call entry).2 ≠ .waiting := by
  obtain ⟨waiter, wake⟩ := entry
  cases wake <;> simp [call]

theorem notify_all_silent (signal : Signal) : signal.notifyAll.Silent := by
  intro id waits
  obtain ⟨entry, _, same⟩ := List.mem_map.mp waits
  exact call_awake entry (congrArg Prod.snd same)

theorem notify_all_roll (signal : Signal) : signal.notifyAll.roll = signal.roll := by
  simp [roll, notifyAll, Function.comp_def, call_id]

theorem notify_all_stirs (signal : Signal) : Stirs counts signal signal.notifyAll := by
  refine ⟨fun id _ => by rw [notify_all_roll], fun id wake _ woken member => ?_, fun id _ waits => ?_⟩
  · refine List.mem_map.mpr ⟨(id, wake), member, ?_⟩
    cases wake with
    | waiting => exact absurd rfl woken
    | _ => rfl
  · exact absurd waits (notify_all_silent signal id)

theorem enrol_roll (signal : Signal) (waiter : Nat) :
    (signal.enrol waiter).roll = signal.roll ++ [waiter] := by
  rw [enrol]
  split <;> simp [roll]

theorem enrol_stirs (signal : Signal) (waiter : Nat) :
    Stirs (· ≠ waiter) signal (signal.enrol waiter) := by
  refine ⟨fun id other => ?_, fun id wake _ _ member => ?_, fun id other waits => ?_⟩
  · rw [enrol_roll]
    simp [other]
  · rw [enrol]
    split <;> exact List.mem_append_left _ member
  · rw [enrol] at waits
    split at waits <;> simpa [other] using waits

theorem consume_roll (signal : Signal) (waiter : Nat) :
    (signal.consume waiter).roll = signal.roll.filter (· ≠ waiter) := by
  simp [roll, consume, List.filter_map, Function.comp_def]

theorem consume_stirs (signal : Signal) (waiter : Nat) :
    Stirs (· ≠ waiter) signal (signal.consume waiter) where
  roll id other := by simp [consume_roll, other]
  kept id wake other _ member := List.mem_filter.mpr ⟨member, by simpa using other⟩
  asleep id _ waits := List.mem_of_mem_filter waits

theorem leave_roll (signal : Signal) (waiter : Nat) :
    (signal.leave waiter).roll = signal.roll.filter (· ≠ waiter) := by
  rw [leave]
  split
  · rw [notify_one_roll, consume_roll]
  · exact consume_roll signal waiter

theorem leave_stirs (signal : Signal) (waiter : Nat) :
    Stirs (· ≠ waiter) signal (signal.leave waiter) := by
  rw [leave]
  split
  · exact (consume_stirs signal waiter).trans (notify_one_stirs _)
  · exact consume_stirs signal waiter

theorem wake_iff (signal : Signal) (once : signal.roll.Nodup) (id : Nat) (wake : Wake) :
    signal.wakeOf? id = some wake ↔ (id, wake) ∈ signal.enrolled := by
  rw [wakeOf?, Option.map_eq_some_iff]
  constructor
  · rintro ⟨entry, found, same⟩
    have named : entry.1 = id := by simpa using List.find?_some found
    rw [← named, ← same]
    exact List.mem_of_find?_eq_some found
  · intro member
    cases found : signal.enrolled.find? (·.1 = id) with
    | none => exact (List.find?_eq_none.mp found (id, wake) member (by simp)).elim
    | some entry =>
        have named : entry.1 = id := by simpa using List.find?_some found
        have same := List.inj_on_of_nodup_map once (List.mem_of_find?_eq_some found) member named
        exact ⟨entry, rfl, congrArg Prod.snd same⟩

theorem awake_iff (signal : Signal) (once : signal.roll.Nodup) (id : Nat) :
    signal.isAwake id = true ↔ ∃ wake, wake ≠ .waiting ∧ (id, wake) ∈ signal.enrolled := by
  have known (wake : Wake) := signal.wake_iff once id wake
  rw [isAwake]
  constructor
  · intro awake
    cases found : signal.wakeOf? id with
    | none =>
        rw [found] at awake
        cases awake
    | some wake =>
        refine ⟨wake, fun waits => ?_, (known wake).mp found⟩
        rw [found, waits] at awake
        cases awake
  · rintro ⟨wake, woken, member⟩
    rw [(known wake).mpr member]
    cases wake with
    | waiting => exact absurd rfl woken
    | _ => rfl

theorem leave_heeded (signal : Signal) (waiter : Nat) (heeded : signal.Heeded)
    (once : signal.roll.Nodup) : (signal.leave waiter).Heeded := by
  rw [leave]
  by_cases own : signal.wakeOf? waiter = some .picked
  · rw [if_pos own]
    exact notify_one_heeded _
  · rw [if_neg own]
    rcases heeded with ⟨id, picked⟩ | silent
    · have other : id ≠ waiter := by
        intro same
        exact own ((wake_iff signal once waiter .picked).mpr (same ▸ picked))
      exact .inl ⟨id, (consume_stirs signal waiter).kept id .picked other (by simp) picked⟩
    · exact .inr fun id waits => silent id (List.mem_of_mem_filter waits)

theorem leave_silent (signal : Signal) (waiter : Nat) (silent : signal.Silent) :
    (signal.leave waiter).Silent := by
  have consumed : (signal.consume waiter).Silent :=
    fun id waits => silent id (List.mem_of_mem_filter waits)
  rw [leave]
  split
  · intro id waits
    have stirs : Stirs (fun _ => True) (signal.consume waiter) (signal.consume waiter).notifyOne :=
      notify_one_stirs _
    exact consumed id (stirs.asleep id trivial waits)
  · exact consumed

end PoliteCrawl.Signal
