import PoliteCrawl.Proofs.Frontier.Filing
import PoliteCrawl.Proofs.World.Floor
import PoliteCrawl.Proofs.World.Losses

set_option autoImplicit false

namespace PoliteCrawl

namespace Frontier

theorem Registered.listed {frontier : Frontier} (registered : frontier.Registered) {key : String}
    (inactive : frontier.queueState? key = some .inactive) : key ∈ frontier.tiers.keys := by
  obtain ⟨queue, found, state⟩ := Option.map_eq_some_iff.mp inactive
  have settled := registered.settled key
  simp only [Settled, found, WorkQueue.StandsAt, state] at settled
  have once : frontier.tiers.keys.count key = 1 := congrArg Standing.inactive settled.1
  exact List.count_pos_iff.mp (by omega)

theorem current_tier_inactive {frontier : Frontier} {key : String} {tier : Nat}
    (belongs : frontier.currentTier? key = some tier) :
    frontier.queueState? key = some .inactive := by
  obtain ⟨queue, found, rest⟩ := Option.bind_eq_some_iff.mp belongs
  split at rest
  case isTrue inactive => exact Option.map_eq_some_iff.mpr ⟨queue, found, inactive⟩
  case isFalse => cases rest

def Readied (before after : Frontier) (key : String) : Prop :=
  before.queueState? key = some .inactive ∧ after.queueState? key = some .ready

theorem Readies.readied {before after : Frontier} {key : String} {tier : Nat}
    (readies : before.Readies after key tier) : before.Readied after key := by
  obtain ⟨queue, found, ready, _⟩ := readies.ready
  exact ⟨current_tier_inactive readies.awaited.belongs, Option.map_eq_some_iff.mpr
    ⟨queue, found, ready⟩⟩

theorem pull_readies (frontier : Frontier) (id : Nat) (key : String)
    (ascending : Filed.Ascending frontier.tiers.filed)
    (readied : frontier.Readied (frontier.pull id).1 key) :
    ∃ tier, frontier.Readies (frontier.pull id).1 key tier := by
  obtain ⟨inactive, ready⟩ := readied
  have pulls := pull_pulls frontier id ascending
  generalize frontier.pull id = result at pulls ready
  cases pulls with
  | withholds withheld => exact nomatch (withheld key inactive).symm.trans ready
  | readies found tier _ readies =>
      have same : key = found := by
        apply Classical.byContradiction
        intro different
        exact nomatch inactive.symm.trans ((readies.others key different).symm.trans ready)
      exact ⟨tier, same ▸ readies⟩

section Calm

variable {frontier : Frontier} (calm : frontier.Calm) (registered : frontier.Registered)
  (marked : frontier.tiers.watermark = Tiers.lowest frontier.tiers.filed)

omit calm in
include registered marked in
theorem filed_may_activate {tier : Nat} {key : String}
    (member : key ∈ Filed.keysAt frontier.tiers.filed tier)
    (below : tier < frontier.config.precedenceFloor) : frontier.mayActivate = true := by
  have held : Filed.keysAt frontier.tiers.filed tier ≠ [] := List.ne_nil_of_mem member
  have some : frontier.tiers.keys ≠ [] :=
    List.ne_nil_of_mem ((Filed.keys_at_sublist tier _).subset member)
  have least := (Tiers.lowest_occupied _ registered.ascending some).2 tier held
  have size : frontier.tiers.size ≠ 0 := by
    rw [Tiers.size]
    exact fun none => some (List.length_eq_zero_iff.mp none)
  simp only [mayActivate, Bool.and_eq_true, decide_eq_true_eq]
  exact ⟨size, by omega⟩

include calm registered

omit marked in
theorem pull_finds (id : Nat) (may : frontier.mayActivate = true)
    (awaited : ∃ key tier, frontier.Awaits key tier) :
    ∃ key tier, frontier.Readies (frontier.pull id).1 key tier := by
  obtain ⟨found, answer, _⟩ := activate_proceeds frontier calm registered
  have readies := activate_readies frontier registered.ascending
  rw [pull, if_pos may]
  cases result : frontier.activateInactive with
  | mk after told =>
      rw [result] at answer readies
      cases answer
      cases found with
      | false =>
          obtain ⟨key, tier, awaits⟩ := awaited
          exact absurd awaits (readies.1 key tier)
      | true =>
          obtain ⟨key, tier, readied⟩ := readies
          exact ⟨key, tier, readied.awaited, readied.lowest, readied.ready, readied.others⟩

include marked in
theorem pull_finds_below (id : Nat) {other : String} {place : Nat}
    (awaits : frontier.Awaits other place) (below : place < frontier.config.precedenceFloor) :
    ∃ key tier, frontier.Readies (frontier.pull id).1 key tier ∧ tier ≤ place := by
  obtain ⟨tier, _, before, member⟩ := awaits.listed
  have may := filed_may_activate registered marked member (by omega)
  obtain ⟨key, tier, readies⟩ := pull_finds calm registered id may ⟨other, place, awaits⟩
  exact ⟨key, tier, readies, readies.lowest other place awaits⟩

omit marked in
theorem activate_files_right (none : ∀ key tier, ¬ frontier.Awaits key tier) :
    frontier.activateInactive.1.FiledRight ∧
      frontier.activateInactive.1.currentTier? = frontier.currentTier? := by
  obtain ⟨found, answer, _⟩ := activate_proceeds frontier calm registered
  have neat := registered.tidy.filed
  have rights := Tiers.activate_next_rights frontier.inspect_honest frontier frontier.tiers
    (.refl frontier) neat
  have finds := Tiers.scan_finds (inspect_honest frontier) (Filed.tiers frontier.tiers.filed)
    frontier frontier.tiers.filed (.refl frontier) neat.ascending
    ((Filed.ascending_iff frontier.tiers.filed).mp neat.ascending)
  rw [Filed.tiers] at finds
  simp only [activateInactive] at answer ⊢
  simp only [Tiers.activateNext] at answer rights ⊢
  cases result : Tiers.scan inspect (frontier.tiers.filed.map (·.1)) frontier
      frontier.tiers.filed with
  | mk after others =>
      obtain ⟨left, ended⟩ := others
      rw [result] at answer rights finds
      cases ended with
      | failed => cases answer
      | activated key =>
          obtain ⟨tier, due, _⟩ := finds
          exact absurd due (none key tier)
      | exhausted =>
          have same : after.currentTier? = frontier.currentTier? := finds.1.current
          refine ⟨fun tier key member => ?_, same⟩
          exact (congrFun same key).trans (rights rfl tier key member)

end Calm

end Frontier

/-- In every run in which the routing does not fail, let some site wait below the floor, and none that
waits belong to a lower tier. A pull makes a site of that tier ready if and only if one of them was filed
no higher than that, and that tier holds a key; it always does when every key is filed where it belongs.
Whatever a pull makes ready belongs to the lowest tier that has a key to be found, and when that one is
below the floor, a pull makes such a site ready. A scan in vain files every key where it belongs. -/
theorem pull_serves_best_in_reach (setup : Setup) (events : List Event) (id : Nat) (key : String)
    (best : Nat) (calm : Calm setup events)
    (waits : (World.run setup events).frontier.currentTier? key = some best)
    (least : ∀ other tier, (World.run setup events).frontier.currentTier? other = some tier →
      best ≤ tier)
    (below : best < (World.run setup events).frontier.config.precedenceFloor) :
    let frontier := (World.run setup events).frontier
    let after := (frontier.pull id).1
    ((∃ other, frontier.Readied after other ∧ frontier.currentTier? other = some best) ↔
      ∃ other, frontier.Awaits other best) ∧
    (frontier.FiledRight →
      ∃ other, frontier.Readied after other ∧ frontier.currentTier? other = some best) ∧
    (∀ other, frontier.Readied after other → ∃ tier, frontier.Readies after other tier) ∧
    (∀ other tier, frontier.Awaits other tier → tier < frontier.config.precedenceFloor →
      ∃ found lowest, frontier.Readies after found lowest ∧ lowest ≤ tier) ∧
    ((∀ other tier, ¬ frontier.Awaits other tier) →
      frontier.activateInactive.1.FiledRight ∧
        frontier.activateInactive.1.currentTier? = frontier.currentTier?) := by
  intro frontier after
  have kept := World.run_kept setup events calm
  have marked := World.run_marked setup events calm
  have sorted : frontier.Sorted := World.run_sorted setup events
  have reaches (awaited : ∃ other, frontier.Awaits other best) :
      ∃ other, frontier.Readied after other ∧ frontier.currentTier? other = some best := by
    obtain ⟨other, awaits⟩ := awaited
    obtain ⟨found, tier, readies, low⟩ :=
      Frontier.pull_finds_below kept.calm kept.registered marked id awaits below
    have belongs := readies.awaited.belongs
    have same : tier = best := Nat.le_antisymm low (least found tier belongs)
    exact ⟨found, readies.readied, same ▸ belongs⟩
  refine ⟨⟨?_, reaches⟩, fun right => ?_, fun other => frontier.pull_readies id other sorted,
    fun other tier awaits low => ?_, Frontier.activate_files_right kept.calm kept.registered⟩
  · intro ⟨other, readied, belongs⟩
    obtain ⟨tier, readies⟩ := frontier.pull_readies id other sorted readied
    have same : tier = best := Option.some.inj (readies.awaited.belongs.symm.trans belongs)
    exact ⟨other, same ▸ readies.awaited⟩
  · have listed := kept.registered.listed (Frontier.current_tier_inactive waits)
    obtain ⟨tier, member⟩ := Filed.keys_at_some key _ kept.registered.ascending listed
    have same : tier = best := Option.some.inj ((right tier key member).symm.trans waits)
    subst same
    have offered := Filed.keys_at_present tier key _ member
    exact reaches ⟨key, waits, offered, tier, offered, Nat.le_refl tier, member⟩
  · exact Frontier.pull_finds_below kept.calm kept.registered marked id awaits low

-- Two sites wait below the floor, or only the first of them. Then that one rises above the other.
def nearRouting : Routing :=
  ((Routing.new 1).setPrecedence "a.com" 4).setPrecedence "b.com" 3

def risenSites (others : List Event) : List Event :=
  [.reroute nearRouting, .schedule (page "a.com" "1")] ++ others ++
    [.request .run, .reroute (nearRouting.setPrecedence "a.com" 1)]

def risenFrontier (others : List Event) : Frontier :=
  (World.run Setup.floored (risenSites others)).frontier

theorem pull_serves_best_in_reach_held_sites :
    ∃ other, (heldFrontier []).Readied ((heldFrontier []).pull 0).1 other ∧
      (heldFrontier []).currentTier? other = some 1 := by
  have calm : Calm Setup.floored (heldSites []) :=
    ⟨rfl, by simp [heldSites, Event.Calm, farRouting, Routing.setPrecedence, Routing.new]⟩
  have awaits : (heldFrontier []).Awaits "a.com" 1 :=
    ⟨by decide +kernel, by decide +kernel, 1, by decide +kernel, Nat.le_refl 1,
      by decide +kernel⟩
  have keys : (heldFrontier []).keys = ["a.com", "b.com"] := by decide +kernel
  have least (other : String) (tier : Nat)
      (belongs : (heldFrontier []).currentTier? other = some tier) : 1 ≤ tier := by
    obtain ⟨queue, found, _⟩ := Option.bind_eq_some_iff.mp belongs
    have listed := Frontier.queue_known _ other queue found
    rw [keys] at listed
    have tiers : (heldFrontier []).currentTier? "a.com" = some 1 ∧
        (heldFrontier []).currentTier? "b.com" = some 7 := by decide +kernel
    simp only [List.mem_cons, List.not_mem_nil, or_false] at listed
    rcases listed with rfl | rfl
    · exact Nat.le_of_eq (Option.some.inj (tiers.1.symm.trans belongs))
    · have high : 7 = tier := Option.some.inj (tiers.2.symm.trans belongs)
      omega
  have serves := pull_serves_best_in_reach Setup.floored (heldSites []) 0 "a.com" 1 calm
    awaits.belongs least (by decide +kernel)
  exact serves.1.mpr ⟨"a.com", awaits⟩

theorem pull_passes_risen_site :
    (∀ others ∈ [[.schedule (page "b.com" "1")], []], Calm Setup.floored (risenSites others)) ∧
    ((risenFrontier [.schedule (page "b.com" "1")]).config.precedenceFloor = 5 ∧
      (risenFrontier [.schedule (page "b.com" "1")]).currentTier? "a.com" = some 1 ∧
      (risenFrontier [.schedule (page "b.com" "1")]).currentTier? "b.com" = some 3 ∧
      ((risenFrontier [.schedule (page "b.com" "1")]).pull 0).1.queueState? "a.com" =
        some .inactive ∧
      ((risenFrontier [.schedule (page "b.com" "1")]).pull 0).1.queueState? "b.com" =
        some .ready) ∧
    (risenFrontier []).currentTier? "a.com" = some 1 ∧
      ((risenFrontier []).pull 0).1.queueState? "a.com" = some .inactive := by
  refine ⟨?_, by decide +kernel⟩
  intro others member
  simp only [List.mem_cons, List.not_mem_nil, or_false] at member
  rcases member with rfl | rfl
  all_goals
    exact ⟨rfl, by
      simp [risenSites, Event.Calm, nearRouting, Routing.setPrecedence, Routing.new]⟩

end PoliteCrawl
