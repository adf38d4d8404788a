import PoliteCrawl.Proofs.Frontier.Pulls
import PoliteCrawl.Proofs.World.Acting
import PoliteCrawl.Proofs.World.Serving

set_option autoImplicit false

namespace PoliteCrawl

namespace Frontier

def Sorted (frontier : Frontier) : Prop :=
  Filed.Ascending frontier.tiers.filed

theorem sorted_shelving : Shelving nobody fun before after => before.Sorted → after.Sorted where
  refl _ := id
  trans _ _ _ one two := two ∘ one
  route _ _ := id
  store _ _ _ := id
  add _ _ _ _ := id
  file _ _ kept := kept
  count _ := id
  publish _ _ := id
  shelve _ _ := id

theorem sorted_completing :
    Completing nobody fun before after => before.Sorted → after.Sorted where
  toShelving := sorted_shelving
  snooze _ _ _ := id
  awaken _ _ _ _ _ := id
  release _ _ := id
  charge _ _ := id
  alarm _ _ := id
  tell _ _ _ := id

theorem sorted_acting : World.Acting nobody fun before after => before.Sorted → after.Sorted where
  completing := sorted_completing
  dispatching :=
    { toShelving := sorted_shelving
      hold _ _ _ _ := id
      release _ _ := id
      reclassify _ := id }
  pulling :=
    { toPlacing := sorted_shelving.toPlacing
      take _ _ _ _ := id
      pull _ _ := id
      signal _ _ := id }
  permits :=
    { refl _ := id
      trans _ _ _ one two := two ∘ one
      mark _ _ _ := id
      retarget _ _ _ _ _ := id
      notify _ := id
      call _ := id
      snooze _ _ := id
      close _ _ _ _ := id
      wake := wake_dozed sorted_completing.toDozing }
  advance _ _ := id
  record _ _ _ := id
  order _ _ _ _ := id
  fund _ _ := id
  offer _ _ := id
  pass _ _ := id

-- Every key stands in the tier that its queue belongs to now.
def FiledRight (frontier : Frontier) : Prop :=
  ∀ tier key, key ∈ Filed.keysAt frontier.tiers.filed tier →
    frontier.currentTier? key = some tier

theorem FiledRight.lowest {before after : Frontier} {key : String} {tier : Nat}
    (right : before.FiledRight) (sorted : before.Sorted)
    (readies : before.Readies after key tier) : Tiers.lowest before.tiers.filed = tier := by
  have occupied (place : Nat) (held : Filed.keysAt before.tiers.filed place ≠ []) :
      ∃ other, before.Awaits other place := by
    obtain ⟨other, member⟩ := List.exists_mem_of_ne_nil _ held
    have offered := Filed.keys_at_present place other before.tiers.filed member
    exact ⟨other, right place other member, offered, place, offered, Nat.le_refl place, member⟩
  apply Tiers.lowest_least before.tiers.filed tier sorted
  · obtain ⟨place, _, _, member⟩ := readies.awaited.listed
    have here : place = tier :=
      Option.some.inj ((right place key member).symm.trans readies.awaited.belongs)
    exact here ▸ List.ne_nil_of_mem member
  · intro place held
    obtain ⟨other, awaits⟩ := occupied place held
    exact readies.lowest other place awaits

end Frontier

theorem World.run_sorted (setup : Setup) (events : List Event) :
    (run setup events).frontier.Sorted := by
  refine run_induction (motive := fun _ world => world.frontier.Sorted) setup .nil ?_ events
  intro events event sorted
  exact Frontier.sorted_acting.next _ event sorted

/-- If a pull takes a queue out of the inactive ones and makes it ready, it does so with that queue
alone, which belongs to the lowest tier that has one to be found, by what the routing answers now. Its
tier is below the floor if and only if there is one below the floor to be found, and it is if every key
is filed where it belongs and the watermark is up to date, as it is while the routing does not fail. A
pull that may look and has a queue to find makes one ready, unless it fails; and what is handed over
later leaves inactive queues alone. -/
theorem pulls_ready_lowest_tier (setup : Setup) (events : List Event) (id attempt : Nat) :
    let frontier := (World.run setup events).frontier
    let after := (frontier.contend id attempt).1
    let floor := frontier.config.precedenceFloor
    (∀ key, frontier.queueState? key = some .inactive → after.queueState? key = some .ready →
      ∃ tier, frontier.Readies after key tier ∧ frontier.tiers.watermark < floor ∧
        (tier < floor ↔ ∃ other place, frontier.Awaits other place ∧ place < floor) ∧
        (frontier.FiledRight → frontier.tiers.watermark = Tiers.lowest frontier.tiers.filed →
          tier < floor)) ∧
    (Calm setup events → frontier.tiers.watermark = Tiers.lowest frontier.tiers.filed) ∧
    (frontier.pulling = false → frontier.mayActivate = true →
      (frontier.contend id attempt).2 ≠ .failed → (∃ key tier, frontier.Awaits key tier) →
        ∃ key tier, frontier.Readies after key tier) ∧
    ∀ due deadline, frontier.Withholds (frontier.stepPhase id (.flushing due deadline)).1 := by
  intro frontier after floor
  have sorted : frontier.Sorted := World.run_sorted setup events
  refine ⟨fun key inactive ready => ?_, World.run_marked setup events,
    fun free may fine awaited => ?_, fun due deadline => ?_⟩
  · obtain ⟨may, tier, readies⟩ :=
      frontier.contend_readies id attempt key sorted inactive ready
    have below : frontier.tiers.watermark < floor := by
      simp only [Frontier.mayActivate, Bool.and_eq_true, decide_eq_true_eq] at may
      exact may.2
    refine ⟨tier, readies, below, ⟨fun low => ?_, ?_⟩, fun right current => ?_⟩
    · exact ⟨key, tier, readies.awaited, low⟩
    · intro ⟨other, place, awaits, low⟩
      exact Nat.lt_of_le_of_lt (readies.lowest other place awaits) low
    · rw [← right.lowest sorted readies, ← current]
      exact below
  · have pulls := frontier.contend_pulls id attempt sorted free
    simp only [after]
    generalize frontier.contend id attempt = result at pulls fine
    obtain ⟨key, tier, _, readies⟩ | ⟨_, none⟩ := pulls
    · exact ⟨key, tier, readies⟩
    · obtain ⟨key, tier, awaits⟩ := awaited
      exact absurd awaits (none may fine key tier)
  · simp only [Frontier.stepPhase]
    split
    · exact frontier.collect_withholds id
    · split <;> exact .same rfl

def Setup.floored : Setup :=
  { Setup.plain with
    config := { FrontierConfig.default with holdQueues := true, precedenceFloor := 5 } }

def farRouting : Routing :=
  (Routing.new 1).setPrecedence "b.com" 7

-- One site waits below the floor and another one beyond it. Something happens, and then a worker is about
-- to pull.
def heldSites (meanwhile : List Event) : List Event :=
  [.reroute farRouting, .schedule (page "a.com" "1"), .schedule (page "b.com" "1"), .request .run,
    .call] ++ meanwhile ++ [.proceed 0, .proceed 0]

def heldFrontier (meanwhile : List Event) : Frontier :=
  (World.run Setup.floored (heldSites meanwhile)).frontier

theorem pulls_ready_lowest_tier_held_sites :
    let frontier := heldFrontier []
    (∃ tier, frontier.Readies (frontier.contend 0 0).1 "a.com" tier ∧ tier < 5) ∧
      ∃ key tier, frontier.Readies (frontier.contend 0 0).1 key tier := by
  intro frontier
  have filed : frontier.tiers.filed = [(1, ["a.com"]), (7, ["b.com"])] := by decide +kernel
  have right : frontier.FiledRight := by
    intro tier key member
    rw [filed] at member
    simp only [Filed.keysAt] at member
    split at member
    case isTrue low =>
      rw [List.mem_singleton.mp member, ← low]
      decide +kernel
    case isFalse =>
      split at member
      case isTrue high =>
        rw [List.mem_singleton.mp member, ← high]
        decide +kernel
      case isFalse => cases member
  have awaits : frontier.Awaits "a.com" 1 :=
    ⟨by decide +kernel, by decide +kernel, 1, by decide +kernel, Nat.le_refl 1,
      by decide +kernel⟩
  have calm : Calm Setup.floored (heldSites []) :=
    ⟨rfl, by simp [heldSites, Event.Calm, farRouting, Routing.setPrecedence, Routing.new]⟩
  obtain ⟨readied, marked, looks, _⟩ := pulls_ready_lowest_tier Setup.floored (heldSites []) 0 0
  obtain ⟨tier, readies, _, _, keeps⟩ :=
    readied "a.com" (by decide +kernel) (by decide +kernel)
  refine ⟨⟨tier, readies, keeps right (marked calm)⟩, ?_⟩
  exact looks (by decide +kernel) (by decide +kernel) (by decide +kernel) ⟨"a.com", 1, awaits⟩

def firstMoves : List Event :=
  [.reroute (farRouting.setPrecedence "a.com" 9)]

-- Or the routing fails another worker, who looks at the first site: it is lost, and the watermark is out
-- of date.
def firstLost : List Event :=
  [.reroute (farRouting.arm 1), .call, .proceed 1, .proceed 1, .proceed 1]

theorem pull_reaches_beyond_floor :
    ((heldFrontier firstMoves).config.precedenceFloor = 5 ∧
      (heldFrontier firstMoves).queueState? "b.com" = some .inactive ∧
      ((heldFrontier firstMoves).contend 0 0).1.queueState? "b.com" = some .ready ∧
      (heldFrontier firstMoves).currentTier? "b.com" = some 7) ∧
    (heldFrontier firstLost).config.precedenceFloor = 5 ∧
      (heldFrontier firstLost).queueState? "b.com" = some .inactive ∧
      ((heldFrontier firstLost).contend 0 0).1.queueState? "b.com" = some .ready ∧
      (heldFrontier firstLost).currentTier? "b.com" = some 7 := by
  decide +kernel

end PoliteCrawl
