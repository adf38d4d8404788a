import PoliteCrawl.Frontier.Snapshot
import PoliteCrawl.Proofs.Frontier.Frame

set_option autoImplicit false

namespace PoliteCrawl

theorem Routing.ask_tells (routing : Routing) (key : String) :
    (∀ other, (routing.ask key).1.precedence other = routing.precedence other) ∧
      ∀ tier, (routing.ask key).2 = some tier → tier = routing.precedence key := by
  rw [ask]
  cases routing.faults with
  | nil =>
      refine ⟨fun _ => rfl, fun tier told => ?_⟩
      cases told
      rfl
  | cons fault rest =>
      refine ⟨fun _ => rfl, fun tier told => ?_⟩
      cases fault with
      | true => cases told
      | false =>
          cases told
          rfl

theorem WorkQueue.set_precedence (queue : WorkQueue) (tier : Nat) :
    (queue.setPrecedence tier).precedence = queue.hinted.elim tier (min tier) :=
  rfl

namespace Frontier

def currentTier? (frontier : Frontier) (key : String) : Option Nat :=
  (frontier.queue? key).bind fun queue =>
    if queue.state = .inactive then
      some (queue.setPrecedence (frontier.routing.precedence key)).precedence
    else none

def Awaits (frontier : Frontier) (key : String) (tier : Nat) : Prop :=
  Tiers.Due frontier.currentTier? frontier.tiers.filed (Filed.tiers frontier.tiers.filed) key tier

structure Looked (before after : Frontier) : Prop where
  routing : ∀ key, after.routing.precedence key = before.routing.precedence key
  bearing : ∀ key, (after.queue? key).map (fun queue => (queue.state, queue.hinted)) =
    (before.queue? key).map fun queue => (queue.state, queue.hinted)

theorem Looked.refl (frontier : Frontier) : frontier.Looked frontier :=
  ⟨fun _ => rfl, fun _ => rfl⟩

theorem Looked.trans {first second third : Frontier} (one : first.Looked second)
    (two : second.Looked third) : first.Looked third :=
  ⟨fun key => (two.routing key).trans (one.routing key),
    fun key => (two.bearing key).trans (one.bearing key)⟩

theorem Looked.states {before after : Frontier} (looked : before.Looked after) (key : String) :
    after.queueState? key = before.queueState? key := by
  have same := congrArg (Option.map Prod.fst) (looked.bearing key)
  simp only [Option.map_map] at same
  exact same

theorem Looked.current {before after : Frontier} (looked : before.Looked after) :
    after.currentTier? = before.currentTier? := by
  funext key
  have bearing := looked.bearing key
  rw [currentTier?, currentTier?, looked.routing key]
  cases found : after.queue? key with
  | none =>
      rw [found] at bearing
      rw [Option.map_eq_none_iff.mp bearing.symm]
  | some queue =>
      rw [found] at bearing
      obtain ⟨old, known, same⟩ := Option.map_eq_some_iff.mp bearing.symm
      obtain ⟨state, hinted⟩ := Prod.mk.inj same
      rw [known]
      simp only [Option.bind_some, state, WorkQueue.set_precedence, hinted]

theorem refresh_looked (frontier : Frontier) (queue : WorkQueue)
    (found : frontier.queue? queue.key = some queue) :
    frontier.Looked (frontier.refresh queue).1 ∧
      ∀ asked, (frontier.refresh queue).2 = some asked →
        asked = queue.setPrecedence (frontier.routing.precedence queue.key) ∧
          (frontier.refresh queue).1.queue? queue.key = some asked := by
  obtain ⟨same, tells⟩ := frontier.routing.ask_tells queue.key
  rw [refresh]
  cases result : frontier.routing.ask queue.key with
  | mk routing answer =>
      rw [result] at same tells
      cases answer with
      | none => exact ⟨⟨same, fun _ => rfl⟩, by simp⟩
      | some tier =>
          let asked := queue.setPrecedence tier
          have stored : ({ frontier with routing }.store asked).queue? queue.key = some asked :=
            store_same { frontier with routing } asked queue found
          refine ⟨⟨same, fun key => ?_⟩, fun asked told => ?_⟩
          · by_cases here : key = queue.key
            · subst here
              simp only [found]
              exact (congrArg _ stored).trans rfl
            · exact congrArg _ (store_other { frontier with routing } asked key here)
          · cases told
            exact ⟨congrArg queue.setPrecedence (tells tier rfl), stored⟩

inductive Look (frontier : Frontier) (key : String) (tier : Nat) :
    Frontier × Option Inspection → Prop where
  | fails {after : Frontier} (looked : frontier.Looked after) : Look frontier key tier (after, none)
  | tells {after : Frontier} {found : Inspection} (looked : frontier.Looked after)
      (told : found = Tiers.verdict (frontier.currentTier? key) tier)
      (other : found ≠ .activated) : Look frontier key tier (after, some found)
  | readies {after : Frontier} {queue : WorkQueue}
      (belongs : frontier.currentTier? key = some tier) (found : after.queue? key = some queue)
      (ready : queue.state = .ready) (precedence : queue.precedence = tier)
      (beside : Beside key frontier after) : Look frontier key tier (after, some .activated)

theorem inspect_look (frontier : Frontier) (key : String) (tier : Nat) :
    Look frontier key tier (frontier.inspect key tier) := by
  have current {queue asked : WorkQueue} (found : frontier.queue? queue.key = some queue)
      (inactive : queue.state = .inactive)
      (whole : asked = queue.setPrecedence (frontier.routing.precedence queue.key)) :
      frontier.currentTier? queue.key = some asked.precedence := by
    rw [currentTier?, found, whole]
    exact if_pos inactive
  have inspected := inspect_cases frontier key tier
  generalize frontier.inspect key tier = result at inspected
  cases inspected with
  | stale idle =>
      have nowhere : frontier.currentTier? key = none := by
        rw [currentTier?, Option.bind_eq_none_iff]
        intro queue found
        exact if_neg (idle queue found)
      exact .tells (.refl frontier) (by rw [nowhere, Tiers.verdict]) (by simp)
  | @fails queue after found inactive same =>
      have looked := (refresh_looked frontier queue found).1
      rw [same] at looked
      exact .fails looked
  | @readies queue asked after found inactive same right =>
      obtain ⟨looked, known⟩ := refresh_looked frontier queue found
      obtain ⟨besides, named⟩ := refresh_beside frontier queue
      rw [same] at known besides named
      obtain ⟨whole, stored⟩ := known asked rfl
      have key : asked.key = queue.key := named asked rfl
      let ready : WorkQueue := { asked with state := .ready }
      have put : (after.store ready).queue? queue.key = some ready := by
        rw [← key]
        exact store_same after ready asked (key.symm ▸ stored)
      exact .readies ((current found inactive whole).trans (congrArg some right)) put rfl right
        (besides.trans (key ▸ store_beside after ready))
  | @misfiled queue asked after found inactive same wrong =>
      obtain ⟨looked, known⟩ := refresh_looked frontier queue found
      rw [same] at looked known
      have belongs := current found inactive (known asked rfl).1
      exact .tells looked (by rw [belongs, Tiers.verdict, if_neg wrong]) (by simp)

theorem inspect_honest (start : Frontier) :
    Tiers.Honest inspect start.currentTier? start.Looked where
  answers state key tier found looked answer := by
    have look := inspect_look state key tier
    rw [← looked.current]
    cases result : state.inspect key tier with
    | mk after told =>
        rw [result] at answer look
        cases look with
        | fails => cases answer
        | tells _ told other =>
            cases answer
            exact told
        | readies belongs found ready precedence beside =>
            cases answer
            rw [belongs, Tiers.verdict, if_pos rfl]
  keeps state key tier looked other := by
    have look := inspect_look state key tier
    cases result : state.inspect key tier with
    | mk after told =>
        rw [result] at other look
        cases look with
        | fails still => exact looked.trans still
        | tells still => exact looked.trans still
        | readies => exact absurd rfl other

structure Readies (before after : Frontier) (key : String) (tier : Nat) : Prop where
  awaited : before.Awaits key tier
  lowest : ∀ other place, before.Awaits other place → tier ≤ place
  ready : ∃ queue, after.queue? key = some queue ∧ queue.state = .ready ∧ queue.precedence = tier
  others : ∀ other ≠ key, after.queueState? other = before.queueState? other

theorem activate_readies (frontier : Frontier)
    (ascending : Filed.Ascending frontier.tiers.filed) :
    match frontier.activateInactive with
    | (after, some true) => ∃ key tier, frontier.Readies after key tier
    | (after, some false) => (∀ key tier, ¬ frontier.Awaits key tier) ∧
        ∀ key, after.queueState? key = frontier.queueState? key
    | (after, none) => ∀ key, after.queueState? key = frontier.queueState? key := by
  have finds := Tiers.scan_finds (inspect_honest frontier) (Filed.tiers frontier.tiers.filed)
    frontier frontier.tiers.filed (.refl frontier) ascending
    ((Filed.ascending_iff frontier.tiers.filed).mp ascending)
  rw [Filed.tiers] at finds
  simp only [activateInactive, Tiers.activateNext]
  cases result : Tiers.scan inspect (frontier.tiers.filed.map (·.1)) frontier
      frontier.tiers.filed with
  | mk after others =>
      obtain ⟨left, ended⟩ := others
      rw [result] at finds
      cases ended with
      | failed => exact finds.states
      | exhausted => exact ⟨finds.2, finds.1.states⟩
      | activated key =>
          obtain ⟨tier, due, lowest, state, looked, last⟩ := finds
          have look := inspect_look state key tier
          rw [last] at look
          cases look with
          | tells _ _ other => exact absurd rfl other
          | readies _ found ready precedence beside =>
              refine ⟨key, tier, due, lowest, ⟨_, found, ready, precedence⟩, fun other different => ?_⟩
              exact (congrArg _ (beside other different)).trans (looked.states other)

def Withholds (before after : Frontier) : Prop :=
  ∀ key, before.queueState? key = some .inactive → after.queueState? key = some .inactive

theorem Withholds.trans {first second third : Frontier} (one : first.Withholds second)
    (two : second.Withholds third) : first.Withholds third :=
  fun key inactive => two key (one key inactive)

theorem Withholds.same {before after : Frontier} (queues : after.queues = before.queues) :
    before.Withholds after := by
  intro key inactive
  rw [queueState?, queue?, queues]
  exact inactive

theorem send_withholds (frontier : Frontier) (uri : CrawlUri) :
    frontier.Withholds (frontier.send uri).1 := by
  intro key inactive
  by_cases here : key = uri.siteKey
  · subst here
    -- A queue that is not empty only takes the URI, and is not placed anew.
    obtain ⟨queue, found, state⟩ := Option.map_eq_some_iff.mp inactive
    have named := queue_key frontier uri.siteKey queue found
    have awake : (queue.enqueue uri).state ≠ .empty := by
      rw [queue.enqueue_state, state]
      simp
    have stored := store_same frontier (queue.enqueue uri) queue
      (by rw [queue.enqueue_key, named]; exact found)
    rw [queue.enqueue_key, named] at stored
    simp only [send, ensureQueue, found, if_neg awake]
    refine (congrArg _ stored).trans ?_
    rw [Option.map_some, queue.enqueue_state, state]
  · exact (congrArg _ (send_beside frontier uri key here)).trans inactive

theorem receive_all_withholds (frontier : Frontier) (uris : List CrawlUri) :
    frontier.Withholds (frontier.receiveAll uris).1 := by
  induction uris generalizing frontier with
  | nil => exact .same rfl
  | cons uri rest ih =>
      have sent : frontier.Withholds (frontier.schedule uri).1 := send_withholds frontier _
      rw [receiveAll]
      cases result : frontier.schedule uri with
      | mk after answer =>
          rw [result] at sent
          cases answer with
          | none => exact sent
          | some received => exact sent.trans (ih after)

theorem collect_withholds (frontier : Frontier) (id : Nat) :
    frontier.Withholds (frontier.collect id).1 := by
  rw [collect]
  cases frontier.gateway.takeBatch with
  | error cause => exact .same rfl
  | ok handed =>
      obtain ⟨gateway, handover⟩ := handed
      have received : frontier.Withholds ({ frontier with gateway }.receiveAll handover.uris).1 :=
        receive_all_withholds { frontier with gateway } handover.uris
      simp only
      cases result : { frontier with gateway }.receiveAll handover.uris with
      | mk after answer =>
          rw [result] at received
          cases answer <;> exact received

theorem flush_withholds (frontier : Frontier) (id : Nat) : frontier.Withholds (frontier.flush id).1 := by
  rw [flush]
  split
  · exact collect_withholds frontier id
  · exact .same rfl

-- What a pull comes to: it makes a queue ready, or leaves the inactive ones alone. Then there was none
-- to be found, unless it failed or might not look.
inductive Pull (frontier : Frontier) : Frontier × CallPhase → Prop where
  | readies {after : Frontier} {phase : CallPhase} (key : String) (tier : Nat)
      (may : frontier.mayActivate = true) (readies : frontier.Readies after key tier) :
      Pull frontier (after, phase)
  | withholds {after : Frontier} {phase : CallPhase} (withholds : frontier.Withholds after)
      (none : frontier.mayActivate = true → phase ≠ .failed →
        ∀ key tier, ¬ frontier.Awaits key tier) :
      Pull frontier (after, phase)

theorem pull_pulls (frontier : Frontier) (id : Nat)
    (ascending : Filed.Ascending frontier.tiers.filed) :
    Pull frontier (frontier.pull id) := by
  rw [pull]
  by_cases may : frontier.mayActivate = true
  · have readies := activate_readies frontier ascending
    rw [if_pos may]
    cases result : frontier.activateInactive with
    | mk after answer =>
        rw [result] at readies
        cases answer with
        | none =>
            have withheld : frontier.Withholds after := fun key inactive => (readies key).trans inactive
            exact .withholds withheld fun _ fine => absurd rfl fine
        | some found =>
            cases found with
            | true =>
                obtain ⟨key, tier, readied⟩ := readies
                exact .readies key tier may ⟨readied.awaited, readied.lowest, readied.ready,
                  readied.others⟩
            | false =>
                -- Nothing was found, so a flush follows; it cannot make an inactive queue ready either.
                obtain ⟨none, same⟩ := readies
                have withheld : frontier.Withholds after :=
                  fun key inactive => (same key).trans inactive
                exact .withholds (withheld.trans (flush_withholds after id)) fun _ _ => none
  · rw [if_neg may]
    exact .withholds (flush_withholds frontier id) fun other => absurd other may

theorem contend_pulls (frontier : Frontier) (id attempt : Nat)
    (ascending : Filed.Ascending frontier.tiers.filed) (free : frontier.pulling = false) :
    Pull frontier (frontier.contend id attempt) := by
  have pulls := pull_pulls { frontier with pulling := true } id ascending
  rw [contend, if_pos (by rw [free]; rfl)]
  cases result : { frontier with pulling := true }.pull id with
  | mk after phase =>
      rw [result] at pulls
      cases pulls with
      | readies key tier may readied =>
          exact .readies key tier may ⟨readied.awaited, readied.lowest, readied.ready,
            readied.others⟩
      | withholds withheld none => exact .withholds withheld none

theorem contend_withholds (frontier : Frontier) (id attempt : Nat)
    (busy : frontier.pulling = true) : frontier.Withholds (frontier.contend id attempt).1 := by
  rw [contend, if_neg (by rw [busy]; simp)]
  split <;> exact .same rfl

theorem contend_readies (frontier : Frontier) (id attempt : Nat) (key : String)
    (ascending : Filed.Ascending frontier.tiers.filed)
    (inactive : frontier.queueState? key = some .inactive)
    (ready : (frontier.contend id attempt).1.queueState? key = some .ready) :
    frontier.mayActivate = true ∧
      ∃ tier, frontier.Readies (frontier.contend id attempt).1 key tier := by
  have moves : ¬ frontier.Withholds (frontier.contend id attempt).1 := by
    intro withheld
    rw [withheld key inactive] at ready
    cases ready
  have free : frontier.pulling = false := by
    apply Bool.eq_false_iff.mpr
    intro busy
    exact moves (contend_withholds frontier id attempt busy)
  have pulls := contend_pulls frontier id attempt ascending free
  generalize frontier.contend id attempt = result at pulls moves ready
  cases pulls with
  | withholds withheld => exact absurd withheld moves
  | readies found tier may readied =>
      have same : key = found := by
        apply Classical.byContradiction
        intro different
        rw [readied.others key different, inactive] at ready
        cases ready
      exact ⟨may, tier, same ▸ readied⟩

end Frontier

end PoliteCrawl
