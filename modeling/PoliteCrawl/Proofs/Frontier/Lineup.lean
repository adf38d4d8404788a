import PoliteCrawl.Proofs.Frontier.Filing
import PoliteCrawl.Proofs.Frontier.Retirement
import PoliteCrawl.Proofs.Frontier.Sweep

set_option autoImplicit false

namespace PoliteCrawl

namespace WorkQueue

def exhaust (queue : WorkQueue) : WorkQueue :=
  { queue.noteExhausted with state := .empty }

def mayGoOn (total : Option Nat) (queue : WorkQueue) : Bool :=
  total.all (queue.totalSpent < ·)

theorem funded_goes_on (queue : WorkQueue) (total : Option Nat) :
    (queue.setTotalBudget total).isOverTotal = !queue.mayGoOn total := by
  cases total with
  | none => rfl
  | some budget =>
      have either : decide (budget ≤ queue.totalSpent) = !decide (queue.totalSpent < budget) := by
        rw [← decide_not, decide_eq_decide]
        exact Nat.not_lt.symm
      exact either

end WorkQueue

namespace Frontier

def tierOf (frontier : Frontier) (queue : WorkQueue) : Nat :=
  improved (frontier.routing.precedence queue.key) queue.hinted

def parksAt (frontier : Frontier) (watermark : Nat) (queue : WorkQueue) : Bool :=
  watermark < frontier.tierOf queue || frontier.config.precedenceFloor ≤ frontier.tierOf queue ||
    queue.isOverSession

-- Who is ready, in this order, and what the tiers are when some queues were put in line one by one. One
-- that is parked may lower the watermark for those behind it.
def lineUp (frontier : Frontier) (tiers : Tiers) : List WorkQueue → List String × Tiers
  | [] => ([], tiers)
  | queue :: rest =>
      if frontier.parksAt tiers.watermark queue then
        frontier.lineUp (tiers.file queue.key (frontier.tierOf queue)) rest
      else (queue.key :: (frontier.lineUp tiers rest).1, (frontier.lineUp tiers rest).2)

def seated (frontier : Frontier) (ready : Bool) (queue : WorkQueue) : WorkQueue :=
  let asked := queue.setPrecedence (frontier.routing.precedence queue.key)
  if ready then { asked with state := .ready } else parked asked

theorem seated_shape (frontier : Frontier) (ready : Bool) (queue : WorkQueue) :
    (frontier.seated ready queue).items = queue.items ∧
      (frontier.seated ready queue).wakeTime = queue.wakeTime ∧
      (frontier.seated ready queue).state = if ready then .ready else .inactive := by
  cases ready <;> exact ⟨rfl, rfl, rfl⟩

-- Some queues were put in line one by one, and of the other queues only those that were touched may be
-- different.
structure Lined (before : Frontier) (touched : List String) (queues : List WorkQueue)
    (after : Frontier) : Prop where
  stays : before.Stays after
  routing : after.routing = before.routing
  ready : after.ready = before.ready ++ (before.lineUp before.tiers queues).1
  tiers : after.tiers = (before.lineUp before.tiers queues).2
  landed : ∀ queue ∈ queues, after.queue? queue.key =
    some (before.seated (decide (queue.key ∈ (before.lineUp before.tiers queues).1)) queue)
  touches : ∀ queue ∈ queues, queue.key ∈ touched
  others : ∀ key ∉ touched, after.queue? key = before.queue? key

section Lines

variable (frontier : Frontier) (tiers : Tiers)

theorem line_up_sublist (queues : List WorkQueue) :
    (frontier.lineUp tiers queues).1.Sublist (queues.map (·.key)) := by
  induction queues generalizing tiers with
  | nil => exact List.Sublist.refl _
  | cons queue rest ih =>
      rw [lineUp]
      by_cases parks : frontier.parksAt tiers.watermark queue = true
      · rw [if_pos parks]
        exact (ih _).cons queue.key
      · rw [if_neg parks]
        exact (ih tiers).cons_cons queue.key

theorem line_up_append (queues others : List WorkQueue) :
    frontier.lineUp tiers (queues ++ others) =
      ((frontier.lineUp tiers queues).1 ++
        (frontier.lineUp (frontier.lineUp tiers queues).2 others).1,
      (frontier.lineUp (frontier.lineUp tiers queues).2 others).2) := by
  induction queues generalizing tiers with
  | nil => rfl
  | cons queue rest ih =>
      rw [List.cons_append, lineUp, lineUp]
      by_cases parks : frontier.parksAt tiers.watermark queue = true
      · rw [if_pos parks, if_pos parks]
        exact ih _
      · rw [if_neg parks, if_neg parks, ih tiers]
        rfl

theorem line_up_map (change : WorkQueue → WorkQueue) (queues : List WorkQueue)
    (key : ∀ queue, (change queue).key = queue.key)
    (hinted : ∀ queue, (change queue).hinted = queue.hinted)
    (spent : ∀ queue, (change queue).isOverSession = queue.isOverSession) :
    frontier.lineUp tiers (queues.map change) = frontier.lineUp tiers queues := by
  induction queues generalizing tiers with
  | nil => rfl
  | cons queue rest ih =>
      have tier : frontier.tierOf (change queue) = frontier.tierOf queue := by
        rw [tierOf, tierOf, key, hinted]
      have parks : frontier.parksAt tiers.watermark (change queue) =
          frontier.parksAt tiers.watermark queue := by
        rw [parksAt, parksAt, tier, spent]
      rw [List.map_cons, lineUp, lineUp, parks, tier, key, ih, ih]

theorem line_up_still (after : Frontier) (queues : List WorkQueue)
    (routing : after.routing = frontier.routing) (config : after.config = frontier.config) :
    after.lineUp tiers queues = frontier.lineUp tiers queues := by
  induction queues generalizing tiers with
  | nil => rfl
  | cons queue rest ih =>
      have tier : after.tierOf queue = frontier.tierOf queue := by
        rw [tierOf, tierOf, routing]
      have parks : after.parksAt tiers.watermark queue = frontier.parksAt tiers.watermark queue := by
        rw [parksAt, parksAt, tier, config]
      rw [lineUp, lineUp, parks, tier, ih, ih]

end Lines

section Lined

variable {first second third : Frontier} {early late : List String}
  {queues others : List WorkQueue}

theorem Lined.nothing (frontier : Frontier) : frontier.Lined [] [] frontier :=
  ⟨.refl frontier, rfl, (List.append_nil _).symm, rfl, by simp, by simp, fun _ _ => rfl⟩

theorem Lined.calm (lined : first.Lined early queues second) (calm : first.Calm) : second.Calm :=
  (congrArg Routing.faults lined.routing).trans calm

theorem Lined.readies (lined : first.Lined early queues second) (key : String)
    (ready : key ∈ (first.lineUp first.tiers queues).1) : key ∈ early := by
  obtain ⟨queue, listed, named⟩ :=
    List.mem_map.mp ((line_up_sublist first first.tiers queues).subset ready)
  exact named ▸ lined.touches queue listed

theorem Lined.trans (one : first.Lined early queues second)
    (two : second.Lined late others third) (apart : ∀ key ∈ early, key ∉ late) :
    first.Lined (early ++ late) (queues ++ others) third := by
  have config : second.config = first.config := congrArg Setting.config one.stays.setting
  have same : second.lineUp second.tiers others =
      first.lineUp (first.lineUp first.tiers queues).2 others := by
    rw [one.tiers]
    exact line_up_still first _ second others one.routing config
  have whole := line_up_append first first.tiers queues others
  have left := one.readies
  have right := two.readies
  rw [same] at right
  refine ⟨one.stays.trans two.stays, two.routing.trans one.routing, ?_, ?_, fun queue listed => ?_,
    fun queue listed => ?_, fun key outside => ?_⟩
  · rw [two.ready, one.ready, same, whole, List.append_assoc]
  · rw [two.tiers, same, whole]
  · rcases List.mem_append.mp listed with before | after
    · have touched := one.touches queue before
      have absent : queue.key ∉ (first.lineUp (first.lineUp first.tiers queues).2 others).1 :=
        fun ready => apart _ touched (right _ ready)
      rw [two.others _ (apart _ touched), one.landed queue before, whole]
      simp [absent]
    · have touched := two.touches queue after
      have absent : queue.key ∉ (first.lineUp first.tiers queues).1 :=
        fun ready => apart _ (left _ ready) touched
      rw [two.landed queue after, same, whole]
      simp [absent, seated, one.routing]
  · rcases List.mem_append.mp listed with before | after
    · exact List.mem_append_left _ (one.touches queue before)
    · exact List.mem_append_right _ (two.touches queue after)
  · rw [List.mem_append, not_or] at outside
    exact (two.others key outside.2).trans (one.others key outside.1)

theorem Lined.after {key : String} (lined : second.Lined early queues third)
    (stays : first.Stays second) (routing : second.routing = first.routing)
    (ready : second.ready = first.ready) (tiers : second.tiers = first.tiers)
    (beside : Beside key first second) (touched : key ∈ early) :
    first.Lined early queues third := by
  have same : second.lineUp second.tiers queues = first.lineUp first.tiers queues := by
    rw [tiers]
    exact line_up_still first _ second queues routing (congrArg Setting.config stays.setting)
  refine ⟨stays.trans lined.stays, lined.routing.trans routing, ?_, ?_, fun queue listed => ?_,
    lined.touches, fun other outside => ?_⟩
  · rw [lined.ready, ready, same]
  · rw [lined.tiers, same]
  · rw [lined.landed queue listed, same, seated, seated, routing]
  · exact (lined.others other outside).trans
      (beside other fun here => outside (here ▸ touched))

theorem Lined.passes {key : String} (stays : first.Stays second)
    (routing : second.routing = first.routing) (ready : second.ready = first.ready)
    (tiers : second.tiers = first.tiers) (beside : Beside key first second) :
    first.Lined [key] [] second := by
  refine ⟨stays, routing, ?_, tiers, by simp, by simp, fun other outside => ?_⟩
  · rw [lineUp, List.append_nil, ready]
  · exact beside other (by simpa using outside)

end Lined

theorem reenqueue_lined (frontier : Frontier) (queue old : WorkQueue) (calm : frontier.Calm)
    (found : frontier.queue? queue.key = some old)
    (free : queue.state.allows .ready = true ∧ queue.state.allows .inactive = true) :
    ∃ after placement, frontier.reenqueue queue = (after, some placement) ∧
      frontier.Lined [queue.key] [queue] (after.place queue.key placement) := by
  let asked := queue.setPrecedence (frontier.routing.precedence queue.key)
  have waits : (frontier.store asked).mustWait asked =
      frontier.parksAt frontier.tiers.watermark queue := rfl
  simp only [reenqueue, refresh_calm frontier queue calm]
  by_cases parks : frontier.parksAt frontier.tiers.watermark queue = true
  · have line : frontier.lineUp frontier.tiers [queue] =
        ([], frontier.tiers.file queue.key (frontier.tierOf queue)) := by
      rw [lineUp, if_pos parks]
      rfl
    have stored := store_store frontier asked (parked asked) rfl
    rw [if_pos (waits.trans parks), deactivate_allowed _ asked _ free.2, stored]
    refine ⟨_, _, rfl, ⟨rfl, rfl⟩, rfl, ?_, ?_, fun other listed => ?_, by simp,
      fun key outside => store_other frontier (parked asked) key
        (fun here => outside (List.mem_singleton.mpr here))⟩
    · rw [line, List.append_nil]
      rfl
    · rw [line]
      rfl
    · obtain rfl := List.mem_singleton.mp listed
      rw [line]
      exact store_same frontier (parked asked) old found
  · have line : frontier.lineUp frontier.tiers [queue] = ([queue.key], frontier.tiers) := by
      rw [lineUp, if_neg parks]
      rfl
    let ready : WorkQueue := { asked with state := .ready }
    have stored := store_store frontier asked ready rfl
    rw [if_neg (waits ▸ parks), asked.transition_allowed .ready free.1]
    refine ⟨_, _, rfl, ?_⟩
    change frontier.Lined _ _ (((frontier.store asked).store ready).publish queue.key)
    rw [stored]
    refine ⟨⟨rfl, rfl⟩, rfl, ?_, ?_, fun other listed => ?_, by simp,
      fun key outside => store_other frontier ready key
        (fun here => outside (List.mem_singleton.mpr here))⟩
    · rw [line]
      rfl
    · rw [line]
      rfl
    · obtain rfl := List.mem_singleton.mp listed
      rw [line]
      simp only [List.mem_singleton, decide_true, seated, if_true]
      exact store_same frontier ready old found

def queuesOf (frontier : Frontier) (keys : List String) : List WorkQueue :=
  keys.filterMap frontier.queue?

-- Some queues were looked at one by one. Those that enter were changed and put in line, and the others
-- were changed as well, but not put in line.
structure Sifts (before : Frontier) (enters : WorkQueue → Bool) (change leave : WorkQueue → WorkQueue)
    (queues : List WorkQueue) (after : Frontier) : Prop where
  lined : before.Lined (queues.map (·.key)) ((queues.filter enters).map change) after
  left : ∀ queue ∈ queues, enters queue = false → after.queue? queue.key = some (leave queue)

section Sifts

variable {enters : WorkQueue → Bool} {change leave : WorkQueue → WorkQueue}

theorem Sifts.nothing (frontier : Frontier) : frontier.Sifts enters change leave [] frontier :=
  ⟨.nothing frontier, by simp⟩

theorem Sifts.goes {first second : Frontier} {queue : WorkQueue} (enter : enters queue = true)
    (lined : first.Lined [queue.key] [change queue] second) :
    first.Sifts enters change leave [queue] second := by
  refine ⟨?_, fun other listed stops => ?_⟩
  · rw [List.filter_cons_of_pos enter]
    exact lined
  · obtain rfl := List.mem_singleton.mp listed
    cases enter.symm.trans stops

theorem Sifts.stops {first second : Frontier} {queue : WorkQueue} (stops : enters queue = false)
    (lined : first.Lined [queue.key] [] second)
    (left : second.queue? queue.key = some (leave queue)) :
    first.Sifts enters change leave [queue] second := by
  refine ⟨?_, fun other listed _ => ?_⟩
  · rw [List.filter_cons_of_neg (by simp [stops])]
    exact lined
  · obtain rfl := List.mem_singleton.mp listed
    exact left

theorem Sifts.cons {first second third : Frontier} {queue : WorkQueue} {others : List WorkQueue}
    (one : first.Sifts enters change leave [queue] second)
    (two : second.Sifts enters change leave others third)
    (fresh : queue.key ∉ others.map (·.key)) :
    first.Sifts enters change leave (queue :: others) third := by
  have lined := one.lined.trans two.lined (by simpa using fresh)
  have whole : (queue :: others).filter enters = [queue].filter enters ++ others.filter enters :=
    List.filter_append [queue] others
  rw [← List.map_append, ← List.map_append, ← whole] at lined
  refine ⟨lined, fun other listed stops => ?_⟩
  rcases List.mem_cons.mp listed with rfl | later
  · rw [two.lined.others _ fresh]
    exact one.left _ List.mem_cons_self stops
  · exact two.left other later stops

end Sifts

theorem queues_of_cons (frontier : Frontier) (key : String) (rest : List String)
    (queue : WorkQueue) (found : frontier.queue? key = some queue) :
    frontier.queuesOf (key :: rest) = queue :: frontier.queuesOf rest :=
  List.filterMap_cons_some found

theorem queues_of_same (before after : Frontier) (keys : List String)
    (same : ∀ key ∈ keys, after.queue? key = before.queue? key) :
    after.queuesOf keys = before.queuesOf keys := by
  induction keys with
  | nil => rfl
  | cons key rest ih =>
      have others := ih fun other listed => same other (List.mem_cons_of_mem key listed)
      rw [queuesOf, queuesOf, List.filterMap_cons, List.filterMap_cons, same key List.mem_cons_self]
      rw [queuesOf, queuesOf] at others
      rw [others]

theorem queues_of_listed (frontier : Frontier) (keys : List String) (queue : WorkQueue) :
    queue ∈ frontier.queuesOf keys ↔ queue.key ∈ keys ∧ frontier.queue? queue.key = some queue := by
  rw [queuesOf, List.mem_filterMap]
  constructor
  · rintro ⟨key, listed, found⟩
    obtain rfl := queue_key frontier key queue found
    exact ⟨listed, found⟩
  · rintro ⟨listed, found⟩
    exact ⟨queue.key, listed, found⟩

theorem queues_of_within (frontier : Frontier) (keys : List String) (key : String)
    (listed : key ∈ (frontier.queuesOf keys).map (·.key)) : key ∈ keys := by
  obtain ⟨queue, member, rfl⟩ := List.mem_map.mp listed
  exact ((queues_of_listed frontier keys queue).mp member).1

theorem queues_of_keys (frontier : Frontier) (keys : List String)
    (known : ∀ key ∈ keys, ∃ queue, frontier.queue? key = some queue) :
    (frontier.queuesOf keys).map (·.key) = keys := by
  induction keys with
  | nil => rfl
  | cons key rest ih =>
      obtain ⟨queue, found⟩ := known key List.mem_cons_self
      rw [queues_of_cons frontier key rest queue found, List.map_cons,
        queue_key frontier key queue found,
        ih fun other listed => known other (List.mem_cons_of_mem key listed)]

theorem wake_queue_sifts (frontier : Frontier) (queue : WorkQueue) (calm : frontier.Calm)
    (found : frontier.queue? queue.key = some queue) (asleep : queue.state = .snoozed) :
    ∃ after, frontier.wakeQueue queue.key = (after, some ()) ∧
      frontier.Sifts (!·.isEmpty) (·.setWakeTime none) (·.setWakeTime none |>.exhaust) [queue]
        after := by
  let woken := queue.setWakeTime none
  have state : woken.state = .snoozed := asleep
  have stored : (frontier.store woken).queue? woken.key = some woken :=
    store_same frontier woken queue found
  rw [wakeQueue, found]
  simp only [if_pos asleep]
  by_cases dry : queue.isEmpty = true
  · have empty : woken.isEmpty = true := dry
    have allowed : woken.noteExhausted.state.allows .empty = true := by
      simp [WorkQueue.noteExhausted, state, QueueState.allows]
    have marked : (frontier.store woken).markExhausted woken = frontier.store woken.exhaust := by
      rw [markExhausted, woken.noteExhausted.transition_allowed .empty allowed]
      exact store_store frontier woken woken.exhaust rfl
    have passes : frontier.Lined [queue.key] [] (frontier.store woken.exhaust) :=
      .passes ⟨rfl, rfl⟩ rfl rfl rfl (store_other frontier woken.exhaust)
    rw [if_pos empty, marked]
    exact ⟨_, rfl, .stops (by simp [dry]) passes (store_same frontier woken.exhaust queue found)⟩
  · have more : ¬ woken.isEmpty = true := dry
    obtain ⟨after, placement, placed, lined⟩ := reenqueue_lined (frontier.store woken) woken woken
      calm stored (by simp [state, QueueState.allows])
    have entered : frontier.Lined [queue.key] [woken] (after.place queue.key placement) :=
      lined.after ⟨rfl, rfl⟩ rfl rfl rfl (store_other frontier woken) (List.mem_singleton_self _)
    rw [if_neg more, placed]
    exact ⟨_, rfl, .goes (by simp [dry]) entered⟩

theorem wake_due_sifts (entries : Snoozed) (frontier : Frontier) (calm : frontier.Calm)
    (once : (entries.map (·.key)).Nodup)
    (asleep : ∀ entry ∈ entries, ∃ queue, frontier.queue? entry.key = some queue ∧
      queue.state = .snoozed) :
    frontier.Sifts (!·.isEmpty) (·.setWakeTime none) (·.setWakeTime none |>.exhaust)
      (frontier.queuesOf ((entries.takeWhile (·.wake ≤ frontier.now)).map (·.key)))
      (frontier.wakeDue entries).1 := by
  induction entries generalizing frontier with
  | nil => exact .nothing frontier
  | cons entry rest ih =>
      obtain ⟨fresh, others⟩ := List.nodup_cons.mp once
      rw [wakeDue]
      by_cases due : entry.wake ≤ frontier.now
      · obtain ⟨queue, found, sleeps⟩ := asleep entry List.mem_cons_self
        have named := queue_key frontier entry.key queue found
        let base := { frontier with snoozed := rest }
        obtain ⟨after, woken, sifts⟩ := wake_queue_sifts base queue calm (named ▸ found) sleeps
        have first : frontier.Sifts (!·.isEmpty) (·.setWakeTime none)
            (·.setWakeTime none |>.exhaust) [queue] after :=
          ⟨sifts.lined.after ⟨rfl, rfl⟩ rfl rfl rfl (.same rfl) (List.mem_singleton_self queue.key),
            sifts.left⟩
        have beside (key : String) (different : key ≠ entry.key) :
            after.queue? key = frontier.queue? key :=
          first.lined.others key (by simpa [named] using different)
        have apart (other : SnoozeEntry) (listed : other ∈ rest) : other.key ≠ entry.key :=
          fun same => fresh (List.mem_map.mpr ⟨other, listed, same⟩)
        have now : after.now = frontier.now := congrArg Setting.now first.lined.stays.setting
        have later := ih after (first.lined.calm calm) others fun other listed => by
          rw [beside other.key (apart other listed)]
          exact asleep other (List.mem_cons_of_mem entry listed)
        have same : after.queuesOf ((rest.takeWhile (·.wake ≤ frontier.now)).map (·.key)) =
            frontier.queuesOf ((rest.takeWhile (·.wake ≤ frontier.now)).map (·.key)) := by
          refine queues_of_same frontier after _ fun key listed => ?_
          obtain ⟨other, member, rfl⟩ := List.mem_map.mp listed
          exact beside other.key (apart other ((List.takeWhile_sublist _).subset member))
        rw [now, same] at later
        rw [if_pos due, List.takeWhile_cons_of_pos (by simpa using due), List.map_cons,
          queues_of_cons frontier entry.key _ queue found, ← named, woken]
        refine first.cons later fun listed => ?_
        obtain ⟨other, member, again⟩ := List.mem_map.mp (queues_of_within frontier _ _ listed)
        exact apart other ((List.takeWhile_sublist _).subset member) (again.trans named)
      · rw [if_neg due, List.takeWhile_cons_of_neg (by simpa using due)]
        exact .nothing frontier

theorem unretire_queue_sifts (frontier : Frontier) (queue : WorkQueue) (calm : frontier.Calm)
    (found : frontier.queue? queue.key = some queue) (retired : queue.state = .retired) :
    ∃ after, frontier.unretireQueue queue.key =
        (after, some (queue.mayGoOn frontier.budgets.total)) ∧
      frontier.Sifts (WorkQueue.mayGoOn frontier.budgets.total) (·.setTotalBudget frontier.budgets.total)
        (·.setTotalBudget frontier.budgets.total) [queue] after := by
  let funded := queue.setTotalBudget frontier.budgets.total
  have state : funded.state = .retired := retired
  have stored : (frontier.store funded).queue? funded.key = some funded :=
    store_same frontier funded queue found
  have goes := queue.funded_goes_on frontier.budgets.total
  rw [unretireQueue, found]
  simp only [if_pos retired]
  cases may : queue.mayGoOn frontier.budgets.total with
  | false =>
      have passes : frontier.Lined [queue.key] []
          { frontier.store funded with retired := Retired.insert queue.key frontier.retired } :=
        .passes ⟨rfl, rfl⟩ rfl rfl rfl (store_other frontier funded)
      have spent : funded.isOverTotal = true := by
        rw [goes, may]
        rfl
      rw [if_pos spent]
      exact ⟨_, rfl, .stops may passes stored⟩
  | true =>
      obtain ⟨after, placement, placed, lined⟩ := reenqueue_lined (frontier.store funded) funded
        funded calm stored (by simp [state, QueueState.allows])
      have entered : frontier.Lined [queue.key] [funded] (after.place queue.key placement) :=
        lined.after ⟨rfl, rfl⟩ rfl rfl rfl (store_other frontier funded) (List.mem_singleton_self _)
      have left : ¬ funded.isOverTotal = true := by simp [funded, goes, may]
      rw [if_neg left, placed]
      exact ⟨_, rfl, .goes may entered⟩

theorem unretire_all_sifts (line : List String) (frontier : Frontier) (count : Nat)
    (calm : frontier.Calm) (once : line.Nodup)
    (retired : ∀ key ∈ line, ∃ queue, frontier.queue? key = some queue ∧ queue.state = .retired) :
    (frontier.unretireAll count line).2 = some
        (count + ((frontier.queuesOf line).filter (WorkQueue.mayGoOn frontier.budgets.total)).length) ∧
      frontier.Sifts (WorkQueue.mayGoOn frontier.budgets.total) (·.setTotalBudget frontier.budgets.total)
        (·.setTotalBudget frontier.budgets.total) (frontier.queuesOf line)
        (frontier.unretireAll count line).1 := by
  induction line generalizing frontier count with
  | nil => exact ⟨rfl, .nothing frontier⟩
  | cons key rest ih =>
      obtain ⟨fresh, others⟩ := List.nodup_cons.mp once
      obtain ⟨queue, found, rests⟩ := retired key List.mem_cons_self
      obtain rfl := queue_key frontier key queue found
      obtain ⟨after, recalled, first⟩ := unretire_queue_sifts frontier queue calm found rests
      have budgets : after.budgets = frontier.budgets :=
        congrArg Setting.budgets first.lined.stays.setting
      have beside (other : String) (listed : other ∈ rest) :
          after.queue? other = frontier.queue? other := by
        refine first.lined.others other fun touched => fresh ?_
        have here : other = queue.key := List.mem_singleton.mp touched
        exact here ▸ listed
      have later (counted : Nat) := ih after counted (first.lined.calm calm) others
        fun other listed => by
          rw [beside other listed]
          exact retired other (List.mem_cons_of_mem queue.key listed)
      have same := queues_of_same frontier after rest beside
      rw [budgets, same] at later
      have apart : queue.key ∉ (frontier.queuesOf rest).map (·.key) := fun listed =>
        fresh (queues_of_within frontier rest queue.key listed)
      rw [queues_of_cons frontier queue.key rest queue found, unretireAll, recalled]
      cases may : queue.mayGoOn frontier.budgets.total with
      | true =>
          obtain ⟨answer, sifts⟩ := later (count + 1)
          refine ⟨?_, first.cons sifts apart⟩
          rw [List.filter_cons_of_pos may, List.length_cons, answer]
          congr 1
          omega
      | false =>
          obtain ⟨answer, sifts⟩ := later count
          refine ⟨?_, first.cons sifts apart⟩
          rw [List.filter_cons_of_neg (by simp [may])]
          exact answer

end Frontier

end PoliteCrawl
