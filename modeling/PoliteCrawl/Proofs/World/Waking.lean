import PoliteCrawl.Proofs.Frontier.Lineup
import PoliteCrawl.Proofs.World.Sweep

set_option autoImplicit false

namespace PoliteCrawl

namespace Frontier

-- Some of those who slept are awake, or one more sleeps.
def Nods (before after : Frontier) : Prop :=
  after.snoozed.Sublist before.snoozed ∨
    ∃ entry, entry ∉ before.snoozed ∧ after.snoozed = Snoozed.insert entry before.snoozed

theorem complete_nods (frontier : Frontier) (uri : CrawlUri) (outcome : Outcome)
    (calm : frontier.Calm) (registered : frontier.Registered) :
    frontier.Nods (frontier.complete uri outcome).1 := by
  rcases frontier.complete_reported uri outcome with ⟨_, refused⟩ | ⟨queue, head, rest, reported⟩
  · rw [refused]
    exact .inl (List.Sublist.refl _)
  · obtain ⟨_, proceeds, _⟩ := frontier.complete_calm uri head rest outcome queue calm registered
      reported.found reported.process reported.line reported.same
    obtain ⟨landed, dozes, ended⟩ :=
      complete_dozes frontier uri head rest outcome queue calm registered reported
    have once := proceeds.registered.asleep_once
    have kept : (frontier.complete uri outcome).1.snoozed = landed.snoozed := by
      rw [ended, drained_snoozed]
    rcases dozes with same | ⟨key, wake, same⟩
    · exact .inl ((kept.trans (congrArg Prod.fst same)) ▸ List.Sublist.refl _)
    · have inserted : (frontier.complete uri outcome).1.snoozed =
          Snoozed.insert { wake, key } frontier.snoozed := kept.trans (congrArg Prod.fst same)
      refine .inr ⟨{ wake, key }, fun listed => ?_, inserted⟩
      rw [inserted, ((Snoozed.insert_perm { wake, key } frontier.snoozed).map _).nodup_iff,
        List.map_cons, List.nodup_cons] at once
      exact once.1 (List.mem_map_of_mem listed)

theorem wake_sublist (frontier : Frontier) (calm : frontier.Calm) (registered : frontier.Registered) :
    frontier.wakeQueues.1.snoozed.Sublist frontier.snoozed := by
  have left : frontier.wakeQueues.1.snoozed = frontier.snoozed.asleep frontier.now :=
    congrArg Prod.fst (wake_slumber frontier calm registered).1
  rw [left]
  exact List.dropWhile_sublist _

theorem nods_permits :
    Permits fun before after => before.Calm → before.Registered →
      before.Proceeds [] after ∧ after.snoozed.Sublist before.snoozed where
  refl _ _ registered := ⟨registered.still rfl, List.Sublist.refl _⟩
  trans _ _ _ one two calm registered := by
    obtain ⟨proceeds, fewer⟩ := one calm registered
    obtain ⟨later, fewest⟩ := two (proceeds.calm calm) proceeds.registered
    exact ⟨proceeds.trans later, fewest.trans fewer⟩
  mark _ _ _ _ registered := ⟨registered.still rfl, List.Sublist.refl _⟩
  retarget _ _ _ _ _ _ registered := ⟨registered.still rfl, List.Sublist.refl _⟩
  notify _ _ registered := ⟨registered.still rfl, List.Sublist.refl _⟩
  call _ _ registered := ⟨registered.still rfl, List.Sublist.refl _⟩
  snooze _ _ _ registered := ⟨registered.still rfl, List.Sublist.refl _⟩
  close _ _ _ _ _ registered := ⟨registered.still rfl, List.Sublist.refl _⟩
  wake frontier calm registered := by
    obtain ⟨_, _, proceeds⟩ := wake_calm frontier calm registered
    exact ⟨proceeds, wake_sublist frontier calm registered⟩

theorem rest_exact (frontier : Frontier) (ascending : frontier.snoozed.Ascending)
    (early : ∀ entry ∈ frontier.snoozed, frontier.now < entry.wake) :
    frontier.untilNextWake ≤ frontier.config.maxSleep ∧
      (∀ entry ∈ frontier.snoozed, frontier.untilNextWake ≤ entry.wake - frontier.now) ∧
      (frontier.untilNextWake = frontier.config.maxSleep ∨
        ∃ entry ∈ frontier.snoozed, frontier.untilNextWake = entry.wake - frontier.now) := by
  have ahead := until_next_wake frontier ascending early
  refine ⟨?_, fun entry listed => Nat.le_sub_of_add_le' (ahead entry listed), ?_⟩
  · rw [untilNextWake]
    split
    · exact Nat.min_le_right _ _
    · exact Nat.le_refl _
  · rw [untilNextWake, Snoozed.nextWake?]
    cases head : frontier.snoozed.head? with
    | none => exact .inl rfl
    | some first =>
        have listed := List.mem_of_mem_head? head
        rcases Nat.le_total (first.wake - frontier.now) frontier.config.maxSleep with soon | late
        · exact .inr ⟨first, listed, Nat.min_eq_left soon⟩
        · exact .inl (Nat.min_eq_right late)

theorem Registered.stands {before after : Frontier} {key : String} (one : before.Registered)
    (two : after.Registered) (same : after.queue? key = before.queue? key) :
    after.standing key = before.standing key := by
  have earlier := one.settled key
  have later := two.settled key
  unfold Settled at earlier later
  rw [same] at later
  cases found : before.queue? key with
  | none =>
      rw [found] at earlier later
      exact later.trans earlier.symm
  | some queue =>
      rw [found] at earlier later
      simp only [WorkQueue.StandsAt] at earlier later
      cases state : queue.state with
      | snoozed =>
          simp only [state] at earlier later
          obtain ⟨wake, stood, asleep⟩ := earlier
          obtain ⟨again, stands, sleeps⟩ := later
          cases asleep.symm.trans sleeps
          exact stands.trans stood.symm
      | empty | ready | inProcess | inactive | retired =>
          simp only [state] at earlier later
          exact later.1.trans earlier.1.symm

end Frontier

namespace World

-- The first entry slept already when the second one fell asleep, and ever since.
def SleptLonger (setup : Setup) (events : List Event) (first second : SnoozeEntry) : Prop :=
  ∃ early late, events = early ++ late ∧ second ∉ (run setup early).frontier.snoozed ∧
    ∀ middle rest, late = middle ++ rest →
      first ∈ (run setup (early ++ middle)).frontier.snoozed

def WakesBefore (setup : Setup) (events : List Event) (first second : SnoozeEntry) : Prop :=
  first.wake < second.wake ∨
    first.wake = second.wake ∧ SleptLonger setup events first second

theorem WakesBefore.later {setup : Setup} {events : List Event} {first second : SnoozeEntry}
    (before : WakesBefore setup events first second) (event : Event)
    (asleep : first ∈ (run setup (events ++ [event])).frontier.snoozed) :
    WakesBefore setup (events ++ [event]) first second := by
  rcases before with sooner | ⟨same, early, late, whole, awake, sleeps⟩
  · exact .inl sooner
  · refine .inr ⟨same, early, late ++ [event], by rw [whole, List.append_assoc], awake, ?_⟩
    intro middle rest split
    rcases List.eq_nil_or_concat rest with rfl | ⟨others, last, rfl⟩
    · rw [List.append_nil] at split
      rw [← split, ← List.append_assoc, ← whole]
      exact asleep
    · have cut : late ++ [event] = (middle ++ others) ++ [last] := by simpa using split
      exact sleeps middle others (List.append_inj' cut rfl).1

theorem WakesBefore.fresh {setup : Setup} {events : List Event} {first second : SnoozeEntry}
    (event : Event) (order : first.wake ≤ second.wake)
    (awake : second ∉ (run setup events).frontier.snoozed)
    (slept : first ∈ (run setup events).frontier.snoozed)
    (asleep : first ∈ (run setup (events ++ [event])).frontier.snoozed) :
    WakesBefore setup (events ++ [event]) first second := by
  rcases Nat.lt_or_eq_of_le order with sooner | same
  · exact .inl sooner
  · refine .inr ⟨same, events, [event], rfl, awake, fun middle rest split => ?_⟩
    rcases List.append_eq_singleton_iff.mp split.symm with ⟨rfl, _⟩ | ⟨rfl, _⟩
    · rw [List.append_nil]
      exact slept
    · exact asleep

theorem act_nods {origin : Gateway} (world : World) (event : Event)
    (kept : Kept origin world.frontier world.journal) :
    world.frontier.Nods (world.act event).frontier := by
  have attended (related : world.frontier.Calm → world.frontier.Registered →
      world.frontier.Proceeds [] (world.act event).frontier ∧
        (world.act event).frontier.snoozed.Sublist world.frontier.snoozed) :
      world.frontier.Nods (world.act event).frontier :=
    .inl (related kept.calm kept.registered).2
  cases event with
  | complete uri outcome => exact world.frontier.complete_nods uri outcome kept.calm kept.registered
  | manage =>
      exact attended (Frontier.management_permitted Frontier.nods_permits world.frontier)
  | supervise id =>
      simp only [act] at attended ⊢
      cases found : world.supervisor? id with
      | none => exact .inl (List.Sublist.refl _)
      | some supervisor =>
          rw [found] at attended
          exact attended (Frontier.turn_permitted Frontier.nods_permits world.frontier supervisor)
  | _ =>
      refine .inl ?_
      rw [act_snoozed world _ rfl (by simp)]

theorem run_wakes (setup : Setup) (events : List Event) (calm : Calm setup events) :
    (run setup events).frontier.snoozed.Pairwise (WakesBefore setup events) := by
  revert calm
  refine run_induction (motive := fun events world => Calm setup events →
    world.frontier.snoozed.Pairwise (WakesBefore setup events)) setup (fun _ => .nil) ?_ events
  intro events event ih calm
  have ordered := run_ordered setup events
  have kept := run_kept setup events calm.before.1
  have before := ih calm.before.1
  have nods : (run setup events).frontier.Nods ((run setup events).step event).frontier := by
    rw [step]
    split
    · exact act_nods _ event kept
    · exact .inl (List.Sublist.refl _)
  rw [← run_snoc] at nods ⊢
  rcases nods with fewer | ⟨entry, awake, more⟩
  · exact (before.sublist fewer).imp_of_mem fun listed _ wakes => wakes.later event listed
  · have still (other : SnoozeEntry) (listed : other ∈ (run setup events).frontier.snoozed) :
        other ∈ (run setup (events ++ [event])).frontier.snoozed := by
      rw [more, (Snoozed.insert_perm _ _).mem_iff]
      exact List.mem_cons_of_mem entry listed
    rw [more]
    refine Snoozed.insert_pairwise entry _ ordered
      (before.imp_of_mem fun listed _ wakes => wakes.later event (still _ listed))
      (fun other listed order => ?_) fun other _ sooner => .inl sooner
    exact .fresh event order awake listed (still other listed)

end World

namespace Frontier

-- What a sweep makes of a frontier: `due` are the entries of those who wake, and `lined` says who of them
-- is ready and what the tiers are then.
theorem wake_sifts (frontier : Frontier) (calm : frontier.Calm) (registered : frontier.Registered)
    (ordered : frontier.Ordered) :
    let due := frontier.snoozed.filter (·.wake ≤ frontier.now)
    frontier.Sifts (!·.isEmpty) (·.setWakeTime none) (·.setWakeTime none |>.exhaust)
      (frontier.queuesOf (due.map (·.key))) frontier.wakeQueues.1 := by
  intro due
  rw [wake_queues_due]
  simp only [due, (Snoozed.due_front frontier.snoozed frontier.now ordered).1]
  refine wake_due_sifts frontier.snoozed frontier calm registered.asleep_once fun entry listed => ?_
  obtain ⟨queue, found, _, asleep, _⟩ := frontier.snoozed_queue entry registered listed
  exact ⟨queue, found, asleep⟩

theorem sleepers_known (frontier : Frontier) (registered : frontier.Registered)
    (entries : Snoozed) (asleep : entries ⊆ frontier.snoozed) :
    (frontier.queuesOf (entries.map (·.key))).map (·.key) = entries.map (·.key) ∧
      ∀ queue ∈ frontier.queuesOf (entries.map (·.key)), queue.state = .snoozed := by
  have sleeper (key : String) (listed : key ∈ entries.map (·.key)) :
      ∃ queue, frontier.queue? key = some queue ∧ queue.state = .snoozed := by
    obtain ⟨entry, member, rfl⟩ := List.mem_map.mp listed
    obtain ⟨queue, found, _, sleeps, _⟩ :=
      frontier.snoozed_queue entry registered (asleep member)
    exact ⟨queue, found, sleeps⟩
  refine ⟨frontier.queues_of_keys _ fun key listed => ?_, fun queue listed => ?_⟩
  · obtain ⟨queue, found, _⟩ := sleeper key listed
    exact ⟨queue, found⟩
  · obtain ⟨inside, found⟩ := (frontier.queues_of_listed _ queue).mp listed
    obtain ⟨other, present, sleeps⟩ := sleeper queue.key inside
    cases found.symm.trans present
    exact sleeps

end Frontier

/-- In every reachable state, whatever the time, a sweep wakes those who are due, in order of the times at
which they wake and, where these are the same, in the order in which they fell asleep. Whoever is due has
left the snoozed: exhausted if its queue holds no URI, and otherwise ready or parked with all its URIs, by
the rule for queues with work, asked one after the other, so that one that is parked may lower the
watermark for those behind it. Those who are ready join the line in this order. All others keep their
queues and stand where they stood, nobody who is still asleep is due, and the registers match. The
supervisor may rest until the next one wakes, but no longer than it should ever rest, and for some time at
least. -/
theorem sweep_releases_due (setup : Setup) (events : List Event) (calm : Calm setup events)
    (naps : 1 ≤ setup.config.maxSleepMs) :
    let frontier := (World.run setup events).frontier
    let after := frontier.wakeQueues.1
    let due := frontier.snoozed.filter (·.wake ≤ frontier.now)
    let sleepers := frontier.queuesOf (due.map (·.key))
    let lined := frontier.lineUp frontier.tiers (sleepers.filter (!·.isEmpty))
    frontier.snoozed.Pairwise (World.WakesBefore setup events) ∧
      sleepers.map (·.key) = due.map (·.key) ∧ (∀ queue ∈ sleepers, queue.state = .snoozed) ∧
      (∀ queue ∈ sleepers, ∃ landed, after.queue? queue.key = some landed ∧
        landed.items = queue.items ∧ landed.wakeTime = none ∧
        landed.state =
          if queue.isEmpty then .empty else if queue.key ∈ lined.1 then .ready else .inactive) ∧
      after.ready = frontier.ready ++ lined.1 ∧ lined.1.Sublist (due.map (·.key)) ∧
      after.tiers = lined.2 ∧ after.snoozed = frontier.snoozed.filter (frontier.now < ·.wake) ∧
      (∀ key ∉ due.map (·.key), after.queue? key = frontier.queue? key ∧
        after.standing key = frontier.standing key) ∧
      after.Registered ∧
      ∃ span, frontier.wakeQueues.2 = some span ∧ 0 < span ∧ span ≤ setup.config.maxSleep ∧
        (∀ entry ∈ after.snoozed, span ≤ entry.wake - frontier.now) ∧
        (span = setup.config.maxSleep ∨
          ∃ entry ∈ after.snoozed, span = entry.wake - frontier.now) := by
  intro frontier after due sleepers lined
  have kept := World.run_kept setup events calm
  have ordered : frontier.Ordered := World.run_ordered setup events
  have sifts := frontier.wake_sifts kept.calm kept.registered ordered
  obtain ⟨keys, asleep⟩ :=
    frontier.sleepers_known kept.registered due (List.filter_sublist.subset)
  have line : frontier.lineUp frontier.tiers
      ((sleepers.filter (!·.isEmpty)).map (·.setWakeTime none)) = lined :=
    frontier.line_up_map _ _ _ (fun _ => rfl) (fun _ => rfl) fun _ => rfl
  obtain ⟨_, settled, _, early⟩ := frontier.wake_all kept.calm kept.registered ordered
  obtain ⟨slumber, answer⟩ := frontier.wake_slumber kept.calm kept.registered
  have left : after.snoozed = frontier.snoozed.filter (frontier.now < ·.wake) :=
    (congrArg Prod.fst slumber).trans
      (Snoozed.due_front frontier.snoozed frontier.now ordered).2.symm
  have now : after.now = frontier.now := congrArg Setting.now frontier.wake_stays.setting
  have config : after.config = setup.config :=
    (congrArg Setting.config frontier.wake_stays.setting).trans (World.run_config setup events)
  refine ⟨World.run_wakes setup events calm, keys, asleep, fun queue listed => ?_,
    line ▸ sifts.lined.ready, ?_, line ▸ sifts.lined.tiers, left, fun key others => ?_, settled, ?_⟩
  · by_cases dry : queue.isEmpty = true
    · refine ⟨_, sifts.left queue listed (by simp [dry]), rfl, rfl, ?_⟩
      rw [if_pos dry]
      rfl
    · have entered := sifts.lined.landed (queue.setWakeTime none)
        (List.mem_map_of_mem (List.mem_filter.mpr ⟨listed, by simp [dry]⟩))
      obtain ⟨items, wake, state⟩ := frontier.seated_shape
        (decide ((queue.setWakeTime none).key ∈ lined.1)) (queue.setWakeTime none)
      rw [line] at entered
      refine ⟨_, entered, items, wake, ?_⟩
      rw [state, if_neg dry]
      simp only [decide_eq_true_eq]
      rfl
  · rw [← keys]
    exact (frontier.line_up_sublist frontier.tiers _).trans (List.filter_sublist.map _)
  · have same : after.queue? key = frontier.queue? key :=
      sifts.lined.others key (by rw [keys]; exact others)
    exact ⟨same, kept.registered.stands settled same⟩
  · have ascending : after.snoozed.Ascending := by
      rw [left]
      exact ordered.sublist List.filter_sublist
    rw [← now] at early
    obtain ⟨capped, least, attained⟩ := after.rest_exact ascending early
    rw [config] at capped attained
    rw [now] at least attained early
    refine ⟨_, answer, ?_, capped, least, attained⟩
    rcases attained with same | ⟨entry, listed, same⟩
    · rw [same]
      exact Nat.mul_pos naps (by decide)
    · rw [same]
      exact Nat.sub_pos_of_lt (early entry listed)

theorem sweep_releases_due_two_pauses :
    let frontier := (World.run Setup.polite twoPauses).frontier
    frontier.snoozed = [⟨Time.millis 100, "a.com"⟩, ⟨Time.millis 100, "b.com"⟩] ∧
      World.WakesBefore Setup.polite twoPauses ⟨Time.millis 100, "a.com"⟩ ⟨Time.millis 100, "b.com"⟩ ∧
      frontier.wakeQueues.1.ready = ["a.com", "b.com"] ∧
      frontier.wakeQueues.1.snoozed = [] ∧ frontier.wakeQueues.1.Registered ∧
      ∃ span, frontier.wakeQueues.2 = some span ∧ 0 < span := by
  intro frontier
  have calm : Calm Setup.polite twoPauses := ⟨rfl, by simp [twoPauses, Event.Calm]⟩
  have asleep : frontier.snoozed = [⟨Time.millis 100, "a.com"⟩, ⟨Time.millis 100, "b.com"⟩] := by
    decide +kernel
  obtain ⟨order, _, _, _, ready, _, _, left, _, registered, span, answer, positive, _⟩ :=
    sweep_releases_due Setup.polite twoPauses calm (by decide)
  rw [asleep] at order
  refine ⟨asleep, (List.pairwise_cons.mp order).1 _ (List.mem_singleton_self _), ?_, ?_, registered,
    span, answer, positive⟩
  · rw [ready]
    decide +kernel
  · rw [left]
    decide +kernel

end PoliteCrawl
