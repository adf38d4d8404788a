import PoliteCrawl.Frontier.Snapshot
import PoliteCrawl.Proofs.World.Acting
import PoliteCrawl.Proofs.World.Turns

set_option autoImplicit false

namespace PoliteCrawl

namespace Frontier

structure Dreams (before after : Frontier) : Prop where
  clock : before.now ≤ after.now
  asleep : ∀ entry ∈ before.snoozed, after.now < entry.wake → entry ∈ after.snoozed

theorem Dreams.still {before after : Frontier} (now : after.now = before.now)
    (snoozed : after.snoozed = before.snoozed) : before.Dreams after := by
  refine ⟨Nat.le_of_eq now.symm, fun entry listed _ => ?_⟩
  rw [snoozed]
  exact listed

theorem dreams_shelving : Shelving nobody Dreams where
  refl _ := .still rfl rfl
  trans _ _ _ one two := by
    refine ⟨Nat.le_trans one.clock two.clock, fun entry listed early => ?_⟩
    exact two.asleep entry (one.asleep entry listed (Nat.lt_of_le_of_lt two.clock early)) early
  route _ _ := .still rfl rfl
  store _ _ _ := .still rfl rfl
  add _ _ _ _ := .still rfl rfl
  file _ _ _ := .still rfl rfl
  count _ := .still rfl rfl
  publish _ _ := .still rfl rfl
  shelve _ _ := .still rfl rfl

theorem dreams_dispatching : Dispatching nobody Dreams where
  toShelving := dreams_shelving
  hold _ _ _ _ := .still rfl rfl
  release _ _ := .still rfl rfl
  reclassify _ := .still rfl rfl

theorem dreams_completing : Completing nobody Dreams where
  toShelving := dreams_shelving
  snooze frontier key wake := by
    refine ⟨Nat.le_refl _, fun entry listed _ => ?_⟩
    have inserted := Snoozed.insert_perm { wake, key } frontier.snoozed
    exact inserted.mem_iff.mpr (List.mem_cons_of_mem _ listed)
  awaken frontier first rest line due := by
    refine ⟨Nat.le_refl _, fun entry listed early => ?_⟩
    rw [line] at listed
    cases listed with
    | head => exact absurd early (Nat.not_lt.mpr due)
    | tail _ later => exact later
  release _ _ := .still rfl rfl
  charge _ _ := .still rfl rfl
  alarm _ _ := .still rfl rfl
  tell _ _ _ := .still rfl rfl

theorem dreams_pulling : Pulling nobody Dreams where
  toPlacing := dreams_shelving.toPlacing
  take _ _ _ _ := .still rfl rfl
  pull _ _ := .still rfl rfl
  signal _ _ := .still rfl rfl

theorem dreams_permits : Permits Dreams where
  refl := dreams_shelving.refl
  trans := dreams_shelving.trans
  mark _ _ _ := .still rfl rfl
  retarget _ _ _ _ _ := .still rfl rfl
  notify _ := .still rfl rfl
  call _ := .still rfl rfl
  snooze _ _ := .still rfl rfl
  close _ _ _ _ := .still rfl rfl
  wake := wake_dozed dreams_completing.toDozing

theorem dreams_acting : World.Acting nobody Dreams where
  dispatching := dreams_dispatching
  completing := dreams_completing
  pulling := dreams_pulling
  permits := dreams_permits
  advance _ _ := .still rfl rfl
  record _ _ _ := .still rfl rfl
  order _ _ _ _ := .still rfl rfl
  fund _ _ := .still rfl rfl
  offer _ _ := .still rfl rfl
  pass frontier span := by
    refine ⟨Nat.le_add_right _ _, fun entry listed _ => listed⟩

theorem settle_pauses (frontier : Frontier) (queue old : WorkQueue) (pause : Time.Span)
    (found : frontier.queue? queue.key = some old) (process : queue.state = .inProcess)
    (owed : pause ≠ 0) :
    (frontier.settle queue pause).2 = some .stay ∧
      ((frontier.settle queue pause).1.queueState? queue.key = some .retired ∨
        { wake := frontier.now + pause, key := queue.key } ∈
          (frontier.settle queue pause).1.snoozed) := by
  by_cases spent : queue.isOverTotal = true
  · rw [settle, if_pos spent]
    refine ⟨rfl, .inl ?_⟩
    let retired := WorkQueue.deactivate { queue with state := .retired }
    have stored : (frontier.store retired).queue? queue.key = some retired :=
      store_same frontier retired old found
    have whole : (frontier.retire queue).queue? queue.key = some retired := by
      simp only [retire, queue.transition_allowed .retired (by simp [process, QueueState.allows])]
      exact stored
    simp only [queueState?, whole]
    rfl
  · rw [settle, if_neg spent, if_pos owed]
    refine ⟨rfl, .inr ?_⟩
    simp only [rest, queue.transition_allowed .snoozed (by simp [process, QueueState.allows])]
    exact (Snoozed.insert_perm _ frontier.snoozed).mem_iff.mpr List.mem_cons_self

theorem complete_pauses (frontier : Frontier) (uri head : CrawlUri) (rest : List CrawlUri)
    (outcome : Outcome) (queue : WorkQueue) (reported : frontier.Reported uri queue head rest)
    (owed : frontier.pauseAfter head outcome ≠ 0) :
    (frontier.complete uri outcome).1.queueState? uri.siteKey = some .retired ∨
      { wake := frontier.now + frontier.pauseAfter head outcome, key := uri.siteKey } ∈
        (frontier.complete uri outcome).1.snoozed := by
  let billed := frontier.billed queue head outcome
  let base := frontier.givenUp billed (frontier.billedStats queue head outcome)
  have named := queue_key frontier uri.siteKey queue reported.found
  have key : billed.key = uri.siteKey := (frontier.billed_key queue head outcome).trans named
  have state := (frontier.billed_shape queue head rest outcome reported.line).2.1
  have found : base.queue? billed.key = some billed :=
    store_same (frontier.release billed.key) billed queue (key.symm ▸ reported.found)
  obtain ⟨stays, settled⟩ := settle_pauses base billed billed (frontier.pauseAfter head outcome)
    found (state.trans reported.process) owed
  have whole : (frontier.givenUp (frontier.billed queue head outcome)
      (frontier.billedStats queue head outcome)).settle (frontier.billed queue head outcome)
        (frontier.pauseAfter head outcome) =
      ((base.settle billed (frontier.pauseAfter head outcome)).1, some .stay) := Prod.ext rfl stays
  rw [complete_shape frontier uri head rest outcome queue reported, whole]
  obtain ⟨gateway, signal, same⟩ := report_drained
    ((base.settle billed (frontier.pauseAfter head outcome)).1.place uri.siteKey .stay)
    (frontier.grantsRetry head outcome) head outcome
  rw [key] at settled
  simp only [same]
  exact settled

end Frontier

namespace World

def handedAt (world : World) (key : String) : List CrawlUri :=
  world.handed.filter (·.siteKey = key)

theorem step_idle {origin : Gateway} (world : World) (event : Event) (key : String)
    (queue : WorkQueue) (kept : Kept origin world.frontier world.journal)
    (found : world.frontier.queue? key = some queue) (idle : queue.state ≠ .ready) :
    (world.step event).handedAt key = world.handedAt key := by
  rcases step_gained world event with same | ⟨id, call, uri, _, _, gained, handed⟩
  · rw [handedAt, same]
    rfl
  · obtain ⟨first, rest, other, line, present, member⟩ :=
      world.frontier.gain_ready call.id call.phase uri gained
    have site : uri.siteKey = first := by
      apply kept.posted.addressed kept.addressed
      change uri ∈ (world.frontier.lane first).items
      rw [world.frontier.lane_of_queue first other present]
      exact member
    have elsewhere : uri.siteKey ≠ key := by
      intro same
      obtain ⟨ready, here, _, state, _⟩ :=
        world.frontier.ready_queue first kept.registered (by simp [line])
      rw [← site, same, found] at here
      cases here
      exact idle state
    rw [handedAt, handed, List.filter_append, List.filter_cons_of_neg (by simpa using elsewhere)]
    simp [handedAt]

theorem step_asleep {origin : Gateway} (world : World) (event : Event) (entry : SnoozeEntry)
    (kept : Kept origin world.frontier world.journal) (asleep : entry ∈ world.frontier.snoozed) :
    (world.step event).handedAt entry.key = world.handedAt entry.key := by
  obtain ⟨queue, found, _, snoozed, _⟩ :=
    world.frontier.snoozed_queue entry kept.registered asleep
  exact step_idle world event entry.key queue kept found (by simp [snoozed])

theorem run_dreams (world : World) (events : List Event) :
    world.frontier.Dreams (events.foldl step world).frontier := by
  induction events generalizing world with
  | nil => exact Frontier.dreams_shelving.refl world.frontier
  | cons event rest ih =>
      exact Frontier.dreams_shelving.trans _ _ _ (Frontier.dreams_acting.next world event)
        (ih (world.step event))

theorem run_asleep (setup : Setup) (before later : List Event) (entry : SnoozeEntry)
    (calm : Calm setup (before ++ later))
    (asleep : entry ∈ (run setup before).frontier.snoozed)
    (early : (run setup (before ++ later)).frontier.now < entry.wake) :
    (run setup (before ++ later)).handedAt entry.key =
      (run setup before).handedAt entry.key := by
  induction later generalizing before with
  | nil => rw [List.append_nil]
  | cons event rest ih =>
      have split : before ++ event :: rest = before ++ [event] ++ rest := by simp
      rw [split] at calm early ⊢
      have clock := (run_dreams (run setup (before ++ [event])) rest).clock
      have whole : run setup (before ++ [event] ++ rest) =
          rest.foldl step (run setup (before ++ [event])) := by simp [run]
      rw [← whole] at clock
      have next : entry ∈ (run setup (before ++ [event])).frontier.snoozed := by
        rw [run_snoc] at clock ⊢
        exact (Frontier.dreams_acting.next _ event).asleep entry asleep
          (Nat.lt_of_le_of_lt clock early)
      have kept := run_kept setup before calm.earlier.earlier
      rw [ih (before ++ [event]) calm next early, run_snoc]
      exact step_asleep _ event entry kept asleep

end World

/-- A completion that is accepted, of a site whose queue it does not retire, leaves the queue asleep for
the pause that the site is owed: what politeness asks for the outcome, or the delay of a retry if that
is longer and the URI is to be tried again. Until this pause is over, whatever happens meanwhile, the
queue sleeps on and nothing is handed out at the site. -/
theorem pauses_are_served (setup : Setup) (before later : List Event) (uri head : CrawlUri)
    (rest : List CrawlUri) (outcome : Outcome) (queue : WorkQueue)
    (calm : Calm setup (before ++ [.complete uri outcome] ++ later))
    (idle : (World.run setup before).turn = none)
    (reported : (World.run setup before).frontier.Reported uri queue head rest)
    (kept : (World.run setup (before ++ [.complete uri outcome])).frontier.queueState? uri.siteKey ≠
      some .retired)
    (early : (World.run setup (before ++ [.complete uri outcome] ++ later)).frontier.now <
      (World.run setup before).frontier.now +
        (World.run setup before).frontier.pauseAfter head outcome) :
    let next := World.run setup (before ++ [.complete uri outcome])
    let last := World.run setup (before ++ [.complete uri outcome] ++ later)
    ((World.run setup before).frontier.complete uri outcome).2 = .done ∧
      (∃ asleep, last.frontier.queue? uri.siteKey = some asleep ∧ asleep.state = .snoozed ∧
        asleep.wakeTime = some ((World.run setup before).frontier.now +
          (World.run setup before).frontier.pauseAfter head outcome)) ∧
      last.handedAt uri.siteKey = next.handedAt uri.siteKey := by
  intro next last
  have stepped : next = (World.run setup before).act (.complete uri outcome) := by
    rw [show next = _ from World.run_snoc setup before _, World.step]
    simp [World.admits, idle]
  have started := World.run_kept setup before calm.earlier.earlier
  have ended := World.run_kept setup (before ++ [.complete uri outcome] ++ later) calm
  have done := ((World.run setup before).frontier.complete_calm uri head rest outcome queue
    started.calm started.registered reported.found reported.process reported.line reported.same).1
  have whole : last = later.foldl World.step next := by simp [last, next, World.run]
  have dreams := World.run_dreams next later
  rw [← whole] at dreams
  have clock : (World.run setup before).frontier.now ≤ next.frontier.now := by
    rw [stepped]
    exact (Frontier.complete_moved Frontier.dreams_completing _ uri outcome fun no => no.elim).clock
  have owed : (World.run setup before).frontier.pauseAfter head outcome ≠ 0 := by
    intro free
    have later := Nat.le_trans clock dreams.clock
    rw [free] at early
    exact Nat.not_lt.mpr later early
  let entry : SnoozeEntry :=
    { wake := (World.run setup before).frontier.now +
        (World.run setup before).frontier.pauseAfter head outcome
      key := uri.siteKey }
  have asleep : entry ∈ next.frontier.snoozed := by
    rw [stepped]
    refine (Frontier.complete_pauses _ uri head rest outcome queue reported owed).resolve_left ?_
    intro retired
    apply kept
    rw [show World.run setup (before ++ [.complete uri outcome]) = next from rfl, stepped]
    exact retired
  have still : entry ∈ last.frontier.snoozed := dreams.asleep entry asleep early
  obtain ⟨sleeper, found, _, state, _, wake⟩ :=
    last.frontier.snoozed_queue entry ended.registered still
  exact ⟨done, ⟨sleeper, found, state, wake⟩,
    World.run_asleep setup _ later entry calm asleep early⟩

def Setup.polite : Setup :=
  { Setup.plain with
    politeness :=
      { factor := Number.Binary64.ofNat 0, least := Time.millis 100, greatest := Time.millis 100 } }

def fetched : Outcome :=
  Outcome.new (.success 200) 0

-- A millisecond before the pause is over more work comes for the site, and a worker asks for it.
def impatience : List Event :=
  [.advance (Time.millis 99), .schedule (page "a.com" "3"), .manage, .unretire, .call, .proceed 1,
    .proceed 1, .proceed 1, .proceed 1]

theorem pauses_are_served_first_call :
    (World.run Setup.polite firstCall).frontier.pauseAfter firstPage fetched = Time.millis 100 ∧
      (World.run Setup.polite (firstCall ++ [.complete firstPage fetched] ++ impatience)).handedAt
        firstPage.siteKey = [firstPage] := by
  refine ⟨by decide +kernel, ?_⟩
  have calm : Calm Setup.polite (firstCall ++ [.complete firstPage fetched] ++ impatience) :=
    ⟨rfl, by simp [firstCall, impatience, Event.Calm]⟩
  have served := pauses_are_served Setup.polite firstCall impatience firstPage firstPage
    [{ page "a.com" "2" with siteKey := "a.com" }] fetched _ calm (by decide +kernel)
    ⟨rfl, by decide +kernel, by decide +kernel, rfl, rfl⟩ (by decide +kernel) (by decide +kernel)
  exact served.2.2.trans (by decide +kernel)

end PoliteCrawl
