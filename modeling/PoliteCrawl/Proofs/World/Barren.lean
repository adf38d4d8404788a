import PoliteCrawl.Proofs.Crawl.Lines
import PoliteCrawl.Proofs.World.Conservation
import PoliteCrawl.Proofs.World.Drained
import PoliteCrawl.Proofs.World.Pauses
import PoliteCrawl.Proofs.World.Registers

set_option autoImplicit false

namespace PoliteCrawl

def Barren (queues : List WorkQueue) : Prop :=
  ∀ queue ∈ queues, queue.state = .empty ∨ queue.state = .retired

instance (queues : List WorkQueue) : Decidable (Barren queues) :=
  inferInstanceAs (Decidable (∀ queue ∈ queues, queue.state = .empty ∨ queue.state = .retired))

namespace Frontier

theorem barren_state {queues : List WorkQueue} {queue : WorkQueue} {state : QueueState}
    (barren : Barren queues) (listed : queue ∈ queues)
    (gives : state ≠ .empty ∧ state ≠ .retired) : queue.state ≠ state := by
  rcases barren queue listed with empty | retired
  · exact fun same => gives.1 (same.symm.trans empty)
  · exact fun same => gives.2 (same.symm.trans retired)

theorem barren_queue {frontier : Frontier} {key : String} {queue : WorkQueue} {state : QueueState}
    (barren : Barren frontier.queues) (found : frontier.queue? key = some queue)
    (gives : state ≠ .empty ∧ state ≠ .retired) : queue.state ≠ state :=
  barren_state barren (List.mem_of_find?_eq_some found) gives

theorem barren_wake_queue (frontier : Frontier) (key : String) (barren : Barren frontier.queues) :
    frontier.wakeQueue key = (frontier, some ()) := by
  rw [wakeQueue]
  cases found : frontier.queue? key with
  | none => rfl
  | some queue => exact if_neg (barren_queue barren found (by simp))

theorem barren_wake_due (entries : Snoozed) (frontier : Frontier)
    (barren : Barren frontier.queues) :
    ∃ snoozed, frontier.wakeDue entries = ({ frontier with snoozed }, some ()) := by
  induction entries generalizing frontier with
  | nil => exact ⟨frontier.snoozed, rfl⟩
  | cons entry rest ih =>
      by_cases due : entry.wake ≤ frontier.now
      · have woken := barren_wake_queue { frontier with snoozed := rest } entry.key barren
        simp only [wakeDue, if_pos due, woken]
        exact ih { frontier with snoozed := rest } barren
      · simp only [wakeDue, if_neg due]
        exact ⟨frontier.snoozed, rfl⟩

theorem barren_wake (frontier : Frontier) (barren : Barren frontier.queues) :
    ∃ snoozed span, frontier.wakeQueues = ({ frontier with snoozed }, some span) := by
  obtain ⟨snoozed, woken⟩ := barren_wake_due frontier.snoozed frontier barren
  simp only [wakeQueues, woken]
  exact ⟨snoozed, _, rfl⟩

theorem drained_run (frontier : Frontier) (target : frontier.target = .run)
    (drained : frontier.isEmpty = true) :
    frontier.managementStep = (frontier.setTarget .empty, .rests 0) := by
  simp [managementStep, target, manageRun, drained]

theorem burdened_run (frontier : Frontier) (target : frontier.target = .run)
    (burdened : frontier.isEmpty = false) (barren : Barren frontier.queues) :
    ∃ snoozed signal span, frontier.managementStep =
      ({ frontier.markReached .run with snoozed, readySignal := signal }, .rests span) := by
  obtain ⟨snoozed, span, woken⟩ := barren_wake (frontier.markReached .run) barren
  simp only [managementStep, target, manageRun, burdened, Bool.false_eq_true, if_false, woken]
  by_cases dry : frontier.ready.isEmpty = true
  · rw [if_pos (by exact dry)]
    exact ⟨snoozed, frontier.readySignal.notifyOne, span, rfl⟩
  · rw [if_neg (by exact dry)]
    exact ⟨snoozed, frontier.readySignal, span, rfl⟩

theorem drained_empty (frontier : Frontier) (target : frontier.target = .empty)
    (drained : frontier.isEmpty = true) (barren : Barren frontier.queues) :
    let next := frontier.managementStep.1
    next.target = .empty ∧ next.reached = some .empty ∧ next.queues = frontier.queues ∧
      Crawl.Simulation.isIdle next = Crawl.Simulation.isIdle frontier := by
  obtain ⟨snoozed, span, woken⟩ := barren_wake (frontier.markReached .empty) barren
  simp only [managementStep, target, manageEmpty, drained, Bool.not_true, Bool.false_eq_true,
    if_false, woken]
  exact ⟨(frontier.mark_target .empty).trans target, frontier.mark_reached .empty, rfl, rfl⟩

theorem empty_drained (frontier : Frontier) (target : frontier.target = .empty)
    (reached : frontier.reached = some .empty) :
    Crawl.Simulation.isDrained frontier = Crawl.Simulation.isIdle frontier := by
  simp [Crawl.Simulation.isDrained, target, (has_reached frontier .empty).mpr reached]

-- A crawl that is to run, with URIs in queues that give none, and no others to come.
structure Lingers (queues : List WorkQueue) (frontier : Frontier) : Prop where
  barren : Barren queues
  queues : frontier.queues = queues
  burdened : frontier.isEmpty = false
  target : frontier.target = .run
  dry : frontier.gateway.pending = []

section Lingers

variable {queues : List WorkQueue} {before after : Frontier}

theorem Lingers.here (lingers : before.Lingers queues) : Barren before.queues :=
  lingers.queues ▸ lingers.barren

theorem Lingers.still (lingers : before.Lingers queues) (same : after.queues = before.queues)
    (counted : after.isEmpty = before.isEmpty) (target : after.target = before.target)
    (dry : after.gateway.pending = before.gateway.pending) : after.Lingers queues where
  barren := lingers.barren
  queues := same.trans lingers.queues
  burdened := counted.trans lingers.burdened
  target := target.trans lingers.target
  dry := dry.trans lingers.dry

theorem Lingers.undrained (lingers : before.Lingers queues) :
    Crawl.Simulation.isDrained before = false := by
  simp [Crawl.Simulation.isDrained, Crawl.Simulation.isIdle, lingers.target, lingers.burdened]

theorem Lingers.manage (lingers : before.Lingers queues) :
    before.managementStep.1.Lingers queues ∧ before.manage.1 = before.managementStep.1 := by
  obtain ⟨snoozed, signal, span, same⟩ :=
    burdened_run before lingers.target lingers.burdened lingers.here
  rw [Frontier.manage, same]
  exact ⟨lingers.still rfl rfl (before.mark_target .run) rfl, rfl⟩

theorem Lingers.turn (lingers : before.Lingers queues) (supervisor : Supervisor) :
    (before.superviseTurn supervisor).1.Lingers queues := by
  obtain ⟨first, last, still | managed⟩ := turn_manages before supervisor
  · rw [still]
    exact lingers.still rfl rfl rfl rfl
  · have roused : { before with snoozeSignal := first }.Lingers queues :=
      lingers.still rfl rfl rfl rfl
    obtain ⟨stepped, whole⟩ := roused.manage
    rw [managed, whole]
    exact stepped.still rfl rfl rfl rfl

theorem Lingers.complete (lingers : before.Lingers queues) (uri : CrawlUri) (outcome : Outcome) :
    (before.complete uri outcome).1 = before := by
  rw [Frontier.complete]
  cases found : before.queue? uri.siteKey with
  | none => rfl
  | some queue =>
      have idle : queue.state ≠ .inProcess := barren_queue lingers.here found (by simp)
      simp [idle]

theorem Lingers.collect (lingers : before.Lingers queues) (id : Nat) :
    (before.collect id).1.Lingers queues := by
  rw [Frontier.collect]
  cases taken : before.gateway.takeBatch with
  | error cause => exact lingers.still rfl rfl rfl rfl
  | ok handed =>
      obtain ⟨gateway, handover⟩ := handed
      have drawn := (Gateway.take_draws before.gateway gateway handover taken).1
      rw [lingers.dry] at drawn
      obtain ⟨none, dry⟩ := List.append_eq_nil_iff.mp drawn.symm
      simp only [none]
      exact lingers.still rfl rfl rfl (dry.trans lingers.dry.symm)

theorem Lingers.flush (lingers : before.Lingers queues) (id : Nat) :
    (before.flush id).1.Lingers queues := by
  rw [Frontier.flush]
  split
  · exact lingers.collect id
  · exact lingers

theorem Lingers.activate (lingers : before.Lingers queues) :
    ∃ tiers, before.activateInactive = ({ before with tiers }, some false) := by
  have stale (key : String) (tier : Nat) : before.inspect key tier = (before, some .stale) := by
    have inspected := before.inspect_cases key tier
    generalize before.inspect key tier = result at inspected
    cases inspected with
    | stale => rfl
    | fails found inactive | readies found inactive | misfiled found inactive =>
        exact absurd inactive (barren_queue lingers.here found (by simp))
  obtain ⟨left, scanned⟩ := Tiers.scan_stale Frontier.inspect before stale
    (before.tiers.filed.map (·.1)) before.tiers.filed
  simp only [activateInactive, Tiers.activateNext, scanned]
  exact ⟨_, rfl⟩

theorem Lingers.pull (lingers : before.Lingers queues) (id : Nat) :
    (before.pull id).1.Lingers queues := by
  rw [Frontier.pull]
  split
  · obtain ⟨tiers, scanned⟩ := lingers.activate
    have refiled : { before with tiers }.Lingers queues := lingers.still rfl rfl rfl rfl
    rw [scanned]
    exact refiled.flush id
  · exact lingers.flush id

theorem Lingers.contend (lingers : before.Lingers queues) (id attempt : Nat) :
    (before.contend id attempt).1.Lingers queues := by
  have taken : { before with pulling := true }.Lingers queues := lingers.still rfl rfl rfl rfl
  rw [Frontier.contend]
  split
  · exact taken.pull id
  · split <;> exact lingers

theorem Lingers.skip (lingers : before.Lingers queues) (key : String) :
    before.dispatchFrom key = (before, some none) := by
  rw [dispatchFrom]
  cases found : before.queue? key with
  | none => rfl
  | some queue =>
      have idle : queue.state ≠ .ready := barren_queue lingers.here found (by simp)
      simp only [claim, if_pos idle]

theorem Lingers.poll (lingers : before.Lingers queues) (id : Nat) (progress : Bool) :
    (before.poll id progress).1.Lingers queues := by
  rw [Frontier.poll]
  cases listed : before.ready with
  | nil => exact lingers
  | cons key rest =>
      have taken : { before with ready := rest }.Lingers queues := lingers.still rfl rfl rfl rfl
      simp only [taken.skip key]
      exact taken

theorem Lingers.step (lingers : before.Lingers queues) (id : Nat) (phase : CallPhase) :
    (before.stepPhase id phase).1.Lingers queues := by
  cases phase with
  | entering =>
      simp only [stepPhase, enter]
      split
      · exact lingers.still rfl rfl rfl rfl
      · split <;> exact lingers.still rfl rfl rfl rfl
  | contending attempt => exact lingers.contend id attempt
  | resting attempt until_ =>
      simp only [stepPhase]
      split <;> exact lingers
  | flushing due deadline =>
      simp only [stepPhase]
      split
      · exact lingers.collect id
      · split
        · exact lingers.still rfl rfl rfl rfl
        · exact lingers
  | polling progress => exact lingers.poll id progress
  | waiting =>
      simp only [stepPhase, awake]
      split
      · exact lingers.still rfl rfl rfl rfl
      · exact lingers
  | seeking | done _ | failed => exact lingers

end Lingers

theorem Registered.barren {frontier : Frontier} (registered : frontier.Registered)
    (barren : Barren frontier.queues) :
    frontier.ready = [] ∧ frontier.tiers.keys = [] ∧ frontier.snoozed = [] ∧
      frontier.claims = [] ∧
      frontier.contents = (frontier.queues.filter (·.state = .retired)).flatMap (·.items) := by
  obtain ⟨ready, inactive, snoozed, _, claimed⟩ := registered.perms
  have absent (state : QueueState) (gives : state ≠ .empty ∧ state ≠ .retired) :
      frontier.keysIn state = [] := by
    rw [keysIn, List.map_eq_nil_iff, List.filter_eq_nil_iff]
    intro queue listed
    simpa using barren_state barren listed gives
  rw [absent .ready (by simp)] at ready
  rw [absent .inactive (by simp)] at inactive
  rw [absent .snoozed (by simp)] at snoozed
  rw [absent .inProcess (by simp)] at claimed
  refine ⟨ready.eq_nil, inactive.eq_nil, List.map_eq_nil_iff.mp snoozed.eq_nil, claimed.eq_nil, ?_⟩
  have spent : ∀ queue ∈ frontier.queues, queue.state ≠ .retired → queue.items = [] := by
    intro queue listed active
    have empty := (barren queue listed).resolve_right active
    have stands := frontier.settled_queue queue.key queue registered
      (listed_queue registered.once listed)
    simp only [WorkQueue.StandsAt, empty] at stands
    exact stands.2.1
  rw [contents]
  generalize frontier.queues = queues at spent
  induction queues with
  | nil => rfl
  | cons first rest ih =>
      have others := ih fun queue listed => spent queue (List.mem_cons_of_mem _ listed)
      by_cases retired : first.state = .retired
      · simp [retired, others]
      · simp [retired, others, spent first List.mem_cons_self retired]

end Frontier

-- Brings URIs or queues back into the crawl, or asks for another state of it.
def Event.stirs : Event → Bool
  | .schedule _ | .unretire | .request _ | .offer _ => true
  | _ => false

namespace World

theorem act_lingers {queues : List WorkQueue} (world : World) (event : Event)
    (quiet : event.stirs = false) (lingers : world.frontier.Lingers queues) :
    (world.act event).frontier.Lingers queues := by
  cases event with
  | schedule _ | unretire | request _ | offer _ => cases quiet
  | call | hire => exact lingers
  | setBudgets _ _ | reroute _ | advance _ => exact lingers.still rfl rfl rfl rfl
  | proceed id =>
      simp only [act]
      cases world.call? id with
      | none => exact lingers
      | some call => exact lingers.step call.id call.phase
  | drop id =>
      simp only [act]
      cases world.call? id with
      | none => exact lingers
      | some call =>
          simp only [Option.elim, drop]
          split
          · exact lingers
          · unfold Frontier.cancel
            split <;> exact lingers.still rfl rfl rfl rfl
  | complete uri outcome =>
      simp only [act, lingers.complete]
      exact lingers
  | manage => exact lingers.manage.1
  | supervise id =>
      simp only [act]
      cases world.supervisor? id with
      | none => exact lingers
      | some supervisor => exact lingers.turn supervisor

theorem run_lingers {queues : List WorkQueue} (later : List Event) (world : World)
    (quiet : ∀ event ∈ later, event.stirs = false) (lingers : world.frontier.Lingers queues) :
    (later.foldl step world).frontier.Lingers queues := by
  induction later generalizing world with
  | nil => exact lingers
  | cons event rest ih =>
      refine ih _ (fun other listed => quiet other (List.mem_cons_of_mem _ listed)) ?_
      rw [step]
      split
      · exact act_lingers world event (quiet event List.mem_cons_self) lingers
      · exact lingers

end World

/-- If a crawl that is to run has no queue with work to give, what the supervisor makes of it depends on
the number of queued URIs. If there are none, its next step turns the target to empty and the one after
finds it reached, so that the crawl is drained as soon as nothing is pending. If there are some, it says
that the crawl runs, and it runs on, undrained, with the same queues, until someone brings URIs or queues
back or asks for another state, as long as the gateway has nothing to hand over. As long as the routing
does not fail, no key is ready, inactive, asleep or claimed then, and the queued URIs are those of
the retired queues. -/
theorem retired_uris_keep_crawl_running (setup : Setup) (events : List Event) :
    let frontier := (World.run setup events).frontier
    frontier.target = .run → Barren frontier.queues →
      (frontier.isEmpty = true →
        let next := frontier.managementStep.1
        let last := next.managementStep.1
        next.target = .empty ∧ last.target = .empty ∧ last.reached = some .empty ∧
          last.queues = frontier.queues ∧
          Crawl.Simulation.isDrained last = Crawl.Simulation.isIdle frontier) ∧
      (frontier.isEmpty = false →
        let next := frontier.managementStep.1
        next.target = .run ∧ next.reached = some .run ∧ next.queues = frontier.queues ∧
          (frontier.gateway.pending = [] → ∀ later, (∀ event ∈ later, event.stirs = false) →
            let after := (World.run setup (events ++ later)).frontier
            after.target = .run ∧ after.queues = frontier.queues ∧
              Crawl.Simulation.isDrained after = false)) ∧
      (Calm setup events →
        frontier.ready = [] ∧ frontier.tiers.keys = [] ∧ frontier.snoozed = [] ∧
          frontier.claims = [] ∧
          frontier.stats.queued =
            ((frontier.queues.filter (·.state = .retired)).flatMap (·.items)).length) := by
  intro frontier target barren
  refine ⟨fun drained => ?_, fun burdened => ?_, fun calm => ?_⟩
  · obtain ⟨stays, reached, queues, idle⟩ :=
      (frontier.setTarget .empty).drained_empty rfl drained barren
    simp only [frontier.drained_run target drained]
    exact ⟨rfl, stays, reached, queues, (Frontier.empty_drained _ stays reached).trans idle⟩
  · obtain ⟨snoozed, signal, span, same⟩ := frontier.burdened_run target burdened barren
    rw [same]
    refine ⟨(frontier.mark_target .run).trans target, frontier.mark_reached .run, rfl,
      fun dry later quiet => ?_⟩
    have lingers := World.run_lingers later (World.run setup events) quiet
      ⟨barren, rfl, burdened, target, dry⟩
    simp only [World.run, List.foldl_append]
    exact ⟨lingers.target, lingers.queues, lingers.undrained⟩
  · have kept := World.run_kept setup events calm
    obtain ⟨ready, inactive, snoozed, claimed, contents⟩ := kept.registered.barren barren
    have counted : frontier.stats.queued = frontier.contents.length :=
      kept.posted.counted Ledger.nothing_counted
    exact ⟨ready, inactive, snoozed, claimed, counted.trans (congrArg List.length contents)⟩

def spentSite : List Event :=
  [.setBudgets 10 (some 1), .request .run, .schedule (page "a.com" "1"), .call, .proceed 0,
    .proceed 0, .proceed 0, .proceed 0, .complete firstPage fetched]

def spentSiteMore : List Event :=
  spentSite ++ [.schedule (page "a.com" "2")]

def patience : List Event :=
  [.hire, .supervise 1, .call, .proceed 2, .proceed 2, .proceed 2, .proceed 2, .proceed 2,
    .advance (Time.millis 10000), .supervise 1]

theorem retired_uris_keep_crawl_running_spent_site :
    let spent := (World.run Setup.plain spentSite).frontier
    let more := (World.run Setup.plain spentSiteMore).frontier
    (Barren spent.queues ∧ spent.managementStep.1.target = .empty ∧
        Crawl.Simulation.isDrained spent.managementStep.1.managementStep.1 = true) ∧
      Barren more.queues ∧ more.stats.queued = 1 ∧ more.ready = [] ∧
        Crawl.Simulation.isDrained
          (World.run Setup.plain (spentSiteMore ++ patience)).frontier = false := by
  intro spent more
  have barren : Barren spent.queues := by decide +kernel
  have still : Barren more.queues := by decide +kernel
  obtain ⟨moves, _, _, _, ends⟩ :=
    (retired_uris_keep_crawl_running Setup.plain spentSite rfl barren).1 rfl
  obtain ⟨_, lingers, calm⟩ := retired_uris_keep_crawl_running Setup.plain spentSiteMore rfl still
  obtain ⟨ready, _, _, _, queued⟩ := calm ⟨rfl, by simp [spentSiteMore, spentSite, Event.Calm]⟩
  refine ⟨⟨barren, moves, ends.trans rfl⟩, still, queued.trans rfl, ready, ?_⟩
  exact ((lingers rfl).2.2.2 rfl patience (by simp [patience, Event.stirs])).2.2

theorem spent_site_keeps_running :
    let frontier := (World.run Setup.plain spentSiteMore).frontier
    Calm Setup.plain spentSiteMore ∧ frontier.target = .run ∧ Barren frontier.queues ∧
      frontier.claims = [] ∧ frontier.managementStep.1.target = .run ∧
      frontier.managementStep.1.managementStep.1.target = .run ∧
      frontier.managementStep.1.managementStep.1.reached = some .run :=
  ⟨⟨rfl, by simp [spentSiteMore, spentSite, Event.Calm]⟩, rfl, by decide +kernel, rfl, rfl, rfl,
    rfl⟩

end PoliteCrawl
