import PoliteCrawl.Proofs.Frontier.Stranding
import PoliteCrawl.Proofs.World.Acting

set_option autoImplicit false

namespace PoliteCrawl

namespace World

theorem guarding_acting {spared : String → Prop} {related : Frontier → Frontier → Prop}
    (guarding : Frontier.Guarding spared related) : Acting spared related where
  dispatching := guarding.dispatching
  completing := guarding.completing
  pulling := guarding.pulling
  permits := guarding.permits
  advance _ _ := guarding.still _ _ rfl rfl
  record frontier queue other :=
    guarding.trans _ _ _ (guarding.store frontier (queue.recordDispatch frontier.moment)
      (Frontier.Free.fits (.other other) rfl)) (guarding.still _ _ rfl rfl)
  order _ _ _ _ := guarding.still _ _ rfl rfl
  fund _ _ := guarding.still _ _ rfl rfl
  offer _ _ := guarding.still _ _ rfl rfl
  pass _ _ := guarding.still _ _ rfl rfl

theorem run_claims_once (setup : Setup) (events : List Event) :
    (run setup events).frontier.claims.Nodup := by
  refine run_induction (motive := fun _ world => world.frontier.claims.Nodup) setup .nil ?_ events
  intro events event once
  exact (guarding_acting Frontier.once_guarding).next _ event once

theorem step_stranded (world : World) (event : Event) (key : String)
    (stranded : world.frontier.Stranded key) : (world.step event).frontier.Stranded key := by
  rw [step]
  by_cases admitted : world.admits event = true
  · rw [if_pos admitted]
    obtain ⟨queue, found, process, free⟩ := stranded
    apply (guarding_acting (Frontier.stranded_guarding key)).act world event
    · intro other old same present ready
      subst same
      rw [found] at present
      cases present
      rw [process] at ready
      cases ready
    · intro other same
      exact same ▸ free
    · exact ⟨queue, found, process, free⟩
  · rw [if_neg admitted]
    exact stranded

theorem run_stranded (world : World) (events : List Event) (key : String)
    (stranded : world.frontier.Stranded key) :
    (events.foldl step world).frontier.Stranded key := by
  induction events generalizing world with
  | nil => exact stranded
  | cons event rest ih => exact ih (world.step event) (step_stranded world event key stranded)

end World

/-- A completion fails if and only if it takes back the URI in flight, its queue has to be placed at
once and the routing fails. It then has counted the outcome and given up the claim, but the queue is
still in process and in no other register, and the gateway did not hear of the URI. The site is lost:
whatever happens later, its queue stays in process without a claim, every report about it is refused,
and nothing is handed out from it. -/
theorem failed_completion_strands_site (setup : Setup) (events : List Event) (uri : CrawlUri)
    (outcome : Outcome) :
    let frontier := (World.run setup events).frontier
    let after := (frontier.complete uri outcome).1
    ((frontier.complete uri outcome).2 = .failed ↔
      ∃ queue head rest, frontier.Reported uri queue head rest ∧
        Frontier.Asks (frontier.billed queue head outcome) (frontier.pauseAfter head outcome) ∧
        frontier.routing.faults.head? = some true) ∧
      ((frontier.complete uri outcome).2 = .failed →
        (∃ queue head rest left, frontier.Reported uri queue head rest ∧
          after.queue? uri.siteKey = some left ∧ left.state = .inProcess ∧
          left.items = (if frontier.grantsRetry head outcome then head.again :: rest else rest) ∧
          uri.siteKey ∉ after.claims ∧ after.gateway = frontier.gateway ∧
          after.ready = frontier.ready ∧ after.tiers = frontier.tiers ∧
          after.snoozed = frontier.snoozed ∧ after.retired = frontier.retired) ∧
        ((World.run setup events).turn = none → ∀ later,
          let final := (World.run setup (events ++ .complete uri outcome :: later)).frontier
          final.Stranded uri.siteKey ∧
            (∀ other report, other.siteKey = uri.siteKey →
              final.complete other report = (final, .refused (.notInProcess uri.siteKey))) ∧
            final.dispatchFrom uri.siteKey = (final, some none))) := by
  intro frontier after
  refine ⟨frontier.complete_fails uri outcome, fun failed => ?_⟩
  obtain ⟨queue, head, rest, reported, _, _⟩ := (frontier.complete_fails uri outcome).mp failed
  obtain ⟨routing, same⟩ := frontier.complete_failed uri head rest outcome queue reported failed
  obtain ⟨found, process, free⟩ := frontier.given_up_stranded uri head rest outcome queue reported
    (World.run_claims_once setup events) (frontier.billedStats queue head outcome) routing
  have whole : after = _ := same
  rw [← whole] at found free
  have items := (frontier.billed_shape queue head rest outcome reported.line).1
  refine ⟨⟨queue, head, rest, _, reported, found, process, items, free, ?_⟩, fun idle later => ?_⟩
  · rw [whole]
    exact ⟨rfl, rfl, rfl, rfl, rfl⟩
  · intro final
    have next : (World.run setup events).step (.complete uri outcome) =
        (World.run setup events).act (.complete uri outcome) := by
      simp [World.step, World.admits, idle]
    have run : World.run setup (events ++ .complete uri outcome :: later) =
        later.foldl World.step ((World.run setup events).act (.complete uri outcome)) := by
      rw [← next]
      simp [World.run]
    have stranded : final.Stranded uri.siteKey := by
      simp only [final, run]
      exact World.run_stranded _ later uri.siteKey ⟨_, found, process, free⟩
    exact ⟨stranded, stranded.stuck⟩

def Routing.failing : Routing :=
  (Routing.new 1).arm 1

def faultyReturn : List Event :=
  firstCall ++ [.reroute Routing.failing]

theorem failed_completion_strands_site_first_call :
    (World.run Setup.plain faultyReturn).turn = none ∧
      ((World.run Setup.plain faultyReturn).frontier.complete firstPage
        (Outcome.new .disregarded 0)).2 = .failed ∧
      (World.run Setup.plain (faultyReturn ++
        .complete firstPage (Outcome.new .disregarded 0) :: firstCall)).frontier.Stranded
          "a.com" :=
  ⟨rfl, rfl, (((failed_completion_strands_site Setup.plain faultyReturn firstPage
    (Outcome.new .disregarded 0)).2 rfl).2 rfl firstCall).1⟩

-- Before the completion its queue is in process, with a claim and with the URI at its head. After the
-- failure it is in process without a claim, the URI is gone, and the filter was not told.
theorem failed_completion_keeps_no_claim :
    let before := (World.run Setup.plain faultyReturn).frontier
    let after := (before.complete firstPage (Outcome.new .disregarded 0)).1
    (before.complete firstPage (Outcome.new .disregarded 0)).2 = .failed ∧
      before.claims = ["a.com"] ∧ after.claims = [] ∧
      (after.queue? "a.com").map (·.state) = some .inProcess ∧
      (before.queue? "a.com").map (·.items.head?) = some (some firstPage) ∧
      (after.queue? "a.com").map (·.items) = some [{ page "a.com" "2" with siteKey := "a.com" }] ∧
      after.gateway = before.gateway :=
  ⟨rfl, rfl, rfl, rfl, rfl, rfl, rfl⟩

end PoliteCrawl
