import PoliteCrawl.Proofs.Frontier.Dispatch

set_option autoImplicit false

namespace PoliteCrawl

-- The routing may fail, but where URLs go is not a matter of what it was asked.
theorem Routing.ask_sites (routing : Routing) (key : String) :
    (routing.ask key).1.siteKey = routing.siteKey := by
  rw [ask]
  cases routing.faults <;> rfl

namespace Frontier

inductive Requeued (frontier : Frontier) (queue : WorkQueue) :
    Frontier × Option Placement → Prop where
  | fails (routing : Routing) (sites : routing.siteKey = frontier.routing.siteKey) :
      Requeued frontier queue ({ frontier with routing }, none)
  | parks (routing : Routing) (asked : WorkQueue) (told : ∃ tier, asked = queue.setPrecedence tier)
      (sites : routing.siteKey = frontier.routing.siteKey) :
      Requeued frontier queue
        ({ frontier with routing }.store (parked asked), some (.inactive asked.precedence))
  | readies (routing : Routing) (asked : WorkQueue)
      (told : ∃ tier, asked = queue.setPrecedence tier)
      (sites : routing.siteKey = frontier.routing.siteKey) :
      Requeued frontier queue
        ({ frontier with routing }.store { asked with state := .ready }, some .ready)

theorem refresh_cases (frontier : Frontier) (queue : WorkQueue) :
    ∃ routing : Routing, routing.siteKey = frontier.routing.siteKey ∧
      (frontier.refresh queue = ({ frontier with routing }, none) ∨
        ∃ tier, frontier.refresh queue =
          ({ frontier with routing }.store (queue.setPrecedence tier),
            some (queue.setPrecedence tier))) := by
  have sites := frontier.routing.ask_sites queue.key
  rw [refresh]
  cases result : frontier.routing.ask queue.key with
  | mk routing answer =>
      rw [result] at sites
      cases answer with
      | none => exact ⟨routing, sites, .inl rfl⟩
      | some tier => exact ⟨routing, sites, .inr ⟨tier, rfl⟩⟩

theorem reenqueue_cases (frontier : Frontier) (queue : WorkQueue)
    (free : queue.state.allows .ready = true ∧ queue.state.allows .inactive = true) :
    Requeued frontier queue (frontier.reenqueue queue) := by
  obtain ⟨routing, sites, fails | ⟨tier, asks⟩⟩ := refresh_cases frontier queue
  · rw [reenqueue, fails]
    exact .fails routing sites
  · rw [reenqueue, asks]
    obtain ⟨asked, told⟩ : ∃ asked, asked = queue.setPrecedence tier := ⟨_, rfl⟩
    have state : asked.state = queue.state := by
      rw [told]
      rfl
    rw [← state] at free
    simp only [← told]
    by_cases waits : ({ frontier with routing }.store asked).mustWait asked = true
    · have stored := store_store { frontier with routing } asked (parked asked) rfl
      rw [if_pos waits, deactivate_allowed _ asked _ free.2, stored]
      exact .parks routing asked ⟨tier, told⟩ sites
    · have stored := store_store { frontier with routing } asked { asked with state := .ready } rfl
      rw [if_neg waits, asked.transition_allowed .ready free.1]
      simp only [stored]
      exact .readies routing asked ⟨tier, told⟩ sites

theorem receive_first_cases (frontier : Frontier) (queue : WorkQueue)
    (empty : queue.state = .empty) : Requeued frontier queue (frontier.receiveFirst queue) := by
  rw [receiveFirst]
  by_cases held : frontier.holdsBack = true
  · rw [if_pos held]
    obtain ⟨routing, sites, fails | ⟨tier, asks⟩⟩ := refresh_cases frontier queue
    · rw [fails]
      exact .fails routing sites
    · obtain ⟨asked, told⟩ : ∃ asked, asked = queue.setPrecedence tier := ⟨_, rfl⟩
      have allowed : asked.state.allows .inactive = true := by
        rw [told]
        simp [WorkQueue.setPrecedence, empty, QueueState.allows]
      have stored := store_store { frontier with routing } asked (parked asked) rfl
      rw [asks]
      simp only [← told, deactivate_allowed _ asked _ allowed, stored]
      exact .parks routing asked ⟨tier, told⟩ sites
  · rw [if_neg held]
    exact reenqueue_cases frontier queue (by simp [empty, QueueState.allows])

inductive Ensured (frontier : Frontier) (key : String) : Frontier × Option WorkQueue → Prop where
  | known (queue : WorkQueue) (found : frontier.queue? key = some queue) :
      Ensured frontier key (frontier, some queue)
  | fails (routing : Routing) (missing : frontier.queue? key = none)
      (sites : routing.siteKey = frontier.routing.siteKey) :
      Ensured frontier key ({ frontier with routing }, none)
  | adds (routing : Routing) (tier : Nat) (missing : frontier.queue? key = none)
      (sites : routing.siteKey = frontier.routing.siteKey) :
      Ensured frontier key
        ({ frontier with routing }.addQueue (WorkQueue.new key tier), some (WorkQueue.new key tier))

theorem ensure_cases (frontier : Frontier) (key : String) :
    Ensured frontier key (frontier.ensureQueue key) := by
  rw [ensureQueue]
  cases found : frontier.queue? key with
  | some queue => exact .known queue found
  | none =>
      have sites := frontier.routing.ask_sites key
      cases result : frontier.routing.ask key with
      | mk routing answer =>
          rw [result] at sites
          cases answer with
          | none => exact .fails routing found sites
          | some tier => exact .adds routing tier found sites

theorem Ensured.stored {frontier base : Frontier} {key : String} {queue : WorkQueue}
    (ensured : Ensured frontier key (base, some queue)) : base.queue? key = some queue := by
  cases ensured with
  | known _ found => exact found
  | adds routing tier missing =>
      have known : { frontier with routing }.queue? key = none := missing
      rw [add_queue, known]
      exact if_pos rfl

-- A URI is lost for want of a queue, joins one that is busy, or joins one that is empty. That one is
-- placed then, or it sticks where it is if the routing fails.
inductive Sent (frontier : Frontier) (uri : CrawlUri) : Frontier × Option Unit → Prop where
  | lost (routing : Routing) (missing : frontier.queue? uri.siteKey = none)
      (sites : routing.siteKey = frontier.routing.siteKey) :
      Sent frontier uri ({ frontier with routing }, none)
  | joins (queue : WorkQueue) (found : frontier.queue? uri.siteKey = some queue)
      (busy : queue.state ≠ .empty) :
      Sent frontier uri ((frontier.store (queue.enqueue uri)).countQueued, some ())
  | places {base after : Frontier} {queue : WorkQueue} {placement : Placement}
      (ensured : Ensured frontier uri.siteKey (base, some queue)) (empty : queue.state = .empty)
      (requeued : Requeued (base.store (queue.enqueue uri)).countQueued (queue.enqueue uri)
        (after, some placement)) :
      Sent frontier uri (after.place uri.siteKey placement, some ())
  | sticks {base : Frontier} {queue : WorkQueue} (routing : Routing)
      (ensured : Ensured frontier uri.siteKey (base, some queue)) (empty : queue.state = .empty)
      (sites : routing.siteKey = base.routing.siteKey) :
      Sent frontier uri ({ (base.store (queue.enqueue uri)).countQueued with routing }, none)

theorem send_cases (frontier : Frontier) (uri : CrawlUri) :
    Sent frontier uri (frontier.send uri) := by
  have ensured := ensure_cases frontier uri.siteKey
  rw [send]
  cases result : frontier.ensureQueue uri.siteKey with
  | mk base answer =>
      rw [result] at ensured
      cases answer with
      | none =>
          cases ensured with
          | fails routing missing sites => exact .lost routing missing sites
      | some queue =>
          have named := queue_key base uri.siteKey queue ensured.stored
          have key : (queue.enqueue uri).key = uri.siteKey := (queue.enqueue_key uri).trans named
          have state := queue.enqueue_state uri
          by_cases empty : queue.state = .empty
          · have received := receive_first_cases (base.store (queue.enqueue uri)).countQueued
              (queue.enqueue uri) (state.trans empty)
            simp only [if_pos (state.trans empty), key]
            cases outcome : (base.store (queue.enqueue uri)).countQueued.receiveFirst
                (queue.enqueue uri) with
            | mk after answer =>
                rw [outcome] at received
                cases answer with
                | some placement => exact .places ensured empty received
                | none =>
                    cases received with
                    | fails routing sites => exact .sticks routing ensured empty sites
          · simp only [if_neg (state ▸ empty)]
            cases ensured with
            | known _ found => exact .joins queue found empty
            | adds routing tier missing => exact absurd rfl empty

theorem Requeued.sites {frontier : Frontier} {queue : WorkQueue}
    {result : Frontier × Option Placement} (requeued : Requeued frontier queue result) :
    result.1.routing.siteKey = frontier.routing.siteKey := by
  cases requeued <;> assumption

theorem Ensured.sites {frontier : Frontier} {key : String} {result : Frontier × Option WorkQueue}
    (ensured : Ensured frontier key result) :
    result.1.routing.siteKey = frontier.routing.siteKey := by
  cases ensured with
  | known _ _ => rfl
  | fails _ _ sites => exact sites
  | adds _ _ _ sites => exact sites

theorem place_routing (frontier : Frontier) (key : String) (placement : Placement) :
    (frontier.place key placement).routing = frontier.routing := by
  cases placement <;> rfl

theorem Sent.sites {frontier : Frontier} {uri : CrawlUri} {result : Frontier × Option Unit}
    (sent : Sent frontier uri result) : result.1.routing.siteKey = frontier.routing.siteKey := by
  cases sent with
  | lost _ _ sites => exact sites
  | joins _ _ _ => rfl
  | places ensured _ requeued =>
      simp only [place_routing]
      exact requeued.sites.trans ensured.sites
  | sticks _ ensured _ sites => exact sites.trans ensured.sites

end Frontier

end PoliteCrawl
