import PoliteCrawl.Proofs.Frontier.Delivery
import PoliteCrawl.Proofs.World.Losses

set_option autoImplicit false

namespace PoliteCrawl

/-- In every reachable state, whatever failed before, a call that the routing fails was doing one of three
things. If it was looking for an inactive queue it carried nothing, and every queue holds what it held. If
it was adding a batch, that batch has left the filter: the URIs before the one that the routing failed at
are in their queues, and those behind it are lost. If it was giving away the first URIs of a queue that
belong elsewhere, those before the one that the routing failed at are in other queues, and those behind it
are still in that queue, which remains claimed, or is empty if there are none. The URI that the routing
failed at is lost if its site had no queue. Otherwise a queue that was empty holds it, but still counts as
empty, and so it is in no register. Nothing else is lost. -/
theorem failed_deliveries_lose_uris (setup : Setup) (events : List Event) (id : Nat) (call : Call)
    (admitted : (World.run setup events).admits (.proceed id) = true)
    (found : (World.run setup events).call? id = some call) (going : call.phase ≠ .failed)
    (fails : ((World.run setup events).frontier.step call).2.phase = .failed) :
    let after := (World.run setup (events ++ [.proceed id])).frontier
    (World.run setup events).frontier.Miscarries after ∧
      ∀ key queue, after.queue? key = some queue → queue.state = .empty →
        after.standing key = .nowhere := by
  intro after
  have next : after = ((World.run setup events).frontier.stepPhase call.id call.phase).1 := by
    simp only [after, World.run_snoc, World.step]
    rw [if_pos admitted]
    simp only [World.act, found]
    rfl
  have tidy : after.Tidy := World.run_tidy setup (events ++ [.proceed id])
  refine ⟨?_, fun key queue present empty => (tidy.idle present empty).1⟩
  rw [next]
  exact Frontier.step_miscarries _ call.id call.phase (World.run_tidy setup events) going fails

-- Two new pages wait in the filter, and a worker is about to pull them when the routing begins to fail.
def failingFlush (faults : List Bool) : List Event :=
  [.offer (.add (page "a.com" "1")), .offer (.add (page "b.com" "1")),
    .reroute { Routing.new 1 with faults }, .request .run, .call, .proceed 0, .proceed 0]

-- The first of two pages is about to be moved to another site when the routing begins to fail.
def failingMove : List Event :=
  [.schedule (page "a.com" "1"), .schedule (page "a.com" "2"),
    .reroute { (Routing.new 1).reassign "a.com" "b.com" with faults := [true] }, .request .run, .call,
    .proceed 0, .proceed 0, .proceed 0]

theorem failed_deliveries_lose_uris_two_pages :
    (World.run Setup.plain (failingFlush [true])).frontier.Miscarries
        (World.run Setup.plain (failingFlush [true] ++ [.proceed 0])).frontier ∧
      (World.run Setup.plain failingMove).frontier.Miscarries
        (World.run Setup.plain (failingMove ++ [.proceed 0])).frontier := by
  have flushes := failed_deliveries_lose_uris Setup.plain (failingFlush [true]) 0
    ⟨0, .contending 0⟩ (by decide +kernel) (by decide +kernel) (by decide +kernel)
    (by decide +kernel)
  have moves := failed_deliveries_lose_uris Setup.plain failingMove 0 ⟨0, .polling false⟩
    (by decide +kernel) (by decide +kernel) (by decide +kernel) (by decide +kernel)
  exact ⟨flushes.1, moves.1⟩

-- Both pages of the batch are gone, from the filter and from the queues. If the routing fails only when
-- it is asked again, the first sticks in a queue that counts as empty. And the page that was to be moved
-- is in no queue any more.
theorem failed_deliveries_leave_nothing :
    let flushed := (World.run Setup.plain (failingFlush [true] ++ [.proceed 0])).frontier
    let stuck := (World.run Setup.plain (failingFlush [false, true] ++ [.proceed 0])).frontier
    let moved := (World.run Setup.plain (failingMove ++ [.proceed 0])).frontier
    (World.run Setup.plain (failingFlush [true])).frontier.gateway.pending.length = 2 ∧
      (flushed.gateway.pending = [] ∧ flushed.contents = []) ∧
      (stuck.queueState? "a.com" = some .empty ∧ stuck.contents = [firstPage]) ∧
      (World.run Setup.plain failingMove).frontier.contents.length = 2 ∧
      moved.gateway.pending = [] ∧ moved.contents.length = 1 := by
  decide +kernel

end PoliteCrawl
