import PoliteCrawl.Proofs.Frontier.Moves

set_option autoImplicit false

namespace PoliteCrawl

structure Setting where
  config : FrontierConfig
  budgets : Budgets
  politeness : Politeness
  gateway : Gateway
  cell : StateCell
  pulling : Bool
  origin : Time.Timestamp
  now : Time.Instant

namespace Frontier

def setting (frontier : Frontier) : Setting :=
  { config := frontier.config
    budgets := frontier.budgets
    politeness := frontier.politeness
    gateway := frontier.gateway
    cell := frontier.cell
    pulling := frontier.pulling
    origin := frontier.origin
    now := frontier.now }

structure Stays (before after : Frontier) : Prop where
  setting : after.setting = before.setting
  claims : after.claims = before.claims

theorem Stays.refl (frontier : Frontier) : frontier.Stays frontier :=
  ⟨rfl, rfl⟩

theorem Stays.trans {first second third : Frontier} (one : first.Stays second)
    (two : second.Stays third) : first.Stays third :=
  ⟨two.setting.trans one.setting, two.claims.trans one.claims⟩

theorem stays_dozing : Dozing nobody Stays where
  refl := .refl
  trans _ _ _ := .trans
  route _ _ := ⟨rfl, rfl⟩
  store _ _ _ := ⟨rfl, rfl⟩
  add _ _ _ _ := ⟨rfl, rfl⟩
  file _ _ _ := ⟨rfl, rfl⟩
  count _ := ⟨rfl, rfl⟩
  publish _ _ := ⟨rfl, rfl⟩
  shelve _ _ := ⟨rfl, rfl⟩
  snooze _ _ _ := ⟨rfl, rfl⟩
  awaken _ _ _ _ _ := ⟨rfl, rfl⟩

theorem place_stays (frontier : Frontier) (key : String) (placement : Placement) :
    frontier.Stays (frontier.place key placement) :=
  place_placed stays_dozing.toPlacing frontier key placement

theorem schedule_stays (frontier : Frontier) (uri : CrawlUri) :
    frontier.Stays (frontier.schedule uri).1 :=
  schedule_placed stays_dozing.toPlacing frontier uri

theorem unretire_stays (frontier : Frontier) : frontier.Stays frontier.unretireQueues.1 :=
  unretire_shelved stays_dozing.toShelving frontier

theorem wake_stays (frontier : Frontier) : frontier.Stays frontier.wakeQueues.1 :=
  wake_dozed stays_dozing frontier

theorem settle_stays (frontier : Frontier) (queue : WorkQueue) (pause : Time.Span) :
    frontier.Stays (frontier.settle queue pause).1 :=
  settle_dozed stays_dozing frontier queue pause (free_nobody frontier queue)

def Beside (key : String) (before after : Frontier) : Prop :=
  ∀ other ≠ key, after.queue? other = before.queue? other

theorem Beside.trans {key : String} {first second third : Frontier}
    (one : Beside key first second) (two : Beside key second third) : Beside key first third :=
  fun other different => (two other different).trans (one other different)

theorem Beside.same {key : String} {before after : Frontier}
    (queues : after.queues = before.queues) : Beside key before after := by
  intro other _
  rw [queue?, queues]
  rfl

theorem store_beside (frontier : Frontier) (queue : WorkQueue) :
    Beside queue.key frontier (frontier.store queue) :=
  store_other frontier queue

theorem refresh_beside (frontier : Frontier) (queue : WorkQueue) :
    Beside queue.key frontier (frontier.refresh queue).1 ∧
      ∀ asked, (frontier.refresh queue).2 = some asked → asked.key = queue.key := by
  rw [refresh]
  cases frontier.routing.ask queue.key with
  | mk routing answer =>
      cases answer with
      | none => exact ⟨.same rfl, by simp⟩
      | some tier =>
          refine ⟨store_beside { frontier with routing } (queue.setPrecedence tier), ?_⟩
          intro asked same
          cases same
          rfl

theorem deactivate_beside (frontier : Frontier) (queue : WorkQueue) (tier : Nat) :
    Beside queue.key frontier (frontier.deactivate queue tier).1 := by
  by_cases allowed : queue.state.allows .inactive = true
  · simp only [deactivate, queue.transition_allowed .inactive allowed]
    exact store_beside frontier (WorkQueue.deactivate { queue with state := .inactive })
  · simp only [deactivate, WorkQueue.transition, if_neg allowed]
    exact .same rfl

theorem reenqueue_beside (frontier : Frontier) (queue : WorkQueue) :
    Beside queue.key frontier (frontier.reenqueue queue).1 := by
  obtain ⟨refreshed, named⟩ := refresh_beside frontier queue
  rw [reenqueue]
  cases result : frontier.refresh queue with
  | mk after answer =>
      rw [result] at refreshed named
      cases answer with
      | none => exact refreshed
      | some asked =>
          have key := named asked rfl
          by_cases waits : after.mustWait asked = true
          · simp only [if_pos waits]
            exact refreshed.trans (key ▸ deactivate_beside after asked asked.precedence)
          · by_cases allowed : asked.state.allows .ready = true
            · simp only [if_neg waits, asked.transition_allowed .ready allowed]
              exact refreshed.trans (key ▸ store_beside after { asked with state := .ready })
            · simp only [if_neg waits, WorkQueue.transition, if_neg allowed]
              exact refreshed

theorem receive_first_beside (frontier : Frontier) (queue : WorkQueue) :
    Beside queue.key frontier (frontier.receiveFirst queue).1 := by
  obtain ⟨refreshed, named⟩ := refresh_beside frontier queue
  by_cases held : frontier.holdsBack = true
  · simp only [receiveFirst, if_pos held]
    cases result : frontier.refresh queue with
    | mk after answer =>
        rw [result] at refreshed named
        cases answer with
        | none => exact refreshed
        | some asked =>
            exact refreshed.trans
              (named asked rfl ▸ deactivate_beside after asked asked.precedence)
  · simp only [receiveFirst, if_neg held]
    exact reenqueue_beside frontier queue

theorem place_queues (frontier : Frontier) (key : String) (placement : Placement) :
    (frontier.place key placement).queues = frontier.queues := by
  cases placement <;> rfl

theorem unretire_queue_beside (frontier : Frontier) (key : String) :
    Beside key frontier (frontier.unretireQueue key).1 := by
  rw [unretireQueue]
  cases found : frontier.queue? key with
  | none => exact .same rfl
  | some queue =>
      obtain rfl := queue_key frontier key queue found
      by_cases retired : queue.state = .retired
      · let funded := queue.setTotalBudget frontier.budgets.total
        have stored : Beside queue.key frontier (frontier.store funded) := store_beside frontier funded
        have again := reenqueue_beside (frontier.store funded) funded
        simp only [if_pos retired]
        split
        · exact stored.trans (.same rfl)
        · cases result : (frontier.store funded).reenqueue funded with
          | mk after answer =>
              rw [result] at again
              cases answer with
              | none => exact stored.trans again
              | some placement =>
                  exact stored.trans (again.trans (.same (place_queues after queue.key placement)))
      · simp only [if_neg retired]
        exact .same rfl

theorem ensure_beside (frontier : Frontier) (key : String) :
    Beside key frontier (frontier.ensureQueue key).1 ∧
      ∀ queue, (frontier.ensureQueue key).2 = some queue → queue.key = key := by
  rw [ensureQueue]
  cases found : frontier.queue? key with
  | some queue =>
      refine ⟨.same rfl, fun present same => ?_⟩
      cases same
      exact queue_key frontier key queue found
  | none =>
      cases frontier.routing.ask key with
      | mk routing answer =>
          cases answer with
          | none => exact ⟨.same rfl, by simp⟩
          | some tier =>
              refine ⟨fun other different => ?_, fun present same => ?_⟩
              · have added := add_queue { frontier with routing } (WorkQueue.new key tier) other
                rw [if_neg (by exact different), Option.or_none] at added
                exact added
              · cases same
                rfl

theorem send_beside (frontier : Frontier) (uri : CrawlUri) :
    Beside uri.siteKey frontier (frontier.send uri).1 := by
  obtain ⟨ensured, named⟩ := ensure_beside frontier uri.siteKey
  rw [send]
  cases result : frontier.ensureQueue uri.siteKey with
  | mk after answer =>
      rw [result] at ensured named
      cases answer with
      | none => exact ensured
      | some queue =>
          obtain ⟨grown, whole⟩ : ∃ grown, grown = queue.enqueue uri := ⟨_, rfl⟩
          have key : grown.key = uri.siteKey := by
            rw [whole, queue.enqueue_key uri]
            exact named queue rfl
          have stored : Beside uri.siteKey frontier (after.store grown).countQueued :=
            ensured.trans (key ▸ store_beside after grown)
          simp only [← whole]
          by_cases empty : grown.state = .empty
          · have received := receive_first_beside (after.store grown).countQueued grown
            rw [key] at received
            rw [if_pos empty]
            cases placed : (after.store grown).countQueued.receiveFirst grown with
            | mk last placement =>
                rw [placed] at received
                cases placement with
                | none => exact stored.trans received
                | some placement =>
                    exact (stored.trans received).trans (.same (place_queues last _ placement))
          · rw [if_neg empty]
            exact stored

theorem setting_dispatching :
    Dispatching nobody fun before after => after.setting = before.setting where
  refl _ := rfl
  trans _ _ _ one two := two.trans one
  route _ _ := rfl
  store _ _ _ := rfl
  add _ _ _ _ := rfl
  file _ _ _ := rfl
  count _ := rfl
  publish _ _ := rfl
  shelve _ _ := rfl
  hold _ _ _ _ := rfl
  release _ _ := rfl
  reclassify _ := rfl

theorem dispatch_setting (frontier : Frontier) (key : String) :
    (frontier.dispatchFrom key).1.setting = frontier.setting :=
  dispatch_kept setting_dispatching frontier key (fun no => no.elim) fun _ _ _ => rfl

end Frontier

end PoliteCrawl
