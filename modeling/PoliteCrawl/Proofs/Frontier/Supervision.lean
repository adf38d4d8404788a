import PoliteCrawl.Proofs.Frontier.Frame
import PoliteCrawl.Proofs.Frontier.Placement
import PoliteCrawl.Proofs.Gateway

set_option autoImplicit false

namespace PoliteCrawl.Frontier

theorem wake_queue_calm (frontier : Frontier) (entry : SnoozeEntry) (rest : Snoozed)
    (calm : frontier.Calm) (registered : frontier.Registered)
    (first : frontier.snoozed = entry :: rest) :
    ({ frontier with snoozed := rest }.wakeQueue entry.key).2 = some () ∧
      frontier.Proceeds [] ({ frontier with snoozed := rest }.wakeQueue entry.key).1 := by
  obtain ⟨queue, found, named, state, _, _⟩ :=
    snoozed_queue frontier entry registered (by simp [first])
  have loose := loosen_snoozed frontier entry rest registered first
  rw [← named] at loose found ⊢
  let woken := queue.setWakeTime none
  let base := { frontier with snoozed := rest }.store woken
  have loosened : base.Loose woken.key := loose.store woken
  have present : { frontier with snoozed := rest }.queue? queue.key = some queue := found
  have lands (after : Frontier) (lands : base.Lands woken after) : frontier.Proceeds [] after := by
    obtain ⟨earlier, later, differs⟩ := lands.differs frontier queue registered.once found
      (.inr ⟨woken, rfl, rfl⟩)
    refine ⟨lands.registered, lands.routing, differs.posted (by simp) ?_ fun _ => lands.queued⟩
    rw [earlier, later, lane_resting queue (by simp [state])]
    rfl
  simp only [wakeQueue, present, if_pos state]
  by_cases dry : woken.isEmpty = true
  · have exhausted := exhausted_lands base woken loosened
      (by simp [woken, WorkQueue.setWakeTime, state, QueueState.allows])
      (by simpa [WorkQueue.isEmpty] using dry) rfl
    rw [if_pos dry]
    exact ⟨rfl, lands _ exhausted⟩
  · obtain ⟨placement, placed, reenqueued⟩ := reenqueue_lands base woken calm loosened
      (by simp [woken, WorkQueue.setWakeTime, state, QueueState.allows]) rfl
    have result : base.reenqueue woken = ((base.reenqueue woken).1, some placement) :=
      Prod.ext rfl placed
    rw [if_neg dry, result]
    exact ⟨rfl, lands _ reenqueued⟩

theorem wake_due_calm (entries : Snoozed) (frontier : Frontier) (calm : frontier.Calm)
    (registered : frontier.Registered) (asleep : frontier.snoozed = entries) :
    (frontier.wakeDue entries).2 = some () ∧
      frontier.Proceeds [] (frontier.wakeDue entries).1 := by
  induction entries generalizing frontier with
  | nil => exact ⟨rfl, .still registered rfl rfl rfl⟩
  | cons entry rest ih =>
      simp only [wakeDue]
      split
      · obtain ⟨woken, proceeds⟩ := wake_queue_calm frontier entry rest calm registered asleep
        have others := wake_queue_placed snoozed_placing { frontier with snoozed := rest } entry.key
        cases result : { frontier with snoozed := rest }.wakeQueue entry.key with
        | mk after answer =>
            rw [result] at woken proceeds others
            simp only at woken proceeds others
            subst woken
            obtain ⟨done, more⟩ := ih after (proceeds.calm calm) proceeds.registered others
            exact ⟨done, proceeds.trans more⟩
      · exact ⟨rfl, .still registered rfl rfl rfl⟩

theorem wake_calm (frontier : Frontier) (calm : frontier.Calm) (registered : frontier.Registered) :
    ∃ span, frontier.wakeQueues.2 = some span ∧ frontier.Proceeds [] frontier.wakeQueues.1 := by
  obtain ⟨woken, proceeds⟩ := wake_due_calm frontier.snoozed frontier calm registered rfl
  simp only [wakeQueues]
  cases result : frontier.wakeDue frontier.snoozed with
  | mk after answer =>
      rw [result] at woken proceeds
      simp only at woken
      subst woken
      exact ⟨_, rfl, proceeds⟩

theorem mark_target (frontier : Frontier) (state : CrawlState) :
    (frontier.markReached state).target = frontier.target := by
  rw [markReached, target, StateCell.markReached]
  split <;> rfl

theorem mark_reached (frontier : Frontier) (state : CrawlState) :
    (frontier.markReached state).reached = some state := by
  rw [markReached, reached, StateCell.markReached]
  split
  · assumption
  · rfl

-- A relation that the supervisor keeps within whatever it does: it records states that were reached,
-- pauses a crawl or finds it empty or not, signals, closes the gateway and wakes queues.
structure Permits (related : Frontier → Frontier → Prop) : Prop where
  refl : ∀ frontier, related frontier frontier
  trans : ∀ first second third, related first second → related second third → related first third
  mark : ∀ frontier state,
    (state = .finish → frontier.target = .finish ∧ frontier.claims = []) →
    related frontier (frontier.markReached state)
  retarget : ∀ frontier state, frontier.target ≠ .finish → state ≠ .finish →
    (frontier.target.allowsDispatch = true ∨ state = .pause) →
    related frontier (frontier.setTarget state)
  notify : ∀ frontier, related frontier frontier.notifyReady
  call : ∀ frontier : Frontier,
    related frontier { frontier with readySignal := frontier.readySignal.notifyAll }
  snooze : ∀ frontier signal, related frontier { frontier with snoozeSignal := signal }
  close : ∀ frontier gateway, frontier.target = .finish → frontier.gateway.close = .ok gateway →
    related frontier { frontier with gateway }
  wake : ∀ frontier : Frontier, related frontier frontier.wakeQueues.1

section Permits

variable {related : Frontier → Frontier → Prop} (permits : Permits related)

include permits

theorem finished_permitted (frontier : Frontier) (asked : frontier.target = .finish)
    (drained : frontier.claims = []) : related frontier frontier.markFinished :=
  permits.trans frontier (frontier.markReached .finish) _
    (permits.mark frontier .finish fun _ => ⟨asked, drained⟩) (permits.call _)

theorem management_permitted (frontier : Frontier) :
    related frontier frontier.managementStep.1 := by
  have woken (state : CrawlState) (unfinished : state ≠ .finish) :
      related frontier (frontier.markReached state).wakeQueues.1 :=
    permits.trans frontier (frontier.markReached state) _
      (permits.mark frontier state fun same => absurd same unfinished) (permits.wake _)
  unfold managementStep
  cases target : frontier.target with
  | empty =>
      have waking := woken .empty (by simp)
      simp only [manageEmpty]
      split
      · exact permits.retarget frontier .run (by simp [target]) (by simp)
          (.inl (by simp [target, CrawlState.allowsDispatch]))
      · split <;> rename_i result <;> rw [result] at waking
        · exact waking
        · exact permits.trans _ _ _ waking (permits.notify _)
  | run =>
      have waking := woken .run (by simp)
      simp only [manageRun]
      split
      · exact permits.retarget frontier .empty (by simp [target]) (by simp)
          (.inl (by simp [target, CrawlState.allowsDispatch]))
      · split <;> rename_i result <;> rw [result] at waking
        · exact waking
        · simp only
          split
          · exact permits.trans _ _ _ waking (permits.notify _)
          · exact waking
  | hold | pause =>
      simp only [managePause]
      split
      · exact permits.mark frontier .pause (by simp)
      · exact permits.refl frontier
  | finish =>
      simp only [manageFinish]
      split
      · exact permits.refl frontier
      · rename_i busy
        have drained : frontier.claims = [] := by simpa using busy
        split
        · rename_i gateway closed
          exact permits.trans _ _ _ (permits.close frontier gateway target closed)
            (finished_permitted permits _ target drained)
        · exact finished_permitted permits frontier target drained

theorem manage_permitted (frontier : Frontier) : related frontier frontier.manage.1 := by
  have stepped := management_permitted permits frontier
  have paused (after : Frontier) : related after after.forcePause := by
    unfold forcePause
    split
    · exact permits.refl after
    · exact permits.retarget after .pause (by assumption) (by simp) (.inr rfl)
  unfold manage
  split <;> rename_i result <;> rw [result] at stepped
  · exact stepped
  · exact permits.trans _ _ _ stepped (paused _)
  · exact permits.trans _ _ _ stepped (paused _)

theorem supervise_permitted (frontier : Frontier) (supervisor : Supervisor) :
    related frontier (frontier.supervise supervisor).1 := by
  have managed := manage_permitted permits frontier
  simp only [supervise, supervisePhase]
  cases supervisor.phase with
  | stepping =>
      simp only [superviseStep]
      split
      · exact permits.refl frontier
      · split
        · exact managed
        · split
          · exact managed
          · exact permits.trans _ _ _ managed (permits.snooze _ _)
  | sleeping until_ =>
      simp only
      split
      · exact permits.snooze frontier _
      · exact permits.refl frontier
  | ended => exact permits.refl frontier

theorem turn_permitted (frontier : Frontier) (supervisor : Supervisor) :
    related frontier (frontier.superviseTurn supervisor).1 := by
  have first := supervise_permitted permits frontier supervisor
  unfold superviseTurn
  split
  · exact permits.trans _ _ _ first (supervise_permitted permits _ _)
  · exact first

end Permits

theorem proceeds_permits :
    Permits fun before after => before.Calm → before.Registered → before.Proceeds [] after where
  refl _ _ registered := registered.still rfl
  trans _ _ _ one two calm registered :=
    have first := one calm registered
    first.trans (two (first.calm calm) first.registered)
  mark _ _ _ _ registered := registered.still rfl
  retarget _ _ _ _ _ _ registered := registered.still rfl
  notify _ _ registered := registered.still rfl
  call _ _ registered := registered.still rfl
  snooze _ _ _ registered := registered.still rfl
  close _ _ _ _ _ registered := registered.still rfl
  wake frontier calm registered := (wake_calm frontier calm registered).elim fun _ woken => woken.2

structure Oversees (before after : Frontier) : Prop where
  claims : after.claims = before.claims
  heard : before.gateway.Heard [] after.gateway

theorem oversees_permits : Permits Oversees where
  refl frontier := ⟨rfl, Gateway.heard_nothing frontier.gateway⟩
  trans _ _ _ one two := ⟨two.claims.trans one.claims, one.heard.trans two.heard⟩
  mark frontier _ _ := ⟨rfl, Gateway.heard_nothing frontier.gateway⟩
  retarget frontier _ _ _ _ := ⟨rfl, Gateway.heard_nothing frontier.gateway⟩
  notify frontier := ⟨rfl, Gateway.heard_nothing frontier.gateway⟩
  call frontier := ⟨rfl, Gateway.heard_nothing frontier.gateway⟩
  snooze frontier _ := ⟨rfl, Gateway.heard_nothing frontier.gateway⟩
  close frontier gateway _ closed := ⟨rfl, Gateway.close_heard frontier.gateway gateway closed⟩
  wake frontier :=
    have stays := wake_stays frontier
    ⟨stays.claims, Gateway.heard_same (congrArg Setting.gateway stays.setting)⟩

end PoliteCrawl.Frontier
