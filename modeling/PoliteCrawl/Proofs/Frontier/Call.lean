import PoliteCrawl.Proofs.Frontier.Activation
import PoliteCrawl.Proofs.Frontier.Dispatch
import PoliteCrawl.Proofs.Gateway

set_option autoImplicit false

namespace PoliteCrawl

def CallPhase.looks : CallPhase → Bool
  | .seeking => true
  | .contending _ => true
  | .resting _ _ => true
  | .flushing _ _ => true
  | .polling _ => true
  | _ => false

def CallPhase.awaits : CallPhase → Bool
  | .resting _ _ => true
  | .flushing _ _ => true
  | .waiting => true
  | .done _ => true
  | .failed => true
  | _ => false

def CallPhase.gain? : CallPhase → CallPhase → Option CrawlUri
  | .done _, _ => none
  | _, .done answer => answer
  | _, _ => none

namespace Frontier

def collectEntries (frontier : Frontier) : List Entry :=
  match frontier.gateway.takeBatch with
  | .error _ => []
  | .ok (_, handover) => handover.uris.map frontier.acceptEntry

def flushEntries (frontier : Frontier) : List Entry :=
  if frontier.gateway.latency = 0 then frontier.collectEntries else []

def pullEntries (frontier : Frontier) : List Entry :=
  if frontier.mayActivate then
    match frontier.activateInactive with
    | (frontier, some false) => frontier.flushEntries
    | _ => []
  else frontier.flushEntries

def contendEntries (frontier : Frontier) : List Entry :=
  if !frontier.pulling then { frontier with pulling := true }.pullEntries else []

def pollEntries (frontier : Frontier) : List Entry :=
  match frontier.ready with
  | [] => []
  | key :: rest => { frontier with ready := rest }.dispatchEntries key

def stepEntries (frontier : Frontier) : CallPhase → List Entry
  | .contending _ => frontier.contendEntries
  | .flushing due _ => if due ≤ frontier.now then frontier.collectEntries else []
  | .polling _ => frontier.pollEntries
  | _ => []

theorem anything_fetching : Fetching nobody fun _ _ => True where
  refl _ := trivial
  trans _ _ _ _ _ := trivial
  route _ _ := trivial
  store _ _ _ := trivial
  add _ _ _ _ := trivial
  file _ _ _ := trivial
  count _ := trivial
  publish _ _ := trivial
  take _ _ _ _ := trivial
  pull _ _ := trivial

theorem Pulled.unanswered {reached : Frontier → Prop} {id : Nat} {result : Frontier × CallPhase}
    (pulled : Pulled reached id result) (answer : Option CrawlUri) : result.2 ≠ .done answer := by
  cases pulled <;> simp [failCall]

theorem no_gain (frontier : Frontier) (id : Nat) (phase : CallPhase)
    (other : ∀ progress, phase ≠ .polling progress) :
    phase.gain? (frontier.stepPhase id phase).2 = none := by
  have unfinished (before after : CallPhase) (open_ : ∀ answer, after ≠ .done answer) :
      before.gain? after = none := by
    cases after with
    | done answer => exact absurd rfl (open_ answer)
    | _ => cases before <;> rfl
  cases phase with
  | entering =>
      simp only [stepPhase, enter]
      split
      · rfl
      · split <;> rfl
  | seeking =>
      simp only [stepPhase, seek]
      split
      · rfl
      · split <;> rfl
  | contending attempt =>
      exact unfinished _ _ (contend_fetched anything_fetching frontier id attempt).unanswered
  | resting attempt until_ =>
      simp only [stepPhase]
      split <;> rfl
  | flushing due deadline =>
      simp only [stepPhase]
      split
      · exact unfinished _ _ (collect_fetched anything_fetching frontier id).unanswered
      · split <;> rfl
  | polling progress => exact absurd rfl (other progress)
  | waiting =>
      simp only [stepPhase, awake]
      split <;> rfl
  | done answer => rfl
  | failed => rfl

theorem resolve_member (items : List CrawlUri) (frontier : Frontier) (key : String) (uri : CrawlUri)
    (given : (frontier.resolve key items).2 = some (some uri)) : uri ∈ items := by
  induction items generalizing frontier with
  | nil =>
      unfold resolve at given
      split at given <;> simp at given
  | cons head rest ih =>
      unfold resolve at given
      split at given
      · simp at given
      · simp only at given
        split at given
        · have same : head = uri := by simpa using given
          simp [same]
        · split at given
          · simp at given
          · split at given
            · simp at given
            · exact List.mem_cons_of_mem _ (ih _ given)

theorem dispatch_member (frontier : Frontier) (key : String) (uri : CrawlUri)
    (given : (frontier.dispatchFrom key).2 = some (some uri)) :
    ∃ queue, frontier.queue? key = some queue ∧ uri ∈ queue.items := by
  unfold dispatchFrom at given
  split at given
  · simp at given
  · rename_i queue found
    split at given
    · exact ⟨queue, found, resolve_member _ _ key uri given⟩
    · simp at given
    · simp at given

theorem gain_ready (frontier : Frontier) (id : Nat) (phase : CallPhase) (uri : CrawlUri)
    (gained : phase.gain? (frontier.stepPhase id phase).2 = some uri) :
    ∃ key rest queue, frontier.ready = key :: rest ∧ frontier.queue? key = some queue ∧
      uri ∈ queue.items := by
  cases phase with
  | polling progress =>
      simp only [stepPhase, poll] at gained
      cases line : frontier.ready with
      | nil => cases progress <;> simp [line, CallPhase.gain?] at gained
      | cons key rest =>
          rw [line] at gained
          simp only at gained
          split at gained
          · simp [failCall, CallPhase.gain?] at gained
          · simp [CallPhase.gain?] at gained
          · rename_i after found result
            have same : found = uri := by simpa [hand, CallPhase.gain?] using gained
            obtain ⟨queue, present, member⟩ := dispatch_member { frontier with ready := rest } key uri
              (by rw [result, same])
            exact ⟨key, rest, queue, rfl, present, member⟩
  | _ =>
      rw [no_gain frontier id _ (by simp)] at gained
      cases gained

theorem gain_member (frontier : Frontier) (id : Nat) (phase : CallPhase) (uri : CrawlUri)
    (gained : phase.gain? (frontier.stepPhase id phase).2 = some uri) :
    ∃ queue, frontier.queue? (frontier.ready.headD "") = some queue ∧ uri ∈ queue.items := by
  obtain ⟨key, rest, queue, line, found, member⟩ := gain_ready frontier id phase uri gained
  rw [line]
  exact ⟨queue, found, member⟩

theorem step_looks (frontier : Frontier) (id : Nat) (phase : CallPhase)
    (looks : (frontier.stepPhase id phase).2.looks = true) :
    phase.looks = true ∨ frontier.target.allowsDispatch = true := by
  cases phase with
  | entering =>
      simp only [stepPhase, enter] at looks
      split at looks
      · simp [CallPhase.looks] at looks
      · split at looks
        · exact .inr (by assumption)
        · simp [CallPhase.looks] at looks
  | waiting =>
      simp only [stepPhase, awake] at looks
      split at looks <;> simp [CallPhase.looks] at looks
  | done answer => simp [stepPhase, CallPhase.looks] at looks
  | failed => simp [stepPhase, CallPhase.looks] at looks
  | _ => exact .inl rfl

theorem collect_proceeds (frontier : Frontier) (id : Nat) (calm : frontier.Calm)
    (registered : frontier.Registered) :
    frontier.Proceeds frontier.collectEntries (frontier.collect id).1 := by
  unfold collect collectEntries
  cases frontier.gateway.takeBatch with
  | error cause => exact registered.still rfl
  | ok taken =>
      obtain ⟨gateway, handover⟩ := taken
      have whole : { frontier with gateway }.Registered :=
        ⟨registered.once, registered.ascending, registered.settled⟩
      obtain ⟨received, proceeds⟩ :=
        receive_all_proceeds { frontier with gateway } handover.uris calm whole
      simp only
      cases result : { frontier with gateway }.receiveAll handover.uris with
      | mk after answer =>
          rw [result] at received proceeds
          simp only at received
          subst received
          have ends : after.Proceeds [] after.endPull := proceeds.registered.still rfl
          have ended := proceeds.trans ends
          rw [List.append_nil] at ended
          exact ⟨ended.registered, ended.routing, ended.posted⟩

theorem flush_proceeds (frontier : Frontier) (id : Nat) (calm : frontier.Calm)
    (registered : frontier.Registered) :
    frontier.Proceeds frontier.flushEntries (frontier.flush id).1 := by
  unfold flush flushEntries
  split
  · exact collect_proceeds frontier id calm registered
  · exact registered.still rfl

theorem pull_proceeds (frontier : Frontier) (id : Nat) (calm : frontier.Calm)
    (registered : frontier.Registered) :
    frontier.Proceeds frontier.pullEntries (frontier.pull id).1 := by
  unfold pull pullEntries
  split
  · obtain ⟨found, activated, proceeds⟩ := activate_proceeds frontier calm registered
    cases result : frontier.activateInactive with
    | mk after answer =>
        rw [result] at activated proceeds
        simp only at activated
        subst activated
        cases found with
        | true => exact proceeds.trans (proceeds.registered.still rfl)
        | false =>
            exact proceeds.trans
              (flush_proceeds after id (proceeds.calm calm) proceeds.registered)
  · exact flush_proceeds frontier id calm registered

theorem contend_proceeds (frontier : Frontier) (id attempt : Nat) (calm : frontier.Calm)
    (registered : frontier.Registered) :
    frontier.Proceeds frontier.contendEntries (frontier.contend id attempt).1 := by
  unfold contend contendEntries
  split
  · have proceeds := pull_proceeds { frontier with pulling := true } id calm
      ⟨registered.once, registered.ascending, registered.settled⟩
    exact ⟨proceeds.registered, proceeds.routing, proceeds.posted⟩
  · split <;> exact registered.still rfl

theorem poll_proceeds (frontier : Frontier) (id : Nat) (progress : Bool) (calm : frontier.Calm)
    (registered : frontier.Registered) :
    frontier.Proceeds
      (frontier.pollEntries ++ handOut (frontier.ready.headD "")
        ((CallPhase.polling progress).gain? (frontier.poll id progress).2))
      (frontier.poll id progress).1 := by
  unfold poll pollEntries
  cases line : frontier.ready with
  | nil => cases progress <;> exact registered.still rfl
  | cons key rest =>
      obtain ⟨answer, dispatched, proceeds⟩ := dispatch_proceeds frontier key rest calm registered line
      simp only
      cases result : { frontier with ready := rest }.dispatchFrom key with
      | mk after found =>
          rw [result] at dispatched proceeds
          simp only at dispatched
          subst dispatched
          cases answer with
          | none => exact proceeds
          | some uri =>
              have handed : after.Proceeds [] (after.hand id uri).1 := by
                unfold hand
                simp only
                split <;> exact proceeds.registered.still rfl
              have whole := proceeds.trans handed
              rw [List.append_nil] at whole
              exact whole

theorem step_proceeds (frontier : Frontier) (id : Nat) (phase : CallPhase) (calm : frontier.Calm)
    (registered : frontier.Registered) :
    frontier.Proceeds
      (frontier.stepEntries phase ++ handOut (frontier.ready.headD "")
        (phase.gain? (frontier.stepPhase id phase).2))
      (frontier.stepPhase id phase).1 := by
  have nothing (other : ∀ progress, phase ≠ .polling progress) :
      handOut (frontier.ready.headD "") (phase.gain? (frontier.stepPhase id phase).2) = [] := by
    rw [no_gain frontier id phase other]
    rfl
  cases phase with
  | polling progress => exact poll_proceeds frontier id progress calm registered
  | entering =>
      rw [nothing (by simp)]
      simp only [stepPhase, stepEntries, enter]
      split
      · exact registered.still rfl
      · split <;> exact registered.still rfl
  | contending attempt =>
      rw [nothing (by simp), List.append_nil]
      exact contend_proceeds frontier id attempt calm registered
  | flushing due deadline =>
      rw [nothing (by simp), List.append_nil]
      simp only [stepPhase, stepEntries]
      split
      · exact collect_proceeds frontier id calm registered
      · split <;> exact registered.still rfl
  | resting attempt until_ =>
      rw [nothing (by simp)]
      simp only [stepPhase, stepEntries]
      split <;> exact registered.still rfl
  | waiting =>
      rw [nothing (by simp)]
      simp only [stepPhase, stepEntries, awake]
      split <;> exact registered.still rfl
  | seeking | done _ | failed =>
      rw [nothing (by simp)]
      exact registered.still rfl

theorem cancel_proceeds (frontier : Frontier) (call : Call) (registered : frontier.Registered) :
    frontier.Proceeds [] (frontier.cancel call) := by
  unfold cancel
  split <;> exact registered.still rfl

structure Minds (before after : Frontier) : Prop where
  cell : after.cell = before.cell
  claims : after.claims = before.claims
  heard : before.gateway.Heard [] after.gateway

theorem Minds.refl (frontier : Frontier) : frontier.Minds frontier :=
  ⟨rfl, rfl, Gateway.heard_nothing _⟩

theorem Minds.trans {first second third : Frontier} (one : first.Minds second)
    (two : second.Minds third) : first.Minds third :=
  ⟨two.cell.trans one.cell, two.claims.trans one.claims, one.heard.trans two.heard⟩

theorem Minds.still {before after : Frontier} (cell : after.cell = before.cell)
    (claims : after.claims = before.claims) (gateway : after.gateway = before.gateway) :
    before.Minds after :=
  ⟨cell, claims, Gateway.heard_same gateway⟩

theorem minds_pulling : Pulling nobody Minds where
  refl := .refl
  trans _ _ _ := .trans
  route _ _ := .still rfl rfl rfl
  store _ _ _ := .still rfl rfl rfl
  add _ _ _ _ := .still rfl rfl rfl
  file _ _ _ := .still rfl rfl rfl
  count _ := .still rfl rfl rfl
  publish _ _ := .still rfl rfl rfl
  take _ _ _ taken := ⟨rfl, rfl, Gateway.take_heard _ _ _ taken⟩
  pull _ _ := .still rfl rfl rfl
  signal _ _ := .still rfl rfl rfl

theorem step_minds (frontier : Frontier) (id : Nat) (phase : CallPhase)
    (other : ∀ progress, phase ≠ .polling progress) :
    frontier.Minds (frontier.stepPhase id phase).1 :=
  step_pulled minds_pulling frontier id phase other

theorem poll_setting (frontier : Frontier) (id : Nat) (progress : Bool) :
    (frontier.poll id progress).1.setting = frontier.setting := by
  unfold poll
  split
  · rfl
  · rename_i key rest line
    have dispatched := dispatch_setting { frontier with ready := rest } key
    split <;> rename_i result <;> rw [result] at dispatched
    · exact dispatched
    · exact dispatched
    · rename_i after uri
      refine Eq.trans ?_ dispatched
      unfold hand
      simp only
      split <;> rfl

theorem step_cell (frontier : Frontier) (id : Nat) (phase : CallPhase) :
    (frontier.stepPhase id phase).1.cell = frontier.cell := by
  cases phase with
  | polling progress => exact congrArg Setting.cell (poll_setting frontier id progress)
  | _ => exact (step_minds frontier id _ (by simp)).cell

theorem step_heard (frontier : Frontier) (id : Nat) (phase : CallPhase) :
    frontier.gateway.Heard [] (frontier.stepPhase id phase).1.gateway := by
  cases phase with
  | polling progress =>
      exact Gateway.heard_same (congrArg Setting.gateway (poll_setting frontier id progress))
  | _ => exact (step_minds frontier id _ (by simp)).heard

theorem cancel_minds (frontier : Frontier) (call : Call) :
    frontier.Minds (frontier.cancel call) :=
  cancel_pulled minds_pulling frontier call

end Frontier

end PoliteCrawl
