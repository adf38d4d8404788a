import PoliteCrawl.Proofs.Crawl.Lines

set_option autoImplicit false

namespace PoliteCrawl.Frontier

open Crawl

theorem framed_dozing : Dozing nobody Framed where
  refl _ := ⟨rfl, rfl, rfl⟩
  trans _ _ _ one two :=
    ⟨two.cell.trans one.cell, two.gateway.trans one.gateway, two.score.trans one.score⟩
  route _ _ := ⟨rfl, rfl, rfl⟩
  store _ _ _ := ⟨rfl, rfl, rfl⟩
  add _ _ _ _ := ⟨rfl, rfl, rfl⟩
  file _ _ _ := ⟨rfl, rfl, rfl⟩
  count _ := ⟨rfl, rfl, rfl⟩
  publish _ _ := ⟨rfl, rfl, rfl⟩
  shelve _ _ := ⟨rfl, rfl, rfl⟩
  snooze _ _ _ := ⟨rfl, rfl, rfl⟩
  awaken _ _ _ _ _ := ⟨rfl, rfl, rfl⟩

theorem framed_dispatching : Dispatching nobody Framed where
  toShelving := framed_dozing.toShelving
  hold _ _ _ _ := ⟨rfl, rfl, rfl⟩
  release _ _ := ⟨rfl, rfl, rfl⟩
  reclassify _ := ⟨rfl, rfl, rfl⟩

theorem collect_framed (frontier : Frontier) (id : Nat) (gateway : Gateway)
    (handover : Handover) (taken : frontier.gateway.takeBatch = .ok (gateway, handover)) :
    { frontier with gateway }.Framed (frontier.collect id).1 := by
  have received :=
    receive_all_placed framed_dozing.toPlacing { frontier with gateway } handover.uris
  rw [collect, taken]
  simp only
  cases result : { frontier with gateway }.receiveAll handover.uris with
  | mk after answer =>
      rw [result] at received
      cases answer <;> exact ⟨received.cell, received.gateway, received.score⟩

theorem collect_rests (frontier : Frontier) (id : Nat) (sound : frontier.Sound) :
    frontier.Rests (frontier.collect id).1 := by
  have proceeds := collect_proceeds frontier id sound.calm sound.registered
  rw [collectEntries] at proceeds
  cases taken : frontier.gateway.takeBatch with
  | error cause =>
      rw [collect, taken]
      exact sound.unmoved rfl
  | ok handed =>
      obtain ⟨gateway, handover⟩ := handed
      have framed := collect_framed frontier id gateway handover taken
      obtain ⟨pending, record, open_⟩ :=
        Gateway.take_draws frontier.gateway gateway handover taken
      have target : (frontier.collect id).1.target = frontier.target :=
        congrArg StateCell.target framed.cell
      rw [taken] at proceeds
      refine
        ⟨sound.draws handover.uris proceeds ?_ framed.score ?_ fun unfinished => ?_, by rw [target]⟩
      · rw [framed.gateway]
        exact pending
      · rw [framed.gateway]
        exact record
      · rw [framed.gateway]
        exact open_.trans (sound.open_ (target ▸ unfinished))

theorem flush_rests (frontier : Frontier) (id : Nat) (sound : frontier.Sound) :
    frontier.Rests (frontier.flush id).1 := by
  rw [flush]
  by_cases prompt : frontier.gateway.latency = 0
  · rw [if_pos prompt]
    exact collect_rests frontier id sound
  · rw [if_neg prompt]
    exact sound.rests

theorem pull_rests (frontier : Frontier) (id : Nat) (sound : frontier.Sound) :
    frontier.Rests (frontier.pull id).1 := by
  rw [pull]
  by_cases may : frontier.mayActivate = true
  · obtain ⟨found, activated, proceeds⟩ := activate_proceeds frontier sound.calm sound.registered
    have rests := sound.still proceeds (activate_placed framed_dozing.toPlacing frontier)
    rw [if_pos may]
    cases result : frontier.activateInactive with
    | mk after answer =>
        rw [result] at activated rests
        simp only at activated
        subst activated
        cases found with
        | true => exact rests.trans (rests.sound.unmoved rfl)
        | false => exact rests.trans (flush_rests after id rests.sound)
  · rw [if_neg may]
    exact flush_rests frontier id sound

theorem contend_rests (frontier : Frontier) (id attempt : Nat) (sound : frontier.Sound) :
    frontier.Rests (frontier.contend id attempt).1 := by
  rw [contend]
  by_cases free : (!frontier.pulling) = true
  · have taken : frontier.Rests { frontier with pulling := true } := sound.unmoved rfl
    rw [if_pos free]
    exact taken.trans (pull_rests _ id taken.sound)
  · rw [if_neg free]
    split <;> exact sound.rests

structure Hands (before after : Frontier) (uri : CrawlUri) : Prop where
  sound : after.Sound
  line : after.line = before.line
  head : (before.line uri.siteKey).head? = some uri
  idle : (before.lane uri.siteKey).busy = false
  busy : ∀ key, (after.lane key).busy = ((before.lane key).busy || key = uri.siteKey)
  total : after.total = before.total
  score : after.stats.score =
    { before.stats.score with dispatched := before.stats.score.dispatched + 1 }
  record : after.gateway.record = before.gateway.record
  finish : after.target = .finish ↔ before.target = .finish

theorem Rests.hands {first second third : Frontier} {uri : CrawlUri} (rests : first.Rests second)
    (hands : second.Hands third uri) : first.Hands third uri :=
  ⟨hands.sound, hands.line.trans rests.line, rests.line ▸ hands.head,
    (rests.busy uri.siteKey) ▸ hands.idle, fun key => by rw [hands.busy key, rests.busy key],
    hands.total.trans rests.total, by rw [hands.score, rests.score],
    hands.record.trans rests.record, hands.finish.trans rests.finish⟩

theorem Hands.rests {first second third : Frontier} {uri : CrawlUri} (hands : first.Hands second uri)
    (rests : second.Rests third) : first.Hands third uri :=
  ⟨rests.sound, rests.line.trans hands.line, hands.head, hands.idle,
    fun key => (rests.busy key).trans (hands.busy key), rests.total.trans hands.total,
    rests.score.trans hands.score, rests.record.trans hands.record,
    rests.finish.trans hands.finish⟩

theorem Sound.hands {before after : Frontier} (sound : before.Sound) (key : String)
    (uri : CrawlUri) (proceeds : before.Proceeds [⟨key, .handed uri⟩] after)
    (cell : after.cell = before.cell) (gateway : after.gateway = before.gateway)
    (score : after.stats.score =
      { before.stats.score with dispatched := before.stats.score.dispatched + 1 }) :
    before.Hands after uri := by
  have target : after.target = before.target := congrArg StateCell.target cell
  obtain ⟨taken, elsewhere⟩ := proceeds.one
  obtain ⟨head, idle, busy⟩ := Lane.take_handed _ _ uri taken
  have items (other : String) : (after.lane other).items = (before.lane other).items := by
    by_cases same : other = key
    · rw [same, busy]
    · rw [elsewhere other same]
  have line : after.line = before.line := by
    funext other
    rw [Frontier.line, Frontier.line, items other, gateway]
  have member : uri ∈ (before.lane key).items := List.mem_of_mem_head? head
  have site : uri.siteKey = key := (sound.housed key uri (List.mem_append_left _ member)).site
  have queued : after.stats.queued = before.stats.queued := proceeds.posted.queued sound.counted
  have opened (unfinished : after.target ≠ .finish) : after.gateway.isOpen = true := by
    rw [gateway]
    exact sound.open_ (target ▸ unfinished)
  refine ⟨sound.next proceeds opened (line ▸ sound.housed), line, ?_, ?_, fun other => ?_, ?_, score,
    ?_, ?_⟩
  · rw [site, Frontier.line, List.head?_append, head]
    rfl
  · rw [site]
    exact idle
  · by_cases same : other = key
    · rw [same, busy, site]
      simp
    · rw [elsewhere other same, site]
      simp [same]
  · rw [total, total, gateway, queued]
  · rw [gateway]
  · rw [target]

theorem housed_home {frontier : Frontier} (sound : frontier.Sound) (key : String) (uri : CrawlUri)
    (member : uri ∈ (frontier.lane key).items) : frontier.routing.siteKey uri.url = key := by
  have housed := sound.housed key uri (List.mem_append_left _ member)
  have site := housed.site
  rw [← housed.address] at site
  rw [home_site sound]
  exact site

theorem relocations_home (routing : Routing) (key : String) (items : List CrawlUri)
    (home : ∀ uri ∈ items, routing.siteKey uri.url = key) : relocations routing key items = [] := by
  cases items with
  | nil => rfl
  | cons head rest => rw [relocations, if_pos (home head List.mem_cons_self)]

theorem dispatch_entries_home {frontier : Frontier} (sound : frontier.Sound) (key : String)
    (rest : List String) : { frontier with ready := rest }.dispatchEntries key = [] := by
  rw [dispatchEntries]
  cases found : { frontier with ready := rest }.queue? key with
  | none => rfl
  | some queue =>
      have lane : frontier.lane key = queue.lane := lane_of_queue frontier key queue found
      have none : relocations frontier.routing key queue.items = [] :=
        relocations_home frontier.routing key queue.items fun uri member =>
          housed_home sound key uri (by rw [lane]; exact member)
      simp only [none, ite_self]

theorem dispatch_hands (frontier : Frontier) (key : String) (rest : List String) (uri : CrawlUri)
    (sound : frontier.Sound) (first : frontier.ready = key :: rest)
    (given : ({ frontier with ready := rest }.dispatchFrom key).2 = some (some uri)) :
    frontier.Hands ({ frontier with ready := rest }.dispatchFrom key).1 uri := by
  obtain ⟨answer, dispatched, proceeds⟩ :=
    dispatch_proceeds frontier key rest sound.calm sound.registered first
  rw [dispatched] at given
  cases given
  have moved := dispatch_moved framed_dispatching { frontier with ready := rest } key
    fun no => no.elim
  rw [dispatch_entries_home sound key rest, List.nil_append] at proceeds
  cases result : { frontier with ready := rest }.dispatchFrom key with
  | mk after found =>
      rw [result] at dispatched proceeds moved
      simp only at dispatched
      subst dispatched
      obtain ⟨earlier, queue, framed, _, _, _, same⟩ := moved
      have scored : earlier.stats.score = frontier.stats.score := framed.score
      refine sound.hands key uri proceeds ?_ ?_ ?_
      · rw [same]
        exact framed.cell
      · rw [same]
        exact framed.gateway
      · rw [same, ← scored]
        rfl

theorem dispatch_rests (frontier : Frontier) (key : String) (rest : List String)
    (sound : frontier.Sound) (first : frontier.ready = key :: rest)
    (given : ∀ uri, ({ frontier with ready := rest }.dispatchFrom key).2 ≠ some (some uri)) :
    frontier.Rests ({ frontier with ready := rest }.dispatchFrom key).1 := by
  obtain ⟨answer, dispatched, proceeds⟩ :=
    dispatch_proceeds frontier key rest sound.calm sound.registered first
  cases answer with
  | some uri => exact absurd dispatched (given uri)
  | none =>
      have moved := dispatch_moved framed_dispatching { frontier with ready := rest } key
        fun no => no.elim
      rw [dispatch_entries_home sound key rest] at proceeds
      cases result : { frontier with ready := rest }.dispatchFrom key with
      | mk after found =>
          rw [result] at dispatched proceeds moved
          simp only at dispatched
          subst dispatched
          exact sound.still proceeds ⟨moved.cell, moved.gateway, moved.score⟩

def Goes (before : Frontier) (result : Frontier × CallPhase) : Prop :=
  match result.2 with
  | .done (some uri) => before.Hands result.1 uri
  | _ => before.Rests result.1

theorem Rests.goes {before after : Frontier} {phase : CallPhase} (rests : before.Rests after)
    (open_ : ∀ uri, phase ≠ .done (some uri)) : before.Goes (after, phase) := by
  rw [Goes]
  split
  · rename_i uri done
    exact absurd done (open_ uri)
  · exact rests

theorem Goes.rests {before : Frontier} {result : Frontier × CallPhase} (goes : before.Goes result)
    (open_ : ∀ answer, result.2 ≠ .done answer) : before.Rests result.1 := by
  obtain ⟨after, phase⟩ := result
  cases phase with
  | done answer => exact absurd rfl (open_ answer)
  | _ => exact goes

theorem Rests.onward {first second : Frontier} {result : Frontier × CallPhase}
    (rests : first.Rests second) (goes : second.Goes result) : first.Goes result := by
  obtain ⟨after, phase⟩ := result
  cases phase with
  | done answer =>
      cases answer with
      | none => exact rests.trans goes
      | some uri => exact rests.hands goes
  | _ => exact rests.trans goes

theorem poll_goes (frontier : Frontier) (id : Nat) (progress : Bool) (sound : frontier.Sound) :
    frontier.Goes (frontier.poll id progress) := by
  rw [poll]
  cases line : frontier.ready with
  | nil => cases progress <;> exact sound.rests
  | cons key rest =>
      have hands := fun uri => dispatch_hands frontier key rest uri sound line
      have rests := dispatch_rests frontier key rest sound line
      simp only
      cases result : { frontier with ready := rest }.dispatchFrom key with
      | mk after answer =>
          rw [result] at hands rests
          cases answer with
          | none =>
              have kept := rests (by simp)
              exact kept.trans (kept.sound.unmoved rfl)
          | some found =>
              cases found with
              | none => exact rests (by simp)
              | some uri =>
                  have handed := hands uri rfl
                  have left : after.Rests (after.hand id uri).1 := by
                    rw [hand]
                    split <;> exact handed.sound.unmoved rfl
                  exact handed.rests left

theorem step_goes (frontier : Frontier) (id : Nat) (phase : CallPhase) (sound : frontier.Sound)
    (open_ : ∀ answer, phase ≠ .done answer) : frontier.Goes (frontier.stepPhase id phase) := by
  cases phase with
  | entering =>
      rw [stepPhase, enter]
      split
      · exact sound.unmoved rfl
      · split <;> exact sound.unmoved rfl
  | seeking =>
      rw [stepPhase, seek]
      split
      · exact sound.rests
      · split <;> exact sound.rests
  | contending attempt =>
      exact (contend_rests frontier id attempt sound).goes fun uri =>
        (contend_fetched anything_fetching frontier id attempt).unanswered (some uri)
  | resting attempt until_ =>
      rw [stepPhase]
      split <;> exact sound.rests
  | flushing due deadline =>
      rw [stepPhase]
      split
      · exact (collect_rests frontier id sound).goes fun uri =>
          (collect_fetched anything_fetching frontier id).unanswered (some uri)
      · split
        · exact sound.unmoved rfl
        · exact sound.rests
  | polling progress => exact poll_goes frontier id progress sound
  | waiting =>
      rw [stepPhase, awake]
      split
      · exact sound.unmoved rfl
      · exact sound.rests
  | done answer => exact absurd rfl (open_ answer)
  | failed => exact sound.rests

theorem resume_goes (bound : Nat) (frontier : Frontier) (call : Call) (sound : frontier.Sound)
    (open_ : ∀ answer, call.phase ≠ .done answer) :
    frontier.Goes ((frontier.resume bound call).1, (frontier.resume bound call).2.phase) := by
  have rests := sound.rests.goes fun uri => open_ (some uri)
  induction bound generalizing frontier call with
  | zero => exact rests
  | succ bound ih =>
      rw [resume]
      by_cases may : frontier.canStep call = true
      · have went := step_goes frontier call.id call.phase sound open_
        have same : frontier.step call = ((frontier.stepPhase call.id call.phase).1,
            { call with phase := (frontier.stepPhase call.id call.phase).2 }) := rfl
        rw [if_pos may, same]
        simp only
        cases result : frontier.stepPhase call.id call.phase with
        | mk after phase =>
            rw [result] at went
            by_cases done : ∃ answer, phase = .done answer
            · obtain ⟨answer, done⟩ := done
              subst done
              have stays : after.resume bound { call with phase := .done answer } =
                  (after, { call with phase := .done answer }) := by
                cases bound <;> rfl
              rw [stays]
              exact went
            · have still : ∀ answer, phase ≠ .done answer := fun answer same =>
                done ⟨answer, same⟩
              have kept : frontier.Rests after := went.rests still
              exact kept.onward (ih after { call with phase } kept.sound still
                (kept.sound.rests.goes fun uri => still (some uri)))
      · rw [if_neg may]
        exact rests

theorem rests_permits : Permits fun before after => before.Sound → before.Rests after where
  refl _ sound := sound.rests
  trans _ _ _ one two sound := (one sound).trans (two (one sound).sound)
  mark frontier state _ sound := by
    have target := frontier.mark_target state
    exact ⟨sound.tuned rfl fun unfinished => target ▸ unfinished, by rw [target]⟩
  retarget frontier state unfinished other _ sound :=
    ⟨sound.tuned rfl fun _ => unfinished,
      fun same => absurd same other, fun same => absurd same unfinished⟩
  notify _ sound := sound.unmoved rfl
  call _ sound := sound.unmoved rfl
  snooze _ _ sound := sound.unmoved rfl
  close frontier gateway finishing closed sound := by
    obtain ⟨pending, record⟩ := Gateway.close_draws frontier.gateway gateway closed
    have proceeds : frontier.Proceeds [] { frontier with gateway } :=
      sound.registered.still rfl
    exact ⟨sound.draws [] proceeds pending.symm rfl record fun unfinished =>
      absurd finishing unfinished, Iff.rfl⟩
  wake frontier sound := by
    obtain ⟨span, _, proceeds⟩ := wake_calm frontier sound.calm sound.registered
    exact sound.still proceeds (wake_dozed framed_dozing frontier)

theorem turn_rests (frontier : Frontier) (supervisor : Supervisor) (sound : frontier.Sound) :
    frontier.Rests (frontier.superviseTurn supervisor).1 :=
  turn_permitted rests_permits frontier supervisor sound

theorem request_keeps (frontier : Frontier) (state : CrawlState) (sound : frontier.Sound)
    (unfinished : frontier.target ≠ .finish) :
    frontier.Keeps (frontier.requestState state) ∧ (frontier.requestState state).target = state := by
  have fresh : ¬ (frontier.target = .finish ∧ state ≠ .finish) := fun pair => unfinished pair.1
  rw [requestState, if_neg fresh]
  by_cases same : frontier.target = state
  · simp only [if_pos same]
    exact ⟨sound.tuned rfl fun _ => unfinished, rfl⟩
  · simp only [if_neg same]
    cases state <;> exact ⟨sound.tuned rfl fun _ => unfinished, rfl⟩

end PoliteCrawl.Frontier
