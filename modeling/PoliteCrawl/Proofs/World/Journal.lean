import PoliteCrawl.Proofs.Frontier.Stranding
import PoliteCrawl.Proofs.World.Kept

set_option autoImplicit false

namespace PoliteCrawl

namespace Frontier

def acceptedEntry (uri : CrawlUri) : Entry :=
  ⟨uri.siteKey, .accepted uri⟩

inductive Writes (frontier : Frontier) : List Entry → Prop where
  | accepts (uris : List CrawlUri) : Writes frontier (uris.map acceptedEntry)
  | serves (key : String) (rest : List String) (items : List CrawlUri) (answer : Option CrawlUri)
      (first : frontier.ready = key :: rest) :
      Writes frontier (relocations frontier.routing key items ++ handOut key answer)
  | returns (uri head : CrawlUri) (rest : List CrawlUri) (queue : WorkQueue) (outcome : Outcome)
      (reported : frontier.Reported uri queue head rest) :
      Writes frontier [⟨uri.siteKey, frontier.takeBack head outcome⟩]

section Writes

variable {frontier : Frontier}

theorem Writes.nothing : frontier.Writes [] :=
  .accepts []

theorem Writes.takes (base : Frontier) (uris : List CrawlUri) :
    frontier.Writes (uris.map base.acceptEntry) := by
  have named : uris.map base.acceptEntry =
      (uris.map fun uri => { uri with siteKey := base.routing.siteKey uri.url }).map acceptedEntry := by
    rw [List.map_map]
    rfl
  rw [named]
  exact .accepts _

theorem collect_writes (base : Frontier) : frontier.Writes base.collectEntries := by
  rw [collectEntries]
  split
  · exact .nothing
  · exact .takes base _

theorem flush_writes (base : Frontier) : frontier.Writes base.flushEntries := by
  rw [flushEntries]
  split
  · exact collect_writes base
  · exact .nothing

theorem contend_writes : frontier.Writes frontier.contendEntries := by
  rw [contendEntries, pullEntries]
  split
  · split
    · split
      · exact flush_writes _
      · exact .nothing
    · exact flush_writes _
  · exact .nothing

theorem poll_writes (answer : Option CrawlUri) (some : answer ≠ none → frontier.ready ≠ []) :
    frontier.Writes (frontier.pollEntries ++ handOut (frontier.ready.headD "") answer) := by
  rw [pollEntries]
  cases first : frontier.ready with
  | nil =>
      cases answer with
      | none => exact .nothing
      | some uri => exact absurd first (some (by simp))
  | cons key rest =>
      have served (items : List CrawlUri) :
          frontier.Writes (relocations frontier.routing key items ++ handOut key answer) :=
        .serves key rest items answer first
      simp only [dispatchEntries, List.headD_cons]
      split
      · exact served []
      · split
        · exact served _
        · exact served []

theorem step_writes (id : Nat) (phase : CallPhase)
    (addressed : ∀ key uri, uri ∈ (frontier.lane key).items → uri.siteKey = key) :
    frontier.Writes (frontier.stepEntries phase ++
      World.handEntries (phase.gain? (frontier.stepPhase id phase).2)) := by
  have alone (other : ∀ progress, phase ≠ .polling progress)
      (taken : frontier.Writes (frontier.stepEntries phase)) :
      frontier.Writes (frontier.stepEntries phase ++
        World.handEntries (phase.gain? (frontier.stepPhase id phase).2)) := by
    rw [no_gain frontier id phase other]
    exact (List.append_nil (frontier.stepEntries phase)).symm ▸ taken
  cases phase with
  | polling progress =>
      rw [World.hand_entries frontier id _ addressed]
      refine poll_writes _ fun gained => ?_
      obtain ⟨uri, same⟩ := Option.ne_none_iff_exists'.mp gained
      obtain ⟨key, rest, _, first, _⟩ := frontier.gain_ready id _ uri same
      simp [first]
  | contending attempt => exact alone (by simp) contend_writes
  | flushing due deadline =>
      refine alone (by simp) ?_
      simp only [stepEntries]
      split
      · exact collect_writes frontier
      · exact .nothing
  | entering | seeking | resting _ _ | waiting | done _ | failed => exact alone (by simp) .nothing

theorem Reported.lined {uri head : CrawlUri} {queue : WorkQueue} {rest : List CrawlUri}
    (reported : frontier.Reported uri queue head rest) :
    (frontier.lane uri.siteKey).items = head :: rest := by
  rw [frontier.lane_of_queue uri.siteKey queue reported.found]
  exact reported.line

theorem complete_writes (uri : CrawlUri) (outcome : Outcome) :
    frontier.Writes (World.completeEntries frontier uri outcome) := by
  rcases frontier.complete_reported uri outcome with ⟨cause, refused⟩ | ⟨queue, head, rest, reported⟩
  · rw [World.refused_entries frontier uri outcome cause refused]
    exact .nothing
  · rw [World.completeEntries]
    split
    · rw [reported.lined]
      exact .returns uri head rest queue outcome reported
    · exact .nothing

theorem Writes.active {entries : List Entry} (writes : frontier.Writes entries)
    (registered : frontier.Registered) (entry : Entry) (listed : entry ∈ entries)
    (lined : entry.joined? = none) :
    ∃ queue, frontier.queue? entry.key = some queue ∧
      (queue.state = .ready ∨ queue.state = .inProcess) := by
  cases writes with
  | accepts uris =>
      obtain ⟨uri, _, rfl⟩ := List.mem_map.mp listed
      cases lined
  | serves key rest items answer first =>
      have here : entry.key = key := by
        rcases List.mem_append.mp listed with moved | handed
        · induction items with
          | nil => cases moved
          | cons head items ih =>
              rw [relocations] at moved
              split at moved
              · cases moved
              · rcases List.mem_cons.mp moved with rfl | later
                · rfl
                · rcases List.mem_cons.mp later with rfl | others
                  · cases lined
                  · exact ih (List.mem_append_left _ others) others
        · obtain ⟨uri, _, rfl⟩ := List.mem_map.mp handed
          rfl
      obtain ⟨queue, found, _, ready, _⟩ := frontier.ready_queue key registered (by simp [first])
      exact ⟨queue, here ▸ found, .inl ready⟩
  | returns uri head rest queue outcome reported =>
      obtain rfl := List.mem_singleton.mp listed
      exact ⟨queue, reported.found, .inr reported.process⟩

end Writes

end Frontier

namespace World

def written (world : World) : Event → List Entry
  | .schedule uri => [world.frontier.acceptEntry uri]
  | .proceed id =>
      (world.call? id).elim [] fun call => world.frontier.stepEntries call.phase ++
        handEntries (call.phase.gain? (world.frontier.step call).2.phase)
  | .complete uri outcome => completeEntries world.frontier uri outcome
  | _ => []

theorem act_written (world : World) (event : Event) :
    (world.act event).journal = world.journal ++ world.written event := by
  have silent := (List.append_nil world.journal).symm
  cases event with
  | proceed id =>
      simp only [act, written]
      cases world.call? id with
      | none => exact silent
      | some call => rfl
  | drop id =>
      simp only [act, written]
      cases world.call? id with
      | none => exact silent
      | some call =>
          simp only [Option.elim, drop]
          split <;> exact silent
  | supervise id =>
      simp only [act, written]
      cases world.supervisor? id <;> exact silent
  | schedule _ | complete _ _ => rfl
  | _ => exact silent

theorem act_writes {origin : Gateway} (world : World) (event : Event)
    (kept : Kept origin world.frontier world.journal) :
    world.frontier.Writes (world.written event) := by
  cases event with
  | schedule uri => exact .takes world.frontier [uri]
  | proceed id =>
      simp only [written]
      cases world.call? id with
      | none => exact .nothing
      | some call =>
          exact Frontier.step_writes call.id call.phase (kept.posted.addressed kept.addressed)
  | complete uri outcome => exact Frontier.complete_writes uri outcome
  | _ => exact .nothing

theorem run_writes {setup : Setup} {events : List Event} {event : Event}
    (calm : Calm setup (events ++ [event])) :
    ∃ entries, (run setup (events ++ [event])).journal = (run setup events).journal ++ entries ∧
      (run setup events).frontier.Writes entries ∧
      ∀ key, ((run setup events).frontier.lane key).replay? (deedsOn key entries) =
        some ((run setup (events ++ [event])).frontier.lane key) := by
  have kept := run_kept setup events calm.before.1
  have later := run_kept setup (events ++ [event]) calm
  obtain ⟨entries, journal, writes⟩ : ∃ entries, (run setup (events ++ [event])).journal =
      (run setup events).journal ++ entries ∧ (run setup events).frontier.Writes entries := by
    rw [run_snoc, step]
    split
    · exact ⟨_, act_written _ event, act_writes _ event kept⟩
    · exact ⟨[], (List.append_nil _).symm, .nothing⟩
  refine ⟨entries, journal, writes, fun key => ?_⟩
  have whole := later.posted.lanes key
  rw [journal, deeds_append, Lane.replay_append, kept.posted.lanes key] at whole
  exact whole

end World

end PoliteCrawl
