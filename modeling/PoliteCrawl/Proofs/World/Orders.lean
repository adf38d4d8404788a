import PoliteCrawl.Proofs.World.Finish

set_option autoImplicit false

namespace PoliteCrawl

structure Frontier.Ended (frontier : Frontier) : Prop where
  target : frontier.target = .finish
  drained : frontier.claims = []

namespace World

theorem end_reached (world : World) (event : Event)
    (before : world.frontier.reached ≠ some .finish)
    (after : (world.step event).frontier.reached = some .finish) :
    (world.step event).frontier.Ended ∧ (world.step event).turn = none := by
  have nears := step_nears world event
  have closes : world.closed [event] ≠ [] := (nears.reached after).resolve_left before
  obtain ⟨asked, drained, _⟩ := nears.closes closes
  refine ⟨⟨nears.target asked, ?_⟩, ?_⟩
  · have other (id : Nat) : event ≠ .proceed id := by
      rcases closed_event world event closes with same | ⟨_, same⟩ <;> simp [same]
    rw [step]
    split
    · exact List.sublist_nil.mp (drained ▸ act_claims world event other)
    · exact drained
  · cases turn : (world.step event).turn with
    | none => rfl
    | some id =>
        have cell := turn_cell world event id turn
        exact absurd ((congrArg StateCell.reached cell).symm.trans after) before

structure Closed (world : World) : Prop where
  target : world.frontier.target = .finish
  idle : world.Idle

theorem Closed.begins (setup : Setup) (events : List Event)
    (ended : (run setup events).frontier.Ended) (turn : (run setup events).turn = none)
    (heeded : ∀ id, ¬ (run setup events).Overtaken id) : (run setup events).Closed := by
  refine ⟨ended.target, .begins setup events ?_ ended.drained turn heeded⟩
  rw [ended.target]
  rfl

theorem Closed.run {world : World} (closed : world.Closed) (events : List Event) :
    (events.foldl World.step world).Closed ∧
      (events.foldl World.step world).handed = world.handed := by
  obtain ⟨idle, handed⟩ := closed.idle.run events fun middle rest _ => by
    rw [target_stays world middle closed.target]
    rfl
  exact ⟨⟨target_stays world events closed.target, idle⟩, handed⟩

end World

/-- A call that gets a URI gets it while the crawl is to run or is empty, unless it had been overtaken
when its turn began: then, and only then, the crawl was already told to stop. When the end is reached
nothing is in flight, and if no call is overtaken at this moment, nothing is handed out ever after. -/
theorem hand_outs_heed_target (setup : Setup) (events : List Event) (event : Event) :
    let world := World.run setup events
    let next := World.run setup (events ++ [event])
    (next.handed = world.handed ∨
      ∃ id uri, event = .proceed id ∧ next.handed = world.handed ++ [uri] ∧
        ((world.frontier.target = .run ∨ world.frontier.target = .empty) ↔
          ¬ ∃ earlier, World.KeptTurn setup id earlier events ∧
            (World.run setup earlier).Overtaken id)) ∧
      (world.frontier.reached ≠ some .finish → next.frontier.reached = some .finish →
        next.frontier.target = .finish ∧ next.frontier.claims = [] ∧
          ((∀ id, ¬ next.Overtaken id) → ∀ later,
            (World.run setup (events ++ [event] ++ later)).handed = next.handed ∧
              (World.run setup (events ++ [event] ++ later)).frontier.claims = [])) := by
  intro world next
  have stepped : next = world.step event := World.run_snoc setup events event
  refine ⟨?_, fun before after => ?_⟩
  · rw [stepped]
    refine (World.step_handed world event).imp_right ?_
    intro ⟨id, call, uri, proceeds, found, looks, awake, handed⟩
    have looking := World.run_looks setup events id call found looks awake
    exact ⟨id, uri, proceeds, handed, World.allowed_unless_overtaken setup events id looking⟩
  · rw [stepped] at after
    obtain ⟨ended, turn⟩ := World.end_reached world event before after
    rw [← stepped] at ended turn
    refine ⟨ended.target, ended.drained, fun heeded later => ?_⟩
    have closed : next.Closed := .begins setup (events ++ [event]) ended turn heeded
    have whole : World.run setup (events ++ [event] ++ later) = later.foldl World.step next := by
      simp [next, World.run]
    obtain ⟨still, handed⟩ := closed.run later
    rw [whole]
    exact ⟨handed, still.idle.drained⟩

-- A worker waits while the crawl holds, and is told to finish with a URI in line.
def heldCall : List Event :=
  [.request .hold, .schedule (page "a.com" "1"), .call, .proceed 0, .hire, .request .finish]

theorem hand_outs_heed_target_held_call :
    (World.run Setup.plain heldCall).frontier.reached ≠ some .finish ∧
      (World.run Setup.plain (heldCall ++ [.supervise 1])).frontier.reached = some .finish ∧
      (World.run Setup.plain (heldCall ++ [.supervise 1])).calls = [⟨0, .waiting⟩] ∧
      (World.run Setup.plain (heldCall ++ [.supervise 1])).frontier.ready = ["a.com"] ∧
      (World.run Setup.plain (heldCall ++ [.supervise 1] ++ firstCall)).frontier.claims = [] := by
  have waits : (World.run Setup.plain (heldCall ++ [.supervise 1])).calls = [⟨0, .waiting⟩] := rfl
  refine ⟨by decide, rfl, waits, rfl, ?_⟩
  refine (((hand_outs_heed_target Setup.plain heldCall (.supervise 1)).2 (by decide) rfl).2.2
    ?_ firstCall).2
  rintro id ⟨call, found, looks, _⟩
  have member := List.mem_of_find?_eq_some found
  rw [waits, List.mem_singleton] at member
  simp [member, CallPhase.looks] at looks

-- The crawl ends while a call awaits what the service hands over.
def lateFlush : List Event :=
  [.request .run, .offer (.supply [page "a.com" "1"] 1), .call, .proceed 0, .proceed 0, .proceed 0,
    .hire, .request .finish, .supervise 1, .advance (Time.millis 100)]

theorem overtaken_call_gets_uri :
    (World.run Setup.slow lateFlush).frontier.reached = some .finish ∧
      (World.run Setup.slow lateFlush).frontier.claims = [] ∧
      (World.run Setup.slow lateFlush).handed = [] ∧
      (World.run Setup.slow (lateFlush ++ [.proceed 0, .proceed 0])).handed =
        [{ page "a.com" "1" with siteKey := "a.com" }] ∧
      (World.run Setup.slow (lateFlush ++ [.proceed 0, .proceed 0])).frontier.claims =
        ["a.com"] :=
  ⟨rfl, rfl, rfl, rfl, rfl⟩

end PoliteCrawl
