import PoliteCrawl.Proofs.Frontier.Hints
import PoliteCrawl.Proofs.World.Floor

set_option autoImplicit false

namespace PoliteCrawl

namespace World

def joined (world : World) (key : String) : List CrawlUri :=
  joinedOn key world.journal

-- Those that have joined it when an event files its key. Of those that join it by that event the first
-- one lines it up, if none was in line.
def joinedWhen (before after : World) (key : String) : List CrawlUri :=
  if before.frontier.idle key then (after.joined key).take ((before.joined key).length + 1)
  else before.joined key

def claimsSpent (world : World) (key : String) : Event → Bool
  | .proceed id => (world.call? id).any fun call => world.frontier.claimsSpent key call.phase
  | _ => false

def goesBy (world : World) (event : Event) (key : String) : Nat :=
  if world.claimsSpent key event then
    (world.frontier.linedAt? key).getD (world.frontier.routing.precedence key)
  else world.frontier.routing.precedence key

-- A site was lined up by the first of some events, and has been in line since.
def InLineSince (setup : Setup) (earlier later : List Event) (key : String) : Prop :=
  later ≠ [] ∧ ∀ first, first <+: later → first ≠ [] →
    (run setup (earlier ++ first)).frontier.queueState? key = some .ready

theorem joined_when {before after : World} {entries : List Entry} (key : String)
    (journal : after.journal = before.journal ++ entries) :
    before.joinedWhen after key =
      before.joined key ++ before.frontier.linedBy key (joinedOn key entries) := by
  rw [joinedWhen, Frontier.linedBy]
  split
  · rw [joined, joined, journal, joined_append, List.take_length_add_append]
  · rw [List.append_nil]

theorem spent_lined {world : World} {key : String} {event : Event} (tidy : world.frontier.Tidy)
    (spent : world.claimsSpent key event = true) :
    world.frontier.idle key = false ∧ ∃ answer, world.frontier.linedAt? key = some answer := by
  cases event with
  | proceed id =>
      rw [claimsSpent] at spent
      cases found : world.call? id with
      | none =>
          rw [found] at spent
          cases spent
      | some call =>
          rw [found] at spent
          exact Frontier.claims_spent_lined tidy spent
  | _ => cases spent

theorem complete_silent (frontier : Frontier) (uri : CrawlUri) (outcome : Outcome) :
    ∀ entry ∈ completeEntries frontier uri outcome, entry.deed.joined? = none := by
  intro entry written
  rw [completeEntries] at written
  split at written
  · rw [List.mem_singleton.mp written, Frontier.takeBack]
    split <;> rfl
  · cases written

theorem hand_silent (answer : Option CrawlUri) :
    ∀ entry ∈ handEntries answer, entry.deed.joined? = none := by
  cases answer with
  | none => simp [handEntries]
  | some uri => simp [handEntries, Deed.joined?]

theorem proceed_files (world : World) (call : Call) (calm : world.frontier.Calm)
    (registered : world.frontier.Registered) :
    world.frontier.Files
      (world.frontier.stepEntries call.phase ++
        handEntries (call.phase.gain? (world.frontier.step call).2.phase))
      (world.frontier.goesBy call.phase) (world.proceed call).frontier := by
  have files := world.frontier.step_files call.id call.phase calm registered
  have same (key : String) : joinedOn key (world.frontier.stepEntries call.phase ++
      handEntries (call.phase.gain? (world.frontier.step call).2.phase)) =
        joinedOn key (world.frontier.stepEntries call.phase) := by
    rw [joined_append, joined_silent key _ (hand_silent _), List.append_nil]
  refine ⟨fun key => ?_, files.lines, fun tier key member => ?_⟩
  · rw [same]
    exact files.hinted key
  · rw [same]
    exact files.files tier key member

theorem act_files (world : World) (event : Event) (calm : world.frontier.Calm)
    (registered : world.frontier.Registered) :
    ∃ entries, (world.act event).journal = world.journal ++ entries ∧
      world.frontier.Files entries (world.goesBy event) (world.act event).frontier := by
  have still {after : Frontier} {told : String → Nat} (queues : after.queues = world.frontier.queues)
      (tiers : after.tiers = world.frontier.tiers) : world.frontier.Files [] told after :=
    ((Frontier.Steady.refl world.frontier).filed (by simp)).still queues tiers
  have silent := (List.append_nil world.journal).symm
  cases event with
  | schedule uri =>
      obtain ⟨after, sends, receives⟩ := world.frontier.send_receives
        { uri with siteKey := world.frontier.routing.siteKey uri.url } (world.frontier.acceptEntry uri)
        (fun _ => True) calm rfl rfl trivial
      refine ⟨[world.frontier.acceptEntry uri], rfl, ?_⟩
      simp only [act, Frontier.schedule, sends]
      exact receives.filed fun _ _ => rfl
  | proceed id =>
      simp only [act]
      cases found : world.call? id with
      | none => exact ⟨[], silent, still rfl rfl⟩
      | some call =>
          have same : world.goesBy (.proceed id) = world.frontier.goesBy call.phase := by
            funext key
            rw [goesBy, claimsSpent, found]
            rfl
          exact ⟨_, rfl, same ▸ proceed_files world call calm registered⟩
  | drop id =>
      refine ⟨[], ?_⟩
      simp only [act]
      cases world.call? id with
      | none => exact ⟨silent, still rfl rfl⟩
      | some call =>
          simp only [Option.elim, drop]
          split
          · exact ⟨silent, still rfl rfl⟩
          · refine ⟨silent, ?_⟩
            simp only [Frontier.cancel]
            split <;> exact still rfl rfl
  | complete uri outcome =>
      exact ⟨_, rfl, (world.frontier.complete_refiles uri outcome calm registered).filed
        (complete_silent _ _ _)⟩
  | request state =>
      obtain ⟨ready, snooze, shape⟩ := request_shape world.frontier state
      refine ⟨[], silent, ?_⟩
      simp only [act, shape]
      exact still rfl rfl
  | unretire => exact ⟨[], silent, (world.frontier.unretire_refiles calm).filed (by simp)⟩
  | manage =>
      exact ⟨[], silent, (Frontier.management_permitted Frontier.refiles_permits world.frontier
        calm).filed (by simp)⟩
  | supervise id =>
      refine ⟨[], ?_⟩
      simp only [act]
      cases world.supervisor? id with
      | none => exact ⟨silent, still rfl rfl⟩
      | some supervisor =>
          exact ⟨silent, (Frontier.turn_permitted Frontier.refiles_permits world.frontier supervisor
            calm).filed (by simp)⟩
  | call | setBudgets _ _ | reroute _ | offer _ | hire | advance _ =>
      exact ⟨[], silent, still rfl rfl⟩

section Run

variable {setup : Setup} {events : List Event}

theorem run_files {event : Event} (calm : Calm setup (events ++ [event])) :
    ∃ entries, (run setup (events ++ [event])).journal = (run setup events).journal ++ entries ∧
      (run setup events).frontier.Files entries ((run setup events).goesBy event)
        (run setup (events ++ [event])).frontier := by
  have kept := run_kept setup events calm.before.1
  rw [run_snoc, step]
  split
  · exact act_files _ event kept.calm kept.registered
  · exact ⟨[], (List.append_nil _).symm, (Frontier.Steady.refl _).filed (by simp)⟩

theorem run_hinted (calm : Calm setup events) (key : String) :
    (run setup events).frontier.hinted key = bestHint ((run setup events).joined key) := by
  revert calm
  refine run_induction (motive := fun events world => Calm setup events →
    world.frontier.hinted key = bestHint (world.joined key)) setup (fun _ => rfl) ?_ events
  intro events event ih calm
  obtain ⟨entries, journal, files⟩ := run_files calm
  rw [← run_snoc, files.hinted, ih calm.earlier, joined, joined, journal, joined_append,
    best_hint_append]

theorem run_lined (calm : Calm setup events) {key : String} {answer : Nat}
    (lined : (run setup events).frontier.linedAt? key = some answer) :
    ∃ earlier later, events = earlier ++ later ∧ InLineSince setup earlier later key ∧
      answer = (run setup earlier).frontier.routing.precedence key := by
  revert calm lined
  refine run_induction (motive := fun events world => Calm setup events →
    world.frontier.linedAt? key = some answer → ∃ earlier later, events = earlier ++ later ∧
      InLineSince setup earlier later key ∧
        answer = (run setup earlier).frontier.routing.precedence key) setup ?_ ?_ events
  · intro _ lined
    cases lined
  · intro events event ih calm lined
    rw [← run_snoc] at lined
    have ready : (run setup (events ++ [event])).frontier.queueState? key = some .ready := by
      obtain ⟨queue, found, told⟩ := Option.bind_eq_some_iff.mp lined
      split at told
      case isTrue state => exact Option.map_eq_some_iff.mpr ⟨queue, found, state⟩
      case isFalse => cases told
    obtain ⟨_, _, files⟩ := run_files calm
    rcases files.lines key answer lined with before | now
    · obtain ⟨earlier, later, rfl, ⟨_, since⟩, told⟩ := ih calm.earlier before
      refine ⟨earlier, later ++ [event], List.append_assoc .., ⟨by simp, ?_⟩, told⟩
      intro first within some
      rcases List.prefix_concat_iff.mp within with rfl | before
      · rwa [← List.append_assoc]
      · exact since first before some
    · refine ⟨events, [event], rfl, ⟨by simp, fun first within some => ?_⟩, now⟩
      rcases List.prefix_cons_iff.mp within with none | ⟨_, rfl, none⟩
      · exact absurd none some
      · rwa [List.prefix_nil.mp none]

end Run

end World

/-- In every run in which the routing does not fail, let an event file a key in a tier that did not hold
it. If the event does not claim that site with a spent session, the tier is the least of what the routing
answers then and the hints of the URIs that have joined the site so far; of those that join it by the same
event, all count up to the one that lines it up. If it does, then the tier is the one for what the routing
answered when the site was lined up, since when it has been in line. And whenever a scan of the tiers
refiles a key, the tier is the one for what the routing answers then. -/
theorem keys_are_filed_as_told (setup : Setup) (events : List Event) (event : Event) (key : String)
    (tier : Nat) (calm : Calm setup (events ++ [event])) :
    let before := World.run setup events
    let after := World.run setup (events ++ [event])
    (key ∈ Filed.keysAt after.frontier.tiers.filed tier →
      key ∉ Filed.keysAt before.frontier.tiers.filed tier →
        (before.claimsSpent key event = false →
          tier = improved (before.frontier.routing.precedence key)
            (bestHint (before.joinedWhen after key))) ∧
        (before.claimsSpent key event = true →
          ∃ earlier later, events = earlier ++ later ∧ World.InLineSince setup earlier later key ∧
            tier = improved ((World.run setup earlier).frontier.routing.precedence key)
              (bestHint (before.joined key)))) ∧
    ∀ looked filed place, before.frontier.Looked looked →
      (looked.inspect key filed).2 = some (.misfiled place) →
        place = improved (before.frontier.routing.precedence key) (bestHint (before.joined key)) := by
  intro before after
  have hinted : before.frontier.hinted key = bestHint (before.joined key) :=
    World.run_hinted calm.earlier key
  refine ⟨fun member new => ?_, fun looked filed place looks misfiled => ?_⟩
  · obtain ⟨entries, journal, files⟩ := World.run_files calm
    have right := (files.files tier key member).resolve_left new
    rw [show Frontier.hinted _ key = _ from hinted, ← best_hint_append,
      ← World.joined_when key journal] at right
    refine ⟨fun told => ?_, fun spent => ?_⟩
    · rwa [World.goesBy, told, if_neg (by simp)] at right
    · obtain ⟨busy, answer, lined⟩ :=
        World.spent_lined (World.run_kept setup events calm.earlier).registered.tidy spent
      obtain ⟨earlier, later, whole, since, told⟩ := World.run_lined calm.earlier lined
      refine ⟨earlier, later, whole, since, ?_⟩
      rwa [World.goesBy, if_pos spent, lined, Option.getD_some, World.joinedWhen, busy,
        if_neg (by simp), told] at right
  · rw [Frontier.misfiled_due looks misfiled, Frontier.due, hinted]

def hintedPage : CrawlUri :=
  { page "b.com" "1" with hint := some 3 }

def Setup.patient : Setup :=
  { Setup.plain with config := { FrontierConfig.default with pullTriggerLevel := 0 } }

-- A site is in line with an open session when it moves to another tier, and then the budget of a session
-- is lowered. A worker is about to claim the site.
def movedInLine : List Event :=
  [.setBudgets 10 none] ++ firstCall ++
    [.complete firstPage (Outcome.new .disregarded 0),
      .reroute ((Routing.new 1).setPrecedence "a.com" 9), .setBudgets 1 none, .call, .proceed 1,
      .proceed 1]

theorem moved_in_line_calm : Calm Setup.patient (movedInLine ++ [.proceed 1]) :=
  ⟨rfl, by simp [movedInLine, firstCall, Event.Calm, Routing.setPrecedence, Routing.new]⟩

theorem keys_are_filed_as_told_hinted_page :
    (let before := World.run Setup.floored [.reroute farRouting]
      let after := World.run Setup.floored ([.reroute farRouting] ++ [.schedule hintedPage])
      3 = improved (before.frontier.routing.precedence "b.com")
        (bestHint (before.joinedWhen after "b.com"))) ∧
    ∃ earlier later, movedInLine = earlier ++ later ∧
      World.InLineSince Setup.patient earlier later "a.com" ∧
      1 = improved ((World.run Setup.patient earlier).frontier.routing.precedence "a.com")
        (bestHint ((World.run Setup.patient movedInLine).joined "a.com")) := by
  have calm : Calm Setup.floored ([.reroute farRouting] ++ [.schedule hintedPage]) :=
    ⟨rfl, by simp [Event.Calm, farRouting, Routing.setPrecedence, Routing.new]⟩
  have page := (keys_are_filed_as_told Setup.floored _ _ "b.com" 3 calm).1 (by decide +kernel)
    (by decide +kernel)
  have moved := (keys_are_filed_as_told Setup.patient _ _ "a.com" 1 moved_in_line_calm).1
    (by decide +kernel) (by decide +kernel)
  exact ⟨page.1 (by decide +kernel), moved.2 (by decide +kernel)⟩

theorem spent_session_filed_as_before :
    let before := World.run Setup.patient movedInLine
    let after := World.run Setup.patient (movedInLine ++ [.proceed 1])
    Calm Setup.patient (movedInLine ++ [.proceed 1]) ∧
      "a.com" ∉ Filed.keysAt before.frontier.tiers.filed 1 ∧
      "a.com" ∈ Filed.keysAt after.frontier.tiers.filed 1 ∧
      improved (before.frontier.routing.precedence "a.com")
        (bestHint (before.joinedWhen after "a.com")) = 9 := by
  intro before after
  exact ⟨moved_in_line_calm, by decide +kernel, by decide +kernel, by decide +kernel⟩

end PoliteCrawl
