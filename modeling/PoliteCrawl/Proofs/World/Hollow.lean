import PoliteCrawl.Proofs.World.Pauses
import PoliteCrawl.Proofs.World.Serving

set_option autoImplicit false

namespace PoliteCrawl

-- In line for URIs to be taken from it, and without any.
def WorkQueue.Hollow (queue : WorkQueue) : Prop :=
  (queue.state = .ready ∨ queue.state = .inactive) ∧ queue.items = []

def Hollowed (among : String → Prop) : WorkQueue → Prop :=
  fun queue => queue.Hollow → among queue.key

theorem hollowed_handing (among : String → Prop) (budgets : Budgets) :
    Upkeep.Handing (Hollowed among) (fun _ => True) (fun queue => queue.state = .inProcess)
      budgets where
  fresh key tier hollow := by simp [WorkQueue.Hollow, WorkQueue.new] at hollow
  loosens _ _ _ := trivial
  joins queue uri _ hollow := by simp [WorkQueue.Hollow] at hollow
  rates queue tier met _ hollow := met hollow
  funds queue total met _ hollow := met hollow
  asks _ _ _ := trivial
  wakes _ _ := trivial
  activates queue met inactive hollow := met ⟨.inr inactive, hollow.2⟩
  parks queue _ some _ hollow := absurd hollow.2 some
  readies queue _ some _ hollow := absurd hollow.2 some
  exhausts queue _ _ hollow := by simp [WorkQueue.Hollow] at hollow
  retires queue _ _ hollow := by simp [WorkQueue.Hollow, WorkQueue.deactivate] at hollow
  dozes queue wake _ _ hollow := by simp [WorkQueue.Hollow, WorkQueue.setWakeTime] at hollow
  opens _ _ _ := trivial
  admits queue _ _ _ _ :=
    (Frontier.open_session_shape budgets { queue with state := .inProcess }).2.2.1
  drops _ _ process := process
  process _ process := process
  gives _ _ := trivial
  bills _ _ _ _ _ _ _ _ := trivial

namespace Frontier

def HollowAt (frontier : Frontier) (key : String) : Prop :=
  ∃ queue, frontier.queue? key = some queue ∧ queue.Hollow

def RecallsEmpty (frontier : Frontier) (key : String) : Prop :=
  ∃ queue, frontier.queue? key = some queue ∧ queue.state = .retired ∧ queue.items = [] ∧
    (queue.setTotalBudget frontier.budgets.total).isOverTotal = false

theorem hollow_same {before after : Frontier} {key : String}
    (same : after.queue? key = before.queue? key) : after.HollowAt key ↔ before.HollowAt key := by
  rw [HollowAt, HollowAt, same]

theorem reenqueue_lines (frontier : Frontier) (queue old : WorkQueue) (calm : frontier.Calm)
    (found : frontier.queue? queue.key = some old)
    (free : queue.state.allows .ready = true ∧ queue.state.allows .inactive = true) :
    ∃ after placement lined, frontier.reenqueue queue = (after, some placement) ∧
      after.queue? queue.key = some lined ∧ lined.items = queue.items ∧
        (lined.state = .ready ∨ lined.state = .inactive) := by
  let asked := queue.setPrecedence (frontier.routing.precedence queue.key)
  have present : (frontier.store asked).queue? asked.key = some asked :=
    store_same frontier asked old found
  simp only [reenqueue, refresh_calm frontier queue calm]
  by_cases waits : (frontier.store asked).mustWait asked = true
  · rw [if_pos waits, deactivate_allowed _ asked _ free.2]
    exact ⟨_, _, parked asked, rfl, store_same _ (parked asked) asked present, rfl, .inr rfl⟩
  · rw [if_neg waits, asked.transition_allowed .ready free.1]
    exact ⟨_, _, _, rfl, store_same _ { asked with state := .ready } asked present, rfl, .inl rfl⟩

theorem unretire_queue_hollow (frontier : Frontier) (key : String) (rest : List String)
    (calm : frontier.Calm) (registered : (frontier.recalling (key :: rest)).Registered) :
    (frontier.unretireQueue key).1.HollowAt key ↔ frontier.RecallsEmpty key := by
  obtain ⟨queue, found, named, state, _⟩ := loosen_retired frontier key rest registered
  subst named
  let funded := queue.setTotalBudget frontier.budgets.total
  have stored : (frontier.store funded).queue? funded.key = some funded :=
    store_same frontier funded queue found
  have recalls : frontier.RecallsEmpty queue.key ↔ queue.items = [] ∧ funded.isOverTotal = false := by
    rw [RecallsEmpty, found]
    simp [state, funded]
  rw [recalls]
  simp only [unretireQueue, found, if_pos state]
  by_cases spent : funded.isOverTotal = true
  · rw [if_pos spent]
    constructor
    · rintro ⟨other, present, lined, _⟩
      have same : funded = other := Option.some.inj (stored.symm.trans present)
      subst same
      simp [funded, WorkQueue.setTotalBudget, state] at lined
    · exact fun recalled => by simp [spent] at recalled
  · obtain ⟨after, placement, lined, landed, present, items, inLine⟩ :=
      reenqueue_lines (frontier.store funded) funded funded calm stored
        (by simp [funded, WorkQueue.setTotalBudget, state, QueueState.allows])
    rw [if_neg spent, landed]
    have placed : (after.place queue.key placement).queue? queue.key = some lined :=
      (queues_queue _ _ _ (place_queues after queue.key placement)).trans present
    constructor
    · rintro ⟨other, there, _, empty⟩
      have same : lined = other := Option.some.inj (placed.symm.trans there)
      exact ⟨items.symm.trans (same ▸ empty), by simpa using spent⟩
    · exact fun recalled => ⟨lined, placed, inLine, items.trans recalled.1⟩

theorem unretire_all_hollow (line : List String) (frontier : Frontier) (count : Nat) (key : String)
    (calm : frontier.Calm) (registered : (frontier.recalling line).Registered) :
    (key ∈ line → ((frontier.unretireAll count line).1.HollowAt key ↔ frontier.RecallsEmpty key)) ∧
      (key ∉ line → (frontier.unretireAll count line).1.queue? key = frontier.queue? key) := by
  induction line generalizing frontier count with
  | nil => exact ⟨by simp, fun _ => rfl⟩
  | cons first rest ih =>
      obtain ⟨back, answer, proceeds⟩ := unretire_queue_calm frontier first rest calm registered
      have here := unretire_queue_hollow frontier first rest calm registered
      have beside := unretire_queue_beside frontier first
      have budgets : (frontier.unretireQueue first).1.budgets = frontier.budgets :=
        congrArg Setting.budgets
          (unretire_queue_shelved stays_dozing.toShelving frontier first).setting
      have fresh : first ∉ rest := by
        obtain ⟨_, _, _, _, once, _⟩ := retired_queue _ first registered (by simp [recalling])
        have counted := congrArg Standing.retired once
        simp only [standing, recalling, List.count_append, List.count_cons_self] at counted
        exact List.count_eq_zero.mp (by omega)
      rw [unretireAll]
      cases result : frontier.unretireQueue first with
      | mk after found =>
          rw [result] at answer proceeds here beside budgets
          simp only at answer
          subst answer
          have later (counted : Nat) := ih after counted (proceeds.calm calm) proceeds.registered
          have whole (counted : Nat) :
              (key ∈ first :: rest →
                ((after.unretireAll counted rest).1.HollowAt key ↔ frontier.RecallsEmpty key)) ∧
              (key ∉ first :: rest →
                (after.unretireAll counted rest).1.queue? key = frontier.queue? key) := by
            obtain ⟨inside, outside⟩ := later counted
            by_cases same : key = first
            · subst same
              refine ⟨fun _ => (hollow_same (outside fresh)).trans here, fun absent => ?_⟩
              exact absurd List.mem_cons_self absent
            · have kept := beside key same
              have recalls : after.RecallsEmpty key ↔ frontier.RecallsEmpty key := by
                rw [RecallsEmpty, RecallsEmpty, kept, budgets]
              refine ⟨fun listed => ?_, fun absent => ?_⟩
              · exact (inside ((List.mem_cons.mp listed).resolve_left same)).trans recalls
              · exact (outside fun listed => absent (List.mem_cons_of_mem _ listed)).trans kept
          cases back with
          | true => exact whole (count + 1)
          | false => exact whole count

theorem unretire_hollow (frontier : Frontier) (key : String) (calm : frontier.Calm)
    (registered : frontier.Registered) :
    frontier.unretireQueues.1.HollowAt key ↔
      frontier.HollowAt key ∨ frontier.RecallsEmpty key := by
  obtain ⟨inside, outside⟩ :=
    unretire_all_hollow frontier.retired { frontier with retired := [] } 0 key calm registered
  by_cases listed : key ∈ frontier.retired
  · obtain ⟨queue, found, _, state, _⟩ := retired_queue frontier key registered listed
    have solid : ¬ frontier.HollowAt key := by
      rintro ⟨other, present, lined, _⟩
      rw [found] at present
      cases present
      simp [state] at lined
    exact (inside listed).trans (or_iff_right solid).symm
  · have active : ¬ frontier.RecallsEmpty key := by
      rintro ⟨queue, found, state, _⟩
      have stands := settled_queue frontier key queue registered found
      simp only [WorkQueue.StandsAt, state] at stands
      have counted : frontier.retired.count key = 1 := congrArg Standing.retired stands.1
      exact listed (List.count_pos_iff.mp (by omega))
    exact (hollow_same (outside listed)).trans (or_iff_left active).symm

theorem poll_hollow (frontier : Frontier) (key : String) (rest : List String) (queue : WorkQueue)
    (id : Nat) (progress : Bool) (registered : frontier.Registered)
    (first : frontier.ready = key :: rest) (found : frontier.queue? key = some queue)
    (empty : queue.items = []) :
    frontier.poll id progress =
      ({ frontier with ready := rest }.store { queue.noteExhausted with state := .empty },
        .seeking) := by
  obtain ⟨listed, present, _, ready, _⟩ := ready_queue frontier key registered (by simp [first])
  rw [found] at present
  cases present
  have known : { frontier with ready := rest }.queue? key = some queue := found
  have allowed : queue.noteExhausted.state.allows .empty = true := by
    simp [WorkQueue.noteExhausted, ready, QueueState.allows]
  have dry : queue.isEmpty = true := by simp [WorkQueue.isEmpty, empty]
  simp only [poll, first, dispatchFrom, known, claim, ready, ne_eq, not_true_eq_false, if_false,
    if_pos dry, markExhausted, queue.noteExhausted.transition_allowed .empty allowed]

end Frontier

namespace World

-- The queue of a site came back empty in a recall, and has been hollow ever since.
inductive HollowSince (setup : Setup) (key : String) (before : List Event) : List Event → Prop where
  | recalled (idle : (run setup before).turn = none)
      (recalls : (run setup before).frontier.RecallsEmpty key) :
      HollowSince setup key before (before ++ [.unretire])
  | kept {events : List Event} {event : Event} (since : HollowSince setup key before events)
      (hollow : (run setup (events ++ [event])).frontier.HollowAt key) :
      HollowSince setup key before (events ++ [event])

theorem act_hollow (setup : Setup) (events : List Event) (event : Event) (key : String)
    (calm : Calm setup (events ++ [event])) (other : event ≠ .unretire)
    (hollow : ((run setup events).step event).frontier.HollowAt key) :
    (run setup events).frontier.HollowAt key := by
  have kept := run_kept setup events calm.before.1
  have upheld : (run setup events).frontier.Upheld
      (Hollowed (run setup events).frontier.HollowAt) := by
    refine ⟨kept.calm, fun site queue found empty => ?_, run_marked setup events calm.before.1⟩
    rw [Frontier.queue_key _ site queue found]
    exact ⟨queue, found, empty⟩
  obtain ⟨queue, found, empty⟩ := hollow
  have named := Frontier.queue_key _ key queue found
  rcases step_hands (run setup events) event calm.before.2 kept (hollowed_handing _ _)
    (fun same => absurd same other) upheld with ⟨_, after⟩ | ⟨uri, _, gives⟩
  · exact named ▸ after.meets key queue found empty
  · obtain ⟨taken, moment, process, _, present⟩ := gives.taken
    by_cases same : key = uri.siteKey
    · subst same
      rw [found] at present
      cases present
      simp [WorkQueue.Hollow, WorkQueue.recordDispatch, process] at empty
    · exact named ▸ gives.others.meets key queue found (named.symm ▸ same) empty

theorem recall_hollow (setup : Setup) (events : List Event) (key : String)
    (calm : Calm setup events) :
    (run setup (events ++ [.unretire])).frontier.HollowAt key ↔
      (run setup events).frontier.HollowAt key ∨
        ((run setup events).turn = none ∧ (run setup events).frontier.RecallsEmpty key) := by
  have kept := run_kept setup events calm
  rw [run_snoc, step]
  cases turn : (run setup events).turn with
  | none =>
      have recalled := Frontier.unretire_hollow _ key kept.calm kept.registered
      simpa [admits, turn, act] using recalled
  | some id => simp [admits, turn]

theorem HollowSince.hollow {setup : Setup} {key : String} {before events : List Event}
    (since : HollowSince setup key before events) (calm : Calm setup events) :
    (run setup events).frontier.HollowAt key := by
  cases since with
  | recalled idle recalls =>
      exact (recall_hollow setup before key calm.before.1).mpr (.inr ⟨idle, recalls⟩)
  | kept since hollow => exact hollow

theorem run_hollow (setup : Setup) (events : List Event) (key : String) (calm : Calm setup events)
    (hollow : (run setup events).frontier.HollowAt key) :
    ∃ before, HollowSince setup key before events := by
  revert calm hollow
  refine run_induction (motive := fun events world => Calm setup events →
    world.frontier.HollowAt key → ∃ before, HollowSince setup key before events) setup ?_ ?_ events
  · rintro _ ⟨queue, found, _⟩
    simp [start, Frontier.new, Frontier.queue?] at found
  · intro events event before calm hollow
    have made : (run setup events).frontier.HollowAt key ∨ (event = .unretire ∧
        (run setup events).turn = none ∧ (run setup events).frontier.RecallsEmpty key) := by
      by_cases recalls : event = .unretire
      · subst recalls
        rw [← run_snoc] at hollow
        exact ((recall_hollow setup events key calm.before.1).mp hollow).imp_right
          fun recalled => ⟨rfl, recalled⟩
      · exact .inl (act_hollow setup events event key calm recalls hollow)
    rw [← run_snoc] at hollow
    rcases made with earlier | ⟨same, idle, recalls⟩
    · obtain ⟨start, since⟩ := before calm.before.1 earlier
      exact ⟨start, .kept since hollow⟩
    · exact ⟨events, same ▸ .recalled idle recalls⟩

end World

/-- While the routing does not fail, a queue that is ready or inactive without a URI was brought there
by a recall that found it retired, empty and within the budgets in force, and has been so ever since.
Such a recall always brings it there; nothing else does. When its turn comes it gives nothing, and
counts as exhausted from then on. -/
theorem only_recalls_line_up_empty_queues (setup : Setup) (events : List Event)
    (calm : Calm setup events) :
    let frontier := (World.run setup events).frontier
    (∀ key, (∃ queue, frontier.queue? key = some queue ∧
        (queue.state = .ready ∨ queue.state = .inactive) ∧ queue.items = []) ↔
      ∃ before, World.HollowSince setup key before events) ∧
    ∀ key rest queue, frontier.ready = key :: rest → frontier.queue? key = some queue →
      queue.items = [] → ∀ id progress,
        frontier.stepPhase id (.polling progress) =
          ({ frontier with ready := rest }.store { queue.noteExhausted with state := .empty },
            .seeking) := by
  intro frontier
  have kept := World.run_kept setup events calm
  constructor
  · intro key
    exact ⟨World.run_hollow setup events key calm, fun ⟨_, since⟩ => since.hollow calm⟩
  · intro key rest queue first found empty id progress
    exact frontier.poll_hollow key rest queue id progress kept.registered first found empty

-- A site gives its only page, retires, and is recalled once there is no limit any more.
def emptyRecall : List Event :=
  [.setBudgets 10 (some 1), .request .run, .schedule (page "a.com" "1"), .call, .proceed 0,
    .proceed 0, .proceed 0, .proceed 0, .complete firstPage fetched, .setBudgets 10 none]

theorem only_recalls_line_up_empty_queues_empty_recall :
    Calm Setup.plain (emptyRecall ++ [.unretire]) ∧
      (∃ queue, (World.run Setup.plain (emptyRecall ++ [.unretire])).frontier.queue? "a.com" =
        some queue ∧ (queue.state = .ready ∨ queue.state = .inactive) ∧ queue.items = []) ∧
      ((World.run Setup.plain (emptyRecall ++ [.unretire])).frontier.stepPhase 1
        (.polling false)).2 = .seeking := by
  have calm : Calm Setup.plain (emptyRecall ++ [.unretire]) :=
    ⟨rfl, by simp [emptyRecall, Event.Calm]⟩
  have recalls : (World.run Setup.plain emptyRecall).frontier.RecallsEmpty "a.com" :=
    ⟨_, rfl, rfl, rfl, rfl⟩
  obtain ⟨lined, polled⟩ :=
    only_recalls_line_up_empty_queues Setup.plain (emptyRecall ++ [.unretire]) calm
  refine ⟨calm, (lined "a.com").mpr ⟨emptyRecall, .recalled rfl recalls⟩, ?_⟩
  rw [polled "a.com" [] _ rfl rfl rfl]

theorem recalled_queue_is_ready_and_empty :
    Calm Setup.plain (emptyRecall ++ [.unretire]) ∧
      ∃ queue, (World.run Setup.plain (emptyRecall ++ [.unretire])).frontier.queue? "a.com" =
          some queue ∧
        queue.state = .ready ∧ queue.items = [] ∧
        (World.run Setup.plain (emptyRecall ++ [.unretire])).frontier.ready = ["a.com"] :=
  ⟨⟨rfl, by simp [emptyRecall, Event.Calm]⟩, _, rfl, rfl, rfl, rfl⟩

end PoliteCrawl
