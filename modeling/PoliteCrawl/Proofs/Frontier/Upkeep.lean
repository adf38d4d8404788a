import PoliteCrawl.Proofs.Frontier.Supervision

set_option autoImplicit false

namespace PoliteCrawl

-- An operation that moves a queue on may break the terms for a while. What is left of them then is
-- the loose form, and it is enough for the queue to meet its terms again where it lands.
structure Upkeep (settled loose : WorkQueue → Prop) : Prop where
  fresh : ∀ key tier, settled (WorkQueue.new key tier)
  loosens : ∀ queue, settled queue → queue.state ≠ .inProcess → loose queue
  joins : ∀ queue uri, settled queue → settled (queue.enqueue uri)
  rates : ∀ queue tier, settled queue → queue.state = .inactive →
    settled (queue.setPrecedence tier)
  funds : ∀ queue total, settled queue → queue.state = .retired →
    settled (queue.setTotalBudget total)
  asks : ∀ queue tier, loose queue → loose (queue.setPrecedence tier)
  wakes : ∀ queue, loose queue → loose (queue.setWakeTime none)
  activates : ∀ queue, settled queue → queue.state = .inactive →
    settled { queue with state := .ready }
  parks : ∀ queue, loose queue → queue.items ≠ [] → queue.state.allows .inactive = true →
    settled (Frontier.parked queue)
  readies : ∀ queue, loose queue → queue.items ≠ [] → queue.state.allows .ready = true →
    settled { queue with state := .ready }
  exhausts : ∀ queue, loose queue → queue.state.allows .empty = true →
    settled { queue.noteExhausted with state := .empty }
  retires : ∀ queue, loose queue → queue.state.allows .retired = true →
    settled (WorkQueue.deactivate { queue with state := .retired })
  dozes : ∀ queue wake, loose queue → queue.state.allows .snoozed = true →
    settled (WorkQueue.setWakeTime { queue with state := .snoozed } (some wake))

-- Wherever it is put in line, at whatever precedence, a queue meets its terms.
def Enters (settled : WorkQueue → Prop) (queue : WorkQueue) : Prop :=
  ∀ tier, settled (Frontier.parked (queue.setPrecedence tier)) ∧
    settled { queue.setPrecedence tier with state := .ready }

-- A queue that comes back from retirement meets its terms, be it empty or not.
def Recalling (settled : WorkQueue → Prop) : Prop :=
  ∀ queue, settled queue → queue.state = .retired → Enters settled queue

theorem Upkeep.enters {settled loose : WorkQueue → Prop} (upkeep : Upkeep settled loose)
    (queue : WorkQueue) (met : loose queue) (some : queue.items ≠ [])
    (free : queue.state.allows .ready = true ∧ queue.state.allows .inactive = true) :
    Enters settled queue := by
  intro tier
  have rated : loose (queue.setPrecedence tier) := upkeep.asks queue tier met
  exact ⟨upkeep.parks _ rated some free.2, upkeep.readies _ rated some free.1⟩

def away (key : String) (terms : WorkQueue → Prop) : WorkQueue → Prop :=
  fun queue => queue.key ≠ key → terms queue

theorem Upkeep.away {settled loose : WorkQueue → Prop} (upkeep : Upkeep settled loose)
    (key : String) : Upkeep (PoliteCrawl.away key settled) (PoliteCrawl.away key loose) where
  fresh other tier _ := upkeep.fresh other tier
  loosens queue met idle other := upkeep.loosens queue (met other) idle
  joins queue uri met other :=
    upkeep.joins queue uri (met fun same => other ((queue.enqueue_key uri).trans same))
  rates queue tier met inactive other := upkeep.rates queue tier (met other) inactive
  funds queue total met retired other := upkeep.funds queue total (met other) retired
  asks queue tier met other := upkeep.asks queue tier (met other)
  wakes queue met other := upkeep.wakes queue (met other)
  activates queue met inactive other := upkeep.activates queue (met other) inactive
  parks queue met some allowed other := upkeep.parks queue (met other) some allowed
  readies queue met some allowed other := upkeep.readies queue (met other) some allowed
  exhausts queue met allowed other := upkeep.exhausts queue (met other) allowed
  retires queue met allowed other := upkeep.retires queue (met other) allowed
  dozes queue wake met allowed other := upkeep.dozes queue wake (met other) allowed

namespace Frontier

-- The watermark is up to date, too: only a scan that fails leaves it behind.
structure Upheld (terms : WorkQueue → Prop) (frontier : Frontier) : Prop where
  calm : frontier.Calm
  meets : ∀ key queue, frontier.queue? key = some queue → terms queue
  marked : frontier.tiers.watermark = Tiers.lowest frontier.tiers.filed

inductive Ends {α : Type} (terms : WorkQueue → Prop) : Frontier × Option α → Prop where
  | ends (after : Frontier) (answer : α) (upheld : after.Upheld terms) :
      Ends terms (after, some answer)

section Terms

variable {terms : WorkQueue → Prop}

theorem Ends.upheld {α : Type} {result : Frontier × Option α} (ends : Ends terms result) :
    result.1.Upheld terms := by
  obtain ⟨after, answer, kept⟩ := ends
  exact kept

theorem Ends.answers {α : Type} {result : Frontier × Option α} (ends : Ends terms result) :
    result.2 ≠ none := by
  obtain ⟨after, answer, kept⟩ := ends
  simp

theorem Upheld.same {frontier after : Frontier} (upheld : frontier.Upheld terms)
    (routing : after.routing = frontier.routing) (queues : after.queues = frontier.queues)
    (tiers : after.tiers = frontier.tiers) : after.Upheld terms := by
  refine ⟨(congrArg Routing.faults routing).trans upheld.calm, fun key queue found => ?_, ?_⟩
  · rw [queues_queue frontier after key queues] at found
    exact upheld.meets key queue found
  · rw [tiers]
    exact upheld.marked

theorem Upheld.store {frontier : Frontier} {queue : WorkQueue}
    (others : frontier.Upheld (away queue.key terms)) (met : terms queue) :
    (frontier.store queue).Upheld terms := by
  refine ⟨others.calm, fun key stored found => ?_, others.marked⟩
  rw [store_queue] at found
  by_cases here : key = queue.key
  · rw [if_pos here] at found
    obtain ⟨_, _, same⟩ := Option.map_eq_some_iff.mp found
    exact same ▸ met
  · rw [if_neg here] at found
    have named := queue_key frontier key stored found
    exact others.meets key stored found (named ▸ here)

theorem Upheld.away {frontier : Frontier} (upheld : frontier.Upheld terms) (key : String) :
    frontier.Upheld (away key terms) :=
  ⟨upheld.calm, fun other queue found _ => upheld.meets other queue found, upheld.marked⟩

theorem Upheld.stored {frontier : Frontier} {key : String} (queue : WorkQueue)
    (others : frontier.Upheld (PoliteCrawl.away key terms)) (named : queue.key = key) :
    (frontier.store queue).Upheld (PoliteCrawl.away key terms) := by
  apply Upheld.store
  · exact others.away queue.key
  · exact fun other => absurd named other

theorem Upheld.place {frontier : Frontier} (upheld : frontier.Upheld terms) (key : String)
    (placement : Placement) : (frontier.place key placement).Upheld terms := by
  cases placement with
  | inactive tier => exact ⟨upheld.calm, upheld.meets, rfl⟩
  | ready => exact upheld.same rfl rfl rfl
  | stay => exact upheld

theorem Ends.place {result : Frontier × Option Placement} (ends : Ends terms result)
    (key : String) :
    ∃ after placement, result = (after, some placement) ∧
      (after.place key placement).Upheld terms := by
  obtain ⟨after, placement, upheld⟩ := ends
  exact ⟨after, placement, rfl, upheld.place key placement⟩

end Terms

theorem reenqueue_upheld {settled : WorkQueue → Prop} (frontier : Frontier) (queue : WorkQueue)
    (others : frontier.Upheld (away queue.key settled)) (enters : Enters settled queue)
    (free : queue.state.allows .ready = true ∧ queue.state.allows .inactive = true) :
    Ends settled (frontier.reenqueue queue) := by
  let asked := queue.setPrecedence (frontier.routing.precedence queue.key)
  have beside : (frontier.store asked).Upheld (away asked.key settled) := others.stored asked rfl
  obtain ⟨parks, readies⟩ := enters (frontier.routing.precedence queue.key)
  simp only [reenqueue, refresh_calm frontier queue others.calm]
  by_cases waits : (frontier.store asked).mustWait asked = true
  · rw [if_pos waits, deactivate_allowed _ asked _ free.2]
    exact .ends _ _ (Upheld.store beside parks)
  · rw [if_neg waits, asked.transition_allowed .ready free.1]
    exact .ends _ _ (Upheld.store beside readies)

section Upkeep

variable {settled loose : WorkQueue → Prop} (upkeep : Upkeep settled loose)

include upkeep

theorem receive_first_upheld (frontier : Frontier) (queue : WorkQueue)
    (others : frontier.Upheld (away queue.key settled)) (met : loose queue)
    (some : queue.items ≠ []) (empty : queue.state = .empty) :
    Ends settled (frontier.receiveFirst queue) := by
  have free : queue.state.allows .ready = true ∧ queue.state.allows .inactive = true := by
    simp [empty, QueueState.allows]
  have enters := upkeep.enters queue met some free
  let asked := queue.setPrecedence (frontier.routing.precedence queue.key)
  by_cases held : frontier.holdsBack = true
  · simp only [receiveFirst, if_pos held, refresh_calm frontier queue others.calm]
    rw [deactivate_allowed _ asked _ free.2]
    have beside : (frontier.store asked).Upheld (away asked.key settled) :=
      others.stored asked rfl
    exact .ends _ _ (Upheld.store beside (enters _).1)
  · simp only [receiveFirst, if_neg held]
    exact reenqueue_upheld frontier queue others enters free

theorem exhausted_upheld (frontier : Frontier) (queue : WorkQueue)
    (others : frontier.Upheld (away queue.key settled)) (met : loose queue)
    (allowed : queue.state.allows .empty = true) :
    (frontier.markExhausted queue).Upheld settled := by
  simp only [markExhausted, queue.noteExhausted.transition_allowed .empty allowed]
  exact Upheld.store others (upkeep.exhausts queue met allowed)

theorem retire_upheld (frontier : Frontier) (queue : WorkQueue)
    (others : frontier.Upheld (away queue.key settled)) (met : loose queue)
    (allowed : queue.state.allows .retired = true) : (frontier.retire queue).Upheld settled := by
  let retired := WorkQueue.deactivate { queue with state := .retired }
  have stored : (frontier.store retired).Upheld settled :=
    Upheld.store others (upkeep.retires queue met allowed)
  simp only [retire, queue.transition_allowed .retired allowed]
  exact stored.same rfl rfl rfl

theorem ensure_upheld (frontier : Frontier) (key : String) (upheld : frontier.Upheld settled) :
    ∃ after queue, frontier.ensureQueue key = (after, some queue) ∧ after.Upheld settled ∧
      settled queue := by
  rw [ensureQueue]
  cases found : frontier.queue? key with
  | some queue => exact ⟨frontier, queue, rfl, upheld, upheld.meets key queue found⟩
  | none =>
      let fresh := WorkQueue.new key (frontier.routing.precedence key)
      simp only [Routing.ask_calm frontier.routing key upheld.calm]
      refine ⟨frontier.addQueue fresh, fresh, rfl, ⟨upheld.calm, ?_, upheld.marked⟩, upkeep.fresh _ _⟩
      intro other present here
      rw [add_queue] at here
      cases before : frontier.queue? other with
      | some old =>
          rw [before] at here
          cases here
          exact upheld.meets other _ before
      | none =>
          rw [before] at here
          by_cases same : other = fresh.key
          · rw [if_pos same] at here
            cases here
            exact upkeep.fresh _ _
          · rw [if_neg same] at here
            cases here

theorem send_upheld (frontier : Frontier) (uri : CrawlUri) (upheld : frontier.Upheld settled) :
    Ends settled (frontier.send uri) := by
  obtain ⟨after, queue, ensured, kept, met⟩ := ensure_upheld upkeep frontier uri.siteKey upheld
  let grown := queue.enqueue uri
  let base := (after.store grown).countQueued
  have joined : settled grown := upkeep.joins queue uri met
  have stored : base.Upheld settled := (Upheld.store (kept.away _) joined).same rfl rfl rfl
  simp only [send, ensured]
  by_cases empty : grown.state = .empty
  · have idle : grown.state ≠ .inProcess := by simp [empty]
    obtain ⟨last, placement, received, landed⟩ :=
      (receive_first_upheld upkeep base grown (stored.away _)
        (upkeep.loosens grown joined idle) (by simp [grown]) empty).place grown.key
    simp only [grown, base] at empty received landed
    rw [if_pos empty, received]
    exact .ends _ _ landed
  · rw [if_neg empty]
    exact .ends _ _ stored

theorem schedule_upheld (frontier : Frontier) (uri : CrawlUri)
    (upheld : frontier.Upheld settled) : Ends settled (frontier.schedule uri) :=
  send_upheld upkeep frontier _ upheld

theorem receive_all_upheld (frontier : Frontier) (uris : List CrawlUri)
    (upheld : frontier.Upheld settled) : Ends settled (frontier.receiveAll uris) := by
  induction uris generalizing frontier with
  | nil => exact .ends _ _ upheld
  | cons uri rest ih =>
      have scheduled := schedule_upheld upkeep frontier uri upheld
      rw [receiveAll]
      generalize frontier.schedule uri = result at scheduled
      obtain ⟨after, answer, kept⟩ := scheduled
      exact ih after kept

theorem inspect_upheld (frontier : Frontier) (key : String) (tier : Nat)
    (upheld : frontier.Upheld settled) : Ends settled (frontier.inspect key tier) := by
  rw [inspect]
  cases found : frontier.queue? key with
  | none => exact .ends _ _ upheld
  | some queue =>
      by_cases inactive : queue.state = .inactive
      · let asked := queue.setPrecedence (frontier.routing.precedence queue.key)
        have met : settled asked := upkeep.rates queue _ (upheld.meets key queue found) inactive
        have rated : (frontier.store asked).Upheld settled := Upheld.store (upheld.away _) met
        have allowed : asked.state.allows .ready = true := by
          simp [asked, WorkQueue.setPrecedence, inactive, QueueState.allows]
        simp only [if_pos inactive, refresh_calm frontier queue upheld.calm]
        by_cases right : asked.precedence = tier
        · rw [if_pos right, asked.transition_allowed .ready allowed]
          exact .ends _ _ (Upheld.store (rated.away _) (upkeep.activates asked met inactive))
        · rw [if_neg right]
          exact .ends _ _ rated
      · simp only [if_neg inactive]
        exact .ends _ _ upheld

theorem activate_upheld (frontier : Frontier) (upheld : frontier.Upheld settled) :
    Ends settled frontier.activateInactive := by
  obtain ⟨scanned, fails⟩ := Tiers.scan_keeps inspect (Upheld settled)
    (fun state key tier kept => (inspect_upheld upkeep state key tier kept).upheld)
    (frontier.tiers.filed.map (·.1)) frontier frontier.tiers.filed upheld
  have succeeds := fails fun state key tier kept =>
    (inspect_upheld upkeep state key tier kept).answers
  simp only [activateInactive, Tiers.activateNext]
  cases result : Tiers.scan inspect (frontier.tiers.filed.map (·.1)) frontier
      frontier.tiers.filed with
  | mk after others =>
      obtain ⟨left, ended⟩ := others
      rw [result] at scanned succeeds
      cases ended with
      | exhausted => exact .ends _ _ ⟨scanned.calm, scanned.meets, rfl⟩
      | activated key => exact .ends _ _ ⟨scanned.calm, scanned.meets, rfl⟩
      | failed => exact absurd rfl succeeds

theorem unretire_queue_upheld (recalling : Recalling settled) (frontier : Frontier) (key : String)
    (upheld : frontier.Upheld settled) : Ends settled (frontier.unretireQueue key) := by
  rw [unretireQueue]
  cases found : frontier.queue? key with
  | none => exact .ends _ _ upheld
  | some queue =>
      by_cases retired : queue.state = .retired
      · let funded := queue.setTotalBudget frontier.budgets.total
        have met : settled funded := upkeep.funds queue _ (upheld.meets key queue found) retired
        have stored : (frontier.store funded).Upheld settled := Upheld.store (upheld.away _) met
        have free : funded.state.allows .ready = true ∧ funded.state.allows .inactive = true := by
          simp [funded, WorkQueue.setTotalBudget, retired, QueueState.allows]
        simp only [if_pos retired]
        by_cases spent : funded.isOverTotal = true
        · rw [if_pos spent]
          exact .ends _ _ (stored.same rfl rfl rfl)
        · obtain ⟨last, placement, landed, kept⟩ :=
            (reenqueue_upheld (frontier.store funded) funded (stored.away _)
              (recalling funded met retired) free).place key
          simp only [funded] at landed spent
          rw [if_neg spent, landed]
          exact .ends _ _ kept
      · simp only [if_neg retired]
        exact .ends _ _ upheld

theorem unretire_all_upheld (recalling : Recalling settled) (frontier : Frontier) (count : Nat)
    (line : List String) (upheld : frontier.Upheld settled) : Ends settled (frontier.unretireAll count line) := by
  induction line generalizing frontier count with
  | nil => exact .ends _ _ upheld
  | cons key rest ih =>
      have recalled := unretire_queue_upheld upkeep recalling frontier key upheld
      rw [unretireAll]
      generalize frontier.unretireQueue key = result at recalled
      obtain ⟨after, back, kept⟩ := recalled
      cases back with
      | true => exact ih after _ kept
      | false => exact ih after _ kept

theorem unretire_upheld (recalling : Recalling settled) (frontier : Frontier)
    (upheld : frontier.Upheld settled) : Ends settled frontier.unretireQueues :=
  unretire_all_upheld upkeep recalling { frontier with retired := [] } 0 frontier.retired
    (upheld.same rfl rfl rfl)

theorem wake_queue_upheld (frontier : Frontier) (key : String)
    (upheld : frontier.Upheld settled) : Ends settled (frontier.wakeQueue key) := by
  rw [wakeQueue]
  cases found : frontier.queue? key with
  | none => exact .ends _ _ upheld
  | some queue =>
      by_cases asleep : queue.state = .snoozed
      · let woken := queue.setWakeTime none
        have met : loose woken := upkeep.wakes queue
          (upkeep.loosens queue (upheld.meets key queue found) (by simp [asleep]))
        have beside : (frontier.store woken).Upheld (away woken.key settled) :=
          (upheld.away _).stored woken rfl
        have free : woken.state.allows .ready = true ∧ woken.state.allows .inactive = true ∧
            woken.state.allows .empty = true := by
          simp [woken, WorkQueue.setWakeTime, asleep, QueueState.allows]
        simp only [if_pos asleep]
        by_cases dry : woken.isEmpty = true
        · rw [if_pos dry]
          exact .ends _ _
            (exhausted_upheld upkeep (frontier.store woken) woken beside met free.2.2)
        · obtain ⟨last, placement, landed, kept⟩ :=
            (reenqueue_upheld (frontier.store woken) woken beside
              (upkeep.enters woken met (by simpa [WorkQueue.isEmpty] using dry)
                ⟨free.1, free.2.1⟩) ⟨free.1, free.2.1⟩).place key
          simp only [woken] at landed dry
          rw [if_neg dry, landed]
          exact .ends _ _ kept
      · simp only [if_neg asleep]
        exact .ends _ _ upheld

theorem wake_due_upheld (entries : Snoozed) (frontier : Frontier)
    (upheld : frontier.Upheld settled) : Ends settled (frontier.wakeDue entries) := by
  induction entries generalizing frontier with
  | nil => exact .ends _ _ upheld
  | cons entry rest ih =>
      rw [wakeDue]
      by_cases due : entry.wake ≤ frontier.now
      · have woken := wake_queue_upheld upkeep { frontier with snoozed := rest } entry.key
          (upheld.same rfl rfl rfl)
        rw [if_pos due]
        generalize { frontier with snoozed := rest }.wakeQueue entry.key = result at woken
        obtain ⟨after, answer, kept⟩ := woken
        exact ih after kept
      · rw [if_neg due]
        exact .ends _ _ upheld

theorem upheld_permits :
    Permits fun before after => before.Upheld settled → after.Upheld settled where
  refl _ upheld := upheld
  trans _ _ _ one two upheld := two (one upheld)
  mark _ _ _ upheld := upheld.same rfl rfl rfl
  retarget _ _ _ _ _ upheld := upheld.same rfl rfl rfl
  notify _ upheld := upheld.same rfl rfl rfl
  call _ upheld := upheld.same rfl rfl rfl
  snooze _ _ upheld := upheld.same rfl rfl rfl
  close _ _ _ _ upheld := upheld.same rfl rfl rfl
  wake frontier upheld := by
    have woken := wake_due_upheld upkeep frontier.snoozed frontier upheld
    rw [wakeQueues]
    generalize frontier.wakeDue frontier.snoozed = result at woken
    obtain ⟨after, answer, kept⟩ := woken
    exact kept

end Upkeep

end Frontier

end PoliteCrawl
