import PoliteCrawl.Proofs.Frontier.Losses

set_option autoImplicit false

namespace PoliteCrawl.Strict

def move (queue : WorkQueue) (state : QueueState) : Option WorkQueue :=
  (queue.transition state).toOption

-- A frontier that stops where it would pass over a mistake of its own: an illegal move between
-- states, a key in a register that the state of its queue does not name, a second claim of a queue,
-- or a claimed queue without a first URI.
def look (frontier : Frontier) (key : String) (state : QueueState) : Option WorkQueue :=
  (frontier.queue? key).filter (·.state = state)

def deactivate (frontier : Frontier) (queue : WorkQueue) : Option Frontier :=
  (move queue .inactive).map fun queue => frontier.store queue.deactivate

def markExhausted (frontier : Frontier) (queue : WorkQueue) : Option Frontier :=
  (move queue.noteExhausted .empty).map frontier.store

def retire (frontier : Frontier) (queue : WorkQueue) : Option Frontier :=
  (move queue .retired).map fun queue =>
    let frontier := frontier.store queue.deactivate
    { frontier with retired := Retired.insert queue.key frontier.retired }

def reenqueue (frontier : Frontier) (queue : WorkQueue) : Option (Frontier × Option Placement) :=
  match frontier.refresh queue with
  | (frontier, none) => some (frontier, none)
  | (frontier, some queue) =>
      if frontier.mustWait queue then
        (deactivate frontier queue).map (·, some (.inactive queue.precedence))
      else (move queue .ready).map (frontier.store ·, some .ready)

theorem move_allowed (queue : WorkQueue) (state : QueueState)
    (allowed : queue.state.allows state = true) : move queue state = some { queue with state } := by
  rw [move, queue.transition_allowed state allowed]
  rfl

theorem look_found (frontier : Frontier) (key : String) (queue : WorkQueue) (state : QueueState)
    (found : frontier.queue? key = some queue) (same : queue.state = state) :
    look frontier key state = some queue := by
  simp [look, found, same]

theorem deactivate_agrees (frontier : Frontier) (queue : WorkQueue)
    (allowed : queue.state.allows .inactive = true) :
    deactivate frontier queue = some (frontier.store (Frontier.parked queue)) := by
  rw [deactivate, move_allowed queue .inactive allowed]
  rfl

theorem exhausted_agrees (frontier : Frontier) (queue : WorkQueue)
    (allowed : queue.state.allows .empty = true) :
    markExhausted frontier queue = some (frontier.markExhausted queue) := by
  have same : queue.noteExhausted.state.allows .empty = true := allowed
  simp only [markExhausted, Frontier.markExhausted, move_allowed _ .empty same,
    WorkQueue.transition_allowed _ .empty same, Option.map_some]

theorem retire_agrees (frontier : Frontier) (queue : WorkQueue)
    (allowed : queue.state.allows .retired = true) :
    retire frontier queue = some (frontier.retire queue) := by
  simp only [retire, Frontier.retire, move_allowed _ .retired allowed,
    WorkQueue.transition_allowed _ .retired allowed, Option.map_some]

theorem reenqueue_agrees (frontier : Frontier) (queue : WorkQueue)
    (free : queue.state.allows .ready = true ∧ queue.state.allows .inactive = true) :
    reenqueue frontier queue = some (frontier.reenqueue queue) := by
  obtain ⟨routing, _, fails | ⟨tier, asks⟩⟩ := Frontier.refresh_cases frontier queue
  · rw [reenqueue, Frontier.reenqueue, fails]
  · obtain ⟨asked, told⟩ : ∃ asked, asked = queue.setPrecedence tier := ⟨_, rfl⟩
    have state : asked.state = queue.state := by
      rw [told]
      rfl
    rw [reenqueue, Frontier.reenqueue, asks]
    rw [← state] at free
    simp only [← told]
    by_cases waits : ({ frontier with routing }.store asked).mustWait asked = true
    · simp only [if_pos waits, deactivate_agrees _ asked free.2, Option.map_some,
        Frontier.deactivate_allowed _ asked _ free.2]
    · simp only [if_neg waits, move_allowed asked .ready free.1, Option.map_some,
        asked.transition_allowed .ready free.1]

def receiveFirst (frontier : Frontier) (queue : WorkQueue) : Option (Frontier × Option Placement) :=
  if frontier.holdsBack then
    match frontier.refresh queue with
    | (frontier, none) => some (frontier, none)
    | (frontier, some queue) =>
        (deactivate frontier queue).map (·, some (.inactive queue.precedence))
  else reenqueue frontier queue

def send (frontier : Frontier) (uri : CrawlUri) : Option (Frontier × Option Unit) :=
  match frontier.ensureQueue uri.siteKey with
  | (frontier, none) => some (frontier, none)
  | (frontier, some queue) =>
      let queue := queue.enqueue uri
      let frontier := (frontier.store queue).countQueued
      if queue.state = .empty then
        (receiveFirst frontier queue).map fun
          | (frontier, none) => (frontier, none)
          | (frontier, some placement) => (frontier.place queue.key placement, some ())
      else some (frontier, some ())

def schedule (frontier : Frontier) (uri : CrawlUri) : Option (Frontier × Option Unit) :=
  send frontier { uri with siteKey := frontier.routing.siteKey uri.url }

def receiveAll (frontier : Frontier) : List CrawlUri → Option (Frontier × Option Unit)
  | [] => some (frontier, some ())
  | uri :: rest =>
      match schedule frontier uri with
      | none => none
      | some (frontier, none) => some (frontier, none)
      | some (frontier, some _) => receiveAll frontier rest

theorem receive_first_agrees (frontier : Frontier) (queue : WorkQueue)
    (empty : queue.state = .empty) :
    receiveFirst frontier queue = some (frontier.receiveFirst queue) := by
  by_cases held : frontier.holdsBack = true
  · rw [receiveFirst, Frontier.receiveFirst, if_pos held, if_pos held]
    obtain ⟨routing, _, fails | ⟨tier, asks⟩⟩ := Frontier.refresh_cases frontier queue
    · rw [fails]
    · have allowed : (queue.setPrecedence tier).state.allows .inactive = true := by
        simp [WorkQueue.setPrecedence, empty, QueueState.allows]
      simp only [asks, deactivate_agrees _ _ allowed, Option.map_some,
        Frontier.deactivate_allowed _ _ _ allowed]
  · rw [receiveFirst, Frontier.receiveFirst, if_neg held, if_neg held]
    exact reenqueue_agrees frontier queue (by simp [empty, QueueState.allows])

theorem send_agrees (frontier : Frontier) (uri : CrawlUri) :
    send frontier uri = some (frontier.send uri) := by
  rw [send, Frontier.send]
  cases frontier.ensureQueue uri.siteKey with
  | mk base answer =>
      cases answer with
      | none => rfl
      | some queue =>
          by_cases empty : (queue.enqueue uri).state = .empty
          · simp only [if_pos empty]
            exact congrArg (Option.map _) (receive_first_agrees _ _ empty)
          · simp only [if_neg empty]

theorem schedule_agrees (frontier : Frontier) (uri : CrawlUri) :
    schedule frontier uri = some (frontier.schedule uri) :=
  send_agrees frontier _

theorem receive_all_agrees (uris : List CrawlUri) (frontier : Frontier) :
    receiveAll frontier uris = some (frontier.receiveAll uris) := by
  induction uris generalizing frontier with
  | nil => rfl
  | cons uri rest ih =>
      rw [receiveAll, Frontier.receiveAll, schedule_agrees]
      cases frontier.schedule uri with
      | mk after answer =>
          cases answer with
          | none => rfl
          | some _ => exact ih after

-- A scan goes on with nothing once it has stopped.
def inspect : Option Frontier → String → Nat → Option Frontier × Option Inspection
  | none, _, _ => (none, some .stale)
  | some frontier, key, tier =>
      match look frontier key .inactive with
      | none => (none, some .stale)
      | some queue =>
          match frontier.refresh queue with
          | (frontier, none) => (some frontier, none)
          | (frontier, some queue) =>
              if queue.precedence = tier then
                ((move queue .ready).map frontier.store, some .activated)
              else (some frontier, some (.misfiled queue.precedence))

def activateInactive (frontier : Frontier) : Option (Frontier × Option Bool) :=
  match Tiers.activateNext inspect (some frontier) frontier.tiers with
  | (none, _) => none
  | (some frontier, tiers, .activated key) => some ({ frontier with tiers }.publish key, some true)
  | (some frontier, tiers, .exhausted) => some ({ frontier with tiers }, some false)
  | (some frontier, tiers, .failed) => some ({ frontier with tiers }, none)

def unretireQueue (frontier : Frontier) (key : String) : Option (Frontier × Option Bool) :=
  match look frontier key .retired with
  | none => none
  | some queue =>
      let queue := queue.setTotalBudget frontier.budgets.total
      let frontier := frontier.store queue
      if queue.isOverTotal then
        some ({ frontier with retired := Retired.insert key frontier.retired }, some false)
      else
        (reenqueue frontier queue).map fun
          | (frontier, none) => (frontier, none)
          | (frontier, some placement) => (frontier.place key placement, some true)

def unretireAll (frontier : Frontier) (count : Nat) : List String → Option (Frontier × Option Nat)
  | [] => some (frontier, some count)
  | key :: rest =>
      match unretireQueue frontier key with
      | none => none
      | some (frontier, none) => some (frontier, none)
      | some (frontier, some true) => unretireAll frontier (count + 1) rest
      | some (frontier, some false) => unretireAll frontier count rest

def unretireQueues (frontier : Frontier) : Option (Frontier × Option Nat) :=
  unretireAll { frontier with retired := [] } 0 frontier.retired

theorem inspect_agrees (frontier : Frontier) (key : String) (tier : Nat) (queue : WorkQueue)
    (found : frontier.queue? key = some queue) (inactive : queue.state = .inactive) :
    inspect (some frontier) key tier =
      (some (frontier.inspect key tier).1, (frontier.inspect key tier).2) := by
  simp only [inspect, look_found frontier key queue .inactive found inactive, Frontier.inspect, found,
    if_pos inactive]
  obtain ⟨routing, _, fails | ⟨told, asks⟩⟩ := Frontier.refresh_cases frontier queue
  · rw [fails]
  · have allowed : (queue.setPrecedence told).state.allows .ready = true := by
      simp [WorkQueue.setPrecedence, inactive, QueueState.allows]
    by_cases right : (queue.setPrecedence told).precedence = tier
    · simp only [asks, if_pos right, move_allowed _ .ready allowed, Option.map_some,
        WorkQueue.transition_allowed _ .ready allowed]
    · simp only [asks, if_neg right]

def going (result : Frontier × Filed × ScanEnd) : Option Frontier × Filed × ScanEnd :=
  (some result.1, result.2)

theorem scan_tier_agrees (start state : Frontier) (tier : Nat) (line : List String) (filed : Filed)
    (sifting : Frontier.Sifting start state filed) (whole : Filed.keysAt filed tier = line) :
    Tiers.scanTier inspect tier line (some state) filed =
      going (Tiers.scanTier Frontier.inspect tier line state filed) := by
  induction line generalizing state filed with
  | nil => rfl
  | cons key rest ih =>
      have tidy := sifting.orderly.tidy
      obtain ⟨listed, _, _⟩ := Frontier.take_inactive state tier key rest filed tidy whole
      obtain ⟨queue, found, _, inactive, _, _⟩ := tidy.inactive listed
      have sights := Frontier.inspect_sights start state tier key rest filed sifting whole
      rw [Tiers.scanTier, Tiers.scanTier, inspect_agrees state key tier queue found inactive]
      generalize state.inspect key tier = result at sights
      cases sights with
      | fails after _ _ => rfl
      | readies after _ => rfl
      | misfiled after current elsewhere onward =>
          have present : tier ∈ Filed.tiers filed :=
            Filed.keys_at_present tier key filed (by simp [whole])
          apply ih after _ onward
          rw [Filed.append_keys_at current tier key _ elsewhere,
            Filed.set_keys_at tier rest filed present]

theorem scan_agrees (start state : Frontier) (tiers : List Nat) (filed : Filed)
    (sifting : Frontier.Sifting start state filed) :
    Tiers.scan inspect tiers (some state) filed =
      going (Tiers.scan Frontier.inspect tiers state filed) := by
  induction tiers generalizing state filed with
  | nil => rfl
  | cons tier rest ih =>
      have sought := Frontier.scan_tier_sought start state tier _ filed sifting rfl
      rw [Tiers.scan, Tiers.scan, scan_tier_agrees start state tier _ filed sifting rfl]
      cases result : Tiers.scanTier Frontier.inspect tier (Filed.keysAt filed tier) state filed with
      | mk after others =>
          obtain ⟨left, ended⟩ := others
          rw [result] at sought
          cases ended with
          | exhausted => exact ih after left sought
          | activated key => rfl
          | failed => rfl

theorem activate_agrees (frontier : Frontier) (tidy : frontier.Tidy) :
    activateInactive frontier = some frontier.activateInactive := by
  have start : Frontier.Sifting frontier frontier frontier.tiers.filed :=
    ⟨.refl tidy, fun _ => rfl, fun _ => rfl⟩
  simp only [activateInactive, Frontier.activateInactive, Tiers.activateNext,
    scan_agrees frontier frontier _ _ start]
  cases Tiers.scan Frontier.inspect (frontier.tiers.filed.map (·.1)) frontier
      frontier.tiers.filed with
  | mk after others =>
      obtain ⟨left, ended⟩ := others
      cases ended <;> rfl

theorem unretire_queue_agrees (frontier : Frontier) (key : String)
    (adrift : frontier.Adrift key .retired) :
    unretireQueue frontier key = some (frontier.unretireQueue key) := by
  obtain ⟨_, queue, found, retired⟩ := adrift
  let funded := queue.setTotalBudget frontier.budgets.total
  have state : funded.state = .retired := retired
  simp only [unretireQueue, look_found frontier key queue .retired found retired,
    Frontier.unretireQueue, found, if_pos retired]
  by_cases spent : funded.isOverTotal = true
  · rw [if_pos spent, if_pos spent]
  · have agrees := reenqueue_agrees (frontier.store funded) funded
      (by simp [state, QueueState.allows])
    rw [if_neg spent, if_neg spent, agrees]
    rfl

theorem unretire_all_agrees (line : List String) (frontier : Frontier) (count : Nat)
    (draining : Frontier.Draining frontier line) :
    unretireAll frontier count line = some (frontier.unretireAll count line) := by
  induction line generalizing frontier count with
  | nil => rfl
  | cons key rest ih =>
      have adrift := draining.adrift key List.mem_cons_self
      have recalls := Frontier.unretire_queue_recalls frontier key draining.tidy adrift
      rw [unretireAll, Frontier.unretireAll, unretire_queue_agrees frontier key adrift]
      generalize frontier.unretireQueue key = result at recalls
      cases recalls with
      | fails after _ _ _ => rfl
      | moors after back moors =>
          have onward := draining.onward moors
          cases back with
          | true => exact ih after (count + 1) onward
          | false => exact ih after count onward

theorem unretire_agrees (frontier : Frontier) (tidy : frontier.Tidy) :
    unretireQueues frontier = some frontier.unretireQueues :=
  unretire_all_agrees frontier.retired { frontier with retired := [] } 0 tidy.drain.1

def applyBudgets (frontier : Frontier) (queue : WorkQueue) : Option (Frontier × Claim) :=
  let queue := Frontier.openSession frontier.budgets queue
  let frontier := frontier.store queue
  if queue.isOverSession then
    (deactivate (frontier.release queue.key) queue).map (·, .parked queue.precedence)
  else if queue.isOverTotal then (retire (frontier.release queue.key) queue).map (·, .skipped)
  else some (frontier, .claimed)

def claim (frontier : Frontier) (queue : WorkQueue) : Option (Frontier × Claim) :=
  if queue.state ≠ .ready then none
  else if queue.isEmpty then (markExhausted frontier queue).map (·, .skipped)
  else if frontier.claims.contains queue.key then none
  else
    match move queue .inProcess with
    | none => none
    | some queue =>
        let frontier := { frontier with claims := queue.key :: frontier.claims }
        applyBudgets (frontier.store queue) queue

def releaseEmpty (frontier : Frontier) (queue : WorkQueue) : Option Frontier :=
  markExhausted (frontier.release queue.key) queue

def dropHead (frontier : Frontier) (queue : WorkQueue) (head : CrawlUri) : Option Frontier :=
  match queue.dequeue head.url with
  | (_, none) => none
  | (queue, some _) =>
      let frontier := frontier.store queue
      if queue.isEmpty then releaseEmpty frontier queue else some frontier

def resolve (frontier : Frontier) (key : String) :
    List CrawlUri → Option (Frontier × Option (Option CrawlUri))
  | [] => none
  | head :: rest =>
      match look frontier key .inProcess with
      | none => none
      | some queue =>
          let siteKey := frontier.routing.siteKey head.url
          if queue.peek? ≠ some head then none
          else if siteKey = key then some (frontier.recordDispatch queue, some (some head))
          else
            match dropHead frontier queue head with
            | none => none
            | some dropped =>
                match send dropped.countReclassified.discountQueued { head with siteKey } with
                | none => none
                | some (frontier, none) => some (frontier, none)
                | some (frontier, some _) =>
                    if rest.isEmpty then some (frontier, some none) else resolve frontier key rest

def dispatchFrom (frontier : Frontier) (key : String) :
    Option (Frontier × Option (Option CrawlUri)) :=
  match look frontier key .ready with
  | none => none
  | some queue =>
      match claim frontier queue with
      | none => none
      | some (frontier, .claimed) => resolve frontier key queue.items
      | some (frontier, .skipped) => some (frontier, some none)
      | some (frontier, .parked tier) => some (frontier.place key (.inactive tier), some none)

theorem budgets_agree (frontier : Frontier) (queue : WorkQueue)
    (process : queue.state = .inProcess) :
    applyBudgets frontier queue = some (frontier.applyBudgets queue) := by
  obtain ⟨_, _, state, _⟩ := Frontier.open_session_shape frontier.budgets queue
  have allowed (next : QueueState) (moves : QueueState.inProcess.allows next = true) :
      (Frontier.openSession frontier.budgets queue).state.allows next = true := by
    rw [state, process]
    exact moves
  simp only [applyBudgets, Frontier.applyBudgets, deactivate_agrees _ _ (allowed .inactive rfl),
    retire_agrees _ _ (allowed .retired rfl), Frontier.deactivate_allowed _ _ _ (allowed .inactive rfl),
    Option.map_some]
  split
  · rfl
  · split <;> rfl

theorem claim_agrees (frontier : Frontier) (queue : WorkQueue) (ready : queue.state = .ready)
    (free : queue.key ∉ frontier.claims) :
    claim frontier queue = some (frontier.claim queue) := by
  have awaits : ¬ queue.state ≠ .ready := by simp [ready]
  have unclaimed : ¬ frontier.claims.contains queue.key = true := by simpa using free
  rw [claim, Frontier.claim, if_neg awaits, if_neg awaits]
  by_cases dry : queue.isEmpty = true
  · rw [if_pos dry, if_pos dry, exhausted_agrees frontier queue (by simp [ready, QueueState.allows])]
    rfl
  · have allowed : queue.state.allows .inProcess = true := by simp [ready, QueueState.allows]
    rw [if_neg dry, if_neg dry, if_neg unclaimed, if_neg unclaimed,
      move_allowed queue .inProcess allowed, queue.transition_allowed .inProcess allowed]
    exact budgets_agree _ _ rfl

theorem drop_agrees (frontier : Frontier) (queue : WorkQueue) (head : CrawlUri)
    (rest : List CrawlUri) (process : queue.state = .inProcess) (line : queue.items = head :: rest) :
    dropHead frontier queue head = some (frontier.dropHead queue head) := by
  have finds : queue.dequeue head.url = ({ queue with items := rest }, some head) := by
    simp [WorkQueue.dequeue, line]
  rw [dropHead, Frontier.dropHead, finds]
  by_cases last : WorkQueue.isEmpty { queue with items := rest } = true
  · simp only [if_pos last, releaseEmpty, Frontier.releaseEmpty]
    exact exhausted_agrees _ _ (by simp [process, QueueState.allows])
  · simp only [if_neg last]

theorem resolve_away (frontier : Frontier) (queue : WorkQueue) (head : CrawlUri)
    (rest : List CrawlUri) (found : frontier.queue? queue.key = some queue)
    (process : queue.state = .inProcess) (line : queue.items = head :: rest)
    (away : frontier.routing.siteKey head.url ≠ queue.key) :
    resolve frontier queue.key (head :: rest) =
      match (frontier.dropped queue head).send (frontier.relocated head) with
      | (after, none) => some (after, none)
      | (after, some _) =>
          if rest.isEmpty then some (after, some none) else resolve after queue.key rest := by
  have peeks : queue.peek? = some head := by simp [WorkQueue.peek?, line]
  obtain ⟨result, sent⟩ :
      ∃ result, (frontier.dropped queue head).send (frontier.relocated head) = result := ⟨_, rfl⟩
  rw [sent]
  simp only [Frontier.dropped, Frontier.relocated] at sent
  simp only [resolve, look_found frontier _ queue .inProcess found process, peeks, if_neg away,
    drop_agrees frontier queue head rest process line, send_agrees, sent, ne_eq, not_true_eq_false,
    if_false]
  obtain ⟨after, answer⟩ := result
  cases answer <;> rfl

theorem resolve_agrees (items : List CrawlUri) (frontier : Frontier) (queue : WorkQueue)
    (found : frontier.queue? queue.key = some queue) (process : queue.state = .inProcess)
    (listed : queue.key ∈ frontier.claims) (line : queue.items = items) (some : items ≠ []) :
    resolve frontier queue.key items = Option.some (frontier.resolve queue.key items) := by
  induction items generalizing frontier queue with
  | nil => exact absurd rfl some
  | cons head rest ih =>
      by_cases home : frontier.routing.siteKey head.url = queue.key
      · have peeks : queue.peek? = Option.some head := by simp [WorkQueue.peek?, line]
        rw [Frontier.resolve_home frontier queue head rest found home]
        simp [resolve, look_found frontier _ queue .inProcess found process, peeks, home]
      · have kept := Frontier.send_beside (frontier.dropped queue head) (frontier.relocated head)
          queue.key (Ne.symm home)
        have claims := (Frontier.send_placed Frontier.stays_dozing.toPlacing
          (frontier.dropped queue head) (frontier.relocated head)).claims
        rw [resolve_away frontier queue head rest found process line home,
          Frontier.resolve_away frontier queue head rest found home]
        cases result : (frontier.dropped queue head).send (frontier.relocated head) with
        | mk after answer =>
            rw [result] at kept claims
            cases answer with
            | none => rfl
            | some _ =>
                by_cases last : rest = []
                · simp [last]
                · obtain ⟨present, still⟩ :=
                    Frontier.dropped_claimed frontier queue head rest found listed line last
                  simp only [List.isEmpty_iff, if_neg last]
                  exact ih after { queue with items := rest } (kept.trans present) process
                    (claims ▸ still) rfl last

theorem dispatch_agrees (frontier : Frontier) (key : String) (line : List String)
    (tidy : frontier.Tidy) (first : frontier.ready = key :: line) :
    dispatchFrom { frontier with ready := line } key =
      some ({ frontier with ready := line }.dispatchFrom key) := by
  have listed : key ∈ frontier.ready := by simp [first]
  obtain ⟨queue, found, named, ready, _, _⟩ := tidy.ready listed
  obtain ⟨_, nowhere⟩ := Frontier.take_ready frontier key line tidy first
  subst named
  obtain ⟨base, rests⟩ : ∃ base, base = { frontier with ready := line } := ⟨_, rfl⟩
  have present : base.queue? queue.key = some queue := rests ▸ found
  have free : queue.key ∉ base.claims := by
    have counted := congrArg Standing.claimed nowhere
    simpa [rests, Frontier.standing, Standing.nowhere, List.count_eq_zero] using counted
  have claiming := Frontier.claim_cases base queue ready free
  rw [← rests]
  simp only [dispatchFrom, Frontier.dispatchFrom, present,
    look_found base queue.key queue .ready present ready, claim_agrees base queue ready free]
  cases result : base.claim queue with
  | mk after ended =>
      rw [result] at claiming
      cases ended with
      | skipped => rfl
      | parked tier => rfl
      | claimed =>
          cases claiming with
          | claimed some =>
              let opened := base.opened queue
              obtain ⟨key, items, process, _⟩ := base.opened_shape queue
              have stored := Frontier.store_same base opened queue (key.symm ▸ present)
              let held := (base.store opened).hold opened.key
              have agrees := resolve_agrees queue.items held opened stored process
                (by simp [held, Frontier.hold]) items some
              rw [key] at agrees
              exact agrees

def doze (frontier : Frontier) (queue : WorkQueue) (pause : Time.Span) : Option Frontier :=
  (move queue .snoozed).map fun queue =>
    let wake := frontier.now + pause
    (frontier.store (queue.setWakeTime (some wake))).snooze queue.key wake

def settle (frontier : Frontier) (queue : WorkQueue) (pause : Time.Span) :
    Option (Frontier × Option Placement) :=
  if queue.isOverTotal then (retire frontier queue).map (·, some .stay)
  else if pause ≠ 0 then (doze frontier queue pause).map (·, some .stay)
  else if queue.isEmpty then (markExhausted frontier queue).map (·, some .stay)
  else reenqueue frontier queue

def completeRetry (frontier : Frontier) (queue : WorkQueue) (pause : Time.Span) :
    Option (Frontier × Completion) :=
  let kept := queue.retryHead
  let frontier := (frontier.countRetry.store kept).release queue.key
  (settle frontier kept (max pause frontier.config.retryDelay)).map fun
    | (frontier, none) => (frontier, .failed)
    | (frontier, some placement) => ((frontier.place queue.key placement).noteDrained, .done)

def completeFinal (frontier : Frontier) (queue : WorkQueue) (head : CrawlUri) (outcome : Outcome)
    (pause : Time.Span) : Option (Frontier × Completion) :=
  if (queue.dequeue head.url).2 = none then none
  else
    let (frontier, queue) := frontier.finishHead queue head outcome
    (settle (frontier.release queue.key) queue pause).map fun
      | (frontier, none) => (frontier, .failed)
      | (frontier, some placement) =>
          let placed := frontier.place queue.key placement
          ({ placed with gateway := placed.gateway.noteFinished head outcome }.noteDrained, .done)

-- What is refused is the mistake of the one who reports.
def complete (frontier : Frontier) (uri : CrawlUri) (outcome : Outcome) :
    Option (Frontier × Completion) :=
  match frontier.queue? uri.siteKey with
  | none => some (frontier, .refused (.missingQueue uri.siteKey))
  | some queue =>
      if queue.state ≠ .inProcess || !frontier.claims.contains uri.siteKey then
        some (frontier, .refused (.notInProcess uri.siteKey))
      else
        match queue.items with
        | [] => none
        | head :: _ =>
            if head.url ≠ uri.url then
              some (frontier, .refused (.unknownItem uri.text uri.siteKey))
            else if frontier.grantsRetry head outcome then
              completeRetry frontier queue (frontier.pauseOwed outcome)
            else completeFinal frontier queue head outcome (frontier.pauseOwed outcome)

theorem settle_agrees (frontier : Frontier) (queue : WorkQueue) (pause : Time.Span)
    (process : queue.state = .inProcess) :
    settle frontier queue pause = some (frontier.settle queue pause) := by
  have allowed (next : QueueState) (moves : QueueState.inProcess.allows next = true) :
      queue.state.allows next = true := by
    rw [process]
    exact moves
  have dozes : doze frontier queue pause = some (frontier.rest queue pause) := by
    simp only [doze, Frontier.rest, move_allowed _ .snoozed (allowed .snoozed rfl),
      WorkQueue.transition_allowed _ .snoozed (allowed .snoozed rfl), Option.map_some]
  simp only [settle, Frontier.settle, retire_agrees _ _ (allowed .retired rfl), dozes,
    exhausted_agrees _ _ (allowed .empty rfl),
    reenqueue_agrees _ _ ⟨allowed .ready rfl, allowed .inactive rfl⟩, Option.map_some]
  split
  · rfl
  · split
    · rfl
    · split <;> rfl

theorem retry_agrees (frontier : Frontier) (queue : WorkQueue) (pause : Time.Span)
    (process : queue.state = .inProcess) :
    completeRetry frontier queue pause = some (frontier.completeRetry queue pause) := by
  have kept : queue.retryHead.state = .inProcess := by
    rw [WorkQueue.retryHead]
    split <;> exact process
  exact congrArg (Option.map _) (settle_agrees _ _ _ kept)

theorem final_agrees (frontier : Frontier) (queue : WorkQueue) (head : CrawlUri)
    (rest : List CrawlUri) (outcome : Outcome) (pause : Time.Span)
    (process : queue.state = .inProcess) (line : queue.items = head :: rest) :
    completeFinal frontier queue head outcome pause =
      some (frontier.completeFinal queue head outcome pause) := by
  have finds : (queue.dequeue head.url).2 ≠ none := by simp [WorkQueue.dequeue, line]
  have paid : (frontier.finishHead queue head outcome).2.state = .inProcess := process
  rw [completeFinal, if_neg finds]
  exact congrArg (Option.map _) (settle_agrees _ _ _ paid)

theorem complete_agrees (frontier : Frontier) (uri : CrawlUri) (outcome : Outcome)
    (tidy : frontier.Tidy) : complete frontier uri outcome = some (frontier.complete uri outcome) := by
  rw [complete, Frontier.complete]
  cases found : frontier.queue? uri.siteKey with
  | none => rfl
  | some queue =>
      simp only
      by_cases idle : (queue.state ≠ .inProcess || !frontier.claims.contains uri.siteKey) = true
      · rw [if_pos idle, if_pos idle]
      · have listed : uri.siteKey ∈ frontier.claims := by
          have busy : queue.state = .inProcess ∧ uri.siteKey ∈ frontier.claims := by simpa using idle
          exact busy.2
        obtain ⟨other, present, _, process, _, some, _⟩ := tidy.claimed listed
        cases found.symm.trans present
        rw [if_neg idle, if_neg idle]
        cases line : queue.items with
        | nil => exact absurd line some
        | cons head rest =>
            simp only [retry_agrees frontier queue _ process,
              final_agrees frontier queue head rest outcome _ process line]
            split
            · rfl
            · split <;> rfl

def wakeQueue (frontier : Frontier) (key : String) : Option (Frontier × Option Unit) :=
  match look frontier key .snoozed with
  | none => none
  | some queue =>
      let queue := queue.setWakeTime none
      let frontier := frontier.store queue
      if queue.isEmpty then (markExhausted frontier queue).map (·, some ())
      else
        (reenqueue frontier queue).map fun
          | (frontier, none) => (frontier, none)
          | (frontier, some placement) => (frontier.place key placement, some ())

def resnooze (frontier : Frontier) (key : String) : Option Frontier :=
  (look frontier key .snoozed).map fun queue =>
    (frontier.store (queue.setWakeTime (some frontier.now))).snooze key frontier.now

def wakeDue (frontier : Frontier) : Snoozed → Option (Frontier × Option Unit)
  | [] => some (frontier, some ())
  | entry :: rest =>
      if entry.wake ≤ frontier.now then
        match wakeQueue { frontier with snoozed := rest } entry.key with
        | none => none
        | some (frontier, none) => (resnooze frontier entry.key).map (·, none)
        | some (frontier, some _) => wakeDue frontier rest
      else some (frontier, some ())

def wakeQueues (frontier : Frontier) : Option (Frontier × Option Time.Span) :=
  (wakeDue frontier frontier.snoozed).map fun
    | (frontier, none) => (frontier, none)
    | (frontier, some _) => (frontier, some frontier.untilNextWake)

theorem wake_queue_agrees (frontier : Frontier) (entry : SnoozeEntry) (rest : Snoozed)
    (tidy : frontier.Tidy) (first : frontier.snoozed = entry :: rest) :
    let base := { frontier with snoozed := rest }
    wakeQueue base entry.key = some (base.wakeQueue entry.key) ∧
      ∀ after, base.wakeQueue entry.key = (after, none) →
        resnooze after entry.key = some (after.resnooze entry.key) := by
  intro base
  have listed : entry ∈ frontier.snoozed := by simp [first]
  obtain ⟨queue, found, named, asleep, _, _⟩ := tidy.snoozed listed
  let woken := queue.setWakeTime none
  have present : base.queue? entry.key = some queue := found
  have state : woken.state = .snoozed := asleep
  have free : woken.state.allows .ready = true ∧ woken.state.allows .inactive = true := by
    simp [state, QueueState.allows]
  have requeued := Frontier.reenqueue_cases (base.store woken) woken free
  simp only [wakeQueue, look_found base entry.key queue .snoozed present asleep, Frontier.wakeQueue,
    present, if_pos asleep]
  by_cases dry : woken.isEmpty = true
  · have exhausted := exhausted_agrees (base.store woken) woken (by simp [state, QueueState.allows])
    refine ⟨?_, fun after fails => ?_⟩
    · rw [if_pos dry, if_pos dry, exhausted]
      rfl
    · rw [if_pos dry] at fails
      cases fails
  · refine ⟨?_, fun after fails => ?_⟩
    · rw [if_neg dry, if_neg dry, reenqueue_agrees (base.store woken) woken free]
      rfl
    · rw [if_neg dry] at fails
      generalize (base.store woken).reenqueue woken = result at requeued fails
      cases requeued with
      | parks _ _ _ _ => cases fails
      | readies _ _ _ _ => cases fails
      | fails routing _ =>
          cases fails
          have stored : { base.store woken with routing }.queue? entry.key = some woken := by
            rw [← named]
            exact Frontier.store_same base woken queue (named.symm ▸ found)
          simp only [resnooze, look_found _ entry.key woken .snoozed stored state, Frontier.resnooze,
            stored, if_pos state, Option.map_some]

theorem wake_due_agrees (entries : Snoozed) (frontier : Frontier) (tidy : frontier.Tidy)
    (whole : frontier.snoozed = entries) :
    wakeDue frontier entries = some (frontier.wakeDue entries) := by
  induction entries generalizing frontier with
  | nil => rfl
  | cons entry rest ih =>
      rw [wakeDue, Frontier.wakeDue]
      by_cases due : entry.wake ≤ frontier.now
      · obtain ⟨wakes, sleeps⟩ := wake_queue_agrees frontier entry rest tidy whole
        have woken := Frontier.wake_queue_orderly frontier entry rest tidy whole
        have others := Frontier.wake_queue_placed Frontier.snoozed_placing
          { frontier with snoozed := rest } entry.key
        rw [if_pos due, if_pos due, wakes]
        cases result : { frontier with snoozed := rest }.wakeQueue entry.key with
        | mk after answer =>
            rw [result] at woken others sleeps
            cases answer with
            | none =>
                simp only [sleeps after rfl]
                rfl
            | some _ => exact ih after woken.tidy others
      · rw [if_neg due, if_neg due]

theorem wake_agrees (frontier : Frontier) (tidy : frontier.Tidy) :
    wakeQueues frontier = some frontier.wakeQueues := by
  rw [wakeQueues, Frontier.wakeQueues, wake_due_agrees frontier.snoozed frontier tidy rfl]
  rfl

end PoliteCrawl.Strict
