import PoliteCrawl.Proofs.Frontier.Frame
import PoliteCrawl.Proofs.Frontier.Placement

set_option autoImplicit false

namespace PoliteCrawl.Frontier

theorem Registered.refile {frontier : Frontier} (registered : frontier.Registered) (tiers : Tiers)
    (keys : Filed.keys tiers.filed = Filed.keys frontier.tiers.filed)
    (ascending : Filed.Ascending tiers.filed) : { frontier with tiers }.Registered := by
  refine ⟨registered.once, ascending, fun key => ?_⟩
  have same : { frontier with tiers }.standing key = frontier.standing key := by
    simp [standing, Tiers.keys, keys]
  have settled := registered.settled key
  unfold Settled at settled ⊢
  rwa [same]

theorem Loose.refile {frontier : Frontier} {key : String} (loose : frontier.Loose key)
    (tiers : Tiers) (keys : Filed.keys tiers.filed = Filed.keys frontier.tiers.filed)
    (ascending : Filed.Ascending tiers.filed) : { frontier with tiers }.Loose key := by
  have same (other : String) :
      { frontier with tiers }.standing other = frontier.standing other := by
    simp [standing, Tiers.keys, keys]
  refine ⟨loose.once, ascending, loose.known, (same key).trans loose.nowhere, ?_⟩
  intro other different
  have settled := loose.others other different
  unfold Settled at settled ⊢
  rwa [same other]

def withFiled (frontier : Frontier) (filed : Filed) : Frontier :=
  { frontier with tiers := { frontier.tiers with filed } }

theorem take_inactive (frontier : Frontier) (tier : Nat) (key : String) (rest : List String)
    (filed : Filed) (tidy : (frontier.withFiled filed).Tidy)
    (line : Filed.keysAt filed tier = key :: rest) :
    key ∈ (frontier.withFiled filed).tiers.keys ∧
      TakenOff key (frontier.withFiled filed)
        (frontier.withFiled (Filed.setKeys tier rest filed)) := by
  have taken (other : String) := Filed.set_keys_count tier key other rest filed tidy.ascending line
  have gone := taken key
  simp only [List.count_singleton_self] at gone
  have listed : key ∈ (frontier.withFiled filed).tiers.keys :=
    List.count_pos_iff.mp (by simp only [withFiled, Tiers.keys]; omega)
  obtain ⟨_, _, _, _, here, _⟩ := tidy.inactive listed
  refine ⟨listed, ⟨fun _ _ => rfl, fun other different => ?_⟩, ?_⟩
  · have kept := taken other
    rw [List.count_singleton, if_neg (by simpa using Ne.symm different)] at kept
    simp [standing, withFiled, Tiers.keys, ← kept]
  · simp only [standing, withFiled, Tiers.keys, Standing.nowhere, Standing.mk.injEq] at here ⊢
    refine ⟨here.1, by omega, here.2.2⟩

theorem loosen_inactive (frontier : Frontier) (tier : Nat) (key : String) (rest : List String)
    (filed : Filed) (registered : (frontier.withFiled filed).Registered)
    (line : Filed.keysAt filed tier = key :: rest) :
    ∃ queue, frontier.queue? key = some queue ∧ queue.key = key ∧ queue.state = .inactive ∧
      queue.wakeTime = none ∧
      (frontier.withFiled (Filed.setKeys tier rest filed)).Loose key := by
  obtain ⟨listed, same, nowhere⟩ := take_inactive frontier tier key rest filed registered.tidy line
  obtain ⟨queue, found, named, state, _, awake⟩ := inactive_queue _ key registered listed
  exact ⟨queue, found, named, state, awake, registered.loosen found rfl
    (Filed.set_keys_ascending tier rest filed registered.ascending) same nowhere⟩

-- How far a scan has come: nothing moved, and the registers match.
structure Scanned (start state : Frontier) (filed : Filed) : Prop where
  registered : (state.withFiled filed).Registered
  routing : state.routing = start.routing
  posted : start.ledger.Posted [] state.ledger

-- A scan has made the queue of a key ready, which is not in its register yet.
structure Activated (start state : Frontier) (filed : Filed) (key : String) : Prop where
  loose : (state.withFiled filed).Loose key
  ready : ∃ queue, state.queue? key = some queue ∧ queue.state = .ready ∧ queue.wakeTime = none
  routing : state.routing = start.routing
  posted : start.ledger.Posted [] state.ledger

theorem inspect_calm (start state : Frontier) (tier : Nat) (key : String) (rest : List String)
    (filed : Filed) (calm : start.Calm) (scanned : Scanned start state filed)
    (line : Filed.keysAt filed tier = key :: rest) :
    ((state.inspect key tier).2 = some .activated ∧
      Activated start (state.inspect key tier).1 (Filed.setKeys tier rest filed) key) ∨
    ∃ current, (state.inspect key tier).2 = some (.misfiled current) ∧ current ≠ tier ∧
      Scanned start (state.inspect key tier).1
        (Filed.append current key (Filed.setKeys tier rest filed)) := by
  obtain ⟨queue, found, named, inactive, awake, loose⟩ :=
    loosen_inactive state tier key rest filed scanned.registered line
  subst named
  have once : state.keys.Nodup := scanned.registered.once
  have quiet : state.Calm := by
    unfold Calm
    rw [scanned.routing]
    exact calm
  let asked := queue.setPrecedence (state.routing.precedence queue.key)
  have posted (changed : WorkQueue) (key : changed.key = queue.key)
      (lane : changed.lane = queue.lane) :
      start.ledger.Posted [] (state.store changed).ledger :=
    scanned.posted.trans (store_same_posted state (state.store changed) queue changed once
      (key.symm ▸ found) rfl lane rfl)
  simp only [inspect, found, if_pos inactive, refresh_calm state queue quiet]
  by_cases right : asked.precedence = tier
  · let ready : WorkQueue := { asked with state := .ready }
    have allowed : asked.state.allows .ready = true := by
      simp [asked, WorkQueue.setPrecedence, inactive, QueueState.allows]
    have stored : (state.store asked).store ready = state.store ready :=
      store_store state asked ready rfl
    rw [if_pos right, asked.transition_allowed .ready allowed]
    refine .inl ⟨rfl, ?_⟩
    change Activated start ((state.store asked).store ready) _ _
    rw [stored]
    exact ⟨loose.store ready, ⟨ready, store_same state ready queue found, rfl, awake⟩,
      scanned.routing, posted ready rfl (by simp [ready, asked, WorkQueue.lane,
        WorkQueue.setPrecedence, inactive])⟩
  · rw [if_neg right]
    refine .inr ⟨asked.precedence, rfl, right, ?_, scanned.routing, posted asked rfl rfl⟩
    have landed := land_inactive _ asked loose asked.precedence inactive awake
    exact landed.refile _ rfl landed.ascending

theorem scan_tier_calm (start state : Frontier) (tier : Nat) (line : List String) (filed : Filed)
    (calm : start.Calm) (scanned : Scanned start state filed)
    (whole : Filed.keysAt filed tier = line) :
    match Tiers.scanTier inspect tier line state filed with
    | (after, left, .exhausted) => Scanned start after left
    | (after, left, .activated key) => Activated start after left key
    | (_, _, .failed) => False := by
  induction line generalizing state filed with
  | nil => exact scanned
  | cons key rest ih =>
      simp only [Tiers.scanTier]
      rcases inspect_calm start state tier key rest filed calm scanned whole with
        ⟨answer, activated⟩ | ⟨current, answer, elsewhere, onward⟩
      · cases looked : state.inspect key tier with
        | mk after found =>
            rw [looked] at answer activated
            simp only at answer activated
            subst answer
            exact activated
      · cases looked : state.inspect key tier with
        | mk after found =>
            rw [looked] at answer onward
            simp only at answer onward
            subst answer
            have present : tier ∈ Filed.tiers filed :=
              Filed.keys_at_present tier key filed (by simp [whole])
            exact ih after _ onward (by
              rw [Filed.append_keys_at current tier key _ elsewhere,
                Filed.set_keys_at tier rest filed present])

theorem scan_calm (start state : Frontier) (tiers : List Nat) (filed : Filed)
    (calm : start.Calm) (scanned : Scanned start state filed) :
    match Tiers.scan inspect tiers state filed with
    | (after, left, .exhausted) => Scanned start after left
    | (after, left, .activated key) => Activated start after left key
    | (_, _, .failed) => False := by
  induction tiers generalizing state filed with
  | nil => exact scanned
  | cons tier rest ih =>
      have first := scan_tier_calm start state tier _ filed calm scanned rfl
      simp only [Tiers.scan]
      cases result : Tiers.scanTier inspect tier (Filed.keysAt filed tier) state filed with
      | mk after others =>
          obtain ⟨left, ended⟩ := others
          rw [result] at first
          cases ended with
          | exhausted => exact ih after left first
          | activated key => exact first
          | failed => exact first

theorem Loose.publish {frontier : Frontier} {key : String} (loose : frontier.Loose key)
    (ready : ∃ queue, frontier.queue? key = some queue ∧ queue.state = .ready ∧
      queue.wakeTime = none) : (frontier.publish key).Registered := by
  obtain ⟨queue, found, state, awake⟩ := ready
  obtain rfl := queue_key frontier key queue found
  have published : (frontier.publish queue.key).queue? queue.key = some queue := found
  refine loose.moor ⟨⟨id, id, publish_elsewhere frontier queue.key⟩, ?_⟩
  simpa only [Settled, published] using publish_stands frontier queue loose.nowhere state awake

theorem activate_proceeds (frontier : Frontier) (calm : frontier.Calm)
    (registered : frontier.Registered) :
    ∃ found, frontier.activateInactive.2 = some found ∧
      frontier.Proceeds [] frontier.activateInactive.1 := by
  have start : Scanned frontier frontier frontier.tiers.filed :=
    ⟨registered, rfl, .refl frontier.ledger⟩
  have scanned := scan_calm frontier frontier (frontier.tiers.filed.map (·.1)) _ calm start
  simp only [activateInactive, Tiers.activateNext]
  cases result : Tiers.scan inspect (frontier.tiers.filed.map (·.1)) frontier
      frontier.tiers.filed with
  | mk after others =>
      obtain ⟨left, ended⟩ := others
      rw [result] at scanned
      have keys := Filed.occupied_keys left
      cases ended with
      | exhausted =>
          refine ⟨false, rfl, ?_, scanned.routing, scanned.posted⟩
          exact scanned.registered.refile _ keys
            (Filed.occupied_ascending left scanned.registered.ascending)
      | activated key =>
          refine ⟨true, rfl, ?_, scanned.routing, scanned.posted⟩
          exact (scanned.loose.refile _ keys
            (Filed.occupied_ascending left scanned.loose.ascending)).publish scanned.ready
      | failed => exact scanned.elim

-- A frontier in the middle of a recall: the keys that were not considered yet count as retired.
def recalling (frontier : Frontier) (rest : List String) : Frontier :=
  { frontier with retired := frontier.retired ++ rest }

theorem refresh_recalling (frontier : Frontier) (queue : WorkQueue) (rest : List String) :
    (frontier.recalling rest).refresh queue =
      ((frontier.refresh queue).1.recalling rest, (frontier.refresh queue).2) := by
  have same : (frontier.recalling rest).routing = frontier.routing := rfl
  simp only [refresh, same]
  cases frontier.routing.ask queue.key with
  | mk routing answer => cases answer <;> rfl

theorem deactivate_recalling (frontier : Frontier) (queue : WorkQueue) (tier : Nat)
    (rest : List String) :
    (frontier.recalling rest).deactivate queue tier =
      ((frontier.deactivate queue tier).1.recalling rest, (frontier.deactivate queue tier).2) := by
  unfold deactivate
  cases queue.transition .inactive <;> rfl

theorem reenqueue_recalling (frontier : Frontier) (queue : WorkQueue) (rest : List String) :
    (frontier.recalling rest).reenqueue queue =
      ((frontier.reenqueue queue).1.recalling rest, (frontier.reenqueue queue).2) := by
  unfold reenqueue
  rw [refresh_recalling]
  cases frontier.refresh queue with
  | mk after answer =>
      cases answer with
      | none => rfl
      | some asked =>
          have waits : (after.recalling rest).mustWait asked = after.mustWait asked := rfl
          simp only [waits, deactivate_recalling]
          cases after.mustWait asked with
          | true => rfl
          | false => cases asked.transition .ready <;> rfl

theorem place_recalling (frontier : Frontier) (key : String) (placement : Placement)
    (rest : List String) :
    (frontier.recalling rest).place key placement =
      (frontier.place key placement).recalling rest := by
  cases placement <;> rfl

theorem loosen_retired (frontier : Frontier) (key : String) (rest : List String)
    (registered : (frontier.recalling (key :: rest)).Registered) :
    ∃ queue, frontier.queue? key = some queue ∧ queue.key = key ∧ queue.state = .retired ∧
      queue.wakeTime = none ∧ (frontier.recalling rest).Loose key := by
  obtain ⟨queue, found, named, state, here, awake⟩ :=
    retired_queue _ key registered (by simp [recalling])
  refine ⟨queue, found, named, state, awake, registered.loosen found rfl registered.ascending
    ⟨fun _ _ => rfl, fun other different => ?_⟩ ?_⟩
  · simp [standing, recalling, Ne.symm different]
  · simp only [standing, recalling, Standing.nowhere, Standing.mk.injEq, List.count_append,
      List.count_cons_self] at here ⊢
    refine ⟨here.1, here.2.1, here.2.2.1, by omega, here.2.2.2.2⟩

theorem unretire_queue_calm (frontier : Frontier) (key : String) (rest : List String)
    (calm : frontier.Calm) (registered : (frontier.recalling (key :: rest)).Registered) :
    ∃ back, (frontier.unretireQueue key).2 = some back ∧
      (frontier.recalling (key :: rest)).Proceeds []
        ((frontier.unretireQueue key).1.recalling rest) := by
  obtain ⟨queue, found, named, state, awake, loose⟩ :=
    loosen_retired frontier key rest registered
  subst named
  have once : frontier.keys.Nodup := registered.once
  let funded := queue.setTotalBudget frontier.budgets.total
  have lane : funded.lane = queue.lane := rfl
  simp only [unretireQueue, found, if_pos state]
  split
  · refine ⟨false, rfl, ?_, rfl, store_same_posted _ _ _ funded once found rfl lane rfl⟩
    have absent : frontier.retired.count queue.key = 0 ∧ rest.count queue.key = 0 := by
      have nowhere := congrArg Standing.retired loose.nowhere
      simp only [standing, recalling, Standing.nowhere, List.count_append] at nowhere
      omega
    refine loose.moor (stored_moors (frontier.recalling rest) funded found
      ⟨id, id, fun _ _ => rfl, fun other different => ?_⟩ rfl ?_)
    · simp [standing, recalling, store, Retired.insert_other queue.key other _ different]
    · simp only [WorkQueue.StandsAt, funded, WorkQueue.setTotalBudget, state]
      have nowhere := loose.nowhere
      simp only [standing, recalling, store, Standing.nowhere, Standing.mk.injEq,
        List.count_append] at nowhere ⊢
      exact ⟨⟨nowhere.1, nowhere.2.1, nowhere.2.2.1,
        by rw [Retired.insert_fresh queue.key _ absent.1, absent.2], nowhere.2.2.2.2⟩, awake⟩
  · obtain ⟨placement, placed, lands⟩ := reenqueue_lands ((frontier.store funded).recalling rest)
      funded calm (loose.store funded) (by simp [funded, WorkQueue.setTotalBudget, state,
        QueueState.allows]) awake
    rw [reenqueue_recalling] at placed lands
    simp only [place_recalling] at placed lands
    cases result : (frontier.store funded).reenqueue funded with
    | mk after answer =>
        rw [result] at placed lands
        simp only at placed lands
        subst placed
        obtain ⟨earlier, later, differs⟩ := lands.differs
          (frontier.recalling (queue.key :: rest)) queue once found
          (.inr ⟨funded, rfl, rfl⟩)
        refine ⟨true, rfl, lands.registered, lands.routing,
          differs.posted (by simp) ?_ fun _ => lands.queued⟩
        rw [earlier, later]
        simp [Lane.replay?, WorkQueue.lane, state, funded, WorkQueue.setTotalBudget]

theorem unretire_all_calm (frontier : Frontier) (count : Nat) (line : List String)
    (calm : frontier.Calm) (registered : (frontier.recalling line).Registered) :
    ∃ total, (frontier.unretireAll count line).2 = some total ∧
      (frontier.recalling line).Proceeds [] (frontier.unretireAll count line).1 := by
  induction line generalizing frontier count with
  | nil =>
      refine ⟨count, rfl, ?_⟩
      have same : frontier.recalling [] = frontier := by simp [recalling]
      rw [same] at registered ⊢
      exact .still registered rfl rfl rfl
  | cons key rest ih =>
      obtain ⟨back, answer, proceeds⟩ := unretire_queue_calm frontier key rest calm registered
      simp only [unretireAll]
      cases result : frontier.unretireQueue key with
      | mk after found =>
          rw [result] at answer proceeds
          simp only at answer proceeds
          subst answer
          have quiet : (after.recalling rest).Calm := proceeds.calm calm
          cases back with
          | true =>
              obtain ⟨total, counted, more⟩ := ih after (count + 1) quiet proceeds.registered
              exact ⟨total, counted, proceeds.trans more⟩
          | false =>
              obtain ⟨total, counted, more⟩ := ih after count quiet proceeds.registered
              exact ⟨total, counted, proceeds.trans more⟩

theorem unretire_proceeds (frontier : Frontier) (calm : frontier.Calm)
    (registered : frontier.Registered) :
    ∃ total, frontier.unretireQueues.2 = some total ∧
      frontier.Proceeds [] frontier.unretireQueues.1 :=
  unretire_all_calm { frontier with retired := [] } 0 frontier.retired calm registered

end PoliteCrawl.Frontier
