import Mathlib.Data.List.Forall2
import PoliteCrawl.Proofs.Ledger

set_option autoImplicit false

namespace PoliteCrawl

namespace Deed

def retried? : Deed → Option CrawlUri
  | .retried uri => some uri
  | _ => none

def now? : Deed → Option CrawlUri
  | .retried uri => some uri.again
  | .finished _ => none
  | deed => some deed.uri

end Deed

def handedIn (life : List Deed) : Nat :=
  (life.filterMap Deed.handed?).length

def retriedIn (life : List Deed) : Nat :=
  (life.filterMap Deed.retried?).length

def nowOf (life : List Deed) : Option CrawlUri :=
  life.getLast?.bind Deed.now?

theorem handed_snoc (life : List Deed) (deed : Deed) :
    handedIn (life ++ [deed]) = handedIn life + handedIn [deed] := by
  simp [handedIn]

theorem retried_snoc (life : List Deed) (deed : Deed) :
    retriedIn (life ++ [deed]) = retriedIn life + retriedIn [deed] := by
  simp [retriedIn]

-- A life begins when a URI is accepted, and all that happens to the URI belongs to it, at whatever
-- site.
inductive Stage where
  | unborn
  | waiting (uri : CrawlUri)
  | moving (uri : CrawlUri)
  | flying (uri : CrawlUri)
  | gone

def Stage.uri? : Stage → Option CrawlUri
  | .waiting uri | .moving uri | .flying uri => some uri
  | .unborn | .gone => none

-- How often a URI may still be handed out.
def Stage.chances (limit : Nat) : Stage → Nat
  | .unborn => limit + 1
  | .waiting uri | .moving uri => limit - uri.retries + 1
  | .flying uri => limit - uri.retries
  | .gone => 0

inductive Stage.Step (limit : Nat) : Stage → Deed → Stage → Prop where
  | accepted (uri : CrawlUri) : Step limit .unborn (.accepted uri) (.waiting uri)
  | departed (uri : CrawlUri) : Step limit (.waiting uri) (.departed uri) (.moving uri)
  | arrived (uri : CrawlUri) (site : String) :
      Step limit (.moving uri) (.arrived { uri with siteKey := site })
        (.waiting { uri with siteKey := site })
  | handed (uri : CrawlUri) : Step limit (.waiting uri) (.handed uri) (.flying uri)
  | retried (uri : CrawlUri) (left : uri.retries < limit) :
      Step limit (.flying uri) (.retried uri) (.waiting uri.again)
  | finished (uri : CrawlUri) : Step limit (.flying uri) (.finished uri) .gone

inductive Lived (limit : Nat) : List Deed → Stage → Prop where
  | unborn : Lived limit [] .unborn
  | snoc {life : List Deed} {stage next : Stage} {deed : Deed} (lived : Lived limit life stage)
      (step : stage.Step limit deed next) : Lived limit (life ++ [deed]) next

-- A URI after some deeds: nothing has changed but its site and how often it was tried again.
structure Aged (limit : Nat) (origin : CrawlUri) (deeds : List Deed) (now : CrawlUri) : Prop where
  same : now = { origin with retries := origin.retries + retriedIn deeds, siteKey := now.siteKey }
  bounded : origin.retries ≤ limit → now.retries ≤ limit

structure Deed.Fits (limit : Nat) (origin : CrawlUri) (early : List Deed) (deed : Deed)
    (late : List Deed) : Prop where
  aged : Aged limit origin early deed.uri
  granted : ∀ uri, deed = .retried uri → uri.retries < limit
  last : ∀ uri, deed = .finished uri → late = []

section Step

variable {limit : Nat} {stage next : Stage} {deed : Deed}

theorem Stage.Step.chances (step : stage.Step limit deed next) :
    handedIn [deed] + next.chances limit ≤ stage.chances limit := by
  cases step with
  | accepted uri =>
      change 0 + (limit - uri.retries + 1) ≤ limit + 1
      omega
  | departed uri => exact Nat.le_of_eq (Nat.zero_add _)
  | arrived uri site => exact Nat.le_of_eq (Nat.zero_add _)
  | handed uri => exact Nat.le_of_eq (Nat.add_comm 1 _)
  | retried uri left =>
      change 0 + (limit - (uri.retries + 1) + 1) ≤ limit - uri.retries
      omega
  | finished uri => exact Nat.zero_le _

theorem Stage.Step.bears (step : stage.Step limit deed next) (born : stage ≠ .unborn) :
    ∃ now, stage.uri? = some now := by
  cases step with
  | accepted uri => exact absurd rfl born
  | departed uri | handed uri | retried uri _ | finished uri | arrived uri _ => exact ⟨uri, rfl⟩

theorem Stage.Step.follows (step : stage.Step limit deed next) : next.uri? = deed.now? := by
  cases step <;> rfl

theorem Stage.Step.ages {origin now : CrawlUri} {early : List Deed}
    (step : stage.Step limit deed next) (bears : stage.uri? = some now)
    (aged : Aged limit origin early now) :
    Aged limit origin early deed.uri ∧
      ∀ later, next.uri? = some later → Aged limit origin (early ++ [deed]) later := by
  have still (uri : CrawlUri) (here : Aged limit origin early uri)
      (none : retriedIn [deed] = 0) : Aged limit origin (early ++ [deed]) uri := by
    refine ⟨?_, here.bounded⟩
    rw [retried_snoc, none]
    exact here.same
  cases step with
  | accepted uri => cases bears
  | departed uri | handed uri =>
      cases bears
      refine ⟨aged, fun later same => ?_⟩
      cases same
      exact still _ aged rfl
  | arrived uri site =>
      cases bears
      have moved : Aged limit origin early { now with siteKey := site } := by
        refine ⟨?_, aged.bounded⟩
        rw [aged.same]
      refine ⟨moved, fun later same => ?_⟩
      cases same
      exact still _ moved rfl
  | retried uri left =>
      cases bears
      refine ⟨aged, fun later same => ?_⟩
      cases same
      refine ⟨?_, fun _ => left⟩
      rw [retried_snoc]
      exact congrArg CrawlUri.again aged.same
  | finished uri =>
      cases bears
      exact ⟨aged, fun later same => by cases same⟩

end Step

section Lived

variable {limit : Nat} {life : List Deed} {stage : Stage}

theorem Lived.handed (lived : Lived limit life stage) :
    handedIn life + stage.chances limit ≤ limit + 1 := by
  induction lived with
  | unborn => exact Nat.le_of_eq (Nat.zero_add _)
  | @snoc life stage next deed lived step ih =>
      have fewer := step.chances
      rw [handed_snoc]
      omega

theorem Lived.now (lived : Lived limit life stage) : nowOf life = stage.uri? := by
  cases lived with
  | unborn => rfl
  | @snoc life before _ deed lived step =>
      rw [nowOf, List.getLast?_concat]
      exact step.follows.symm

theorem Lived.new (lived : Lived limit [] stage) : stage = .unborn := by
  generalize nothing : ([] : List Deed) = life at lived
  cases lived with
  | unborn => rfl
  | @snoc life before _ deed lived step => simp at nothing

theorem Lived.begun (lived : Lived limit life stage) (some : life ≠ []) : stage ≠ .unborn := by
  cases lived with
  | unborn => exact absurd rfl some
  | @snoc life before _ deed lived step => cases step <;> simp

theorem Lived.fits (lived : Lived limit life stage) (some : life ≠ []) :
    ∃ origin rest, life = .accepted origin :: rest ∧
      (∀ now, stage.uri? = .some now → Aged limit origin life now) ∧
      ∀ early deed late, life = early ++ deed :: late → deed.Fits limit origin early late := by
  induction lived with
  | unborn => exact absurd rfl some
  | @snoc life stage next last lived step ih =>
      by_cases first : life = []
      · subst first
        obtain rfl := lived.new
        cases step with
        | accepted uri =>
            refine ⟨uri, [], rfl, fun now same => ?_, fun early deed late split => ?_⟩
            · cases same
              exact ⟨rfl, id⟩
            · cases early with
              | nil =>
                  cases split
                  exact ⟨⟨rfl, id⟩, fun _ same => (nomatch same), fun _ _ => rfl⟩
              | cons other more => simp at split
      · obtain ⟨origin, rest, begins, aged, fits⟩ := ih first
        obtain ⟨now, bears⟩ := step.bears (lived.begun first)
        obtain ⟨here, later⟩ := step.ages bears (aged now bears)
        refine ⟨origin, rest ++ [last], by rw [begins]; rfl, later, fun early deed late split => ?_⟩
        rcases List.eq_nil_or_concat late with rfl | ⟨others, final, rfl⟩
        · obtain ⟨rfl, same⟩ := List.append_inj' split rfl
          cases same
          refine ⟨here, fun uri same => ?_, fun _ _ => rfl⟩
          subst same
          cases step with
          | retried _ left => exact left
        · have whole : life ++ [last] = (early ++ deed :: others) ++ [final] := by simpa using split
          have cut := (List.append_inj' whole rfl).1
          obtain ⟨sooner, granted, ended⟩ := fits early deed others cut
          refine ⟨sooner, granted, fun uri same => ?_⟩
          -- Nothing follows on the end of a life.
          have done := lived.now
          rw [nowOf, cut, same, ended uri same, List.getLast?_concat, bears] at done
          cases done

end Lived

-- The lives of those who stand in each line, of one who moves from one line to another, and of those who
-- are done with.
structure Lives where
  line : String → List (List Deed)
  moving : Option (List Deed)
  past : List (List Deed)

namespace Lives

def nobody : Lives :=
  { line := fun _ => [], moving := none, past := [] }

def relined (lives : Lives) (key : String) (line : List (List Deed)) : Lives :=
  { lives with line := fun other => if other = key then line else lives.line other }

-- Who is accepted begins a life at the end of a line, and whatever does not join a line happens to the
-- first of it.
def take (lives : Lives) (entry : Entry) : Lives :=
  match entry.deed, lives.line entry.key with
  | .accepted _, line => lives.relined entry.key (line ++ [[entry.deed]])
  | .arrived _, line =>
      match lives.moving with
      | some life =>
          { lives.relined entry.key (line ++ [life ++ [entry.deed]]) with moving := none }
      | none => lives
  | .departed _, life :: rest =>
      { lives.relined entry.key rest with moving := some (life ++ [entry.deed]) }
  | .handed _, life :: rest => lives.relined entry.key ((life ++ [entry.deed]) :: rest)
  | .retried _, life :: rest => lives.relined entry.key ((life ++ [entry.deed]) :: rest)
  | .finished _, life :: rest =>
      { lives.relined entry.key rest with past := lives.past ++ [life ++ [entry.deed]] }
  | _, [] => lives

def follow (lives : Lives) (entries : List Entry) : Lives :=
  entries.foldl take lives

def Among (lives : Lives) (life : List Deed) : Prop :=
  (∃ key, life ∈ lives.line key) ∨ life ∈ lives.past

def deeds (lives : Lives) (keys : List String) : List Deed :=
  keys.flatMap (fun key => (lives.line key).flatten) ++ lives.moving.toList.flatten ++
    lives.past.flatten

theorem relined_elsewhere (lives : Lives) (key : String) (line : List (List Deed))
    (keys : List String) (elsewhere : key ∉ keys) :
    keys.flatMap (fun other => ((lives.relined key line).line other).flatten) =
      keys.flatMap fun other => (lives.line other).flatten := by
  refine List.flatMap_congr fun other listed => ?_
  have different : other ≠ key := fun same => elsewhere (same ▸ listed)
  simp [relined, different]

theorem relined_deeds (lives : Lives) (key : String) (line : List (List Deed)) (keys : List String)
    (once : keys.Nodup) (inside : key ∈ keys) :
    (keys.flatMap (fun other => ((lives.relined key line).line other).flatten) ++
      (lives.line key).flatten).Perm
        (keys.flatMap (fun other => (lives.line other).flatten) ++ line.flatten) := by
  induction keys with
  | nil => cases inside
  | cons first rest ih =>
      obtain ⟨fresh, others⟩ := List.nodup_cons.mp once
      refine List.perm_iff_count.mpr fun deed => ?_
      rcases List.mem_cons.mp inside with rfl | later
      · rw [List.flatMap_cons, relined_elsewhere lives key line rest fresh, List.flatMap_cons]
        simp only [relined, if_true, List.count_append]
        omega
      · have different : first ≠ key := fun same => fresh (same ▸ later)
        have behind := (ih others later).count_eq deed
        have here : (lives.relined key line).line first = lives.line first := by
          simp [relined, different]
        simp only [List.flatMap_cons, here, List.count_append] at behind ⊢
        omega

end Lives

def Lane.stages (lane : Lane) : List Stage :=
  match lane.items with
  | [] => []
  | head :: rest => (if lane.busy then .flying head else .waiting head) :: rest.map .waiting

inductive Deed.Passes (limit : Nat) : Option CrawlUri → Deed → Option CrawlUri → Prop where
  | accepted (uri : CrawlUri) : Passes limit none (.accepted uri) none
  | departed (uri : CrawlUri) : Passes limit none (.departed uri) (some uri)
  | arrived (uri : CrawlUri) (site : String) :
      Passes limit (some uri) (.arrived { uri with siteKey := site }) none
  | handed (uri : CrawlUri) : Passes limit none (.handed uri) none
  | retried (uri : CrawlUri) (left : uri.retries < limit) : Passes limit none (.retried uri) none
  | finished (uri : CrawlUri) : Passes limit none (.finished uri) none

inductive Flows (limit : Nat) : Option CrawlUri → List Entry → Option CrawlUri → Prop where
  | nothing (moving : Option CrawlUri) : Flows limit moving [] moving
  | cons (before between after : Option CrawlUri) (entry : Entry) (rest : List Entry)
      (passes : entry.deed.Passes limit before between) (flows : Flows limit between rest after) :
      Flows limit before (entry :: rest) after

theorem Flows.append {limit : Nat} {first second third : Option CrawlUri} {early late : List Entry}
    (one : Flows limit first early second) (two : Flows limit second late third) :
    Flows limit first (early ++ late) third := by
  induction one with
  | nothing moving => exact two
  | cons before between after entry rest passes flows ih =>
      exact .cons before between third entry (rest ++ late) passes (ih two)

-- Each life has come to the stage that its URI is in, and all that happened happened in one of them.
structure Traced (limit : Nat) (keys : List String) (lives : Lives) (lanes : String → Lane)
    (moving : Option CrawlUri) (deeds : List Deed) : Prop where
  stands : ∀ key, List.Forall₂ (Lived limit) (lives.line key) (lanes key).stages
  held : ∀ key, (lanes key).busy = true → (lanes key).items ≠ []
  between : Option.Rel (fun life uri => Lived limit life (.moving uri)) lives.moving moving
  past : List.Forall₂ (fun life uri => Lived limit life .gone ∧ life.getLast? = some (.finished uri))
    lives.past (deeds.filterMap Deed.finished?)
  gathered : (lives.deeds keys).Perm deeds

theorem stages_joined (lane : Lane) (uri : CrawlUri) (held : lane.busy = true → lane.items ≠ []) :
    Lane.stages { lane with items := lane.items ++ [uri] } = lane.stages ++ [.waiting uri] := by
  obtain ⟨items, busy⟩ := lane
  cases items with
  | nil =>
      have idle : busy = false := by simpa using held
      simp [Lane.stages, idle]
  | cons head rest => simp [Lane.stages]

theorem stages_idle (lane : Lane) (idle : lane.busy = false) :
    lane.stages = lane.items.map .waiting := by
  obtain ⟨items, busy⟩ := lane
  cases items <;> simp_all [Lane.stages]

theorem stages_waiting (lane : Lane) (head : CrawlUri) (rest : List CrawlUri) (idle : lane.busy = false)
    (line : lane.items = head :: rest) : lane.stages = .waiting head :: rest.map .waiting := by
  simp [Lane.stages, line, idle]

theorem stages_flying (lane : Lane) (head : CrawlUri) (rest : List CrawlUri) (busy : lane.busy = true)
    (line : lane.items = head :: rest) : lane.stages = .flying head :: rest.map .waiting := by
  simp [Lane.stages, line, busy]

section Traced

variable {limit : Nat} {keys : List String} {lives : Lives} {lanes : String → Lane}
  {moving later : Option CrawlUri} {deeds : List Deed} {key : String} {next : Lane}

theorem Traced.nobody (limit : Nat) (keys : List String) :
    Traced limit keys Lives.nobody (fun _ => Lane.empty) none [] := by
  refine ⟨fun _ => .nil, fun _ busy => (nomatch busy), .none, .nil, ?_⟩
  simp [Lives.deeds, Lives.nobody]

theorem Traced.relined {line past : List (List Deed)} {mover : Option (List Deed)} {deed : Deed}
    (traced : Traced limit keys lives lanes moving deeds) (once : keys.Nodup) (inside : key ∈ keys)
    (here : List.Forall₂ (Lived limit) line next.stages)
    (held : next.busy = true → next.items ≠ [])
    (between : Option.Rel (fun life uri => Lived limit life (.moving uri)) mover later)
    (ended : List.Forall₂ (fun life uri => Lived limit life .gone ∧
      life.getLast? = some (.finished uri)) past ((deeds ++ [deed]).filterMap Deed.finished?))
    (more : (line.flatten ++ mover.toList.flatten ++ past.flatten).Perm
      ((lives.line key).flatten ++ lives.moving.toList.flatten ++ lives.past.flatten ++ [deed])) :
    Traced limit keys { lives.relined key line with moving := mover, past }
      (fun other => if other = key then next else lanes other) later (deeds ++ [deed]) := by
  refine ⟨fun other => ?_, fun other => ?_, between, ended, List.perm_iff_count.mpr fun one => ?_⟩
  · by_cases same : other = key
    · simpa [Lives.relined, same] using here
    · simpa [Lives.relined, same] using traced.stands other
  · by_cases same : other = key
    · simpa [same] using held
    · simpa [same] using traced.held other
  · have lines := (lives.relined_deeds key line keys once inside).count_eq one
    have added := more.count_eq one
    have before := traced.gathered.count_eq one
    simp only [Lives.deeds, List.count_append] at lines added before ⊢
    change List.count one (keys.flatMap fun other => ((lives.relined key line).line other).flatten) +
      _ + _ = _
    omega

theorem Traced.unfinished {deed : Deed} (traced : Traced limit keys lives lanes moving deeds)
    (goes : deed.finished? = none) :
    List.Forall₂ (fun life uri => Lived limit life .gone ∧ life.getLast? = some (.finished uri))
      lives.past ((deeds ++ [deed]).filterMap Deed.finished?) := by
  rw [List.filterMap_append, List.filterMap_cons_none goes, List.filterMap_nil, List.append_nil]
  exact traced.past

theorem Traced.joins {life : List Deed} {uri : CrawlUri}
    (traced : Traced limit keys lives lanes moving deeds) (key : String)
    (lived : Lived limit life (.waiting uri)) :
    List.Forall₂ (Lived limit) (lives.line key ++ [life])
      (Lane.stages { lanes key with items := (lanes key).items ++ [uri] }) := by
  rw [stages_joined _ uri (traced.held key)]
  exact List.rel_append (traced.stands key) (.cons lived .nil)

theorem Traced.first {stage : Stage} {rest : List CrawlUri}
    (traced : Traced limit keys lives lanes moving deeds)
    (stages : (lanes key).stages = stage :: rest.map .waiting) :
    ∃ life others, lives.line key = life :: others ∧ Lived limit life stage ∧
      List.Forall₂ (Lived limit) others (rest.map .waiting) := by
  have stands := traced.stands key
  rw [stages] at stands
  obtain ⟨life, others, lived, behind, same⟩ := List.forall₂_cons_right_iff.mp stands
  exact ⟨life, others, same, lived, behind⟩

theorem Traced.still (traced : Traced limit keys lives lanes none deeds) : lives.moving = none := by
  have between := traced.between
  generalize lives.moving = mover at between
  cases between
  rfl

theorem Traced.moves {uri : CrawlUri} (traced : Traced limit keys lives lanes (some uri) deeds) :
    ∃ life, lives.moving = some life ∧ Lived limit life (.moving uri) := by
  have between := traced.between
  generalize lives.moving = mover at between
  obtain ⟨lived⟩ := between
  exact ⟨_, rfl, lived⟩

theorem Traced.step {entry : Entry} (traced : Traced limit keys lives lanes moving deeds)
    (once : keys.Nodup) (inside : entry.key ∈ keys)
    (passes : entry.deed.Passes limit moving later)
    (taken : (lanes entry.key).take entry.deed = some next) :
    Traced limit keys (lives.take entry)
      (fun other => if other = entry.key then next else lanes other) later
      (deeds ++ [entry.deed]) := by
  obtain ⟨key, deed⟩ := entry
  simp only at inside passes taken ⊢
  have grows (life : List Deed) (others : List (List Deed)) (behind : lives.line key = life :: others) :
      (((life ++ [deed]) :: others).flatten ++ lives.moving.toList.flatten ++ lives.past.flatten).Perm
        ((lives.line key).flatten ++ lives.moving.toList.flatten ++ lives.past.flatten ++ [deed]) := by
    rw [behind]
    refine List.perm_iff_count.mpr fun one => ?_
    simp only [List.flatten_cons, List.count_append]
    omega
  cases passes with
  | accepted uri =>
      cases taken
      have here := traced.joins key (Lived.unborn.snoc (.accepted uri))
      refine traced.relined once inside here (by simp) traced.between (traced.unfinished rfl) ?_
      refine List.perm_iff_count.mpr fun one => ?_
      simp only [List.flatten_append, List.flatten_singleton, List.count_append]
      omega
  | arrived uri site =>
      cases taken
      obtain ⟨life, moves, lived⟩ := traced.moves
      have here := traced.joins key (lived.snoc (.arrived uri site))
      simp only [Lives.take, moves]
      refine traced.relined once inside here (by simp) .none (traced.unfinished rfl) ?_
      refine List.perm_iff_count.mpr fun one => ?_
      simp only [Lives.relined, moves, List.flatten_append, List.flatten_singleton, List.count_append,
        Option.toList_some, Option.toList_none, List.flatten_nil, List.count_nil]
      omega
  | departed uri =>
      obtain ⟨line, idle, still⟩ := Lane.take_departed _ _ _ taken
      obtain ⟨life, others, behind, lived, waits⟩ := traced.first (stages_waiting _ _ _ idle line)
      rw [← stages_idle next still] at waits
      simp only [Lives.take, behind]
      refine traced.relined once inside waits (by simp [still])
        (.some (lived.snoc (.departed uri))) (traced.unfinished rfl) ?_
      refine List.perm_iff_count.mpr fun one => ?_
      simp only [Lives.relined, behind, traced.still, List.flatten_cons, List.count_append,
        Option.toList_some, Option.toList_none, List.flatten_nil, List.count_nil]
      omega
  | handed uri =>
      obtain ⟨head, idle, rfl⟩ := Lane.take_handed _ _ _ taken
      obtain ⟨rest, line⟩ := List.head?_eq_some_iff.mp head
      obtain ⟨life, others, behind, lived, waits⟩ := traced.first (stages_waiting _ _ _ idle line)
      have here := List.Forall₂.cons (lived.snoc (.handed uri)) waits
      rw [← stages_flying { lanes key with busy := true } uri rest rfl line] at here
      simp only [Lives.take, behind]
      exact traced.relined once inside here (by simp [line]) traced.between (traced.unfinished rfl)
        (grows life others behind)
  | retried uri left =>
      obtain ⟨line, busy, rfl⟩ := Lane.take_retried _ _ _ taken
      obtain ⟨life, others, behind, lived, waits⟩ := traced.first (stages_flying _ _ _ busy line)
      have here := List.Forall₂.cons (lived.snoc (.retried uri left)) waits
      simp only [Lives.take, behind]
      exact traced.relined once inside here (by simp) traced.between (traced.unfinished rfl)
        (grows life others behind)
  | finished uri =>
      obtain ⟨line, busy, still⟩ := Lane.take_finished _ _ _ taken
      obtain ⟨life, others, behind, lived, waits⟩ := traced.first (stages_flying _ _ _ busy line)
      rw [← stages_idle next still] at waits
      have last : List.Forall₂ (fun life uri => Lived limit life .gone ∧
          life.getLast? = some (.finished uri)) [life ++ [.finished uri]] [uri] :=
        .cons ⟨lived.snoc (.finished uri), List.getLast?_concat⟩ .nil
      simp only [Lives.take, behind]
      refine traced.relined once inside waits (by simp [still]) traced.between ?_ ?_
      · rw [List.filterMap_append]
        exact List.rel_append traced.past last
      · refine List.perm_iff_count.mpr fun one => ?_
        simp only [Lives.relined, behind, List.flatten_cons, List.flatten_append, List.flatten_nil,
          List.count_append, List.count_nil]
        omega

theorem Traced.run {entries : List Entry} {after : String → Lane}
    (traced : Traced limit keys lives lanes moving deeds) (once : keys.Nodup)
    (inside : ∀ entry ∈ entries, entry.key ∈ keys) (flows : Flows limit moving entries later)
    (replayed : ∀ key, (lanes key).replay? (deedsOn key entries) = some (after key)) :
    Traced limit keys (lives.follow entries) after later (deeds ++ entries.map (·.deed)) := by
  induction flows generalizing lives lanes deeds with
  | nothing moving =>
      have still : lanes = after := funext fun key => Option.some.inj (replayed key)
      rw [List.map_nil, List.append_nil, ← still]
      exact traced
  | cons before between last entry rest passes flows ih =>
      have here := replayed entry.key
      rw [deeds_cons, if_pos rfl] at here
      obtain ⟨next, taken, onward⟩ := Option.bind_eq_some_iff.mp here
      have stepped := traced.step once (inside entry List.mem_cons_self) passes taken
      have others := ih stepped (fun other later => inside other (List.mem_cons_of_mem _ later))
        fun key => ?_
      · rw [List.append_assoc] at others
        exact others
      · by_cases same : key = entry.key
        · rw [if_pos same, same]
          exact onward
        · have elsewhere := replayed key
          rw [deeds_cons, if_neg (Ne.symm same)] at elsewhere
          rw [if_neg same]
          exact elsewhere

theorem Traced.lined (traced : Traced limit keys lives lanes moving deeds) (key : String) :
    (∀ life ∈ lives.line key, ∃ stage, Lived limit life stage ∧ life ≠ []) ∧
      (lives.line key).map nowOf = (lanes key).items.map some := by
  have stands : List.Forall₂ (fun life uri => ∃ stage, Lived limit life stage ∧ stage.uri? = some uri)
      (lives.line key) (lanes key).items := by
    cases busy : (lanes key).busy with
    | false =>
        have idle := traced.stands key
        rw [stages_idle _ busy, List.forall₂_map_right_iff] at idle
        exact idle.imp fun life uri lived => ⟨_, lived, rfl⟩
    | true =>
        cases line : (lanes key).items with
        | nil => exact absurd line (traced.held key busy)
        | cons head rest =>
            obtain ⟨life, others, behind, lived, waits⟩ := traced.first (stages_flying _ _ _ busy line)
            rw [List.forall₂_map_right_iff] at waits
            rw [behind]
            exact .cons ⟨_, lived, rfl⟩ (waits.imp fun life uri lived => ⟨_, lived, rfl⟩)
  have both := stands.imp (S := fun life uri =>
    (∃ stage, Lived limit life stage ∧ life ≠ []) ∧ nowOf life = some uri)
    fun life uri ⟨stage, lived, bears⟩ => by
      refine ⟨⟨stage, lived, fun empty => ?_⟩, lived.now.trans bears⟩
      subst empty
      rw [lived.new] at bears
      cases bears
  obtain ⟨known, now⟩ := (List.forall₂_and_left _ _).mp both
  refine ⟨known, ?_⟩
  rw [← List.forall₂_eq_eq_eq, List.forall₂_map_left_iff, List.forall₂_map_right_iff]
  exact now

theorem Traced.ended (traced : Traced limit keys lives lanes moving deeds) :
    (∀ life ∈ lives.past, Lived limit life .gone) ∧
      lives.past.map List.getLast? =
        (deeds.filterMap Deed.finished?).map fun uri => some (.finished uri) := by
  obtain ⟨gone, last⟩ := (List.forall₂_and_left _ _).mp traced.past
  refine ⟨gone, ?_⟩
  rw [← List.forall₂_eq_eq_eq, List.forall₂_map_left_iff, List.forall₂_map_right_iff]
  exact last

theorem Traced.bounded (traced : Traced limit keys lives lanes moving deeds) {life : List Deed}
    (among : lives.Among life) :
    handedIn life ≤ limit + 1 ∧ ∃ origin rest, life = .accepted origin :: rest ∧
      (∀ now, nowOf life = some now → Aged limit origin life now) ∧
      ∀ early deed late, life = early ++ deed :: late → deed.Fits limit origin early late := by
  obtain ⟨stage, lived, some⟩ : ∃ stage, Lived limit life stage ∧ life ≠ [] := by
    rcases among with ⟨key, listed⟩ | done
    · exact (traced.lined key).1 life listed
    · refine ⟨_, traced.ended.1 life done, fun empty => ?_⟩
      have lived := traced.ended.1 life done
      rw [empty] at lived
      cases lived.new
  refine ⟨Nat.le_trans (Nat.le_add_right _ _) lived.handed, ?_⟩
  rw [lived.now]
  exact lived.fits some

end Traced

end PoliteCrawl
