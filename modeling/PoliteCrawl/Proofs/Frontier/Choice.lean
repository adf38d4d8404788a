import PoliteCrawl.Proofs.Frontier.Pulls
import PoliteCrawl.Proofs.Register.Walk

set_option autoImplicit false

namespace PoliteCrawl

namespace Tiers

-- A look that notes a key and the tier it was taken from, and tells where the key belongs.
def watch (current : String → Option Nat) (looked : List (String × Nat)) (key : String)
    (tier : Nat) : List (String × Nat) × Option Inspection :=
  (looked ++ [(key, tier)], some (verdict (current key) tier))

theorem watch_honest (current : String → Option Nat) :
    Honest (watch current) current fun _ => True where
  answers _ _ _ _ _ told := (Option.some.inj told).symm
  keeps _ _ _ _ _ := trivial

theorem watch_all (current : String → Option Nat) (before looked : List (String × Nat)) :
    lookAll (watch current) before looked = before ++ looked := by
  induction looked generalizing before with
  | nil => exact (List.append_nil before).symm
  | cons look rest ih =>
      refine (ih (before ++ [look])).trans ?_
      rw [List.append_assoc]
      rfl

def remaining (left : Filed) : Tiers :=
  { filed := Filed.occupied left, watermark := lowest (Filed.occupied left) }

section Honest

variable {σ : Type} {inspect : σ → String → Nat → σ × Option Inspection}
  {current : String → Option Nat} {sane : σ → Prop} (honest : Honest inspect current sane)
  (state : σ) (tiers : Tiers) (starts : sane state) (ascending : Filed.Ascending tiers.filed)

include honest starts ascending

theorem activate_next_walks (fine : (activateNext inspect state tiers).2.2 ≠ .failed) :
    ∃ looked left ended, Walk current (Filed.tiers tiers.filed) tiers.filed looked left ended ∧
      Filed.Ascending left ∧
        activateNext inspect state tiers =
          (lookAll inspect state looked, remaining left, ended) := by
  have kept := scan_ascending inspect (Filed.tiers tiers.filed) state tiers.filed ascending
  have walks := scan_walks honest (Filed.tiers tiers.filed) state tiers.filed starts ascending
  rw [Filed.tiers] at walks kept
  rw [activateNext] at fine ⊢
  cases result : scan inspect (tiers.filed.map (·.1)) state tiers.filed with
  | mk after others =>
      obtain ⟨left, ended⟩ := others
      rw [result] at walks kept fine
      cases ended with
      | failed => exact absurd rfl fine
      | exhausted =>
          obtain ⟨looked, same, walk⟩ := walks (by simp)
          exact ⟨looked, left, .exhausted, walk, kept, by rw [← same]; rfl⟩
      | activated key =>
          obtain ⟨looked, same, walk⟩ := walks (by simp)
          exact ⟨looked, left, .activated key, walk, kept, by rw [← same]; rfl⟩

theorem activate_next_exhausted (fine : (activateNext inspect state tiers).2.2 ≠ .failed) :
    (activateNext inspect state tiers).2.2 = .exhausted ↔
      ∀ key tier, ¬ Due current tiers.filed (Filed.tiers tiers.filed) key tier := by
  have finds := scan_finds honest (Filed.tiers tiers.filed) state tiers.filed starts ascending
    ((Filed.ascending_iff tiers.filed).mp ascending)
  rw [Filed.tiers] at finds ⊢
  rw [activateNext] at fine ⊢
  cases result : scan inspect (tiers.filed.map (·.1)) state tiers.filed with
  | mk after others =>
      obtain ⟨left, ended⟩ := others
      rw [result] at finds fine
      cases ended with
      | failed => exact absurd rfl fine
      | exhausted => exact iff_of_true rfl finds.2
      | activated key =>
          obtain ⟨tier, due, _⟩ := finds
          exact iff_of_false (by simp) fun none => none key tier due

end Honest

theorem none_due_iff (current : String → Option Nat) (filed : Filed) :
    (∀ key tier, ¬ Due current filed (Filed.tiers filed) key tier) ↔
      ∀ tier, ∀ key ∈ Filed.keysAt filed tier, current key = none ∨
        ∃ place, current key = some place ∧ (place < tier ∨ place ∉ Filed.tiers filed) := by
  constructor
  · intro none tier key member
    cases belongs : current key with
    | none => exact .inl rfl
    | some place =>
        refine .inr ⟨place, rfl, ?_⟩
        by_cases below : place < tier
        · exact .inl below
        · refine .inr fun offered => none key place ⟨belongs, offered, tier, ?_, ?_, member⟩
          · exact Filed.keys_at_present tier key filed member
          · exact Nat.not_lt.mp below
  · intro hopeless key place due
    obtain ⟨tier, _, above, member⟩ := due.listed
    rcases hopeless tier key member with gone | ⟨other, belongs, missed⟩
    · cases gone.symm.trans due.belongs
    · cases belongs.symm.trans due.belongs
      rcases missed with below | absent
      · omega
      · exact absent due.offered

theorem activate_next_watched (current : String → Option Nat) (tiers : Tiers) :
    (activateNext (watch current) [] tiers).2.2 ≠ .failed := by
  have keeps := (scan_keeps (watch current) (fun _ => True) (fun _ _ _ _ => trivial)
    (tiers.filed.map (·.1)) [] tiers.filed trivial).2 fun _ _ _ _ => by simp [watch]
  rw [activateNext]
  cases result : scan (watch current) (tiers.filed.map (·.1)) [] tiers.filed with
  | mk looked others =>
      obtain ⟨left, ended⟩ := others
      rw [result] at keeps
      cases ended with
      | failed => exact absurd rfl keeps
      | exhausted => simp
      | activated key => simp

theorem activate_next_same {σ : Type} {inspect : σ → String → Nat → σ × Option Inspection}
    {current : String → Option Nat} {sane : σ → Prop} (honest : Honest inspect current sane)
    (state : σ) (tiers : Tiers) (starts : sane state) (ascending : Filed.Ascending tiers.filed)
    (fine : (activateNext inspect state tiers).2.2 ≠ .failed) :
    (activateNext inspect state tiers).2 = (activateNext (watch current) [] tiers).2 := by
  obtain ⟨_, left, ended, walk, _, ends⟩ :=
    activate_next_walks honest state tiers starts ascending fine
  obtain ⟨_, last, other, watched, _, same⟩ := activate_next_walks (watch_honest current) [] tiers
    trivial ascending (activate_next_watched current tiers)
  obtain ⟨_, rfl, rfl⟩ := walk.unique watched
  rw [ends, same]

theorem occupied_keys_at (filed : Filed) (ascending : Filed.Ascending filed) (tier : Nat) :
    Filed.keysAt (Filed.occupied filed) tier = Filed.keysAt filed tier := by
  induction filed with
  | nil => rfl
  | cons first rest ih =>
      obtain ⟨other, held⟩ := first
      have later := ih (List.pairwise_cons.mp ascending).2
      rw [Filed.occupied] at later ⊢
      by_cases empty : held = []
      · rw [List.filter_cons_of_neg (by simp [empty]), later, Filed.keysAt]
        split
        · rename_i same
          rw [empty]
          apply Classical.byContradiction
          intro present
          have above := Filed.keys_at_above ascending present
          omega
        · rfl
      · rw [List.filter_cons_of_pos (by simpa using empty), Filed.keysAt, Filed.keysAt, later]

theorem activate_next_rights {σ : Type} {inspect : σ → String → Nat → σ × Option Inspection}
    {current : String → Option Nat} {sane : σ → Prop} (honest : Honest inspect current sane)
    (state : σ) (tiers : Tiers) (starts : sane state) (neat : Filed.Neat tiers.filed)
    (exhausted : (activateNext inspect state tiers).2.2 = .exhausted) (tier : Nat) (key : String)
    (member : key ∈ Filed.keysAt (activateNext inspect state tiers).2.1.filed tier) :
    current key = some tier := by
  obtain ⟨looked, left, ended, walk, kept, ends⟩ :=
    activate_next_walks honest state tiers starts neat.ascending (by rw [exhausted]; simp)
  rw [ends] at exhausted member
  cases exhausted
  rw [remaining, occupied_keys_at left kept, walk.line neat tier] at member
  rcases List.mem_append.mp member with unseen | filed
  · obtain ⟨there, unlooked⟩ := List.mem_filter.mp unseen
    have offered := Filed.keys_at_present tier key tiers.filed there
    exact absurd (walk.thorough neat.ascending tier offered key there) (by simpa using unlooked)
  · exact refiled_belongs filed

theorem remaining_lowest (left : Filed) (ascending : Filed.Ascending left) :
    ((remaining left).keys = [] → (remaining left).watermark = noTier) ∧
      ∀ tier, Filed.keysAt (remaining left).filed tier ≠ [] →
        (remaining left).watermark ≤ tier ∧
          Filed.keysAt (remaining left).filed (remaining left).watermark ≠ [] := by
  refine ⟨fun none => ?_, fun tier held => ?_⟩
  · have bare : Filed.occupied left = [] := by
      refine List.filter_eq_nil_iff.mpr fun entry listed => ?_
      have whole : Filed.keys left = [] := (Filed.occupied_keys left).symm.trans none
      have empty := List.flatMap_eq_nil_iff.mp whole entry listed
      simp [empty]
    rw [remaining, bare]
    rfl
  · obtain ⟨key, member⟩ := List.exists_mem_of_ne_nil _ held
    have some : Filed.keys (Filed.occupied left) ≠ [] :=
      List.ne_nil_of_mem ((Filed.keys_at_sublist tier _).subset member)
    obtain ⟨occupied, least⟩ :=
      lowest_occupied _ (Filed.occupied_ascending left ascending) some
    exact ⟨least tier held, occupied⟩

theorem keys_tiers (filed : Filed) (ascending : Filed.Ascending filed) :
    (Filed.tiers filed).flatMap (Filed.keysAt filed) = Filed.keys filed := by
  induction filed with
  | nil => rfl
  | cons first rest ih =>
      obtain ⟨tier, held⟩ := first
      obtain ⟨above, later⟩ := List.pairwise_cons.mp ascending
      have same : (Filed.tiers rest).flatMap (Filed.keysAt ((tier, held) :: rest)) =
          (Filed.tiers rest).flatMap (Filed.keysAt rest) := by
        rw [List.flatMap_def, List.flatMap_def]
        refine congrArg List.flatten (List.map_congr_left fun other member => ?_)
        obtain ⟨entry, listed, named⟩ := List.mem_map.mp member
        have beyond := above entry listed
        exact if_neg (by omega)
      rw [Filed.keys_cons, ← ih later, ← same]
      simp [Filed.tiers, Filed.keysAt]

theorem keys_first (filed : Filed) (ascending : Filed.Ascending filed) :
    (Filed.keys filed).head? = (Filed.keysAt filed (lowest filed)).head? := by
  induction filed with
  | nil => rfl
  | cons first rest ih =>
      obtain ⟨tier, held⟩ := first
      have later := ih (List.pairwise_cons.mp ascending).2
      cases held with
      | cons key more => simp [lowest, Filed.keysAt]
      | nil =>
          have skipped : lowest ((tier, []) :: rest) = lowest rest := by simp [lowest]
          rw [Filed.keys_cons, List.nil_append, skipped, later, Filed.keysAt]
          split
          · rename_i same
            have none : Filed.keysAt rest (lowest rest) = [] := by
              apply Classical.byContradiction
              intro present
              have above := Filed.keys_at_above ascending present
              omega
            rw [none]
          · rfl

end Tiers

theorem Frontier.activate_walks (frontier : Frontier)
    (ascending : Filed.Ascending frontier.tiers.filed)
    (fine : frontier.activateInactive.2 ≠ none) :
    ∃ looked left ended, Tiers.Walk frontier.currentTier? (Filed.tiers frontier.tiers.filed)
        frontier.tiers.filed looked left ended ∧ Filed.Ascending left ∧
      Tiers.activateNext Frontier.inspect frontier frontier.tiers =
        (Tiers.lookAll Frontier.inspect frontier looked, Tiers.remaining left, ended) := by
  apply Tiers.activate_next_walks frontier.inspect_honest frontier frontier.tiers (.refl frontier)
    ascending
  intro failed
  rw [Frontier.activateInactive] at fine
  split at fine
  · rename_i result
    rw [result] at failed
    cases failed
  · rename_i result
    rw [result] at failed
    cases failed
  · exact fine rfl

/-- The register activates a key exactly as its tiers and the tiers that keys belong to have it, for any
tiers in order with every key in them once. Its scan is a finite walk that takes the first key of a tier
as this stands by then, and looks at no key twice but the one that it activates. It finds nothing if and
only if every key is of the past, belongs below the tier that it is filed in, or belongs to a tier that
did not exist. The key that it activates was looked at last, in the tier that it belongs to; every other
one that it looked at is of the past or is filed where it belongs. A tier is left with the keys that were
not looked at, in their order, and behind them those that were filed there, in the order of the looks.
All keys are still there but the one that was activated and those of the past that were looked at. The
watermark is the lowest tier with a key in it. If every key is filed where it belongs, the first one of
the lowest tier is activated. And the frontier's looks lead to the same, unless one fails. -/
theorem activates_exactly (current : String → Option Nat) (tiers : Tiers)
    (ascending : Filed.Ascending tiers.filed) (once : tiers.keys.Nodup) :
    let scanned := Tiers.activateNext (Tiers.watch current) [] tiers
    let looked := scanned.1
    let after := scanned.2.1
    let ended := scanned.2.2
    (∃ left, Tiers.Walk current (Filed.tiers tiers.filed) tiers.filed looked left ended ∧
      after = Tiers.remaining left) ∧
    (ended = .exhausted ∨ ∃ key, ended = .activated key) ∧
    (∀ key, (looked.map (·.1)).count key ≤ 1 + ended.taken.count key) ∧
    (ended = .exhausted ↔ ∀ tier, ∀ key ∈ Filed.keysAt tiers.filed tier,
      current key = none ∨ ∃ place, current key = some place ∧
        (place < tier ∨ place ∉ Filed.tiers tiers.filed)) ∧
    (∀ key, ended = .activated key →
      ∃ passed tier, looked = passed ++ [(key, tier)] ∧ current key = some tier) ∧
    (∀ key ∈ looked.map (·.1), ended ≠ .activated key → current key = none ∨
      ∃ place, current key = some place ∧ key ∈ Filed.keysAt after.filed place) ∧
    (∀ tier, Filed.keysAt after.filed tier =
      (Filed.keysAt tiers.filed tier).filter (fun key => key ∉ looked.map (·.1)) ++
        Tiers.refiled current looked ended tier) ∧
    tiers.keys.Perm (after.keys ++ ended.taken ++
      (looked.filter fun look => (current look.1).isNone).map (·.1)) ∧
    (after.keys = [] → after.watermark = Tiers.noTier) ∧
    (∀ tier, Filed.keysAt after.filed tier ≠ [] →
      after.watermark ≤ tier ∧ Filed.keysAt after.filed after.watermark ≠ []) ∧
    ((∀ tier, ∀ key ∈ Filed.keysAt tiers.filed tier, current key = some tier) →
      ended = ((Filed.keysAt tiers.filed (Tiers.lowest tiers.filed)).head?).elim .exhausted
        .activated) ∧
    ∀ frontier : Frontier, frontier.currentTier? = current →
      (Tiers.activateNext Frontier.inspect frontier tiers).2.2 ≠ .failed →
        (Tiers.activateNext Frontier.inspect frontier tiers).2 = (after, ended) := by
  intro scanned looked after ended
  have fine := Tiers.activate_next_watched current tiers
  have honest := Tiers.watch_honest current
  have neat : Filed.Neat tiers.filed := ⟨ascending, once⟩
  obtain ⟨log, left, last, walk, kept, whole⟩ :=
    Tiers.activate_next_walks honest [] tiers trivial ascending fine
  rw [Tiers.watch_all, List.nil_append] at whole
  have logged : log = looked := congrArg Prod.fst whole.symm
  have remains : after = Tiers.remaining left := congrArg (·.2.1) whole
  have lasts : last = ended := congrArg (·.2.2) whole.symm
  subst logged lasts
  have line (tier : Nat) : Filed.keysAt after.filed tier =
      (Filed.keysAt tiers.filed tier).filter (fun key => key ∉ looked.map (·.1)) ++
        Tiers.refiled current looked ended tier := by
    rw [remains]
    exact (Tiers.occupied_keys_at left kept tier).trans (walk.line neat tier)
  refine ⟨⟨left, walk, remains⟩, ?ends, walk.looks neat, ?exhausted, fun key found => ?last, ?met, line,
    ?holds, ?bare, ?least, ?right, ?same⟩
  case ends =>
    cases answer : ended with
    | exhausted => exact .inl rfl
    | activated key => exact .inr ⟨key, rfl⟩
    | failed => exact absurd answer walk.ends
  case exhausted =>
    exact (Tiers.activate_next_exhausted honest [] tiers trivial ascending fine).trans
      (Tiers.none_due_iff current tiers.filed)
  case last =>
    rw [found] at walk
    exact walk.last
  case met =>
    intro key member other
    refine (Tiers.refiled_looked member other).imp_right ?_
    rintro ⟨place, belongs, filed⟩
    exact ⟨place, belongs, line place ▸ List.mem_append_right _ filed⟩
  case holds =>
    have same : after.keys = Filed.keys left := by
      rw [remains]
      exact Filed.occupied_keys left
    rw [same]
    exact walk.holds ascending
  case bare =>
    rw [remains]
    exact (Tiers.remaining_lowest left kept).1
  case least =>
    rw [remains]
    exact (Tiers.remaining_lowest left kept).2
  case right =>
    intro right
    rw [← Tiers.keys_first tiers.filed ascending, ← Tiers.keys_tiers tiers.filed ascending]
    exact walk.right right
  case same =>
    intro frontier same fine
    exact Tiers.activate_next_same (same ▸ frontier.inspect_honest) frontier tiers
      (.refl frontier) ascending fine

-- Two sites, the first of which has moved to the tier of the second one since it was filed.
def demoted : Tiers :=
  (Tiers.empty.file "a.com" 1).file "b.com" 3

def demotion (key : String) : Option Nat :=
  if key = "a.com" ∨ key = "b.com" then some 3 else none

theorem activates_exactly_demoted :
    let scanned := Tiers.activateNext (Tiers.watch demotion) [] demoted
    scanned.2.2 = .activated "b.com" ∧
      (∃ passed, scanned.1 = passed ++ [("b.com", 3)]) ∧
      Filed.keysAt scanned.2.1.filed 3 = ["a.com"] ∧ scanned.2.1.watermark ≤ 3 := by
  intro scanned
  have ascending : Filed.Ascending demoted.filed := by
    unfold Filed.Ascending
    decide +kernel
  have found : scanned.2.2 = .activated "b.com" := by decide +kernel
  obtain ⟨_, _, _, _, last, _, line, _, _, least, _⟩ :=
    activates_exactly demotion demoted ascending (by decide +kernel)
  obtain ⟨passed, tier, looked, belongs⟩ := last "b.com" found
  have here : tier = 3 := (Option.some.inj belongs).symm
  have left : Filed.keysAt scanned.2.1.filed 3 = ["a.com"] := (line 3).trans (by decide +kernel)
  exact ⟨found, ⟨passed, here ▸ looked⟩, left, (least 3 (by rw [left]; simp)).1⟩

end PoliteCrawl
