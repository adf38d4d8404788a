import PoliteCrawl.Proofs.Register.Scan

set_option autoImplicit false

namespace PoliteCrawl

namespace Filed

theorem keys_at_sublist (tier : Nat) (filed : Filed) : (keysAt filed tier).Sublist (keys filed) := by
  induction filed with
  | nil => exact .slnil
  | cons first rest ih =>
      obtain ⟨other, held⟩ := first
      rw [keysAt, keys_cons]
      split
      · exact List.sublist_append_left held (keys rest)
      · exact ih.trans (List.sublist_append_right held (keys rest))

section Beyond

variable {tier other : Nat} {held : List String} {rest : Filed}
  (ascending : Ascending ((other, held) :: rest)) (present : keysAt rest tier ≠ [])

include ascending present

theorem keys_at_above : other < tier := by
  obtain ⟨key, member⟩ := List.exists_mem_of_ne_nil _ present
  obtain ⟨entry, listed, same⟩ := List.mem_map.mp (keys_at_present tier key rest member)
  exact same ▸ (List.pairwise_cons.mp ascending).1 entry listed

theorem keys_at_beyond : keysAt ((other, held) :: rest) tier = keysAt rest tier :=
  if_neg (Nat.ne_of_lt (keys_at_above ascending present))

end Beyond

theorem keys_at_some (key : String) (filed : Filed) (ascending : Ascending filed)
    (member : key ∈ keys filed) : ∃ tier, key ∈ keysAt filed tier := by
  induction filed with
  | nil => cases member
  | cons first rest ih =>
      obtain ⟨other, held⟩ := first
      rcases List.mem_append.mp (keys_cons other held rest ▸ member) with here | later
      · exact ⟨other, by rwa [keysAt, if_pos rfl]⟩
      · obtain ⟨tier, there⟩ := ih (List.pairwise_cons.mp ascending).2 later
        exact ⟨tier, (keys_at_beyond ascending (List.ne_nil_of_mem there)).symm ▸ there⟩

theorem keys_at_same (key : String) (one other : Nat) (filed : Filed) (once : (keys filed).Nodup)
    (here : key ∈ keysAt filed one) (there : key ∈ keysAt filed other) : one = other := by
  induction filed with
  | nil => cases here
  | cons first rest ih =>
      obtain ⟨tier, held⟩ := first
      rw [keys_cons] at once
      obtain ⟨_, later, apart⟩ := List.nodup_append.mp once
      have elsewhere (place : Nat) (member : key ∈ keysAt rest place) (also : key ∈ held) : False :=
        apart key also key ((keys_at_sublist place rest).subset member) rfl
      rw [keysAt] at here there
      by_cases first : tier = one <;> by_cases second : tier = other
      · exact first.symm.trans second
      · rw [if_pos first] at here
        rw [if_neg second] at there
        exact (elsewhere other there here).elim
      · rw [if_neg first] at here
        rw [if_pos second] at there
        exact (elsewhere one here there).elim
      · rw [if_neg first] at here
        rw [if_neg second] at there
        exact ih later here there

structure Neat (filed : Filed) : Prop where
  ascending : Ascending filed
  once : (keys filed).Nodup

section Taking

variable {filed : Filed} {tier : Nat} {key : String} {rest : List String}

theorem append_perm (tier : Nat) (key : String) (filed : Filed) :
    (keys (append tier key filed)).Perm (key :: keys filed) := by
  refine List.perm_iff_count.mpr fun sought => ?_
  rw [append_count, ← List.count_append]
  exact List.perm_append_comm.count_eq sought

theorem append_keeps (place : Nat) (fresh : String) {tier : Nat} {key : String} {filed : Filed}
    (ascending : Ascending filed) (member : key ∈ keysAt filed tier) :
    key ∈ keysAt (append place fresh filed) tier := by
  by_cases here : place = tier
  · rw [here, append_keys_here tier fresh filed ascending]
    exact List.mem_append_left _ member
  · rwa [append_keys_at place tier fresh filed here]

theorem taken_perm (ascending : Ascending filed) (first : keysAt filed tier = key :: rest) :
    (keys filed).Perm (key :: keys (setKeys tier rest filed)) := by
  refine List.perm_iff_count.mpr fun sought => ?_
  rw [← set_keys_count tier key sought rest filed ascending first, ← List.count_append]
  exact List.perm_append_comm.count_eq sought

variable (neat : Neat filed) (first : keysAt filed tier = key :: rest)

include neat first

theorem Neat.apart : key ∉ keys (setKeys tier rest filed) :=
  (List.nodup_cons.mp ((taken_perm neat.ascending first).nodup neat.once)).1

theorem Neat.taken : Neat (setKeys tier rest filed) :=
  ⟨set_keys_ascending tier rest filed neat.ascending,
    (List.nodup_cons.mp ((taken_perm neat.ascending first).nodup neat.once)).2⟩

theorem Neat.refiled (place : Nat) : Neat (append place key (setKeys tier rest filed)) :=
  ⟨append_ascending place key _ (neat.taken first).ascending,
    (append_perm place key _).symm.nodup
      (List.nodup_cons.mpr ⟨neat.apart first, (neat.taken first).once⟩)⟩

omit neat in
theorem taken_keys_at (other : Nat) :
    keysAt filed other = if other = tier then key :: keysAt (setKeys tier rest filed) other
      else keysAt (setKeys tier rest filed) other := by
  have present : tier ∈ tiers filed :=
    keys_at_present tier key filed (by rw [first]; exact List.mem_cons_self)
  by_cases here : other = tier
  · rw [if_pos here, here, set_keys_at tier rest filed present, first]
  · rw [if_neg here, set_keys_other tier other rest filed here]

omit neat in
theorem taken_member {other : Nat} {held : String} (member : held ∈ keysAt filed other) :
    held = key ∨ held ∈ keysAt (setKeys tier rest filed) other := by
  rw [taken_keys_at first other] at member
  split at member
  · exact List.mem_cons.mp member
  · exact .inr member

theorem Neat.unseen (other : Nat) (seen : List String) :
    (keysAt filed other).filter (fun held => held ∉ key :: seen) =
      (keysAt (setKeys tier rest filed) other).filter (fun held => held ∉ seen) := by
  have absent : key ∉ keysAt (setKeys tier rest filed) other := fun member =>
    neat.apart first ((keys_at_sublist other _).subset member)
  have same : (keysAt (setKeys tier rest filed) other).filter (fun held => held ∉ key :: seen) =
      (keysAt (setKeys tier rest filed) other).filter (fun held => held ∉ seen) := by
    refine List.filter_congr fun held member => ?_
    have different : held ≠ key := fun equal => absent (equal ▸ member)
    simp [different]
  rw [taken_keys_at first other]
  split
  · rw [List.filter_cons_of_neg (by simp), same]
  · exact same

end Taking

end Filed

def ScanEnd.taken : ScanEnd → List String
  | .activated key => [key]
  | _ => []

theorem ScanEnd.taken_count (ended : ScanEnd) (key : String) :
    ended.taken.count key = if ended = .activated key then 1 else 0 := by
  cases ended with
  | activated other => simp [taken, List.count_singleton]
  | exhausted => simp [taken]
  | failed => simp [taken]

namespace Tiers

-- The looks of a scan, in their order, with the tier that each key was taken from. The scan takes the
-- first key of a tier as this stands by then, and goes on to the next tier when there is none.
inductive Walk (current : String → Option Nat) :
    List Nat → Filed → List (String × Nat) → Filed → ScanEnd → Prop where
  | finished {filed : Filed} : Walk current [] filed [] filed .exhausted
  | beyond {tier : Nat} {tiers : List Nat} {filed left : Filed} {looked : List (String × Nat)}
      {ended : ScanEnd} (empty : Filed.keysAt filed tier = [])
      (later : Walk current tiers filed looked left ended) :
      Walk current (tier :: tiers) filed looked left ended
  | finds {tier : Nat} {tiers : List Nat} {filed : Filed} {key : String} {rest : List String}
      (first : Filed.keysAt filed tier = key :: rest) (belongs : current key = some tier) :
      Walk current (tier :: tiers) filed [(key, tier)] (Filed.setKeys tier rest filed)
        (.activated key)
  | drops {tier : Nat} {tiers : List Nat} {filed left : Filed} {key : String} {rest : List String}
      {looked : List (String × Nat)} {ended : ScanEnd}
      (first : Filed.keysAt filed tier = key :: rest) (gone : current key = none)
      (later : Walk current (tier :: tiers) (Filed.setKeys tier rest filed) looked left ended) :
      Walk current (tier :: tiers) filed ((key, tier) :: looked) left ended
  | refiles {tier place : Nat} {tiers : List Nat} {filed left : Filed} {key : String}
      {rest : List String} {looked : List (String × Nat)} {ended : ScanEnd}
      (first : Filed.keysAt filed tier = key :: rest) (belongs : current key = some place)
      (other : place ≠ tier)
      (later : Walk current (tier :: tiers)
        (Filed.append place key (Filed.setKeys tier rest filed)) looked left ended) :
      Walk current (tier :: tiers) filed ((key, tier) :: looked) left ended

section Scan

variable {σ : Type} {inspect : σ → String → Nat → σ × Option Inspection}
  {current : String → Option Nat} {sane : σ → Prop}

def lookAll (inspect : σ → String → Nat → σ × Option Inspection) (state : σ)
    (looked : List (String × Nat)) : σ :=
  looked.foldl (fun state look => (inspect state look.1 look.2).1) state

-- The keys of a tier are taken one by one: the scan of the tier is the beginning of a walk.
def Begins (inspect : σ → String → Nat → σ × Option Inspection) (current : String → Option Nat)
    (sane : σ → Prop) (tier : Nat) (tiers : List Nat) (state : σ) (filed : Filed) :
    σ × Filed × ScanEnd → Prop
  | (after, left, .exhausted) => sane after ∧ Filed.keysAt left tier = [] ∧
      ∃ passed, after = lookAll inspect state passed ∧ ∀ looked last ended,
        Walk current (tier :: tiers) left looked last ended →
          Walk current (tier :: tiers) filed (passed ++ looked) last ended
  | (after, left, .activated key) => ∃ looked, after = lookAll inspect state looked ∧
      Walk current (tier :: tiers) filed looked left (.activated key)
  | (_, _, .failed) => True

theorem Begins.cons {tier : Nat} {tiers : List Nat} {state between : σ} {filed taken : Filed}
    {key : String} {result : σ × Filed × ScanEnd}
    (begins : Begins inspect current sane tier tiers between taken result)
    (looks : (inspect state key tier).1 = between)
    (step : ∀ looked last ended, Walk current (tier :: tiers) taken looked last ended →
      Walk current (tier :: tiers) filed ((key, tier) :: looked) last ended) :
    Begins inspect current sane tier tiers state filed result := by
  obtain ⟨after, left, ended⟩ := result
  subst looks
  cases ended with
  | failed => trivial
  | activated found =>
      obtain ⟨looked, same, walk⟩ := begins
      exact ⟨(key, tier) :: looked, same, step looked left _ walk⟩
  | exhausted =>
      obtain ⟨still, empty, passed, same, onward⟩ := begins
      exact ⟨still, empty, (key, tier) :: passed, same, fun looked last ended walk =>
        step _ last ended (onward looked last ended walk)⟩

variable (honest : Honest inspect current sane)

include honest

theorem scan_tier_begins (tier : Nat) (tiers : List Nat) (line : List String) (state : σ)
    (filed : Filed) (starts : sane state) (ascending : Filed.Ascending filed)
    (stands : Filed.keysAt filed tier = line) :
    Begins inspect current sane tier tiers state filed
      (scanTier inspect tier line state filed) := by
  induction line generalizing state filed with
  | nil => exact ⟨starts, stands, [], rfl, fun _ _ _ walk => walk⟩
  | cons key rest ih =>
      have answers := honest.answers state key tier
      have keeps := honest.keeps state key tier starts
      have taken := Filed.set_keys_ascending tier rest filed ascending
      have present : tier ∈ Filed.tiers filed :=
        Filed.keys_at_present tier key filed (by rw [stands]; exact List.mem_cons_self)
      have remains : Filed.keysAt (Filed.setKeys tier rest filed) tier = rest :=
        Filed.set_keys_at tier rest filed present
      rw [scanTier]
      cases result : inspect state key tier with
      | mk after answer =>
          have looks : (inspect state key tier).1 = after := by rw [result]
          rw [result] at answers keeps
          cases answer with
          | none => trivial
          | some found =>
              have judged := answers found starts rfl
              cases belongs : current key with
              | none =>
                  rw [belongs, verdict] at judged
                  subst judged
                  exact (ih after _ (keeps (by simp)) taken remains).cons looks
                    fun _ _ _ => .drops stands belongs
              | some place =>
                  by_cases right : place = tier
                  · rw [belongs, verdict, if_pos right] at judged
                    subst judged
                    exact ⟨[(key, tier)], looks.symm, .finds stands (right ▸ belongs)⟩
                  · rw [belongs, verdict, if_neg right] at judged
                    subst judged
                    refine (ih after _ (keeps (by simp))
                      (Filed.append_ascending place key _ taken) ?_).cons looks
                      fun _ _ _ => .refiles stands belongs right
                    rw [Filed.append_keys_at place tier key _ right, remains]

theorem scan_walks (tiers : List Nat) (state : σ) (filed : Filed) (starts : sane state)
    (ascending : Filed.Ascending filed) :
    (scan inspect tiers state filed).2.2 ≠ .failed →
      ∃ looked, (scan inspect tiers state filed).1 = lookAll inspect state looked ∧
        Walk current tiers filed looked (scan inspect tiers state filed).2.1
          (scan inspect tiers state filed).2.2 := by
  induction tiers generalizing state filed with
  | nil => exact fun _ => ⟨[], rfl, .finished⟩
  | cons tier rest ih =>
      have begins := scan_tier_begins honest tier rest (Filed.keysAt filed tier) state filed starts
        ascending rfl
      have kept := scan_tier_ascending inspect tier (Filed.keysAt filed tier) state filed ascending
      rw [scan]
      cases result : scanTier inspect tier (Filed.keysAt filed tier) state filed with
      | mk after others =>
          obtain ⟨left, ended⟩ := others
          rw [result] at begins kept
          cases ended with
          | failed => exact fun fine => absurd rfl fine
          | activated key => exact fun _ => begins
          | exhausted =>
              obtain ⟨still, empty, passed, same, onward⟩ := begins
              intro fine
              obtain ⟨looked, ends, walk⟩ := ih after left still kept fine
              refine ⟨passed ++ looked, ?_, onward looked _ _ (.beyond empty walk)⟩
              rw [ends, same, lookAll, lookAll, lookAll, List.foldl_append]

end Scan

section Walk

variable {current : String → Option Nat} {tiers : List Nat} {filed left : Filed}
  {looked : List (String × Nat)} {ended : ScanEnd}

theorem Walk.unique {also : List (String × Nat)} {last : Filed} {other : ScanEnd}
    (one : Walk current tiers filed looked left ended)
    (two : Walk current tiers filed also last other) :
    also = looked ∧ last = left ∧ other = ended := by
  induction one generalizing also last other with
  | finished =>
      cases two
      exact ⟨rfl, rfl, rfl⟩
  | beyond empty _ ih =>
      cases two with
      | beyond _ later => exact ih later
      | finds first => exact nomatch empty.symm.trans first
      | drops first => exact nomatch empty.symm.trans first
      | refiles first => exact nomatch empty.symm.trans first
  | finds first belongs =>
      cases two with
      | beyond empty => exact nomatch empty.symm.trans first
      | finds again =>
          cases first.symm.trans again
          exact ⟨rfl, rfl, rfl⟩
      | drops again gone =>
          cases first.symm.trans again
          exact nomatch belongs.symm.trans gone
      | refiles again elsewhere apart =>
          cases first.symm.trans again
          exact absurd (Option.some.inj (elsewhere.symm.trans belongs)) apart
  | drops first gone _ ih =>
      cases two with
      | beyond empty => exact nomatch empty.symm.trans first
      | finds again belongs =>
          cases first.symm.trans again
          exact nomatch gone.symm.trans belongs
      | drops again _ later =>
          cases first.symm.trans again
          obtain ⟨rfl, rest⟩ := ih later
          exact ⟨rfl, rest⟩
      | refiles again belongs =>
          cases first.symm.trans again
          exact nomatch gone.symm.trans belongs
  | refiles first belongs apart _ ih =>
      cases two with
      | beyond empty => exact nomatch empty.symm.trans first
      | finds again here =>
          cases first.symm.trans again
          exact absurd (Option.some.inj (belongs.symm.trans here)) apart
      | drops again gone =>
          cases first.symm.trans again
          exact nomatch belongs.symm.trans gone
      | refiles again same _ later =>
          cases first.symm.trans again
          cases belongs.symm.trans same
          obtain ⟨rfl, rest⟩ := ih later
          exact ⟨rfl, rest⟩

theorem Walk.ends (walk : Walk current tiers filed looked left ended) : ended ≠ .failed := by
  induction walk with
  | finished => simp
  | beyond _ _ ih => exact ih
  | finds => simp
  | drops _ _ _ ih => exact ih
  | refiles _ _ _ _ ih => exact ih

theorem Walk.last {key : String} (walk : Walk current tiers filed looked left (.activated key)) :
    ∃ passed tier, looked = passed ++ [(key, tier)] ∧ current key = some tier := by
  generalize final : ScanEnd.activated key = ended at walk
  have more {tier : Nat} {other : String} {looked : List (String × Nat)}
      (found : ∃ passed place, looked = passed ++ [(key, place)] ∧ current key = some place) :
      ∃ passed place, (other, tier) :: looked = passed ++ [(key, place)] ∧
        current key = some place := by
    obtain ⟨passed, place, same, belongs⟩ := found
    exact ⟨(other, tier) :: passed, place, by rw [same]; rfl, belongs⟩
  induction walk with
  | finished => cases final
  | beyond _ _ ih => exact ih final
  | @finds tier _ _ _ _ _ belongs =>
      cases final
      exact ⟨[], tier, rfl, belongs⟩
  | drops _ _ _ ih => exact more (ih final)
  | refiles _ _ _ _ ih => exact more (ih final)

-- No key is lost or doubled: one is taken, the dropped ones are of the past, and the others are filed.
theorem Walk.holds (walk : Walk current tiers filed looked left ended)
    (ascending : Filed.Ascending filed) :
    (Filed.keys filed).Perm (Filed.keys left ++ ended.taken ++
      (looked.filter fun look => (current look.1).isNone).map (·.1)) := by
  induction walk with
  | finished => simp [ScanEnd.taken]
  | beyond _ _ ih => exact ih ascending
  | finds first belongs =>
      rw [List.filter_cons_of_neg (by simp [belongs])]
      simpa [ScanEnd.taken] using
        (Filed.taken_perm ascending first).trans (List.perm_append_singleton _ _).symm
  | @drops tier _ filed left key rest _ _ first gone _ ih =>
      rw [List.filter_cons_of_pos (by simp [gone]), List.map_cons]
      refine (Filed.taken_perm ascending first).trans (.trans ?_ List.perm_middle.symm)
      exact (ih (Filed.set_keys_ascending tier rest filed ascending)).cons key
  | @refiles tier place _ filed left key rest _ _ first belongs _ _ ih =>
      have taken := Filed.set_keys_ascending tier rest filed ascending
      rw [List.filter_cons_of_neg (by simp [belongs])]
      refine (Filed.taken_perm ascending first).trans ((Filed.append_perm place key _).symm.trans ?_)
      exact ih (Filed.append_ascending place key _ taken)

theorem Walk.among (walk : Walk current tiers filed looked left ended)
    (ascending : Filed.Ascending filed) {key : String} (member : key ∈ looked.map (·.1)) :
    key ∈ Filed.keys filed := by
  induction walk with
  | finished => cases member
  | beyond _ _ ih => exact ih ascending member
  | finds first =>
      refine (Filed.taken_perm ascending first).mem_iff.mpr ?_
      simp only [List.map_cons, List.map_nil, List.mem_singleton] at member
      exact member ▸ List.mem_cons_self
  | @drops tier _ filed _ _ rest _ _ first _ _ ih =>
      refine (Filed.taken_perm ascending first).mem_iff.mpr ?_
      rcases List.mem_cons.mp member with here | later
      · exact here ▸ List.mem_cons_self
      · have taken := Filed.set_keys_ascending tier rest filed ascending
        exact List.mem_cons_of_mem _ (ih taken later)
  | @refiles tier place _ filed _ key rest _ _ first _ _ _ ih =>
      refine (Filed.taken_perm ascending first).mem_iff.mpr ?_
      rcases List.mem_cons.mp member with here | later
      · exact here ▸ List.mem_cons_self
      · have taken := Filed.set_keys_ascending tier rest filed ascending
        exact (Filed.append_perm place key _).mem_iff.mp
          (ih (Filed.append_ascending place key _ taken) later)

theorem Walk.settled (walk : Walk current tiers filed looked left ended) (neat : Filed.Neat filed)
    {key : String} {place : Nat} (belongs : current key = some place)
    (member : key ∈ Filed.keysAt filed place) :
    (looked.map (·.1)).count key = ended.taken.count key := by
  induction walk with
  | finished => rfl
  | beyond _ _ ih => exact ih neat member
  | finds => rfl
  | @drops tier _ filed _ first rest _ _ front gone _ ih =>
      have different : first ≠ key := by
        intro same
        rw [same, belongs] at gone
        cases gone
      have remains := (Filed.taken_member front member).resolve_left (Ne.symm different)
      rw [List.map_cons, List.count_cons_of_ne different]
      exact ih (neat.taken front) remains
  | @refiles tier other _ filed _ first rest _ _ front elsewhere apart _ ih =>
      have different : first ≠ key := by
        intro same
        have here : key ∈ Filed.keysAt filed tier := by
          rw [front, same]
          exact List.mem_cons_self
        rw [same, belongs] at elsewhere
        exact apart ((Option.some.inj elsewhere).symm.trans
          (Filed.keys_at_same key place tier filed neat.once member here))
      have remains := (Filed.taken_member front member).resolve_left (Ne.symm different)
      rw [List.map_cons, List.count_cons_of_ne different]
      exact ih (neat.refiled front other)
        (Filed.append_keeps other first (neat.taken front).ascending remains)

theorem Walk.looks (walk : Walk current tiers filed looked left ended) (neat : Filed.Neat filed)
    (key : String) : (looked.map (·.1)).count key ≤ 1 + ended.taken.count key := by
  induction walk with
  | finished => simp
  | beyond _ _ ih => exact ih neat
  | finds =>
      rw [List.map_cons, List.map_nil, ScanEnd.taken]
      exact Nat.le_add_left _ 1
  | @drops tier _ filed _ first rest looked _ front _ later ih =>
      rw [List.map_cons]
      by_cases here : first = key
      · subst here
        have never : first ∉ looked.map (·.1) := fun member =>
          neat.apart front (later.among (neat.taken front).ascending member)
        rw [List.count_cons_self, List.count_eq_zero_of_not_mem never]
        omega
      · rw [List.count_cons_of_ne here]
        exact ih (neat.taken front)
  | @refiles tier place _ filed _ first rest looked _ front belongs _ later ih =>
      rw [List.map_cons]
      by_cases here : first = key
      · subst here
        have member : first ∈ Filed.keysAt
            (Filed.append place first (Filed.setKeys tier rest filed)) place := by
          rw [Filed.append_keys_here place first _ (neat.taken front).ascending]
          simp
        rw [List.count_cons_self, later.settled (neat.refiled front place) belongs member]
        omega
      · rw [List.count_cons_of_ne here]
        exact ih (neat.refiled front place)

-- The keys that a walk found misfiled and that belong to a tier, in the order of the looks.
def refiled (current : String → Option Nat) (looked : List (String × Nat)) (ended : ScanEnd)
    (tier : Nat) : List String :=
  (looked.filter fun look =>
    current look.1 = some tier ∧ ended ≠ .activated look.1).map (·.1)

theorem refiled_belongs {tier : Nat} {key : String}
    (member : key ∈ refiled current looked ended tier) : current key = some tier := by
  obtain ⟨look, listed, same⟩ := List.mem_map.mp member
  have belongs := (List.mem_filter.mp listed).2
  simp only [decide_eq_true_eq, same] at belongs
  exact belongs.1

theorem refiled_looked {key : String} (member : key ∈ looked.map (·.1))
    (other : ended ≠ .activated key) : current key = none ∨
      ∃ place, current key = some place ∧ key ∈ refiled current looked ended place := by
  cases belongs : current key with
  | none => exact .inl rfl
  | some place =>
      obtain ⟨look, listed, same⟩ := List.mem_map.mp member
      refine .inr ⟨place, rfl, List.mem_map.mpr ⟨look, ?_, same⟩⟩
      exact List.mem_filter.mpr ⟨listed, by simp [same, belongs, other]⟩

theorem Walk.line (walk : Walk current tiers filed looked left ended) (neat : Filed.Neat filed)
    (tier : Nat) : Filed.keysAt left tier =
      (Filed.keysAt filed tier).filter (fun key => key ∉ looked.map (·.1)) ++
        refiled current looked ended tier := by
  induction walk with
  | finished =>
      rw [refiled, List.filter_nil, List.map_nil, List.append_nil]
      exact (List.filter_eq_self.mpr (by simp)).symm
  | beyond _ _ ih => exact ih neat
  | finds front =>
      rw [List.map_cons, neat.unseen front tier, refiled, List.filter_cons_of_neg (by simp),
        List.filter_nil, List.map_nil, List.append_nil]
      exact (List.filter_eq_self.mpr (by simp)).symm
  | drops front gone _ ih =>
      rw [List.map_cons, neat.unseen front tier, ih (neat.taken front), refiled, refiled,
        List.filter_cons_of_neg (by simp [gone])]
  | @refiles _ place _ filed _ first rest looked ended front belongs _ later ih =>
      rw [List.map_cons, neat.unseen front tier, ih (neat.refiled front place)]
      by_cases here : place = tier
      · subst here
        have here := Filed.append_keys_here place first _ (neat.taken front).ascending
        have settled := later.settled (neat.refiled front place) belongs (by rw [here]; simp)
        rw [here, List.filter_append, List.append_assoc]
        congr 1
        rw [ScanEnd.taken_count] at settled
        by_cases last : ended = .activated first
        · -- The key turned up again, and is not there any more.
          rw [if_pos last] at settled
          have member : first ∈ looked.map (·.1) := List.count_pos_iff.mp (by omega)
          rw [List.filter_cons_of_neg (by simpa using member), List.filter_nil, List.nil_append,
            refiled, refiled, List.filter_cons_of_neg (by simp [last])]
        · rw [if_neg last] at settled
          have absent : first ∉ looked.map (·.1) := List.count_eq_zero.mp settled
          rw [List.filter_cons_of_pos (by simpa using absent), List.filter_nil, refiled, refiled,
            List.filter_cons_of_pos (by simp [belongs, last]), List.map_cons]
          rfl
      · rw [Filed.append_keys_at place tier first _ here, refiled, refiled,
          List.filter_cons_of_neg (by simp [belongs, here])]

theorem Walk.files (walk : Walk current tiers filed looked left ended) (neat : Filed.Neat filed)
    (tier : Nat) (key : String) (member : key ∈ Filed.keysAt left tier) :
    key ∈ Filed.keysAt filed tier ∨ current key = some tier := by
  rw [walk.line neat tier] at member
  rcases List.mem_append.mp member with unseen | filed
  · exact .inl (List.mem_filter.mp unseen).1
  · exact .inr (refiled_belongs filed)

theorem Walk.thorough (walk : Walk current tiers filed looked left .exhausted)
    (ascending : Filed.Ascending filed) (tier : Nat) (offered : tier ∈ tiers) (key : String)
    (member : key ∈ Filed.keysAt filed tier) :
    key ∈ looked.map (·.1) := by
  generalize final : ScanEnd.exhausted = ended at walk
  induction walk with
  | finished => cases offered
  | beyond empty _ ih =>
      rcases List.mem_cons.mp offered with here | later
      · rw [here, empty] at member
        cases member
      · exact ih ascending later member final
  | finds => cases final
  | @drops lowest _ filed _ _ rest _ _ front _ _ ih =>
      have taken := Filed.set_keys_ascending lowest rest filed ascending
      rcases Filed.taken_member front member with here | remains
      · exact here ▸ List.mem_cons_self
      · exact List.mem_cons_of_mem _ (ih taken offered remains final)
  | @refiles lowest place _ filed _ first rest _ _ front _ _ _ ih =>
      have taken := Filed.set_keys_ascending lowest rest filed ascending
      rcases Filed.taken_member front member with here | remains
      · exact here ▸ List.mem_cons_self
      · exact List.mem_cons_of_mem _ (ih (Filed.append_ascending place first _ taken) offered
          (Filed.append_keeps place first taken remains) final)

theorem Walk.right (walk : Walk current tiers filed looked left ended)
    (right : ∀ tier, ∀ key ∈ Filed.keysAt filed tier, current key = some tier) :
    ended = ((tiers.flatMap (Filed.keysAt filed)).head?).elim .exhausted .activated := by
  induction walk with
  | finished => rfl
  | beyond empty _ ih => rw [List.flatMap_cons, empty, List.nil_append, ih right]
  | finds first => rw [List.flatMap_cons, first, List.cons_append, List.head?_cons, Option.elim_some]
  | @drops tier _ _ _ key _ _ _ first gone =>
      have belongs := right tier key (by rw [first]; exact List.mem_cons_self)
      exact nomatch belongs.symm.trans gone
  | @refiles tier place _ _ _ key _ _ _ first belongs other =>
      have here := right tier key (by rw [first]; exact List.mem_cons_self)
      exact absurd (Option.some.inj (belongs.symm.trans here)) other

end Walk

theorem lowest_occupied (filed : Filed) (ascending : Filed.Ascending filed)
    (present : Filed.keys filed ≠ []) :
    Filed.keysAt filed (lowest filed) ≠ [] ∧
      ∀ other, Filed.keysAt filed other ≠ [] → lowest filed ≤ other := by
  induction filed with
  | nil => exact absurd rfl present
  | cons first rest ih =>
      obtain ⟨tier, held⟩ := first
      by_cases empty : held = []
      · have skipped : lowest ((tier, held) :: rest) = lowest rest := by simp [lowest, empty]
        obtain ⟨occupied, least⟩ :=
          ih (List.pairwise_cons.mp ascending).2 (by simpa [empty] using present)
        rw [skipped, Filed.keys_at_beyond ascending occupied]
        refine ⟨occupied, fun other there => ?_⟩
        rw [Filed.keysAt] at there
        split at there
        · exact absurd empty there
        · exact least other there
      · have found : lowest ((tier, held) :: rest) = tier := by simp [lowest, empty]
        rw [found]
        refine ⟨by rwa [Filed.keysAt, if_pos rfl], fun other there => ?_⟩
        rw [Filed.keysAt] at there
        split at there
        case isTrue same => exact Nat.le_of_eq same
        case isFalse => exact Nat.le_of_lt (Filed.keys_at_above ascending there)

end Tiers

end PoliteCrawl
