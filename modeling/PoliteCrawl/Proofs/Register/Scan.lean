import PoliteCrawl.Proofs.Register.Tiers

set_option autoImplicit false

namespace PoliteCrawl

namespace Filed

theorem append_keys_here (tier : Nat) (key : String) (filed : Filed) (ascending : Ascending filed) :
    keysAt (append tier key filed) tier = keysAt filed tier ++ [key] := by
  induction filed with
  | nil => simp [append, keysAt]
  | cons first rest ih =>
      obtain ⟨other, held⟩ := first
      obtain ⟨below, later⟩ := List.pairwise_cons.mp ascending
      by_cases less : tier < other
      · have absent (bigger : List (Nat × List String)) (above : ∀ entry ∈ bigger, tier < entry.1) :
            keysAt bigger tier = [] := by
          induction bigger with
          | nil => rfl
          | cons entry more ih =>
              have different : entry.1 ≠ tier := by
                have higher := above entry (by simp)
                omega
              rw [keysAt, if_neg different]
              exact ih fun entry member => above entry (by simp [member])
        have none : keysAt ((other, held) :: rest) tier = [] := by
          refine absent _ fun entry member => ?_
          rcases List.mem_cons.mp member with same | more
          · rw [same]
            exact less
          · exact Nat.lt_trans less (below entry more)
        rw [append, if_pos less, none, keysAt, if_pos rfl]
        rfl
      · by_cases same : tier = other
        · rw [append, if_neg less, if_pos same, keysAt, keysAt, if_pos same.symm, if_pos same.symm]
        · rw [append, if_neg less, if_neg same, keysAt, keysAt, if_neg (Ne.symm same),
            if_neg (Ne.symm same)]
          exact ih later

theorem set_keys_other (tier other : Nat) (held : List String) (filed : Filed)
    (different : other ≠ tier) : keysAt (setKeys tier held filed) other = keysAt filed other := by
  induction filed with
  | nil => rfl
  | cons first rest ih =>
      obtain ⟨lowest, old⟩ := first
      simp only [setKeys, List.map_cons] at ih ⊢
      by_cases here : lowest = other
      · subst here
        simp [keysAt, different]
      · by_cases taken : lowest = tier
        · simpa [keysAt, taken, Ne.symm different] using ih
        · simpa [keysAt, taken, here] using ih

end Filed

namespace Tiers

-- What there is to say of a key in a tier, if one knows where it belongs.
def verdict (current : Option Nat) (tier : Nat) : Inspection :=
  match current with
  | none => .stale
  | some belongs => if belongs = tier then .activated else .misfiled belongs

theorem lowest_least (filed : Filed) (tier : Nat) (ascending : Filed.Ascending filed)
    (held : Filed.keysAt filed tier ≠ [])
    (least : ∀ other, Filed.keysAt filed other ≠ [] → tier ≤ other) : lowest filed = tier := by
  induction filed with
  | nil => exact absurd rfl held
  | cons first rest ih =>
      obtain ⟨other, keys⟩ := first
      obtain ⟨below, later⟩ := List.pairwise_cons.mp ascending
      have above (place : Nat) (occupied : Filed.keysAt rest place ≠ []) : other < place := by
        obtain ⟨key, member⟩ := List.exists_mem_of_ne_nil _ occupied
        obtain ⟨entry, listed, same⟩ :=
          List.mem_map.mp (Filed.keys_at_present place key rest member)
        exact same ▸ below entry listed
      by_cases empty : keys = []
      · have skipped : lowest ((other, keys) :: rest) = lowest rest := by
          simp [lowest, empty]
        have behind (place : Nat) (occupied : Filed.keysAt rest place ≠ []) :
            Filed.keysAt ((other, keys) :: rest) place = Filed.keysAt rest place :=
          if_neg (Nat.ne_of_lt (above place occupied))
        rw [skipped]
        apply ih later
        · by_cases here : other = tier
          · rw [Filed.keysAt, if_pos here, empty] at held
            exact absurd rfl held
          · rwa [Filed.keysAt, if_neg here] at held
        · intro place occupied
          exact least place ((behind place occupied).symm ▸ occupied)
      · have found : lowest ((other, keys) :: rest) = other := by
          simp [lowest, empty]
        have bound : tier ≤ other := least other (by rwa [Filed.keysAt, if_pos rfl])
        rw [found]
        by_cases here : other = tier
        · exact here
        · rw [Filed.keysAt, if_neg here] at held
          have higher := above tier held
          omega

-- A key that a scan of some tiers is to find: it belongs to one of them, and is filed there or in one
-- that comes before.
structure Due (current : String → Option Nat) (filed : Filed) (tiers : List Nat) (key : String)
    (tier : Nat) : Prop where
  belongs : current key = some tier
  offered : tier ∈ tiers
  listed : ∃ place ∈ tiers, place ≤ tier ∧ key ∈ Filed.keysAt filed place

section Scan

variable {σ : Type} (inspect : σ → String → Nat → σ × Option Inspection)

theorem scan_tier_ascending (tier : Nat) (line : List String) (state : σ) (filed : Filed)
    (ascending : Filed.Ascending filed) :
    Filed.Ascending (scanTier inspect tier line state filed).2.1 := by
  induction line generalizing state filed with
  | nil => exact ascending
  | cons key rest ih =>
      have taken := Filed.set_keys_ascending tier rest filed ascending
      rw [scanTier]
      cases inspect state key tier with
      | mk after answer =>
          cases answer with
          | none => exact taken
          | some found =>
              cases found with
              | activated => exact taken
              | stale => exact ih after _ taken
              | misfiled current =>
                  exact ih after _ (Filed.append_ascending current key _ taken)

theorem scan_ascending (tiers : List Nat) (state : σ) (filed : Filed)
    (ascending : Filed.Ascending filed) :
    Filed.Ascending (scan inspect tiers state filed).2.1 := by
  induction tiers generalizing state filed with
  | nil => exact ascending
  | cons tier rest ih =>
      have scanned := scan_tier_ascending inspect tier (Filed.keysAt filed tier) state filed
        ascending
      rw [scan]
      cases result : scanTier inspect tier (Filed.keysAt filed tier) state filed with
      | mk after others =>
          obtain ⟨left, ended⟩ := others
          rw [result] at scanned
          cases ended with
          | exhausted => exact ih after left scanned
          | activated key => exact scanned
          | failed => exact scanned

theorem scan_tier_keeps (kept : σ → Prop)
    (keeps : ∀ state key tier, kept state → kept (inspect state key tier).1) (tier : Nat)
    (line : List String) (state : σ) (filed : Filed) (begins : kept state) :
    kept (scanTier inspect tier line state filed).1 ∧
      ((∀ state key tier, kept state → (inspect state key tier).2 ≠ none) →
        (scanTier inspect tier line state filed).2.2 ≠ .failed) := by
  induction line generalizing state filed with
  | nil => exact ⟨begins, fun _ => by simp [scanTier]⟩
  | cons key rest ih =>
      have looked := keeps state key tier begins
      rw [scanTier]
      cases result : inspect state key tier with
      | mk after answer =>
          rw [result] at looked
          cases answer with
          | none =>
              refine ⟨looked, fun succeeds => ?_⟩
              exact absurd (by rw [result]) (succeeds state key tier begins)
          | some found =>
              cases found with
              | activated => exact ⟨looked, fun _ => by simp⟩
              | stale => exact ih after _ looked
              | misfiled current => exact ih after _ looked

theorem scan_keeps (kept : σ → Prop)
    (keeps : ∀ state key tier, kept state → kept (inspect state key tier).1) (tiers : List Nat)
    (state : σ) (filed : Filed) (begins : kept state) :
    kept (scan inspect tiers state filed).1 ∧
      ((∀ state key tier, kept state → (inspect state key tier).2 ≠ none) →
        (scan inspect tiers state filed).2.2 ≠ .failed) := by
  induction tiers generalizing state filed with
  | nil => exact ⟨begins, fun _ => by simp [scan]⟩
  | cons tier rest ih =>
      have scanned := scan_tier_keeps inspect kept keeps tier (Filed.keysAt filed tier) state filed
        begins
      rw [scan]
      cases result : scanTier inspect tier (Filed.keysAt filed tier) state filed with
      | mk after others =>
          obtain ⟨left, ended⟩ := others
          rw [result] at scanned
          cases ended with
          | exhausted => exact ih after left scanned.1
          | activated key => exact scanned
          | failed => exact scanned

theorem scan_stale (state : σ) (stale : ∀ key tier, inspect state key tier = (state, some .stale))
    (tiers : List Nat) (filed : Filed) :
    ∃ left, scan inspect tiers state filed = (state, left, .exhausted) := by
  have sifts (tier : Nat) (line : List String) (filed : Filed) :
      ∃ left, scanTier inspect tier line state filed = (state, left, .exhausted) := by
    induction line generalizing filed with
    | nil => exact ⟨filed, rfl⟩
    | cons key rest ih =>
        simp only [scanTier, stale]
        exact ih _
  induction tiers generalizing filed with
  | nil => exact ⟨filed, rfl⟩
  | cons tier rest ih =>
      obtain ⟨left, sifted⟩ := sifts tier (Filed.keysAt filed tier) filed
      simp only [scan, sifted]
      exact ih left

-- Looks at keys tell where these belong, whatever was looked at before.
structure Honest (inspect : σ → String → Nat → σ × Option Inspection)
    (current : String → Option Nat) (sane : σ → Prop) : Prop where
  answers : ∀ state key tier found, sane state → (inspect state key tier).2 = some found →
    found = verdict (current key) tier
  keeps : ∀ state key tier, sane state → (inspect state key tier).2 ≠ some .activated →
    sane (inspect state key tier).1

def Activates (inspect : σ → String → Nat → σ × Option Inspection) (sane : σ → Prop) (after : σ)
    (key : String) (tier : Nat) : Prop :=
  ∃ before, sane before ∧ inspect before key tier = (after, some .activated)

section Finding

variable {inspect} {current : String → Option Nat} {sane : σ → Prop}

-- What becomes of the keys of a tier that a scan takes one by one.
def Sifted (inspect : σ → String → Nat → σ × Option Inspection) (current : String → Option Nat)
    (sane : σ → Prop) (tier : Nat) (line : List String) (filed : Filed) :
    σ × Filed × ScanEnd → Prop
  | (after, left, .exhausted) => sane after ∧ (∀ key ∈ line, current key ≠ some tier) ∧
      ∀ other ≠ tier, ∀ key, key ∈ Filed.keysAt left other ↔
        key ∈ Filed.keysAt filed other ∨ (key ∈ line ∧ current key = some other)
  | (after, _, .activated key) =>
      key ∈ line ∧ current key = some tier ∧ Activates inspect sane after key tier
  | (after, _, .failed) => sane after

theorem Sifted.cons {tier : Nat} {first : String} {rest : List String} {filed taken : Filed}
    {result : σ × Filed × ScanEnd} (sifted : Sifted inspect current sane tier rest taken result)
    (foreign : current first ≠ some tier)
    (moved : ∀ other ≠ tier, ∀ key, key ∈ Filed.keysAt taken other ↔
      key ∈ Filed.keysAt filed other ∨ (key = first ∧ current first = some other)) :
    Sifted inspect current sane tier (first :: rest) filed result := by
  obtain ⟨after, left, ended⟩ := result
  cases ended with
  | failed => exact sifted
  | activated key => exact ⟨List.mem_cons_of_mem _ sifted.1, sifted.2⟩
  | exhausted =>
      obtain ⟨still, others, listed⟩ := sifted
      refine ⟨still, fun key member => ?_, fun other different key => ?_⟩
      · rcases List.mem_cons.mp member with same | later
        · exact same ▸ foreign
        · exact others key later
      · rw [listed other different key, moved other different key, List.mem_cons]
        constructor
        · rintro ((here | ⟨same, belongs⟩) | ⟨later, belongs⟩)
          · exact .inl here
          · exact .inr ⟨.inl same, same ▸ belongs⟩
          · exact .inr ⟨.inr later, belongs⟩
        · rintro (here | ⟨same | later, belongs⟩)
          · exact .inl (.inl here)
          · exact .inl (.inr ⟨same, same ▸ belongs⟩)
          · exact .inr ⟨later, belongs⟩

variable (honest : Honest inspect current sane)

include honest

theorem scan_tier_sifts (tier : Nat) (line : List String) (state : σ) (filed : Filed)
    (begins : sane state) (ascending : Filed.Ascending filed) :
    Sifted inspect current sane tier line filed (scanTier inspect tier line state filed) := by
  induction line generalizing state filed with
  | nil => exact ⟨begins, by simp, by simp⟩
  | cons first rest ih =>
      have answers := honest.answers state first tier
      have keeps := honest.keeps state first tier begins
      have taken := Filed.set_keys_ascending tier rest filed ascending
      rw [scanTier]
      cases result : inspect state first tier with
      | mk after answer =>
          rw [result] at answers keeps
          cases answer with
          | none => exact keeps (by simp)
          | some found =>
              have judged := answers found begins rfl
              cases belongs : current first with
              | none =>
                  rw [belongs, verdict] at judged
                  subst judged
                  apply (ih after _ (keeps (by simp)) taken).cons
                  · simp [belongs]
                  · intro other different key
                    rw [Filed.set_keys_other tier other rest filed different]
                    simp [belongs]
              | some place =>
                  by_cases right : place = tier
                  · rw [belongs, verdict, if_pos right] at judged
                    subst judged
                    exact ⟨List.mem_cons_self, right ▸ belongs, state, begins, result⟩
                  · rw [belongs, verdict, if_neg right] at judged
                    subst judged
                    have refiled := Filed.append_ascending place first _ taken
                    apply (ih after _ (keeps (by simp)) refiled).cons
                    · simpa [belongs] using right
                    · intro other different key
                      by_cases here : place = other
                      · subst here
                        rw [Filed.append_keys_here place first _ taken,
                          Filed.set_keys_other tier place rest filed different]
                        simp [belongs]
                      · rw [Filed.append_keys_at place other first _ here,
                          Filed.set_keys_other tier other rest filed different]
                        simp [belongs, here]

omit honest in
-- Once a tier is sifted to the end, what a scan is to find there and beyond it is to find beyond.
theorem due_beyond {tier : Nat} {tiers : List Nat} {filed left : Filed} {after : σ}
    (above : ∀ other ∈ tiers, tier < other)
    (sifted : Sifted inspect current sane tier (Filed.keysAt filed tier) filed
      (after, left, .exhausted)) (key : String) (place : Nat) :
    Due current filed (tier :: tiers) key place ↔ Due current left tiers key place := by
  obtain ⟨_, foreign, listed⟩ := sifted
  have apart {other : Nat} (offered : other ∈ tiers) : other ≠ tier := by
    have higher := above other offered
    omega
  constructor
  · rintro ⟨belongs, offered, held, listing, before, filedThere⟩
    have beyond : place ∈ tiers := by
      rcases List.mem_cons.mp offered with same | later
      · rcases List.mem_cons.mp listing with here | more
        · exact absurd (same ▸ belongs) (foreign key (here ▸ filedThere))
        · have higher := above held more
          omega
      · exact later
    refine ⟨belongs, beyond, ?_⟩
    rcases List.mem_cons.mp listing with here | more
    · refine ⟨place, beyond, Nat.le_refl place, ?_⟩
      exact (listed place (apart beyond) key).mpr (.inr ⟨here ▸ filedThere, belongs⟩)
    · exact ⟨held, more, before, (listed held (apart more) key).mpr (.inl filedThere)⟩
  · rintro ⟨belongs, offered, held, listing, before, filedThere⟩
    refine ⟨belongs, List.mem_cons_of_mem _ offered, ?_⟩
    rcases (listed held (apart listing) key).mp filedThere with there | ⟨here, _⟩
    · exact ⟨held, List.mem_cons_of_mem _ listing, before, there⟩
    · exact ⟨tier, List.mem_cons_self, Nat.le_of_lt (above place offered), here⟩

theorem scan_finds (tiers : List Nat) (state : σ) (filed : Filed) (begins : sane state)
    (ascending : Filed.Ascending filed) (sorted : tiers.Pairwise (· < ·)) :
    match scan inspect tiers state filed with
    | (after, _, .exhausted) => sane after ∧ ∀ key tier, ¬ Due current filed tiers key tier
    | (after, _, .activated key) => ∃ tier, Due current filed tiers key tier ∧
        (∀ other place, Due current filed tiers other place → tier ≤ place) ∧
        Activates inspect sane after key tier
    | (after, _, .failed) => sane after := by
  induction tiers generalizing state filed with
  | nil => exact ⟨begins, fun key tier due => nomatch due.offered⟩
  | cons tier rest ih =>
      obtain ⟨above, later⟩ := List.pairwise_cons.mp sorted
      have sifted := scan_tier_sifts honest tier (Filed.keysAt filed tier) state filed begins
        ascending
      have kept := scan_tier_ascending inspect tier (Filed.keysAt filed tier) state filed
        ascending
      rw [scan]
      cases result : scanTier inspect tier (Filed.keysAt filed tier) state filed with
      | mk after others =>
          obtain ⟨left, ended⟩ := others
          rw [result] at sifted kept
          cases ended with
          | failed => exact sifted
          | activated key =>
              obtain ⟨member, belongs, activates⟩ := sifted
              refine ⟨tier, ⟨belongs, List.mem_cons_self, tier, List.mem_cons_self,
                Nat.le_refl tier, member⟩, fun other place due => ?_, activates⟩
              rcases List.mem_cons.mp due.offered with same | more
              · exact Nat.le_of_eq same.symm
              · exact Nat.le_of_lt (above place more)
          | exhausted =>
              have more := ih after left sifted.1 kept later
              simp only [due_beyond above sifted]
              exact more

end Finding

end Scan

end Tiers

end PoliteCrawl
