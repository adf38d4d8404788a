import PoliteCrawl.Proofs.Lane

set_option autoImplicit false

namespace PoliteCrawl

structure Entry where
  key : String
  deed : Deed
deriving DecidableEq, Repr

namespace Entry

def joined? (entry : Entry) : Option CrawlUri :=
  entry.deed.joined?

def left? (entry : Entry) : Option CrawlUri :=
  entry.deed.left?

def accepted? (entry : Entry) : Option CrawlUri :=
  entry.deed.accepted?

def arrived? (entry : Entry) : Option CrawlUri :=
  entry.deed.arrived?

def departed? (entry : Entry) : Option CrawlUri :=
  entry.deed.departed?

def handed? (entry : Entry) : Option CrawlUri :=
  entry.deed.handed?

def finished? (entry : Entry) : Option CrawlUri :=
  entry.deed.finished?

def Addressed (entry : Entry) : Prop :=
  ∀ uri, entry.joined? = some uri → uri.siteKey = entry.key

end Entry

def deedsOn (key : String) (entries : List Entry) : List Deed :=
  (entries.filter (·.key = key)).map (·.deed)

theorem deeds_append (key : String) (first second : List Entry) :
    deedsOn key (first ++ second) = deedsOn key first ++ deedsOn key second := by
  simp [deedsOn]

theorem deeds_cons (key : String) (entry : Entry) (rest : List Entry) :
    deedsOn key (entry :: rest) =
      if entry.key = key then entry.deed :: deedsOn key rest else deedsOn key rest := by
  by_cases here : entry.key = key <;> simp [deedsOn, here]

theorem deeds_elsewhere (key : String) (entries : List Entry)
    (elsewhere : ∀ entry ∈ entries, entry.key ≠ key) : deedsOn key entries = [] := by
  simpa [deedsOn] using elsewhere

theorem deeds_here (key : String) (entries : List Entry)
    (here : ∀ entry ∈ entries, entry.key = key) :
    deedsOn key entries = entries.map (·.deed) := by
  have all : entries.filter (·.key = key) = entries := by simpa using here
  rw [deedsOn, all]

-- Whoever departs from one site arrives at another at once.
def Paired (entries : List Entry) : Prop :=
  (entries.filterMap Entry.arrived?).map CrawlUri.essence =
    (entries.filterMap Entry.departed?).map CrawlUri.essence

theorem Paired.append {first second : List Entry} (one : Paired first) (two : Paired second) :
    Paired (first ++ second) := by
  simp only [Paired, List.filterMap_append, List.map_append] at one two ⊢
  rw [one, two]

structure Ledger where
  lane : String → Lane
  contents : List CrawlUri
  queued : Nat

namespace Ledger

def Counted (ledger : Ledger) : Prop :=
  ledger.queued = ledger.contents.length

def idle (ledger : Ledger) (key : String) : Ledger :=
  { ledger with
    lane := fun other =>
      if other = key then { ledger.lane other with busy := false } else ledger.lane other }

-- Do the entries lead from one ledger to another? Each lane follows its deeds, and whoever joins or
-- leaves a lane is added to all others or taken from them.
structure Posted (before : Ledger) (entries : List Entry) (after : Ledger) : Prop where
  lanes : ∀ key, (before.lane key).replay? (deedsOn key entries) = some (after.lane key)
  contents :
    ((after.contents ++ entries.filterMap Entry.left?).map CrawlUri.bare).Perm
      ((before.contents ++ entries.filterMap Entry.joined?).map CrawlUri.bare)
  queued : before.Counted →
    after.queued + (entries.filterMap Entry.left?).length =
      before.queued + (entries.filterMap Entry.joined?).length

theorem Posted.refl (ledger : Ledger) : ledger.Posted [] ledger :=
  ⟨fun _ => rfl, .refl _, fun _ => rfl⟩

theorem Posted.counted {before after : Ledger} {entries : List Entry}
    (posted : before.Posted entries after) (counted : before.Counted) : after.Counted := by
  have lengths := posted.contents.length_eq
  have queued := posted.queued counted
  simp only [List.length_map, List.length_append] at lengths
  unfold Counted at counted ⊢
  omega

theorem Posted.trans {first second third : Ledger} {early late : List Entry}
    (one : first.Posted early second) (two : second.Posted late third) :
    first.Posted (early ++ late) third := by
  refine ⟨fun key => ?_, List.perm_iff_count.mpr fun uri => ?_, fun counted => ?_⟩
  · rw [deeds_append]
    exact Lane.replay_joins _ _ _ _ _ (one.lanes key) (two.lanes key)
  · have before := one.contents.count_eq uri
    have after := two.contents.count_eq uri
    simp only [List.map_append, List.filterMap_append, List.count_append] at before after ⊢
    omega
  · have before := one.queued counted
    have after := two.queued (one.counted counted)
    simp only [List.filterMap_append, List.length_append]
    omega

theorem Posted.idle {before after : Ledger} {entries : List Entry} (key : String)
    (elsewhere : ∀ entry ∈ entries, entry.key ≠ key) (posted : before.Posted entries after) :
    (before.idle key).Posted entries (after.idle key) := by
  refine ⟨fun other => ?_, posted.contents, posted.queued⟩
  by_cases here : other = key
  · subst here
    have same := posted.lanes other
    rw [deeds_elsewhere other entries elsewhere] at same ⊢
    simp only [Lane.replay?, Option.some.injEq] at same
    simp [Ledger.idle, Lane.replay?, same]
  · simpa [Ledger.idle, here] using posted.lanes other

structure Differs (key : String) (before after : Ledger) : Prop where
  others : ∀ other, other ≠ key → after.lane other = before.lane other
  contents :
    (after.contents ++ (before.lane key).items).Perm (before.contents ++ (after.lane key).items)

theorem idle_items (ledger : Ledger) (key other : String) :
    ((ledger.idle key).lane other).items = (ledger.lane other).items := by
  simp only [idle]
  split <;> rfl

theorem idle_other (ledger : Ledger) (key other : String) (different : other ≠ key) :
    (ledger.idle key).lane other = ledger.lane other := by
  simp [idle, different]

theorem idle_here (ledger : Ledger) (key : String) :
    (ledger.idle key).lane key = { ledger.lane key with busy := false } := by
  simp [idle]

theorem Differs.idle_before {key : String} {before after : Ledger}
    (differs : Differs key before after) : Differs key (before.idle key) after := by
  refine ⟨fun other different => ?_, ?_⟩
  · rw [idle_other before key other different]
    exact differs.others other different
  · rw [idle_items]
    exact differs.contents

theorem Differs.idle_after {key : String} {before after : Ledger}
    (differs : Differs key before after) : Differs key before (after.idle key) := by
  refine ⟨fun other different => ?_, ?_⟩
  · rw [idle_other after key other different]
    exact differs.others other different
  · rw [idle_items]
    exact differs.contents

theorem Differs.posted {key : String} {before after : Ledger} {entries : List Entry}
    (differs : Differs key before after) (here : ∀ entry ∈ entries, entry.key = key)
    (replayed : (before.lane key).replay? (entries.map (·.deed)) = some (after.lane key))
    (queued : before.Counted →
      after.queued + (entries.filterMap Entry.left?).length =
        before.queued + (entries.filterMap Entry.joined?).length) :
    before.Posted entries after := by
  refine ⟨fun other => ?_, List.perm_iff_count.mpr fun uri => ?_, queued⟩
  · by_cases same : other = key
    · subst same
      rwa [deeds_here other entries here]
    · rw [deeds_elsewhere other entries fun entry member also =>
        same (also.symm.trans (here entry member)), differs.others other same]
      rfl
  · have moved := (differs.contents.map CrawlUri.bare).count_eq uri
    have line := congrArg (List.count uri) (Lane.replay_fifo _ _ _ replayed)
    simp only [List.filterMap_map, List.map_append, List.count_append] at moved line ⊢
    change _ + List.count uri ((entries.filterMap Entry.joined?).map _) =
      List.count uri ((entries.filterMap Entry.left?).map _) + _ at line
    omega

def nothing : Ledger :=
  { lane := fun _ => Lane.empty, contents := [], queued := 0 }

theorem nothing_counted : nothing.Counted :=
  rfl

theorem Posted.addressed {after : Ledger} {entries : List Entry}
    (posted : nothing.Posted entries after) (addressed : ∀ entry ∈ entries, entry.Addressed)
    (key : String) (uri : CrawlUri) (member : uri ∈ (after.lane key).items) :
    uri.siteKey = key := by
  have line := Lane.replay_fifo Lane.empty (after.lane key) _ (posted.lanes key)
  have joined : uri.bare ∈
      (Lane.empty.items ++ (deedsOn key entries).filterMap Deed.joined?).map CrawlUri.bare := by
    rw [line]
    exact List.mem_map_of_mem (List.mem_append_right _ member)
  obtain ⟨origin, found, same⟩ := List.mem_map.mp joined
  obtain ⟨deed, happened, named⟩ := List.mem_filterMap.mp (by simpa [Lane.empty] using found)
  obtain ⟨entry, listed, whole⟩ := List.mem_map.mp happened
  obtain ⟨inside, here⟩ := List.mem_filter.mp listed
  have site : origin.siteKey = entry.key := addressed entry inside origin (by
    rw [Entry.joined?, whole]
    exact named)
  have kept : uri.siteKey = origin.siteKey := by
    have fields := congrArg CrawlUri.siteKey same
    exact fields.symm
  exact kept.trans (site.trans (by simpa using here))

end Ledger

end PoliteCrawl
