import PoliteCrawl.CrawlUri

set_option autoImplicit false

namespace PoliteCrawl

inductive Deed where
  | accepted (uri : CrawlUri)
  | arrived (uri : CrawlUri)
  | departed (uri : CrawlUri)
  | handed (uri : CrawlUri)
  | retried (uri : CrawlUri)
  | finished (uri : CrawlUri)
deriving DecidableEq, Repr

namespace Deed

def uri : Deed → CrawlUri
  | .accepted uri => uri
  | .arrived uri => uri
  | .departed uri => uri
  | .handed uri => uri
  | .retried uri => uri
  | .finished uri => uri

def joined? : Deed → Option CrawlUri
  | .accepted uri => some uri
  | .arrived uri => some uri
  | _ => none

def left? : Deed → Option CrawlUri
  | .departed uri => some uri
  | .finished uri => some uri
  | _ => none

def accepted? : Deed → Option CrawlUri
  | .accepted uri => some uri
  | _ => none

def arrived? : Deed → Option CrawlUri
  | .arrived uri => some uri
  | _ => none

def departed? : Deed → Option CrawlUri
  | .departed uri => some uri
  | _ => none

def handed? : Deed → Option CrawlUri
  | .handed uri => some uri
  | _ => none

def returned? : Deed → Option CrawlUri
  | .retried uri => some uri
  | .finished uri => some uri
  | _ => none

def finished? : Deed → Option CrawlUri
  | .finished uri => some uri
  | _ => none

end Deed

def CrawlUri.again (uri : CrawlUri) : CrawlUri :=
  { uri with retries := uri.retries + 1 }

-- A URI but for the number of its attempts.
def CrawlUri.bare (uri : CrawlUri) : CrawlUri :=
  { uri with retries := 0 }

def CrawlUri.essence (uri : CrawlUri) : CrawlUri :=
  { uri with retries := 0, siteKey := "" }

-- One site, seen from outside: its URIs wait in line, at most one of them is in flight, and that
-- one is always the first.
structure Lane where
  items : List CrawlUri
  busy : Bool
deriving DecidableEq, Repr

namespace Lane

def empty : Lane :=
  { items := [], busy := false }

def isHead (lane : Lane) (uri : CrawlUri) : Bool :=
  lane.items.head? = some uri

-- What a deed makes of a lane, if it may happen: URIs join at the end, and whatever else happens
-- happens to the head. A head in flight neither departs nor is handed out again.
def take (lane : Lane) : Deed → Option Lane
  | .accepted uri => some { lane with items := lane.items ++ [uri] }
  | .arrived uri => some { lane with items := lane.items ++ [uri] }
  | .departed uri =>
      if lane.isHead uri && !lane.busy then some { lane with items := lane.items.tail } else none
  | .handed uri =>
      if lane.isHead uri && !lane.busy then some { lane with busy := true } else none
  | .retried uri =>
      if lane.isHead uri && lane.busy then
        some { items := uri.again :: lane.items.tail, busy := false }
      else none
  | .finished uri =>
      if lane.isHead uri && lane.busy then some { items := lane.items.tail, busy := false }
      else none

def replay? (lane : Lane) : List Deed → Option Lane
  | [] => some lane
  | deed :: deeds => (lane.take deed).bind fun next => next.replay? deeds

end Lane

def inFlight? (deeds : List Deed) : Option CrawlUri :=
  deeds.foldl step none
where
  step (flying : Option CrawlUri) : Deed → Option CrawlUri
    | .handed uri => some uri
    | .retried _ => none
    | .finished _ => none
    | _ => flying

namespace Lane

theorem replay_append (lane : Lane) (first second : List Deed) :
    lane.replay? (first ++ second) = (lane.replay? first).bind fun next => next.replay? second := by
  induction first generalizing lane with
  | nil => rfl
  | cons deed deeds ih =>
      simp only [List.cons_append, replay?]
      cases lane.take deed with
      | none => rfl
      | some next => exact ih next

theorem replay_joins (first middle last : Lane) (deeds more : List Deed)
    (one : first.replay? deeds = some middle) (two : middle.replay? more = some last) :
    first.replay? (deeds ++ more) = some last := by
  rw [replay_append, one]
  exact two

theorem joining_deeds (deeds : List Deed) (joining : ∀ deed ∈ deeds, deed.joined?.isSome) :
    deeds.map Deed.joined? = (deeds.filterMap Deed.joined?).map some := by
  induction deeds with
  | nil => rfl
  | cons deed rest ih =>
      obtain ⟨uri, joined⟩ := Option.isSome_iff_exists.mp (joining deed List.mem_cons_self)
      have others := ih fun other listed => joining other (List.mem_cons_of_mem deed listed)
      rw [List.filterMap_cons_some joined, List.map_cons, List.map_cons, joined, others]

theorem replay_joining (lane : Lane) (deeds : List Deed) (uris : List CrawlUri)
    (joining : deeds.map Deed.joined? = uris.map some) :
    lane.replay? deeds = some { lane with items := lane.items ++ uris } := by
  induction deeds generalizing lane uris with
  | nil =>
      obtain rfl : uris = [] := List.map_eq_nil_iff.mp joining.symm
      simp [replay?]
  | cons deed deeds ih =>
      cases uris with
      | nil => cases joining
      | cons uri uris =>
          obtain ⟨first, others⟩ := List.cons.inj joining
          have taken : lane.take deed = some { lane with items := lane.items ++ [uri] } := by
            cases deed with
            | accepted joined | arrived joined => cases first; rfl
            | _ => cases first
          rw [replay?, taken, Option.bind_some, ih _ uris others]
          simp

theorem replay_induction {motive : Lane → List Deed → Prop} (after : Lane)
    (nil : motive after [])
    (cons : ∀ lane next deed deeds, lane.take deed = some next → motive next deeds →
      motive lane (deed :: deeds))
    (lane : Lane) (deeds : List Deed) (replayed : lane.replay? deeds = some after) :
    motive lane deeds := by
  induction deeds generalizing lane with
  | nil =>
      cases replayed
      exact nil
  | cons deed deeds ih =>
      obtain ⟨next, taken, rest⟩ := Option.bind_eq_some_iff.mp replayed
      exact cons lane next deed deeds taken (ih next rest)

theorem head_first (lane : Lane) (uri : CrawlUri) (head : lane.isHead uri = true) :
    lane.items = uri :: lane.items.tail := by
  have first : lane.items.head? = some uri := by simpa [isHead] using head
  cases items : lane.items with
  | nil => simp [items] at first
  | cons other rest =>
      have same : other = uri := by simpa [items] using first
      simp [same]

theorem take_departed (lane next : Lane) (uri : CrawlUri)
    (taken : lane.take (.departed uri) = some next) :
    lane.items = uri :: next.items ∧ lane.busy = false ∧ next.busy = false := by
  simp only [take, Option.ite_none_right_eq_some, Bool.and_eq_true, Bool.not_eq_true'] at taken
  obtain ⟨⟨head, idle⟩, same⟩ := taken
  cases same
  exact ⟨head_first lane uri head, idle, idle⟩

theorem take_handed (lane next : Lane) (uri : CrawlUri)
    (taken : lane.take (.handed uri) = some next) :
    lane.items.head? = some uri ∧ lane.busy = false ∧ next = { lane with busy := true } := by
  simp only [take, Option.ite_none_right_eq_some, Bool.and_eq_true, Bool.not_eq_true',
    Option.some.injEq] at taken
  obtain ⟨⟨head, idle⟩, same⟩ := taken
  exact ⟨by simpa [isHead] using head, idle, same.symm⟩

theorem take_retried (lane next : Lane) (uri : CrawlUri)
    (taken : lane.take (.retried uri) = some next) :
    lane.items = uri :: lane.items.tail ∧ lane.busy = true ∧
      next = { items := uri.again :: lane.items.tail, busy := false } := by
  simp only [take, Option.ite_none_right_eq_some, Bool.and_eq_true, Option.some.injEq] at taken
  obtain ⟨⟨head, busy⟩, same⟩ := taken
  exact ⟨head_first lane uri head, busy, same.symm⟩

theorem take_finished (lane next : Lane) (uri : CrawlUri)
    (taken : lane.take (.finished uri) = some next) :
    lane.items = uri :: next.items ∧ lane.busy = true ∧ next.busy = false := by
  simp only [take, Option.ite_none_right_eq_some, Bool.and_eq_true, Option.some.injEq] at taken
  obtain ⟨⟨head, busy⟩, same⟩ := taken
  cases same
  exact ⟨head_first lane uri head, busy, rfl⟩

theorem bare_again (uri : CrawlUri) : uri.again.bare = uri.bare :=
  rfl

theorem take_fifo (lane next : Lane) (deed : Deed) (taken : lane.take deed = some next) :
    (lane.items ++ deed.joined?.toList).map CrawlUri.bare =
      (deed.left?.toList ++ next.items).map CrawlUri.bare := by
  cases deed with
  | accepted uri => cases taken; rfl
  | arrived uri => cases taken; rfl
  | departed uri =>
      have split := (take_departed lane next uri taken).1
      simp [Deed.joined?, Deed.left?, split]
  | handed uri =>
      have same := (take_handed lane next uri taken).2.2
      simp [Deed.joined?, Deed.left?, same]
  | retried uri =>
      obtain ⟨split, _, same⟩ := take_retried lane next uri taken
      rw [split]
      simp [Deed.joined?, Deed.left?, same, bare_again]
  | finished uri =>
      have split := (take_finished lane next uri taken).1
      simp [Deed.joined?, Deed.left?, split]

theorem filter_map_head {α β : Type} (f : α → Option β) (first : α) (rest : List α) :
    (first :: rest).filterMap f = (f first).toList ++ rest.filterMap f := by
  cases image : f first <;> simp [image]

-- The URIs that ever stood in line are those that left it, in this order, and then those that stand
-- there now.
theorem replay_fifo (lane after : Lane) (deeds : List Deed)
    (replayed : lane.replay? deeds = some after) :
    (lane.items ++ deeds.filterMap Deed.joined?).map CrawlUri.bare =
      (deeds.filterMap Deed.left? ++ after.items).map CrawlUri.bare := by
  refine replay_induction (motive := fun lane deeds =>
    (lane.items ++ deeds.filterMap Deed.joined?).map CrawlUri.bare =
      (deeds.filterMap Deed.left? ++ after.items).map CrawlUri.bare) after ?_ ?_ lane deeds replayed
  · simp
  · intro lane next deed deeds taken rest
    have step := take_fifo lane next deed taken
    simp only [filter_map_head, List.map_append] at step rest ⊢
    rw [← List.append_assoc, step, List.append_assoc, List.append_assoc, rest]

theorem take_tail (lane next : Lane) (deed : Deed) (more : List CrawlUri)
    (taken : lane.take deed = some next) :
    next.items.tail ++ more <:+ lane.items.tail ++ (deed.joined?.toList ++ more) := by
  have joining (uri : CrawlUri) :
      (lane.items ++ [uri]).tail ++ more <:+ lane.items.tail ++ ([uri] ++ more) := by
    cases lane.items with
    | nil => exact List.suffix_cons uri more
    | cons head tail => simp
  have shorter (items : List CrawlUri) : items.tail ++ more <:+ items ++ more := by
    obtain ⟨front, whole⟩ := List.tail_suffix items
    exact ⟨front, by rw [← List.append_assoc, whole]⟩
  cases deed with
  | accepted uri => cases taken; exact joining uri
  | arrived uri => cases taken; exact joining uri
  | departed uri =>
      have split := (take_departed lane next uri taken).1
      rw [split]
      exact shorter next.items
  | handed uri =>
      have same := (take_handed lane next uri taken).2.2
      simp [Deed.joined?, same]
  | retried uri =>
      have same := (take_retried lane next uri taken).2.2
      simp [Deed.joined?, same]
  | finished uri =>
      have split := (take_finished lane next uri taken).1
      rw [split]
      exact shorter next.items

theorem replay_tail (lane after : Lane) (deeds : List Deed)
    (replayed : lane.replay? deeds = some after) :
    after.items.tail <:+ lane.items.tail ++ deeds.filterMap Deed.joined? := by
  refine replay_induction (motive := fun lane deeds =>
    after.items.tail <:+ lane.items.tail ++ deeds.filterMap Deed.joined?) after ?_ ?_ lane deeds
    replayed
  · simp
  · intro lane next deed deeds taken rest
    rw [filter_map_head]
    exact rest.trans (take_tail lane next deed _ taken)

theorem take_flights (lane next : Lane) (deed : Deed) (taken : lane.take deed = some next) :
    deed.handed?.toList.length + lane.busy.toNat =
      deed.returned?.toList.length + next.busy.toNat := by
  cases deed with
  | accepted uri => cases taken; rfl
  | arrived uri => cases taken; rfl
  | departed uri =>
      obtain ⟨_, before, after⟩ := take_departed lane next uri taken
      simp [Deed.handed?, Deed.returned?, before, after]
  | handed uri =>
      obtain ⟨_, idle, same⟩ := take_handed lane next uri taken
      simp [Deed.handed?, Deed.returned?, idle, same]
  | retried uri =>
      obtain ⟨_, busy, same⟩ := take_retried lane next uri taken
      simp [Deed.handed?, Deed.returned?, busy, same]
  | finished uri =>
      obtain ⟨_, busy, after⟩ := take_finished lane next uri taken
      simp [Deed.handed?, Deed.returned?, busy, after]

theorem replay_flights (lane after : Lane) (deeds : List Deed)
    (replayed : lane.replay? deeds = some after) :
    (deeds.filterMap Deed.handed?).length + lane.busy.toNat =
      (deeds.filterMap Deed.returned?).length + after.busy.toNat := by
  refine replay_induction (motive := fun lane deeds =>
    (deeds.filterMap Deed.handed?).length + lane.busy.toNat =
      (deeds.filterMap Deed.returned?).length + after.busy.toNat) after ?_ ?_ lane deeds replayed
  · simp
  · intro lane next deed deeds taken rest
    have step := take_flights lane next deed taken
    simp only [filter_map_head, List.length_append]
    omega

def Flies (lane : Lane) (flying : Option CrawlUri) : Prop :=
  lane.busy = flying.isSome ∧ ∀ uri, flying = some uri → lane.items.head? = some uri

theorem flies_joined (lane : Lane) (flying : Option CrawlUri) (uri : CrawlUri)
    (flies : lane.Flies flying) :
    Flies { lane with items := lane.items ++ [uri] } flying := by
  refine ⟨flies.1, fun flown same => ?_⟩
  have head := flies.2 flown same
  cases items : lane.items with
  | nil => simp [items] at head
  | cons first rest => simpa [items] using head

theorem take_flies (lane next : Lane) (deed : Deed) (flying : Option CrawlUri)
    (taken : lane.take deed = some next) (flies : lane.Flies flying) :
    next.Flies (inFlight?.step flying deed) := by
  cases deed with
  | accepted uri => cases taken; exact flies_joined lane flying uri flies
  | arrived uri => cases taken; exact flies_joined lane flying uri flies
  | departed uri =>
      obtain ⟨_, before, after⟩ := take_departed lane next uri taken
      have grounded : flying = none := by simpa [before] using flies.1
      subst grounded
      exact ⟨after, by simp [inFlight?.step]⟩
  | handed uri =>
      obtain ⟨head, _, same⟩ := take_handed lane next uri taken
      subst same
      exact ⟨rfl, fun flown same => by cases same; exact head⟩
  | retried uri =>
      have same := (take_retried lane next uri taken).2.2
      subst same
      exact ⟨rfl, by simp [inFlight?.step]⟩
  | finished uri =>
      have after := (take_finished lane next uri taken).2.2
      exact ⟨after, by simp [inFlight?.step]⟩

theorem replay_flies (lane after : Lane) (deeds : List Deed) (flying : Option CrawlUri)
    (flies : lane.Flies flying) (replayed : lane.replay? deeds = some after) :
    after.Flies (deeds.foldl inFlight?.step flying) := by
  induction deeds generalizing lane flying with
  | nil =>
      cases replayed
      exact flies
  | cons deed deeds ih =>
      obtain ⟨next, taken, rest⟩ := Option.bind_eq_some_iff.mp replayed
      exact ih next (inFlight?.step flying deed) (take_flies lane next deed flying taken flies) rest

theorem replay_in_flight (after : Lane) (deeds : List Deed)
    (replayed : empty.replay? deeds = some after) : after.Flies (inFlight? deeds) :=
  replay_flies empty after deeds none ⟨rfl, by simp⟩ replayed

end Lane

end PoliteCrawl
