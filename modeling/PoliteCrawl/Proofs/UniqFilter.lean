import PoliteCrawl.UniqFilter

set_option autoImplicit false

namespace PoliteCrawl

namespace UniqFilter

inductive Request where
  | add (uri : CrawlUri)
  | addForce (uri : CrawlUri)
  | note (uri : CrawlUri)
  | forget (uri : CrawlUri)
  | flush
  | close
  | finish
deriving DecidableEq, Repr

inductive Answer where
  | taken
  | declined
  | flushed (batch : List CrawlUri) (count : Nat)
  | refused (cause : GatewayError)
  | done
deriving DecidableEq, Repr

def Answer.refuses : Answer → Bool
  | .declined => true
  | .refused _ => true
  | _ => false

structure Exchange where
  request : Request
  answer : Answer
deriving DecidableEq, Repr

namespace Exchange

def accepted? : Exchange → Option CrawlUri
  | ⟨.add uri, .taken⟩ => some uri
  | ⟨.addForce uri, .taken⟩ => some uri
  | _ => none

def batch : Exchange → List CrawlUri
  | ⟨_, .flushed batch _⟩ => batch
  | _ => []

def marked? : Exchange → Option String
  | ⟨.add uri, .taken⟩ => some uri.uniqKey
  | ⟨.addForce uri, .taken⟩ => some uri.uniqKey
  | ⟨.note uri, _⟩ => some uri.uniqKey
  | _ => none

def forgotten? : Exchange → Option String
  | ⟨.forget uri, _⟩ => some uri.uniqKey
  | _ => none

end Exchange

def accepted (log : List Exchange) : List CrawlUri :=
  log.filterMap Exchange.accepted?

def flushed (log : List Exchange) : List CrawlUri :=
  log.flatMap Exchange.batch

def Open (log : List Exchange) : Prop :=
  ∀ exchange ∈ log, exchange.request ≠ .close

-- A key was marked, and not forgotten since.
def Remembered (log : List Exchange) (key : String) : Prop :=
  ∃ before exchange after, log = before ++ exchange :: after ∧ exchange.marked? = some key ∧
    ∀ later ∈ after, later.forgotten? ≠ some key

def offerAnswer (accepted : Bool) : Answer :=
  if accepted then .taken else .declined

def serve (filter : UniqFilter) : Request → UniqFilter × Answer
  | .add uri => ((filter.add uri).1, offerAnswer (filter.add uri).2)
  | .addForce uri => ((filter.addForce uri).1, offerAnswer (filter.addForce uri).2)
  | .note uri => (filter.note uri, .done)
  | .forget uri => (filter.forget uri, .done)
  | .flush =>
      match filter.takeBatch with
      | .ok (after, batch) => (after, .flushed batch batch.length)
      | .error cause => (filter, .refused cause)
  | .close => (filter.close, .done)
  | .finish => (filter.noteFinished, .done)

structure Session where
  filter : UniqFilter
  log : List Exchange
deriving DecidableEq, Repr

namespace Session

def serve (session : Session) (request : Request) : Session :=
  { filter := (session.filter.serve request).1
    log := session.log ++ [⟨request, (session.filter.serve request).2⟩] }

def run (size : Nat) (requests : List Request) : Session :=
  requests.foldl serve { filter := UniqFilter.new size, log := [] }

theorem run_append (size : Nat) (requests later : List Request) :
    run size (requests ++ later) = later.foldl serve (run size requests) := by
  simp [run]

end Session

theorem open_snoc (log : List Exchange) (exchange : Exchange) :
    Open (log ++ [exchange]) ↔ Open log ∧ exchange.request ≠ .close := by
  simp [Open, or_imp, forall_and]

theorem remembered_snoc (log : List Exchange) (last : Exchange) (key : String) :
    Remembered (log ++ [last]) key ↔
      last.marked? = some key ∨ Remembered log key ∧ last.forgotten? ≠ some key := by
  constructor
  · rintro ⟨before, exchange, after, split, marked, kept⟩
    rcases List.eq_nil_or_concat after with rfl | ⟨middle, final, rfl⟩
    · obtain ⟨_, same⟩ := List.append_inj' split rfl
      obtain rfl : last = exchange := by simpa using same
      exact .inl marked
    · have whole : log ++ [last] = (before ++ exchange :: middle) ++ [final] := by simpa using split
      obtain ⟨early, same⟩ := List.append_inj' whole rfl
      obtain rfl : last = final := by simpa using same
      exact .inr ⟨⟨before, exchange, middle, early, marked,
        fun later listed => kept later (by simp [listed])⟩, kept last (by simp)⟩
  · rintro (marked | ⟨⟨before, exchange, after, split, marked, kept⟩, stays⟩)
    · exact ⟨log, last, [], rfl, marked, by simp⟩
    · refine ⟨before, exchange, after ++ [last], by simp [split], marked, fun later listed => ?_⟩
      rcases List.mem_append.mp listed with earlier | final
      · exact kept later earlier
      · exact List.mem_singleton.mp final ▸ stays

theorem accepted_snoc (log : List Exchange) (last : Exchange) :
    accepted (log ++ [last]) = accepted log ++ last.accepted?.toList := by
  cases image : last.accepted? <;> simp [accepted, image]

theorem flushed_snoc (log : List Exchange) (last : Exchange) :
    flushed (log ++ [last]) = flushed log ++ last.batch := by
  simp [flushed]

theorem has_seen_iff (filter : UniqFilter) (uri : CrawlUri) :
    filter.hasSeen uri = true ↔ uri.uniqKey ∈ filter.seen := by
  simp [hasSeen]

theorem note_seen (filter : UniqFilter) (uri : CrawlUri) (key : String) :
    key ∈ (filter.note uri).seen ↔ uri.uniqKey = key ∨ key ∈ filter.seen := by
  rw [note]
  by_cases seen : filter.hasSeen uri = true
  · rw [if_pos seen]
    have listed := (filter.has_seen_iff uri).mp seen
    exact ⟨.inr, fun known => known.elim (fun same => same ▸ listed) id⟩
  · rw [if_neg seen, List.mem_cons, eq_comm]

theorem note_once (filter : UniqFilter) (uri : CrawlUri) (once : filter.seen.Nodup) :
    (filter.note uri).seen.Nodup := by
  rw [note]
  by_cases seen : filter.hasSeen uri = true
  · rw [if_pos seen]
    exact once
  · rw [if_neg seen]
    exact List.nodup_cons.mpr ⟨fun listed => seen ((filter.has_seen_iff uri).mpr listed), once⟩

theorem note_rest (filter : UniqFilter) (uri : CrawlUri) :
    (filter.note uri).pending = filter.pending ∧ (filter.note uri).added = filter.added ∧
      (filter.note uri).closed = filter.closed ∧ (filter.note uri).batchSize = filter.batchSize := by
  rw [note]
  split <;> exact ⟨rfl, rfl, rfl, rfl⟩

-- A filter that knows what came of all requests so far.
structure Faithful (size : Nat) (log : List Exchange) (filter : UniqFilter) : Prop where
  seen : ∀ key, key ∈ filter.seen ↔ Remembered log key
  once : filter.seen.Nodup
  line : flushed log ++ filter.pending = accepted log
  added : filter.added = (accepted log).length
  closed : filter.closed = false ↔ Open log
  batch : filter.batchSize = max size 1

section Faithful

variable {size : Nat} {log : List Exchange} {filter : UniqFilter}

theorem Faithful.idle (faithful : Faithful size log filter) (last : Exchange)
    (marked : last.marked? = none) (forgotten : last.forgotten? = none)
    (accepted? : last.accepted? = none) (batch : last.batch = [])
    (goes : last.request ≠ .close) : Faithful size (log ++ [last]) filter where
  seen key := by
    rw [remembered_snoc, marked, forgotten, faithful.seen key]
    simp
  once := faithful.once
  line := by
    rw [flushed_snoc, accepted_snoc, accepted?, batch]
    simpa using faithful.line
  added := by
    rw [accepted_snoc, accepted?]
    simpa using faithful.added
  closed := by
    rw [open_snoc, faithful.closed]
    exact (and_iff_left goes).symm
  batch := faithful.batch

theorem Faithful.takes (faithful : Faithful size log filter) (uri : CrawlUri) (last : Exchange)
    (marked : last.marked? = some uri.uniqKey) (forgotten : last.forgotten? = none)
    (accepted? : last.accepted? = some uri) (batch : last.batch = [])
    (goes : last.request ≠ .close) :
    Faithful size (log ++ [last]) ((filter.note uri).buffer uri) := by
  obtain ⟨pending, added, closed, bound⟩ := filter.note_rest uri
  refine ⟨fun key => ?_, filter.note_once uri faithful.once, ?_, ?_, ?_, bound.trans faithful.batch⟩
  · rw [remembered_snoc, marked, forgotten, ← faithful.seen key]
    exact (filter.note_seen uri key).trans (by simp)
  · rw [flushed_snoc, accepted_snoc, accepted?, batch, List.append_nil]
    change flushed log ++ ((filter.note uri).pending ++ [uri]) = accepted log ++ [uri]
    rw [pending, ← List.append_assoc, faithful.line]
  · change (filter.note uri).added + 1 = _
    rw [accepted_snoc, accepted?, added, faithful.added]
    simp
  · change (filter.note uri).closed = false ↔ _
    rw [open_snoc, closed, faithful.closed]
    exact (and_iff_left goes).symm

theorem Faithful.notes (faithful : Faithful size log filter) (uri : CrawlUri) :
    Faithful size (log ++ [⟨.note uri, .done⟩]) (filter.note uri) := by
  obtain ⟨pending, added, closed, bound⟩ := filter.note_rest uri
  refine ⟨fun key => ?_, filter.note_once uri faithful.once, ?_, ?_, ?_, bound.trans faithful.batch⟩
  · rw [remembered_snoc, ← faithful.seen key]
    exact (filter.note_seen uri key).trans (by simp [Exchange.marked?, Exchange.forgotten?])
  · rw [flushed_snoc, accepted_snoc, pending]
    simpa [Exchange.batch, Exchange.accepted?] using faithful.line
  · rw [accepted_snoc, added]
    simpa [Exchange.accepted?] using faithful.added
  · rw [open_snoc, closed, faithful.closed]
    simp

theorem Faithful.forgets (faithful : Faithful size log filter) (uri : CrawlUri) :
    Faithful size (log ++ [⟨.forget uri, .done⟩]) (filter.forget uri) := by
  refine ⟨fun key => ?_, faithful.once.filter _, ?_, ?_, ?_, faithful.batch⟩
  · rw [remembered_snoc, ← faithful.seen key]
    simp [forget, Exchange.marked?, Exchange.forgotten?, ne_comm]
  · rw [flushed_snoc, accepted_snoc]
    simpa [forget, Exchange.batch, Exchange.accepted?] using faithful.line
  · rw [accepted_snoc]
    simpa [forget, Exchange.accepted?] using faithful.added
  · rw [open_snoc]
    simpa [forget] using faithful.closed

theorem Faithful.flushes (faithful : Faithful size log filter) :
    Faithful size
      (log ++ [⟨.flush, .flushed (filter.pending.take filter.batchSize)
        (filter.pending.take filter.batchSize).length⟩])
      { filter with pending := filter.pending.drop filter.batchSize } := by
  refine ⟨fun key => ?_, faithful.once, ?_, ?_, ?_, faithful.batch⟩
  · rw [remembered_snoc, ← faithful.seen key]
    simp [Exchange.marked?, Exchange.forgotten?]
  · rw [flushed_snoc, accepted_snoc, ← faithful.line]
    simp [Exchange.batch, Exchange.accepted?]
  · rw [accepted_snoc]
    simpa [Exchange.accepted?] using faithful.added
  · rw [open_snoc]
    simpa using faithful.closed

theorem Faithful.closes (faithful : Faithful size log filter) :
    Faithful size (log ++ [⟨.close, .done⟩]) filter.close := by
  refine ⟨fun key => ?_, faithful.once, ?_, ?_, ?_, faithful.batch⟩
  · rw [remembered_snoc, ← faithful.seen key]
    simp [close, Exchange.marked?, Exchange.forgotten?]
  · rw [flushed_snoc, accepted_snoc]
    simpa [close, Exchange.batch, Exchange.accepted?] using faithful.line
  · rw [accepted_snoc]
    simpa [close, Exchange.accepted?] using faithful.added
  · rw [open_snoc]
    simp [close]

theorem Faithful.finishes (faithful : Faithful size log filter) :
    Faithful size (log ++ [⟨.finish, .done⟩]) filter.noteFinished := by
  obtain ⟨seen, once, line, added, closed, batch⟩ :=
    faithful.idle ⟨.finish, .done⟩ rfl rfl rfl rfl (by simp)
  exact ⟨seen, once, line, added, closed, batch⟩

theorem Faithful.add_answer (faithful : Faithful size log filter) (uri : CrawlUri) :
    (filter.add uri = ((filter.note uri).buffer uri, true) ∧ Open log ∧
        ¬ Remembered log uri.uniqKey) ∨
      (filter.add uri = (filter, false) ∧ ¬ (Open log ∧ ¬ Remembered log uri.uniqKey)) := by
  have seen := (filter.has_seen_iff uri).trans (faithful.seen uri.uniqKey)
  have closed := faithful.closed
  rw [add]
  by_cases refuses : (filter.closed || filter.hasSeen uri) = true
  · rw [if_pos refuses]
    refine .inr ⟨rfl, fun ⟨free, new⟩ => ?_⟩
    rcases Bool.or_eq_true_iff.mp refuses with shut | known
    · rw [closed.mpr free] at shut
      cases shut
    · exact new (seen.mp known)
  · rw [if_neg refuses]
    rw [Bool.or_eq_true_iff, not_or, Bool.not_eq_true] at refuses
    exact .inl ⟨rfl, closed.mp refuses.1, fun known => refuses.2 (seen.mpr known)⟩

theorem Faithful.force_answer (faithful : Faithful size log filter) (uri : CrawlUri) :
    (filter.addForce uri = ((filter.note uri).buffer uri, true) ∧ Open log) ∨
      (filter.addForce uri = (filter, false) ∧ ¬ Open log) := by
  rw [addForce, ← faithful.closed]
  cases filter.closed with
  | true => exact .inr ⟨rfl, by simp⟩
  | false => exact .inl ⟨rfl, rfl⟩

theorem Faithful.flush_answer (faithful : Faithful size log filter) :
    (filter.takeBatch = .ok ({ filter with pending := filter.pending.drop filter.batchSize },
        filter.pending.take filter.batchSize) ∧ Open log) ∨
      (filter.takeBatch = .error .closed ∧ ¬ Open log) := by
  rw [takeBatch, ← faithful.closed]
  cases filter.closed with
  | true => exact .inr ⟨rfl, by simp⟩
  | false => exact .inl ⟨rfl, rfl⟩

theorem Faithful.serves (faithful : Faithful size log filter) (request : Request) :
    Faithful size (log ++ [⟨request, (filter.serve request).2⟩]) (filter.serve request).1 := by
  cases request with
  | add uri =>
      simp only [serve]
      rcases faithful.add_answer uri with ⟨same, _⟩ | ⟨same, _⟩
      · rw [same]
        exact faithful.takes uri _ rfl rfl rfl rfl (by simp)
      · rw [same]
        exact faithful.idle _ rfl rfl rfl rfl (by simp)
  | addForce uri =>
      simp only [serve]
      rcases faithful.force_answer uri with ⟨same, _⟩ | ⟨same, _⟩
      · rw [same]
        exact faithful.takes uri _ rfl rfl rfl rfl (by simp)
      · rw [same]
        exact faithful.idle _ rfl rfl rfl rfl (by simp)
  | note uri => exact faithful.notes uri
  | forget uri => exact faithful.forgets uri
  | flush =>
      simp only [serve]
      rcases faithful.flush_answer with ⟨same, _⟩ | ⟨same, _⟩
      · rw [same]
        exact faithful.flushes
      · rw [same]
        exact faithful.idle _ rfl rfl rfl rfl (by simp)
  | close => exact faithful.closes
  | finish => exact faithful.finishes

theorem Faithful.refused (faithful : Faithful size log filter) (request : Request)
    (refuses : (filter.serve request).2.refuses = true) : (filter.serve request).1 = filter := by
  cases request with
  | add uri =>
      rcases faithful.add_answer uri with ⟨same, _⟩ | ⟨same, _⟩
      · simp [serve, same, offerAnswer, Answer.refuses] at refuses
      · simp only [serve, same]
  | addForce uri =>
      rcases faithful.force_answer uri with ⟨same, _⟩ | ⟨same, _⟩
      · simp [serve, same, offerAnswer, Answer.refuses] at refuses
      · simp only [serve, same]
  | flush =>
      rcases faithful.flush_answer with ⟨same, _⟩ | ⟨same, _⟩
      · simp [serve, same, Answer.refuses] at refuses
      · simp only [serve, same]
  | note uri | forget uri | close | finish => cases refuses

theorem Faithful.shut (faithful : Faithful size log filter) (shut : ¬ Open log)
    (request : Request) :
    (⟨request, (filter.serve request).2⟩ : Exchange).accepted? = none ∧
      (⟨request, (filter.serve request).2⟩ : Exchange).batch = [] := by
  cases request with
  | add uri =>
      rcases faithful.add_answer uri with ⟨_, free, _⟩ | ⟨same, _⟩
      · exact absurd free shut
      · simp only [serve, same]
        exact ⟨rfl, rfl⟩
  | addForce uri =>
      rcases faithful.force_answer uri with ⟨_, free⟩ | ⟨same, _⟩
      · exact absurd free shut
      · simp only [serve, same]
        exact ⟨rfl, rfl⟩
  | flush =>
      rcases faithful.flush_answer with ⟨_, free⟩ | ⟨same, _⟩
      · exact absurd free shut
      · simp only [serve, same]
        exact ⟨rfl, rfl⟩
  | note uri | forget uri | close | finish => exact ⟨rfl, rfl⟩

end Faithful

namespace Session

theorem fold_faithful (size : Nat) (requests : List Request) (session : Session)
    (faithful : Faithful size session.log session.filter) :
    Faithful size (requests.foldl serve session).log (requests.foldl serve session).filter := by
  induction requests generalizing session with
  | nil => exact faithful
  | cons request rest ih => exact ih (session.serve request) (faithful.serves request)

theorem run_faithful (size : Nat) (requests : List Request) :
    Faithful size (run size requests).log (run size requests).filter := by
  refine fold_faithful size requests _ ⟨fun key => ?_, .nil, rfl, rfl, ?_, rfl⟩
  · simp [UniqFilter.new, Remembered]
  · simp [UniqFilter.new, Open]

theorem fold_requests (requests : List Request) (session : Session) :
    (requests.foldl serve session).log.map (·.request) =
      session.log.map (·.request) ++ requests := by
  induction requests generalizing session with
  | nil => exact (List.append_nil _).symm
  | cons request rest ih =>
      rw [List.foldl_cons, ih, serve, List.map_append, List.append_assoc]
      rfl

theorem fold_shut (size : Nat) (later : List Request) (session : Session)
    (faithful : Faithful size session.log session.filter) (shut : ¬ Open session.log) :
    accepted (later.foldl serve session).log = accepted session.log ∧
      flushed (later.foldl serve session).log = flushed session.log := by
  induction later generalizing session with
  | nil => exact ⟨rfl, rfl⟩
  | cons request rest ih =>
      obtain ⟨taken, given⟩ := faithful.shut shut request
      have still : ¬ Open (session.serve request).log := fun free =>
        shut ((open_snoc session.log _).mp free).1
      have same : accepted (session.serve request).log = accepted session.log := by
        rw [serve, accepted_snoc, taken]
        exact List.append_nil _
      have idle : flushed (session.serve request).log = flushed session.log := by
        rw [serve, flushed_snoc, given]
        exact List.append_nil _
      obtain ⟨takes, gives⟩ := ih (session.serve request) (faithful.serves request) still
      exact ⟨takes.trans same, gives.trans idle⟩

theorem run_open (size : Nat) (requests : List Request) :
    Open (run size requests).log ↔ .close ∉ requests := by
  have asked : (run size requests).log.map (·.request) = requests := fold_requests requests _
  have listed : Open (run size requests).log ↔ .close ∉ (run size requests).log.map (·.request) := by
    simp [Open]
  rw [listed, asked]

end Session

end UniqFilter

open UniqFilter in
/-- Whatever a filter was asked, and it remembers all that: what it handed over and then what waits in it
are the URIs that it took, in this order, and it says rightly how many it took and how many keys it
remembers. It takes a URI if it is open and does not remember its key, that is, if since the key was last
forgotten no URI with it was taken or noted; what is forced on it it takes if it is open. A flush hands
over the URIs that wait the longest, as many as there are and fit in a batch, and says how many; one at
least fits. A filter that was closed takes nothing more and hands nothing over. And a request that is
refused leaves the filter as it was. -/
theorem filter_lines_up_unseen (size : Nat) (requests : List Request) :
    let session := Session.run size requests
    let filter := session.filter
    let batch := filter.pending.take (max size 1)
    session.log.map (·.request) = requests ∧
      flushed session.log ++ filter.pending = accepted session.log ∧
      filter.added = (accepted session.log).length ∧
      (∃ keys : List String, keys.Nodup ∧ (∀ key, key ∈ keys ↔ Remembered session.log key) ∧
        filter.count = keys.length) ∧
      (∀ uri, (filter.serve (.add uri)).2 = .taken ↔
        .close ∉ requests ∧ ¬ Remembered session.log uri.uniqKey) ∧
      (∀ uri, (filter.serve (.addForce uri)).2 = .taken ↔ .close ∉ requests) ∧
      (.close ∉ requests → (filter.serve .flush).2 = .flushed batch batch.length) ∧
      batch.length = min filter.pending.length (max size 1) ∧
      (.close ∈ requests → (filter.serve .flush).2 = .refused .closed ∧
        ∀ later, accepted (Session.run size (requests ++ later)).log = accepted session.log ∧
          flushed (Session.run size (requests ++ later)).log = flushed session.log) ∧
      ∀ request, (filter.serve request).2.refuses = true → (filter.serve request).1 = filter := by
  intro session filter batch
  have faithful : Faithful size session.log filter := Session.run_faithful size requests
  have opened : Open session.log ↔ .close ∉ requests := Session.run_open size requests
  have bound : batch.length = min filter.pending.length (max size 1) := by
    rw [List.length_take, Nat.min_comm]
  refine ⟨Session.fold_requests requests _, faithful.line, faithful.added,
    ⟨filter.seen, faithful.once, faithful.seen, rfl⟩, fun uri => ?_, fun uri => ?_, fun free => ?_,
    bound, fun closes => ?_, faithful.refused⟩
  · rw [← opened]
    rcases faithful.add_answer uri with ⟨same, goes⟩ | ⟨same, stops⟩
    · exact iff_of_true (by simp [serve, same, offerAnswer]) goes
    · exact iff_of_false (by simp [serve, same, offerAnswer]) stops
  · rw [← opened]
    rcases faithful.force_answer uri with ⟨same, goes⟩ | ⟨same, stops⟩
    · exact iff_of_true (by simp [serve, same, offerAnswer]) goes
    · exact iff_of_false (by simp [serve, same, offerAnswer]) stops
  · rcases faithful.flush_answer with ⟨same, _⟩ | ⟨_, shut⟩
    · simp only [serve, same, faithful.batch]
      rfl
    · exact absurd (opened.mpr free) shut
  · have shut : ¬ Open session.log := fun free => opened.mp free closes
    refine ⟨?_, fun later => ?_⟩
    · rcases faithful.flush_answer with ⟨_, free⟩ | ⟨same, _⟩
      · exact absurd free shut
      · simp only [serve, same]
    · rw [Session.run_append]
      exact Session.fold_shut size later session faithful shut

end PoliteCrawl
