import PoliteCrawl.Gateway

set_option autoImplicit false

namespace PoliteCrawl.Gateway

-- Between the two, a gateway was told that these URIs are done with, and of no others.
def Heard (before : Gateway) (uris : List CrawlUri) (after : Gateway) : Prop :=
  match before, after with
  | .memory old, .memory new => new.finished = old.finished + uris.length
  | .remote old, .remote new => new.told.map (·.1) = old.told.map (·.1) ++ uris
  | .memory _, .remote _ => False
  | .remote _, .memory _ => False

theorem heard_nothing (gateway : Gateway) : gateway.Heard [] gateway := by
  cases gateway <;> simp [Heard]

theorem heard_same {before after : Gateway} (same : after = before) : before.Heard [] after :=
  same ▸ heard_nothing before

theorem Heard.trans {first second third : Gateway} {early late : List CrawlUri}
    (one : first.Heard early second) (two : second.Heard late third) :
    first.Heard (early ++ late) third := by
  cases first <;> cases second <;> cases third <;> simp_all [Heard]
  omega

theorem note_heard (gateway : Gateway) (uri : CrawlUri) (outcome : Outcome) :
    gateway.Heard [uri] (gateway.noteFinished uri outcome) := by
  cases gateway <;> simp [Heard, noteFinished, UniqFilter.noteFinished]

theorem take_heard (gateway after : Gateway) (handover : Handover)
    (taken : gateway.takeBatch = .ok (after, handover)) : gateway.Heard [] after := by
  cases gateway with
  | memory filter =>
      simp only [takeBatch, UniqFilter.takeBatch] at taken
      split at taken <;> cases taken
      simp [Heard]
  | remote service =>
      simp only [takeBatch] at taken
      split at taken <;> cases taken
      simp [Heard]

theorem close_heard (gateway after : Gateway) (closed : gateway.close = .ok after) :
    gateway.Heard [] after := by
  cases gateway with
  | memory filter =>
      cases closed
      simp [Heard, UniqFilter.close]
  | remote service =>
      simp only [close] at closed
      split at closed <;> cases closed
      simp [Heard]

theorem supply_heard (gateway : Gateway) (uris : List CrawlUri) (count : Nat) :
    gateway.Heard [] (gateway.supply uris count) := by
  cases gateway <;> simp [Heard, supply]

def isOpen : Gateway → Bool
  | .memory filter => !filter.closed
  | .remote _ => true

def record : Gateway → Gateway
  | .memory filter => .memory { filter with pending := [], finished := 0, closed := false }
  | .remote service => .remote { service with prepared := [], told := [] }

theorem take_draws (gateway after : Gateway) (handover : Handover)
    (taken : gateway.takeBatch = .ok (after, handover)) :
    gateway.pending = handover.uris ++ after.pending ∧ after.record = gateway.record ∧
      after.isOpen = gateway.isOpen := by
  cases gateway with
  | memory filter =>
      rw [takeBatch, UniqFilter.takeBatch] at taken
      by_cases closed : filter.closed = true
      · rw [if_pos closed] at taken
        cases taken
      · rw [if_neg closed] at taken
        cases taken
        exact ⟨(List.take_append_drop _ _).symm, rfl, rfl⟩
  | remote service =>
      rw [takeBatch] at taken
      by_cases fails : service.failsFlush = true
      · rw [if_pos fails] at taken
        cases taken
      · rw [if_neg fails] at taken
        cases taken
        refine ⟨?_, rfl, rfl⟩
        cases prepared : service.prepared with
        | nil => simp [pending, prepared]
        | cons next rest => simp [pending, prepared]

theorem memory_prompt {gateway : Gateway} (memory : ∃ filter, gateway = .memory filter) :
    gateway.latency = 0 := by
  obtain ⟨filter, rfl⟩ := memory
  rfl

theorem memory_counts (filter : UniqFilter) (after : Gateway) (handover : Handover)
    (taken : (Gateway.memory filter).takeBatch = .ok (after, handover)) :
    handover.count = handover.uris.length := by
  rw [takeBatch] at taken
  cases batch : filter.takeBatch with
  | error cause =>
      rw [batch] at taken
      cases taken
  | ok result =>
      rw [batch] at taken
      cases taken
      rfl

theorem close_draws (gateway after : Gateway) (closed : gateway.close = .ok after) :
    after.pending = gateway.pending ∧ after.record = gateway.record := by
  cases gateway with
  | memory filter =>
      cases closed
      exact ⟨rfl, rfl⟩
  | remote service =>
      rw [close] at closed
      by_cases fails : service.failsClose = true
      · rw [if_pos fails] at closed
        cases closed
      · rw [if_neg fails] at closed
        cases closed
        exact ⟨rfl, rfl⟩

theorem note_draws (gateway : Gateway) (uri : CrawlUri) (outcome : Outcome) :
    (gateway.noteFinished uri outcome).pending = gateway.pending ∧
      (gateway.noteFinished uri outcome).record = gateway.record ∧
      (gateway.noteFinished uri outcome).isOpen = gateway.isOpen := by
  cases gateway <;> exact ⟨rfl, rfl, rfl⟩

end PoliteCrawl.Gateway
