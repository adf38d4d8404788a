import PoliteCrawl.Frontier.Basic
import PoliteCrawl.Proofs.Lane

set_option autoImplicit false

namespace PoliteCrawl

def WorkQueue.lane (queue : WorkQueue) : Lane :=
  { items := queue.items, busy := decide (queue.state = .inProcess) }

namespace WorkQueue

theorem transition_allowed (queue : WorkQueue) (state : QueueState)
    (allowed : queue.state.allows state = true) :
    queue.transition state = .ok { queue with state } := by
  simp [transition, allowed]

@[simp] theorem enqueue_key (queue : WorkQueue) (uri : CrawlUri) :
    (queue.enqueue uri).key = queue.key := by
  cases hint : uri.hint <;> simp [enqueue, hint, raisePrecedence]

@[simp] theorem enqueue_items (queue : WorkQueue) (uri : CrawlUri) :
    (queue.enqueue uri).items = queue.items ++ [uri] := by
  cases hint : uri.hint <;> simp [enqueue, hint, raisePrecedence]

@[simp] theorem enqueue_state (queue : WorkQueue) (uri : CrawlUri) :
    (queue.enqueue uri).state = queue.state := by
  cases hint : uri.hint <;> simp [enqueue, hint, raisePrecedence]

@[simp] theorem enqueue_wake (queue : WorkQueue) (uri : CrawlUri) :
    (queue.enqueue uri).wakeTime = queue.wakeTime := by
  cases hint : uri.hint <;> simp [enqueue, hint, raisePrecedence]

end WorkQueue

namespace Frontier

def keys (frontier : Frontier) : List String :=
  frontier.queues.map (·.key)

def lane (frontier : Frontier) (key : String) : Lane :=
  ((frontier.queue? key).map WorkQueue.lane).getD Lane.empty

def addQueue (frontier : Frontier) (queue : WorkQueue) : Frontier :=
  { frontier with queues := frontier.queues ++ [queue] }

theorem queue_key (frontier : Frontier) (key : String) (queue : WorkQueue)
    (found : frontier.queue? key = some queue) : queue.key = key := by
  simpa using List.find?_some found

theorem queue_known (frontier : Frontier) (key : String) (queue : WorkQueue)
    (found : frontier.queue? key = some queue) : key ∈ frontier.keys := by
  rw [← queue_key frontier key queue found]
  exact List.mem_map_of_mem (List.mem_of_find?_eq_some found)

theorem listed_queue {frontier : Frontier} {queue : WorkQueue} (once : frontier.keys.Nodup)
    (listed : queue ∈ frontier.queues) : frontier.queue? queue.key = some queue := by
  unfold keys at once
  unfold queue?
  generalize frontier.queues = queues at once listed
  induction queues with
  | nil => cases listed
  | cons first rest ih =>
      obtain ⟨fresh, others⟩ := List.nodup_cons.mp once
      rcases List.mem_cons.mp listed with same | later
      · simp [same]
      · have different : first.key ≠ queue.key := fun same =>
          fresh (List.mem_map.mpr ⟨queue, later, same.symm⟩)
        simpa [different] using ih others later

theorem queue_missing (frontier : Frontier) (key : String) :
    frontier.queue? key = none ↔ key ∉ frontier.keys := by
  simp [queue?, keys]

theorem queues_queue (before after : Frontier) (key : String)
    (same : after.queues = before.queues) : after.queue? key = before.queue? key := by
  simp [queue?, same]

theorem find_replaced (queues : List WorkQueue) (queue : WorkQueue) (key : String) :
    (queues.map fun old => if old.key = queue.key then queue else old).find? (·.key = key) =
      if key = queue.key then (queues.find? (·.key = key)).map fun _ => queue
      else queues.find? (·.key = key) := by
  induction queues with
  | nil => simp
  | cons first rest ih =>
      by_cases replaced : first.key = queue.key
      · by_cases sought : key = queue.key
        · simp [replaced, sought]
        · simpa [replaced, sought, Ne.symm sought] using ih
      · by_cases here : first.key = key
        · have other : key ≠ queue.key := here ▸ replaced
          simp [here, other]
        · simpa [replaced, here] using ih

theorem store_queue (frontier : Frontier) (queue : WorkQueue) (key : String) :
    (frontier.store queue).queue? key =
      if key = queue.key then (frontier.queue? key).map fun _ => queue
      else frontier.queue? key :=
  find_replaced frontier.queues queue key

theorem store_other (frontier : Frontier) (queue : WorkQueue) (key : String)
    (different : key ≠ queue.key) : (frontier.store queue).queue? key = frontier.queue? key := by
  rw [store_queue, if_neg different]

theorem store_same (frontier : Frontier) (queue old : WorkQueue)
    (found : frontier.queue? queue.key = some old) :
    (frontier.store queue).queue? queue.key = some queue := by
  rw [store_queue, if_pos rfl, found]
  rfl

@[simp] theorem store_keys (frontier : Frontier) (queue : WorkQueue) :
    (frontier.store queue).keys = frontier.keys := by
  have kept (old : WorkQueue) :
      (if old.key = queue.key then queue else old).key = old.key := by
    split <;> simp_all
  simp [keys, store, kept]

theorem store_store (frontier : Frontier) (first second : WorkQueue)
    (same : first.key = second.key) :
    (frontier.store first).store second = frontier.store second := by
  have replaced (old : WorkQueue) :
      (if (if old.key = first.key then first else old).key = second.key then second
        else if old.key = first.key then first else old) =
      if old.key = second.key then second else old := by
    split <;> split <;> simp_all
  simp [store, replaced]

theorem add_queue (frontier : Frontier) (queue : WorkQueue) (key : String) :
    (frontier.addQueue queue).queue? key =
      (frontier.queue? key).or (if key = queue.key then some queue else none) := by
  by_cases same : queue.key = key <;> simp [addQueue, queue?, same, eq_comm]

theorem lane_of_queue (frontier : Frontier) (key : String) (queue : WorkQueue)
    (found : frontier.queue? key = some queue) : frontier.lane key = queue.lane := by
  simp [lane, found]

theorem lane_missing (frontier : Frontier) (key : String) (missing : frontier.queue? key = none) :
    frontier.lane key = Lane.empty := by
  simp [lane, missing]

end Frontier

end PoliteCrawl
