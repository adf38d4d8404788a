import PoliteCrawl.Proofs.Frontier.Lookup
import PoliteCrawl.Proofs.Ledger

set_option autoImplicit false

namespace PoliteCrawl.Frontier

def contents (frontier : Frontier) : List CrawlUri :=
  frontier.queues.flatMap (·.items)

def ledger (frontier : Frontier) : Ledger :=
  { lane := frontier.lane, contents := frontier.contents, queued := frontier.stats.queued }

theorem replace_missing (queues : List WorkQueue) (queue : WorkQueue)
    (missing : queue.key ∉ queues.map (·.key)) :
    (queues.map fun old => if old.key = queue.key then queue else old) = queues := by
  refine (List.map_congr_left (g := id) fun old member => ?_).trans (List.map_id _)
  have different : old.key ≠ queue.key := fun same =>
    missing (List.mem_map.mpr ⟨old, member, same⟩)
  simp [different]

theorem store_contents (frontier : Frontier) (old new : WorkQueue) (once : frontier.keys.Nodup)
    (found : frontier.queue? new.key = some old) :
    ((frontier.store new).contents ++ old.items).Perm (frontier.contents ++ new.items) := by
  unfold keys at once
  unfold queue? at found
  simp only [contents, store]
  generalize frontier.queues = queues at once found
  induction queues with
  | nil => cases found
  | cons first rest ih =>
      obtain ⟨fresh, others⟩ := List.nodup_cons.mp once
      by_cases here : first.key = new.key
      · have same : first = old := by simpa [here] using found
        subst same
        have absent : new.key ∉ rest.map (·.key) := here ▸ fresh
        rw [List.map_cons, replace_missing rest new absent, if_pos here]
        refine List.perm_iff_count.mpr fun uri => ?_
        simp only [List.flatMap_cons, List.count_append]
        omega
      · have later : rest.find? (·.key = new.key) = some old := by simpa [here] using found
        simp only [List.map_cons, if_neg here, List.flatMap_cons, List.append_assoc]
        exact (ih others later).append_left _

theorem lane_elsewhere (before after : Frontier) (key : String)
    (same : after.queue? key = before.queue? key) : after.lane key = before.lane key := by
  simp [lane, same]

theorem store_differs (before after : Frontier) (old new : WorkQueue) (once : before.keys.Nodup)
    (found : before.queue? new.key = some old) (queues : after.queues = (before.store new).queues) :
    before.ledger.lane new.key = old.lane ∧ after.ledger.lane new.key = new.lane ∧
      Ledger.Differs new.key before.ledger after.ledger := by
  have stored (key : String) : after.queue? key = (before.store new).queue? key :=
    queues_queue _ _ key queues
  have earlier : before.ledger.lane new.key = old.lane := lane_of_queue before _ old found
  have later : after.ledger.lane new.key = new.lane :=
    lane_of_queue after _ new ((stored new.key).trans (store_same before new old found))
  refine ⟨earlier, later, fun other different => ?_, ?_⟩
  · exact lane_elsewhere before after other
      ((stored other).trans (store_other before new other different))
  · have all : after.contents = (before.store new).contents := by simp [contents, queues]
    rw [earlier, later]
    simp only [ledger, all]
    exact store_contents before old new once found

theorem store_same_posted (before after : Frontier) (old new : WorkQueue)
    (once : before.keys.Nodup) (found : before.queue? new.key = some old)
    (queues : after.queues = (before.store new).queues) (lane : new.lane = old.lane)
    (queued : after.stats.queued = before.stats.queued) :
    before.ledger.Posted [] after.ledger := by
  obtain ⟨earlier, later, differs⟩ := store_differs before after old new once found queues
  exact differs.posted (by simp) (by simp [Lane.replay?, earlier, later, lane])
    fun _ => queued

theorem ledger_same {before after : Frontier} (queues : after.queues = before.queues)
    (queued : after.stats.queued = before.stats.queued) : after.ledger = before.ledger := by
  have lanes : after.lane = before.lane := by
    funext key
    exact lane_elsewhere before after key (queues_queue before after key queues)
  simp [ledger, lanes, contents, queues, queued]

theorem add_ledger (frontier : Frontier) (queue : WorkQueue)
    (missing : frontier.queue? queue.key = none) (empty : queue.items = [])
    (idle : queue.state ≠ .inProcess) : (frontier.addQueue queue).ledger = frontier.ledger := by
  have lanes : (frontier.addQueue queue).lane = frontier.lane := by
    funext key
    by_cases here : key = queue.key
    · subst here
      have now : (frontier.addQueue queue).queue? queue.key = some queue := by
        simp [add_queue, missing]
      rw [lane_of_queue _ _ queue now, lane_missing frontier queue.key missing]
      simp [WorkQueue.lane, Lane.empty, empty, idle]
    · exact lane_elsewhere _ _ key (by simp [add_queue, here])
  simp only [ledger, lanes]
  simp [contents, addQueue, empty]

theorem queue_contents (frontier : Frontier) (key : String) (queue : WorkQueue)
    (found : frontier.queue? key = some queue) :
    queue.items.length ≤ frontier.contents.length := by
  have member := List.mem_map_of_mem (f := WorkQueue.items) (List.mem_of_find?_eq_some found)
  exact (List.sublist_flatten_of_mem member).length_le

theorem busy_queue (frontier : Frontier) (key : String) (busy : (frontier.lane key).busy = true) :
    ∃ queue, frontier.queue? key = some queue ∧ queue.state = .inProcess ∧
      queue.items = (frontier.lane key).items := by
  cases found : frontier.queue? key with
  | none => simp [lane_missing frontier key found, Lane.empty] at busy
  | some queue =>
      rw [lane_of_queue frontier key queue found] at busy ⊢
      exact ⟨queue, rfl, by simpa [WorkQueue.lane] using busy, rfl⟩

end PoliteCrawl.Frontier
