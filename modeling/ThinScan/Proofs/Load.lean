import ThinScan.Proofs.Custody
import ThinScan.Proofs.Moves
import ThinScan.Proofs.Upkeep

set_option autoImplicit false

namespace ThinScan

namespace Batch

def load (batch : Batch) : Nat :=
  match batch.progress with
  | .fetching => 1 + batch.entries.length
  | .replying rest => rest.length

end Batch

namespace BatchLookup

variable {lookup later : BatchLookup}

def load (lookup : BatchLookup) : Nat :=
  2 * (requestsOf lookup.pending).length + Work.total Batch.load lookup.batches

def keyCount (lookup : BatchLookup) : Nat := lookup.pending.keys.length

theorem load_of_stored (batches : later.batches = lookup.batches) (pending : later.pending = lookup.pending) :
    later.load = lookup.load := by rw [load, load, batches, pending]

theorem load_enqueue (custody : lookup.Custody) (adapter : AdapterId) (key : Bytes) :
    (lookup.enqueue adapter key).load = lookup.load + 2 := by
  have added := (requestsOf_enqueue custody.ascending adapter key).length_eq
  have same : (lookup.enqueue adapter key).batches = lookup.batches := rfl
  rw [List.length_cons] at added
  rw [load, load, same]
  omega

theorem load_flushAdapter (custody : lookup.Custody) (adapter : AdapterId) :
    (lookup.flushAdapter adapter).load ≤ lookup.load := by
  have split := (requestsOf_split custody.ascending adapter).length_eq
  rw [List.length_append, List.length_map] at split
  unfold flushAdapter
  cases something : lookup.waiting adapter with
  | nil => exact Nat.le_refl _
  | cons entry rest =>
      rw [something, List.length_cons] at split
      simp only [load, dispatch, Work.total_append, Work.total, Batch.load, List.length_cons]
      omega

theorem load_request (custody : lookup.Custody) (adapter : AdapterId) (key : Bytes) :
    (lookup.request adapter key).2.load ≤ lookup.load + 2 := by
  by_cases waits : key ∈ lookup.waitingKeys adapter
  · obtain ⟨entry, _, _, joined⟩ := request_joined waits
    rw [joined]
    exact Nat.le_add_right _ _
  · rw [request_fresh waits]
    have queued := load_enqueue custody adapter key
    dsimp only
    split
    · exact queued ▸ load_flushAdapter (custody_enqueue custody adapter key) adapter
    · exact Nat.le_of_eq queued

theorem load_complete {index : Nat} {fetched : Fetched} (taken : lookup.complete index fetched = some later) :
    later.load < lookup.load := by
  simp only [complete, Option.bind_eq_bind, Option.bind_eq_some_iff] at taken
  obtain ⟨batch, held, taken⟩ := taken
  split at taken
  · rename_i fetching
    cases taken
    have told := congrArg List.length (Fetched.replies_requests batch fetched)
    have set := Work.total_set Batch.load lookup.batches index batch
      { batch with progress := .replying (fetched.replies batch) } held
    simp only [Batch.isFetching, decide_eq_true_eq] at fetching
    rw [List.length_map, List.length_map] at told
    simp only [Batch.load, fetching] at set
    simp only [load]
    omega
  · cases taken

theorem load_reply {index : Nat} (taken : lookup.reply index = some later) : later.load < lookup.load := by
  simp only [reply, Option.bind_eq_bind, Option.bind_eq_some_iff] at taken
  obtain ⟨batch, held, taken⟩ := taken
  split at taken
  · rename_i next rest replying
    cases taken
    have set := Work.total_set Batch.load lookup.batches index batch { batch with progress := .replying rest } held
    simp only [Batch.load, replying, List.length_cons] at set
    simp only [load]
    omega
  · cases taken

theorem keyCount_enqueue (custody : lookup.Custody) (adapter : AdapterId) (key : Bytes) :
    (lookup.enqueue adapter key).keyCount ≤ lookup.keyCount + 1 := by
  have inserted := (Table.insert_perm custody.ascending adapter (lookup.waiting adapter ++ [⟨key, lookup.requests⟩])).length_eq
  have fewer : (lookup.pending.erase adapter).entries.length ≤ lookup.pending.entries.length := List.length_filter_le _ _
  simp only [keyCount, Table.keys, List.length_map, enqueue]
  rw [List.length_cons] at inserted
  omega

theorem keyCount_flushAdapter (lookup : BatchLookup) (adapter : AdapterId) :
    (lookup.flushAdapter adapter).keyCount ≤ lookup.keyCount := by
  rcases pending_flushAdapter lookup adapter with same | erased
  · exact Nat.le_of_eq (congrArg (fun pending => pending.keys.length) same)
  · simp only [keyCount, erased, Table.keys, List.length_map]
    exact List.length_filter_le _ _

theorem keyCount_request (custody : lookup.Custody) (adapter : AdapterId) (key : Bytes) :
    (lookup.request adapter key).2.keyCount ≤ lookup.keyCount + 1 := by
  by_cases waits : key ∈ lookup.waitingKeys adapter
  · obtain ⟨entry, _, _, joined⟩ := request_joined waits
    rw [joined]
    exact Nat.le_add_right _ _
  · rw [request_fresh waits]
    have queued := keyCount_enqueue custody adapter key
    dsimp only
    split
    · exact Nat.le_trans (keyCount_flushAdapter _ adapter) queued
    · exact queued

end BatchLookup

end ThinScan
