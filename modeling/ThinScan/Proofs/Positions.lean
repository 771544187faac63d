import Mathlib.Data.List.Nodup
import ThinScan.Proofs.Outcomes

set_option autoImplicit false

namespace ThinScan

structure Slot where
  adapter : AdapterId
  key : Bytes
  request : RequestId

def Entry.slot (adapter : AdapterId) (entry : Entry) : Slot := ⟨adapter, entry.key, entry.request⟩

def Batch.slots (batch : Batch) : List Slot := batch.entries.map (Entry.slot batch.adapter)

namespace BatchLookup

variable {lookup later : BatchLookup}

def slots (lookup : BatchLookup) : List Slot := viewed Entry.slot lookup.pending ++ lookup.batches.flatMap Batch.slots

theorem slots_enqueue (ascending : lookup.pending.Ascending) (adapter : AdapterId) (key : Bytes) :
    (lookup.enqueue adapter key).slots.Perm (⟨adapter, key, lookup.requests⟩ :: lookup.slots) :=
  (viewed_enqueue Entry.slot ascending adapter key).append_right (lookup.batches.flatMap Batch.slots)

theorem slots_flushAdapter (ascending : lookup.pending.Ascending) (adapter : AdapterId) :
    (lookup.flushAdapter adapter).slots.Perm lookup.slots := by
  unfold flushAdapter
  split
  · exact .refl _
  · rename_i entry rest something
    have split := viewed_split Entry.slot ascending adapter
    rw [something] at split
    refine .trans ?_ (split.append_right _).symm
    simp only [slots, dispatch, List.flatMap_append, List.flatMap_singleton, Batch.slots]
    rw [← List.append_assoc]
    exact List.perm_append_comm.trans (List.append_assoc _ _ _ ▸ .refl _)

theorem slots_of_stored (pending : later.pending = lookup.pending)
    (batches : later.batches.map Batch.slots = lookup.batches.map Batch.slots) : later.slots = lookup.slots := by
  rw [slots, slots, pending, List.flatMap_def, List.flatMap_def, batches]

def Cause.slots (request : RequestId) : Cause → List Slot
  | .asked adapter key => [⟨adapter, key, request⟩]
  | _ => []

theorem slots_step {cause : Cause} (ascending : lookup.pending.Ascending) (step : Step cause lookup later) :
    later.slots.Perm (cause.slots lookup.requests ++ lookup.slots) := by
  have stored {fresh : Batch} {index : Nat} {batch : Batch} (pending : later.pending = lookup.pending)
      (held : lookup.batches[index]? = some batch) (batches : later.batches = lookup.batches.set index fresh)
      (same : fresh.slots = batch.slots) : later.slots.Perm ([] ++ lookup.slots) := by
    rw [slots_of_stored pending (by rw [batches, map_set_same _ _ held same])]
    exact .refl _
  cases step with
  | queue => exact slots_enqueue ascending _ _
  | fill => exact (slots_flushAdapter (Table.ascending_insert ascending _ _) _).trans (slots_enqueue ascending _ _)
  | flush => exact slots_flushAdapter ascending _
  | complete held fetching batches size pending => exact stored pending held batches rfl
  | reply held replying batches size pending => exact stored pending held batches rfl
  | quiet batches size pending =>
      rw [slots_of_stored pending (congrArg _ batches)]
      exact .refl _

theorem mem_slots {slot : Slot} (ascending : lookup.pending.Ascending) (member : slot ∈ lookup.slots) :
    ⟨slot.key, slot.request⟩ ∈ lookup.waiting slot.adapter
      ∨ ∃ (index : Nat) (batch : Batch) (position : Nat), lookup.batches[index]? = some batch
        ∧ batch.adapter = slot.adapter ∧ batch.entries[position]? = some ⟨slot.key, slot.request⟩ := by
  rcases List.mem_append.mp member with waits | sent
  · obtain ⟨⟨adapter, entries⟩, held, inside⟩ := List.mem_flatMap.mp waits
    obtain ⟨entry, listed, rfl⟩ := List.mem_map.mp inside
    refine .inl ?_
    rw [waiting, Entry.slot, Table.find_of_mem ascending held]
    exact listed
  · obtain ⟨batch, held, inside⟩ := List.mem_flatMap.mp sent
    obtain ⟨index, found⟩ := List.mem_iff_getElem?.mp held
    obtain ⟨entry, listed, rfl⟩ := List.mem_map.mp inside
    obtain ⟨position, placed⟩ := List.mem_iff_getElem?.mp listed
    exact .inr ⟨index, batch, position, found, rfl, placed⟩

theorem slot_of_waiting (ascending : lookup.pending.Ascending) {adapter : AdapterId} {entry : Entry}
    (waits : entry ∈ lookup.waiting adapter) : entry.slot adapter ∈ lookup.slots :=
  List.mem_append_left _ ((viewed_split Entry.slot ascending adapter).mem_iff.mpr
    (List.mem_append_left _ (List.mem_map_of_mem waits)))

theorem slot_of_sent {index position : Nat} {batch : Batch} {entry : Entry} (held : lookup.batches[index]? = some batch)
    (placed : batch.entries[position]? = some entry) : entry.slot batch.adapter ∈ lookup.slots :=
  List.mem_append_right _ (List.mem_flatMap.mpr
    ⟨batch, List.mem_of_getElem? held, List.mem_map_of_mem (List.mem_of_getElem? placed)⟩)

theorem slots_request (ascending : lookup.pending.Ascending) (adapter : AdapterId) (key : Bytes) (slot : Slot) :
    slot ∈ (lookup.request adapter key).2.slots
      ↔ slot ∈ lookup.slots ∨ slot = ⟨adapter, key, (lookup.request adapter key).1⟩ := by
  by_cases waits : key ∈ lookup.waitingKeys adapter
  · obtain ⟨entry, member, rfl, joined⟩ := request_joined waits
    rw [joined]
    exact ⟨Or.inl, Or.rec id (fun same => same ▸ slot_of_waiting ascending member)⟩
  · have step := request_step lookup adapter key
    rw [requestCause, if_neg waits] at step
    have fresh : (lookup.request adapter key).1 = lookup.requests := by rw [request_fresh waits]
    rw [fresh, (slots_step ascending step).mem_iff, Cause.slots, List.cons_append, List.nil_append, List.mem_cons,
      or_comm]

def Numbered (lookup : BatchLookup) : Prop := (lookup.slots.map Slot.request).Perm (List.range lookup.requests)

theorem numbered_step {cause : Cause} (numbered : lookup.Numbered) (ascending : lookup.pending.Ascending)
    (step : Step cause lookup later) : later.Numbered := by
  have added := (slots_step ascending step).map Slot.request
  rw [List.map_append] at added
  rw [Numbered, requests_step step]
  refine added.trans ((numbered.append_left _).trans ?_)
  cases cause with
  | asked adapter key => exact (List.perm_append_comm).trans (List.range_succ ▸ .refl _)
  | flushed adapter => exact .refl _
  | answered index fetched => exact .refl _
  | other => exact .refl _

theorem slot_unique (numbered : lookup.Numbered) {slot other : Slot} (member : slot ∈ lookup.slots)
    (also : other ∈ lookup.slots) (same : slot.request = other.request) : slot = other :=
  List.inj_on_of_nodup_map (numbered.nodup_iff.mpr List.nodup_range) member also same

def batchLog (lookup : BatchLookup) : List Event := lookup.events.filter Event.ofBatch

def reports (lookup : BatchLookup) (outcome : Nat × Fetched) : List Event :=
  ((lookup.batches[outcome.1]?).map outcome.2.events).getD []

theorem reports_at {index : Nat} {batch : Batch} (held : lookup.batches[index]? = some batch) (fetched : Fetched) :
    lookup.reports (index, fetched) = fetched.events batch := by
  rw [reports, held, Option.map_some, Option.getD_some]

theorem reports_kept {cause : Cause} {index : Nat} {batch : Batch} (step : Step cause lookup later)
    (held : lookup.batches[index]? = some batch) (fetched : Fetched) :
    later.reports (index, fetched) = lookup.reports (index, fetched) := by
  obtain ⟨progress, kept⟩ := batch_kept step held
  rw [reports_at kept, reports_at held, Fetched.events_progress]

theorem batchLog_aside (aside : lookup.Aside later) : later.batchLog = lookup.batchLog := by
  obtain ⟨told, events, kinds⟩ := aside
  have nothing : told.filter Event.ofBatch = [] :=
    List.filter_eq_nil_iff.mpr (fun event member => Bool.eq_false_iff.mp (Event.kinds_of_aside (kinds event member)).1)
  rw [batchLog, events, List.filter_append, nothing, List.nil_append, batchLog]

theorem batchLog_retire (lookup : BatchLookup) : lookup.retire.2.batchLog = lookup.batchLog := by
  unfold retire
  split <;> rfl

theorem batchLog_complete {index : Nat} {fetched : Fetched} (taken : lookup.complete index fetched = some later) :
    later.batchLog = lookup.reports (index, fetched) ++ lookup.batchLog := by
  simp only [complete, Option.bind_eq_bind, Option.bind_eq_some_iff] at taken
  obtain ⟨batch, held, taken⟩ := taken
  split at taken <;> cases taken
  rw [reports_at held, batchLog, List.filter_append, Fetched.events_ofBatch]
  rfl

end BatchLookup

namespace Clients

variable {clients later : Clients}

theorem batchLog_act {action : Act} (discreet : clients.lookup.Discreet) (taken : clients.act action = some later) :
    later.lookup.batchLog
      = (clients.cause action).ended.flatMap clients.lookup.reports ++ clients.lookup.batchLog := by
  have quiet (unended : (clients.cause action).ended = []) (aside : clients.lookup.Aside later.lookup) :
      later.lookup.batchLog
        = (clients.cause action).ended.flatMap clients.lookup.reports ++ clients.lookup.batchLog := by
    rw [unended, BatchLookup.batchLog_aside aside]
    rfl
  cases move_of_act taken with
  | request adapter key => exact quiet (BatchLookup.ended_requestCause _ _ _) (BatchLookup.aside_request _ _ _)
  | flushAdapter adapter => exact quiet rfl (BatchLookup.aside_flushAdapter _ _)
  | next listed member => exact quiet rfl (BatchLookup.aside_flushAdapter _ _)
  | exhaust others => exact BatchLookup.batchLog_retire _
  | exhaustLast last => exact BatchLookup.batchLog_retire _
  | setParams set => exact quiet rfl (BatchLookup.aside_setParams set)
  | complete given =>
      rw [cause, BatchLookup.Cause.ended, List.flatMap_singleton]
      exact BatchLookup.batchLog_complete given
  | reply given => exact quiet rfl (BatchLookup.aside_reply given)
  | look settled => exact quiet rfl (BatchLookup.aside_look discreet settled)
  | _ => exact quiet rfl (BatchLookup.aside_same rfl)

end Clients

end ThinScan
