import Mathlib.Data.List.Perm.Basic
import ThinScan.BatchReading
import ThinScan.Proofs.Places
import ThinScan.Work

set_option autoImplicit false

namespace ThinScan

namespace ObjectIndex

theorem fetchOne_read (index : ObjectIndex) (store : ObjectStore) (adapter : AdapterId) (params : Params) (dataId : Bytes) :
    index.fetchOne store adapter params dataId
      = ((index.read store adapter dataId).1.map (params.apply adapter), (index.read store adapter dataId).2) := by
  rw [fetchOne, read]
  cases index.get store adapter dataId <;> rfl

theorem fetchBatch_read (index : ObjectIndex) (store : ObjectStore) (adapter : AdapterId) (params : Params)
    (dataIds : List Bytes) : index.fetchBatch store adapter params dataIds
      = (dataIds.map (fun dataId => (index.read store adapter dataId).1.map (params.apply adapter)),
        dataIds.flatMap (fun dataId => (index.read store adapter dataId).2)) := by
  simp only [fetchBatch, List.map_map, List.flatMap_map, fetchOne_read, Function.comp_def]

def fetched (index : ObjectIndex) (store : ObjectStore) (adapter : AdapterId) (params : Params) (dataId : Bytes) :
    Option Values :=
  match index.get store adapter dataId with
  | .ok (some values) => some (params.apply adapter values)
  | .ok none => none
  | .error _ => none

def report? (index : ObjectIndex) (store : ObjectStore) (adapter : AdapterId) (dataId : Bytes) : Option Event :=
  match index.get store adapter dataId with
  | .ok _ => none
  | .error cause => some (.recordUnreadable adapter dataId cause)

theorem fetched_read (index : ObjectIndex) (store : ObjectStore) (adapter : AdapterId) (params : Params) (dataId : Bytes) :
    (index.read store adapter dataId).1.map (params.apply adapter) = index.fetched store adapter params dataId := by
  rw [read, fetched]
  cases index.get store adapter dataId with
  | error cause => rfl
  | ok found => cases found <;> rfl

theorem report_read (index : ObjectIndex) (store : ObjectStore) (adapter : AdapterId) (dataId : Bytes) :
    (index.read store adapter dataId).2 = (index.report? store adapter dataId).toList := by
  rw [read, report?]
  cases index.get store adapter dataId <;> rfl

theorem reports_read (index : ObjectIndex) (store : ObjectStore) (adapter : AdapterId) (dataIds : List Bytes) :
    dataIds.flatMap (fun dataId => (index.read store adapter dataId).2) = dataIds.filterMap (index.report? store adapter) := by
  induction dataIds with
  | nil => rfl
  | cons dataId rest step =>
      rw [List.flatMap_cons, step, report_read]
      cases reported : index.report? store adapter dataId with
      | none => rw [List.filterMap_cons_none reported, Option.toList_none, List.nil_append]
      | some event => rw [List.filterMap_cons_some reported, Option.toList_some, List.singleton_append]

theorem read_root (index other : ObjectIndex) (root : index.root = other.root) (store : ObjectStore) (adapter : AdapterId)
    (dataId : Bytes) : index.read store adapter dataId = other.read store adapter dataId := by
  simp only [read, get, path, root]

end ObjectIndex

namespace Reading

def key? (slot : Reading) : Option Bytes := slot.ended.map (fun _ => slot.dataId)

def load (slot : Reading) : Nat :=
  match slot.ended with
  | none => 2
  | some _ => 1

end Reading

namespace BatchReading

variable {index : ObjectIndex} {store : ObjectStore} {adapter : AdapterId} {reading later : BatchReading}

def ended (reading : BatchReading) : List Bytes := reading.window.filterMap Reading.key?

-- The keys that were passed on, with those of the window and those that wait, are all keys in order; and all that was found
-- or reported is what the reads of the keys give.
structure Kept (index : ObjectIndex) (store : ObjectStore) (adapter : AdapterId) (dataIds passed : List Bytes)
    (reading : BatchReading) : Prop where
  whole : passed ++ (reading.window.map Reading.dataId ++ reading.waiting) = dataIds
  records : reading.records = passed.map (fun dataId => (index.read store adapter dataId).1)
  found : ∀ slot ∈ reading.window, ∀ record, slot.ended = some record → record = (index.read store adapter slot.dataId).1
  events : reading.events.Perm ((passed ++ reading.ended).flatMap (fun dataId => (index.read store adapter dataId).2))
  bounded : reading.window.length ≤ index.concurrency

theorem kept_new (index : ObjectIndex) (store : ObjectStore) (adapter : AdapterId) (dataIds : List Bytes) :
    Kept index store adapter dataIds [] { waiting := dataIds } :=
  ⟨rfl, rfl, List.forall_mem_nil _, .nil, Nat.zero_le _⟩

variable {dataIds passed : List Bytes}

theorem kept_begin (kept : Kept index store adapter dataIds passed reading) (taken : reading.begin index = some later) :
    Kept index store adapter dataIds passed later := by
  unfold begin at taken
  split at taken
  · cases taken
  · rename_i dataId rest waiting
    split at taken
    · rename_i room
      cases taken
      refine ⟨?_, kept.records, ?_, ?_, ?_⟩
      · rw [← kept.whole, waiting]
        simp only [List.map_append, List.map_cons, List.map_nil, List.append_assoc, List.singleton_append]
      · intro slot member record ended
        rcases List.mem_append.mp member with before | here
        · exact kept.found slot before record ended
        · rw [List.mem_singleton.mp here] at ended
          cases ended
      · have same : BatchReading.ended { reading with waiting := rest, window := reading.window ++ [{ dataId := dataId }] }
            = reading.ended := by
          simp only [BatchReading.ended, List.filterMap_append]
          exact List.append_nil _
        rw [same]
        exact kept.events
      · simp only [List.length_append, List.length_singleton]
        exact room
    · cases taken

theorem ended_set {place : Nat} {dataId : Bytes} (record : Option Values) (held : reading.window[place]? = some ⟨dataId, none⟩)
    (events : List Event) : (BatchReading.ended { reading with
      window := reading.window.set place ⟨dataId, some record⟩, events := events }).Perm (reading.ended ++ [dataId]) := by
  have before : reading.ended.Perm ((reading.window.eraseIdx place).filterMap Reading.key? ++ []) :=
    filterMap_at Reading.key? held
  have after := (set_perm_at (⟨dataId, some record⟩ : Reading) held).filterMap Reading.key?
  rw [List.append_nil] at before
  exact after.trans ((before.symm.cons dataId).trans (List.perm_append_singleton _ _).symm)

theorem kept_finish (kept : Kept index store adapter dataIds passed reading) {place : Nat}
    (taken : reading.finish index store adapter place = some later) : Kept index store adapter dataIds passed later := by
  simp only [finish, Option.bind_eq_bind, Option.bind_eq_some_iff] at taken
  obtain ⟨⟨dataId, ended⟩, held, taken⟩ := taken
  cases ended with
  | some record => cases taken
  | none =>
      cases taken
      refine ⟨?_, kept.records, ?_, ?_, ?_⟩
      · have keys := map_set_same Reading.dataId ⟨dataId, some (index.read store adapter dataId).1⟩ held rfl
        dsimp only
        rw [keys]
        exact kept.whole
      · refine forall_set kept.found ?_
        rintro record ended
        cases ended
        rfl
      · have more := ended_set (index.read store adapter dataId).1 held (reading.events ++ (index.read store adapter dataId).2)
        have all := ((more.append_left passed).flatMap_right (fun key => (index.read store adapter key).2)).symm
        rw [← List.append_assoc, List.flatMap_append, List.flatMap_singleton] at all
        exact (kept.events.append_right _).trans all
      · rw [List.length_set]
        exact kept.bounded

theorem kept_pass (kept : Kept index store adapter dataIds passed reading) (taken : reading.pass = some later) :
    ∃ dataId, Kept index store adapter dataIds (passed ++ [dataId]) later := by
  unfold pass at taken
  split at taken
  · rename_i dataId record rest window
    cases taken
    refine ⟨dataId, ?_, ?_, ?_, ?_, ?_⟩
    · rw [← kept.whole, window, List.append_assoc]
      rfl
    · have found := kept.found ⟨dataId, some record⟩ (window ▸ List.mem_cons_self) record rfl
      rw [kept.records, List.map_append, List.map_singleton, found]
    · intro slot member
      exact kept.found slot (window ▸ List.mem_cons_of_mem _ member)
    · have moved : reading.ended = dataId :: BatchReading.ended { reading with
          window := rest, records := reading.records ++ [record] } := by
        rw [BatchReading.ended, window]
        rfl
      have events := kept.events
      rw [moved] at events
      rwa [List.append_assoc, List.singleton_append]
    · have shorter := kept.bounded
      rw [window, List.length_cons] at shorter
      exact Nat.le_of_succ_le shorter
  · cases taken

theorem kept_act (kept : Kept index store adapter dataIds passed reading) {act : Act}
    (taken : reading.act index store adapter act = some later) : ∃ passed, Kept index store adapter dataIds passed later := by
  cases act with
  | begin => exact ⟨passed, kept_begin kept taken⟩
  | finish place => exact ⟨passed, kept_finish kept taken⟩
  | pass =>
      obtain ⟨dataId, moved⟩ := kept_pass kept taken
      exact ⟨_, moved⟩

theorem kept_run (kept : Kept index store adapter dataIds passed reading) {acts : List Act}
    (ran : reading.run index store adapter acts = some later) : ∃ passed, Kept index store adapter dataIds passed later := by
  induction acts generalizing reading passed with
  | nil =>
      cases ran
      exact ⟨passed, kept⟩
  | cons act rest step =>
      simp only [run, List.foldlM_cons, Option.bind_eq_bind, Option.bind_eq_some_iff] at ran
      obtain ⟨between, taken, ran⟩ := ran
      obtain ⟨more, next⟩ := kept_act kept taken
      exact step next ran

theorem kept_drained (kept : Kept index store adapter dataIds passed reading) (drained : reading.drained = true) :
    reading.records = dataIds.map (fun dataId => (index.read store adapter dataId).1)
      ∧ reading.events.Perm (dataIds.flatMap (fun dataId => (index.read store adapter dataId).2)) := by
  rw [BatchReading.drained, Bool.and_eq_true, List.isEmpty_iff, List.isEmpty_iff] at drained
  obtain ⟨waiting, window⟩ := drained
  have whole := kept.whole
  rw [waiting, window, List.map_nil, List.append_nil, List.append_nil] at whole
  have events := kept.events
  rw [BatchReading.ended, window, List.filterMap_nil, List.append_nil] at events
  exact ⟨whole ▸ kept.records, whole ▸ events⟩

-- A key that waits is three acts from being passed on, a read under way two, and one that has ended one.
def load (reading : BatchReading) : Nat := 3 * reading.waiting.length + Work.total Reading.load reading.window

theorem load_act {act : Act} (taken : reading.act index store adapter act = some later) : later.load + 1 = reading.load := by
  cases act with
  | begin =>
      simp only [BatchReading.act, begin] at taken
      split at taken
      · cases taken
      · rename_i dataId rest waiting
        split at taken
        · cases taken
          simp only [load, waiting, Work.total_append, Work.total, Reading.load, List.length_cons]
          omega
        · cases taken
  | finish place =>
      simp only [BatchReading.act, finish, Option.bind_eq_bind, Option.bind_eq_some_iff] at taken
      obtain ⟨⟨dataId, ended⟩, held, taken⟩ := taken
      cases ended with
      | some record => cases taken
      | none =>
          cases taken
          have set := Work.total_set Reading.load reading.window place _
            ⟨dataId, some (index.read store adapter dataId).1⟩ held
          have before : Reading.load ⟨dataId, none⟩ = 2 := rfl
          have after : Reading.load ⟨dataId, some (index.read store adapter dataId).1⟩ = 1 := rfl
          simp only [load]
          omega
  | pass =>
      simp only [BatchReading.act, pass] at taken
      split at taken
      · rename_i dataId record rest window
        cases taken
        simp only [load, window, Work.total, Reading.load]
        omega
      · cases taken

theorem load_run {acts : List Act} (ran : reading.run index store adapter acts = some later) :
    later.load + acts.length = reading.load := by
  induction acts generalizing reading with
  | nil =>
      cases ran
      rfl
  | cons act rest step =>
      simp only [run, List.foldlM_cons, Option.bind_eq_bind, Option.bind_eq_some_iff] at ran
      obtain ⟨between, taken, ran⟩ := ran
      have one := load_act taken
      have others := step ran
      rw [List.length_cons]
      omega

theorem act_possible (store : ObjectStore) (adapter : AdapterId) (wide : 0 < index.concurrency)
    (unfinished : reading.drained = false) : ∃ act later, reading.act index store adapter act = some later := by
  cases window : reading.window with
  | nil =>
      cases waiting : reading.waiting with
      | nil => simp only [drained, window, waiting, List.isEmpty_nil, Bool.and_self, Bool.true_eq_false] at unfinished
      | cons dataId rest =>
          refine ⟨.begin, ?_⟩
          simp only [act, begin, waiting, window, List.length_nil, if_pos wide]
          exact ⟨_, rfl⟩
  | cons slot rest =>
      obtain ⟨dataId, ended⟩ := slot
      cases ended with
      | none =>
          refine ⟨.finish 0, ?_⟩
          simp only [act, finish, window, List.getElem?_cons_zero]
          exact ⟨_, rfl⟩
      | some record =>
          refine ⟨.pass, ?_⟩
          simp only [act, pass, window]
          exact ⟨_, rfl⟩

theorem run_drained (wide : 0 < index.concurrency) (reading : BatchReading) :
    ∃ acts later, reading.run index store adapter acts = some later ∧ later.drained = true := by
  induction left : reading.load using Nat.strongRecOn generalizing reading with
  | _ count step =>
      cases finished : reading.drained with
      | true => exact ⟨[], reading, rfl, finished⟩
      | false =>
          obtain ⟨act, between, taken⟩ := act_possible store adapter wide finished
          have fewer := load_act taken
          obtain ⟨rest, later, ran, drained⟩ := step between.load (by omega) between rfl
          refine ⟨act :: rest, later, ?_, drained⟩
          simp only [run, List.foldlM_cons, taken, Option.bind_eq_bind, Option.bind_some]
          exact ran

-- However the reads of a batch take turns, they can be brought to the end, and there is then one entry per key, in
-- order, with one warning for each key that could not be read.
theorem reads_as_gets (root : ObjectPath) (concurrency : Nat) (store : ObjectStore) (adapter : AdapterId) (params : Params)
    (dataIds : List Bytes) (acts : List Act) (reading : BatchReading)
    (ran : ({ waiting := dataIds } : BatchReading).run (.create root concurrency) store adapter acts = some reading) :
    acts.length ≤ 3 * dataIds.length
      ∧ reading.window.length ≤ max concurrency 1
      ∧ (∃ more last, reading.run (.create root concurrency) store adapter more = some last ∧ last.drained = true)
      ∧ (reading.drained = true →
        reading.results adapter params
            = dataIds.map ((ObjectIndex.create root concurrency).fetched store adapter params)
          ∧ reading.events.Perm (dataIds.filterMap ((ObjectIndex.create root concurrency).report? store adapter))
          ∧ ∀ event ∈ reading.events, event.level = .warn ∧ event.headline = "failed to read data index record")
      ∧ ∀ other, (ObjectIndex.create root other).fetchBatch store adapter params dataIds
        = (dataIds.map ((ObjectIndex.create root concurrency).fetched store adapter params),
          dataIds.filterMap ((ObjectIndex.create root concurrency).report? store adapter)) := by
  obtain ⟨passed, kept⟩ := kept_run (kept_new (.create root concurrency) store adapter dataIds) ran
  have wide : 0 < (ObjectIndex.create root concurrency).concurrency := Nat.le_max_right concurrency 1
  refine ⟨?_, kept.bounded, run_drained wide reading, ?_, ?_⟩
  · have spent := load_run ran
    have full : BatchReading.load { waiting := dataIds } = 3 * dataIds.length := rfl
    omega
  · intro drained
    obtain ⟨records, events⟩ := kept_drained kept drained
    rw [ObjectIndex.reports_read] at events
    refine ⟨?_, events, ?_⟩
    · simp only [results, records, List.map_map, Function.comp_def, ObjectIndex.fetched_read]
    · intro event member
      obtain ⟨dataId, _, reported⟩ := List.mem_filterMap.mp (events.mem_iff.mp member)
      unfold ObjectIndex.report? at reported
      split at reported
      · cases reported
      · cases reported
        exact ⟨rfl, rfl⟩
  · intro other
    have same := ObjectIndex.read_root (.create root other) (.create root concurrency) rfl store adapter
    simp only [ObjectIndex.fetchBatch_read, same, ObjectIndex.fetched_read, ObjectIndex.reports_read]

def mixed : ObjectStore where
  objects := ⟨[("1/01.bin".toList, Record.encode [⟨[1], [], [2]⟩]), ("1/04.bin".toList, Record.encode [])]⟩
  faults := [⟨.read, "1/04".toList, .other, "reset"⟩]

def turns : List Act := [.begin, .begin, .finish 1, .finish 0, .pass, .begin, .pass, .finish 0, .pass]

theorem reads_as_gets_of_mixed :
    ∃ reading, ({ waiting := [[4], [1], [2]] } : BatchReading).run (.create ⟨[]⟩ 2) mixed 1 turns = some reading
      ∧ reading.drained = true
      ∧ reading.results 1 {} = [[4], [1], [2]].map ((ObjectIndex.create ⟨[]⟩ 2).fetched mixed 1 {})
      ∧ reading.events = [.recordUnreadable 1 [4] (.storage "reset")] := by
  have ran : ({ waiting := [[4], [1], [2]] } : BatchReading).run (.create ⟨[]⟩ 2) mixed 1 turns
      = some ⟨[], [], [none, some [⟨[1], [], [2]⟩], none], [.recordUnreadable 1 [4] (.storage "reset")]⟩ := rfl
  obtain ⟨_, _, _, ended, _⟩ := reads_as_gets ⟨[]⟩ 2 mixed 1 {} [[4], [1], [2]] turns _ ran
  exact ⟨_, ran, rfl, (ended rfl).1, rfl⟩

end BatchReading

end ThinScan
