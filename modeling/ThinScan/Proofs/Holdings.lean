import Mathlib.Data.List.Nodup
import ThinScan.Proofs.Catalog
import ThinScan.Proofs.TableOrder

set_option autoImplicit false

namespace ThinScan

namespace Table

variable {κ ν : Type} [LE κ] [LT κ] [Std.LawfulOrderLT κ]

theorem nodup_keys {table : Table κ ν} (ascending : table.Ascending) : table.keys.Nodup := by
  rw [keys, List.Nodup, List.pairwise_map]
  refine ascending.imp ?_
  intro left right below same
  rw [same] at below
  exact Std.lt_irrefl below

theorem mem_entries [DecidableEq κ] {table : Table κ ν} (ascending : table.Ascending) (key : κ) (value : ν) :
    (key, value) ∈ table.entries ↔ table.find? key = some value :=
  ⟨find_of_mem ascending, mem_of_valueOf⟩

end Table

namespace MemoryIndex

variable {index : MemoryIndex}

namespace Change

def adapter : Change → AdapterId
  | insert adapter _ _ => adapter
  | insertRow row => row.adapter
  | remove adapter _ => adapter

def dataId : Change → Bytes
  | insert _ dataId _ => dataId
  | insertRow row => row.dataId
  | remove _ dataId => dataId

def values : Change → Option Values
  | insert _ _ values => some values
  | insertRow row => some row.values
  | remove _ _ => none

end Change

abbrev Holdings := AdapterId → Bytes → Option Values

def Holdings.written (holdings : Holdings) (change : Change) : Holdings := fun adapter dataId =>
  if change.adapter = adapter ∧ change.dataId = dataId then change.values else holdings adapter dataId

def Holdings.after (changes : List Change) : Holdings := changes.foldl Holdings.written (fun _ _ => none)

def changed (index : MemoryIndex) (change : Change) : MemoryIndex := (index.perform change).2

def ofChanges (changes : List Change) : MemoryIndex := changes.foldl changed empty

theorem get_changed (index : MemoryIndex) (change : Change) :
    (index.changed change).get? = Holdings.written index.get? change := by
  funext adapter dataId
  cases change with
  | insert other key values => exact get_insert index other adapter key dataId values
  | insertRow row => exact get_insert index row.adapter adapter row.dataId dataId row.values
  | remove other key => exact get_remove index other adapter key dataId

theorem get_changes (changes : List Change) (index : MemoryIndex) :
    (changes.foldl changed index).get? = changes.foldl Holdings.written index.get? := by
  induction changes generalizing index with
  | nil => rfl
  | cons change rest step => rw [List.foldl_cons, step, get_changed, List.foldl_cons]

theorem get_empty : empty.get? = fun _ _ => none := rfl

theorem perform_old (index : MemoryIndex) (change : Change) :
    (index.perform change).1 = index.get? change.adapter change.dataId := by
  cases change <;> rfl

structure Ordered (index : MemoryIndex) : Prop where
  adapters : index.records.Ascending
  dataIds : ∀ entry ∈ index.records.entries, entry.2.Ascending

theorem ordered_ofAdapter (ordered : index.Ordered) (adapter : AdapterId) : (index.ofAdapter adapter).Ascending := by
  unfold ofAdapter
  cases found : index.records.find? adapter with
  | none => exact Table.ascending_empty
  | some table => exact ordered.dataIds (adapter, table) (Table.mem_of_valueOf found)

theorem ordered_stored (ordered : index.Ordered) {table : Table Bytes Values} (ascending : table.Ascending)
    (adapter : AdapterId) : Ordered { index with records := index.records.insert adapter table } := by
  refine ⟨Table.ascending_insert ordered.adapters adapter table, ?_⟩
  intro entry member
  rcases Table.insertEntry_keys adapter table index.records.entries entry member with stored | earlier
  · rw [stored]
    exact ascending
  · exact ordered.dataIds entry earlier

theorem ordered_insert (ordered : index.Ordered) (adapter : AdapterId) (dataId : Bytes) (values : Values) :
    (index.insert adapter dataId values).Ordered :=
  ordered_stored ordered (Table.ascending_insert (ordered_ofAdapter ordered adapter) dataId values) adapter

theorem ordered_changed (ordered : index.Ordered) (change : Change) : (index.changed change).Ordered := by
  cases change with
  | insert adapter dataId values => exact ordered_insert ordered adapter dataId values
  | insertRow row => exact ordered_insert ordered row.adapter row.dataId row.values
  | remove adapter dataId =>
      exact ordered_stored ordered (Table.ascending_erase (ordered_ofAdapter ordered adapter) dataId) adapter

theorem ordered_changes (ordered : index.Ordered) (changes : List Change) : (changes.foldl changed index).Ordered := by
  induction changes generalizing index with
  | nil => exact ordered
  | cons change rest step => exact step (ordered_changed ordered change)

theorem ordered_empty : empty.Ordered :=
  ⟨Table.ascending_empty, List.forall_mem_nil _⟩

theorem mem_ofAdapter (ordered : index.Ordered) (adapter : AdapterId) (dataId : Bytes) (values : Values) :
    (dataId, values) ∈ (index.ofAdapter adapter).entries ↔ index.get? adapter dataId = some values :=
  Table.mem_entries (ordered_ofAdapter ordered adapter) dataId values

def keys (index : MemoryIndex) : List (AdapterId × Bytes) :=
  index.records.entries.flatMap (fun entry => entry.2.keys.map (entry.1, ·))

theorem length_keys (index : MemoryIndex) : index.keys.length = index.size := by
  simp only [keys, size, Table.keys, List.length_flatMap, List.length_map]

theorem mem_keys (ordered : index.Ordered) (adapter : AdapterId) (dataId : Bytes) :
    (adapter, dataId) ∈ index.keys ↔ ∃ values, index.get? adapter dataId = some values := by
  constructor
  · intro member
    obtain ⟨⟨owner, table⟩, held, inside⟩ := List.mem_flatMap.mp member
    obtain ⟨key, listed, same⟩ := List.mem_map.mp inside
    cases same
    obtain ⟨⟨key, values⟩, entry, rfl⟩ := List.mem_map.mp listed
    have here : index.ofAdapter owner = table := by
      rw [ofAdapter, Table.find_of_mem ordered.adapters held, Option.getD_some]
    exact ⟨values, (mem_ofAdapter ordered owner key values).mp (here ▸ entry)⟩
  · rintro ⟨values, found⟩
    have entry := (mem_ofAdapter ordered adapter dataId values).mpr found
    cases stored : index.records.find? adapter with
    | none =>
        rw [ofAdapter, stored] at entry
        cases entry
    | some table =>
        rw [ofAdapter, stored] at entry
        refine List.mem_flatMap.mpr ⟨(adapter, table), Table.mem_of_valueOf stored, ?_⟩
        exact List.mem_map_of_mem (List.mem_map_of_mem entry)

theorem nodup_keys (ordered : index.Ordered) : index.keys.Nodup := by
  refine List.nodup_flatMap.mpr ⟨?_, ?_⟩
  · intro entry held
    exact (Table.nodup_keys (ordered.dataIds entry held)).map (fun _ _ same => congrArg Prod.snd same)
  · refine ordered.adapters.imp ?_
    intro left right below pair here there
    obtain ⟨_, _, rfl⟩ := List.mem_map.mp here
    obtain ⟨_, _, same⟩ := List.mem_map.mp there
    rw [(Prod.mk.inj same).1] at below
    exact Std.lt_irrefl below

theorem scan_ascending (ordered : index.Ordered) (adapter : AdapterId) :
    (index.scan adapter).Pairwise (fun left right => left.dataId < right.dataId) :=
  List.pairwise_map.mpr (ordered_ofAdapter ordered adapter)

theorem mem_scan (ordered : index.Ordered) (adapter : AdapterId) (row : Row) :
    row ∈ index.scan adapter
      ↔ ∃ dataId values, index.get? adapter dataId = some values ∧ row = Row.full dataId adapter values := by
  rw [scan, List.mem_map]
  constructor
  · rintro ⟨⟨dataId, values⟩, held, rfl⟩
    exact ⟨dataId, values, (mem_ofAdapter ordered adapter dataId values).mp held, rfl⟩
  · rintro ⟨dataId, values, found, rfl⟩
    exact ⟨(dataId, values), (mem_ofAdapter ordered adapter dataId values).mpr found, rfl⟩

theorem scan_unique (ordered : index.Ordered) (adapter : AdapterId) {left right : Row}
    (held : left ∈ index.scan adapter) (also : right ∈ index.scan adapter) (same : left.dataId = right.dataId) :
    left = right := by
  obtain ⟨dataId, values, found, rfl⟩ := (mem_scan ordered adapter left).mp held
  obtain ⟨key, others, found_also, rfl⟩ := (mem_scan ordered adapter right).mp also
  have keys : dataId = key := same
  rw [keys, found_also] at found
  rw [keys, Option.some.inj found]

def precedes (left right : Row) : Bool := left.dataId ≤ right.dataId

theorem scan_sorted (ordered : index.Ordered) (adapter : AdapterId) {rows : List Row}
    (met : rows.Perm (index.scan adapter)) : rows.mergeSort precedes = index.scan adapter := by
  have scanned : (index.scan adapter).Pairwise (fun left right => precedes left right) :=
    (scan_ascending ordered adapter).imp (fun below => decide_eq_true (Std.le_of_lt below))
  have sorted : (rows.mergeSort precedes).Pairwise (fun left right => precedes left right) := by
    apply List.pairwise_mergeSort
    · intro left middle right before after
      exact decide_eq_true (Std.le_trans (of_decide_eq_true before) (of_decide_eq_true after))
    · intro left right
      simpa [precedes] using Std.le_total (a := left.dataId) (b := right.dataId)
  have same : (rows.mergeSort precedes).Perm (index.scan adapter) := (List.mergeSort_perm rows precedes).trans met
  refine same.eq_of_pairwise ?_ sorted scanned
  intro left right member also before after
  exact scan_unique ordered adapter (same.mem_iff.mp member) also
    (Std.le_antisymm (of_decide_eq_true before) (of_decide_eq_true after))

theorem valueOf_below {key : Bytes} {entries : List (Bytes × Values)} (below : ∀ entry ∈ entries, key < entry.1) :
    Table.valueOf key entries = none := by
  cases found : Table.valueOf key entries with
  | none => rfl
  | some values => exact (Std.lt_irrefl (below (key, values) (Table.mem_of_valueOf found))).elim

theorem get_insertRows (adapter other : AdapterId) (dataId : Bytes) (entries : List (Bytes × Values))
    (ascending : entries.Pairwise (fun left right => left.1 < right.1)) (index : MemoryIndex) :
    ((entries.map (fun entry => Row.full entry.1 adapter entry.2)).foldl insertRow index).get? other dataId
      = if adapter = other then (Table.valueOf dataId entries).or (index.get? other dataId)
        else index.get? other dataId := by
  induction entries generalizing index with
  | nil => simp [Table.valueOf]
  | cons entry rest step =>
      obtain ⟨held, values⟩ := entry
      obtain ⟨above, ordered⟩ := List.pairwise_cons.mp ascending
      have inserted : (index.insertRow (.full held adapter values)).get? other dataId
          = if adapter = other ∧ held = dataId then some values else index.get? other dataId :=
        get_insert index adapter other held dataId values
      rw [List.map_cons, List.foldl_cons, step ordered, inserted, Table.valueOf]
      by_cases here : adapter = other
      · by_cases same : held = dataId
        · have later : Table.valueOf dataId rest = none := valueOf_below (same ▸ above)
          simp [here, same, later]
        · simp [here, same]
      · simp [here]

theorem scan_reproduces (ordered : index.Ordered) (adapter other : AdapterId) (dataId : Bytes) :
    ((index.scan adapter).foldl insertRow empty).get? other dataId
      = if adapter = other then index.get? other dataId else none := by
  rw [scan, get_insertRows adapter other dataId _ (ordered_ofAdapter ordered adapter), get_empty]
  by_cases here : adapter = other
  · rw [if_pos here, if_pos here, Option.or_none, ← here]
    rfl
  · rw [if_neg here, if_neg here]

-- Whatever was inserted and removed, in any order, the index is the map of what was written last, and size, scans and
-- fetches all tell this one map.
theorem reads_agree (changes : List Change) :
    (∀ change, ((ofChanges changes).perform change).1 = Holdings.after changes change.adapter change.dataId)
    ∧ (∃ keys : List (AdapterId × Bytes), keys.Nodup ∧ keys.length = (ofChanges changes).size
      ∧ ∀ adapter dataId, (adapter, dataId) ∈ keys ↔ ∃ values, Holdings.after changes adapter dataId = some values)
    ∧ (∀ adapter,
      ((ofChanges changes).scan adapter).Pairwise (fun left right => left.dataId < right.dataId)
      ∧ (∀ row, row ∈ (ofChanges changes).scan adapter ↔ ∃ dataId values,
        Holdings.after changes adapter dataId = some values ∧ row = Row.full dataId adapter values)
      ∧ (∀ rows : List Row, rows.Perm ((ofChanges changes).scan adapter) →
        rows.mergeSort precedes = (ofChanges changes).scan adapter)
      ∧ ∀ other dataId, (((ofChanges changes).scan adapter).foldl insertRow empty).get? other dataId
        = if adapter = other then Holdings.after changes other dataId else none)
    ∧ ∀ adapter params,
      (∀ dataId, (ofChanges changes).fetch adapter params dataId
        = (Holdings.after changes adapter dataId).map (params.apply adapter))
      ∧ (∀ dataId, (ofChanges changes).fetch adapter params dataId = none
        ↔ Holdings.after changes adapter dataId = none)
      ∧ ∀ dataIds, (ofChanges changes).fetchBatch adapter params dataIds
        = dataIds.map ((ofChanges changes).fetch adapter params) := by
  have held : (ofChanges changes).get? = Holdings.after changes := get_changes changes empty
  have ordered := ordered_changes ordered_empty changes
  rw [← held]
  refine ⟨perform_old _, ⟨_, nodup_keys ordered, length_keys _, mem_keys ordered⟩, ?_, ?_⟩
  · intro adapter
    exact ⟨scan_ascending ordered adapter, mem_scan ordered adapter, fun _ => scan_sorted ordered adapter,
      scan_reproduces ordered adapter⟩
  · intro adapter params
    exact ⟨fun _ => rfl, fun _ => Option.map_eq_none_iff, fun _ => rfl⟩

def overwrites : List Change :=
  [.insert 7 [1, 2] [], .insert 8 [] [], .insert 7 [1] [], .insertRow (.full [1] 7 [⟨[1], [], [3]⟩]), .remove 8 []]

theorem reads_agree_of_overwrites :
    (ofChanges overwrites).scan 7 = [.full [1] 7 [⟨[1], [], [3]⟩], .full [1, 2] 7 []]
    ∧ [Row.full [1, 2] 7 [], .full [1] 7 [⟨[1], [], [3]⟩]].mergeSort precedes = (ofChanges overwrites).scan 7
    ∧ (ofChanges overwrites).fetchBatch 7 {} [[1, 2], [2], [1, 2]] = [some [], none, some []]
    ∧ ((ofChanges overwrites).perform (.remove 7 [1])).1 = some [⟨[1], [], [3]⟩]
    ∧ (ofChanges overwrites).size = 2 := by
  obtain ⟨old, _, scans, fetches⟩ := reads_agree overwrites
  refine ⟨by decide, (scans 7).2.2.1 _ (by decide), ?_, old (.remove 7 [1]), by decide⟩
  rw [(fetches 7 {}).2.2]
  decide

end MemoryIndex

end ThinScan
