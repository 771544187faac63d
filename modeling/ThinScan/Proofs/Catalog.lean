import Mathlib.Data.List.Basic
import ThinScan.MemoryIndex
import ThinScan.Shelf

/-!
What a shelf of indexes means: one finite map, from a store name, a root, an adapter and a data id to values.
-/

set_option autoImplicit false

namespace ThinScan

namespace MemoryIndex

theorem get_insert (index : MemoryIndex) (adapter wanted : AdapterId) (dataId key : Bytes) (values : Values) :
    (index.insert adapter dataId values).get? wanted key
      = if adapter = wanted ∧ dataId = key then some values else index.get? wanted key := by
  simp only [get?, ofAdapter, insert, Table.find_insert]
  by_cases here : adapter = wanted
  · subst here
    simp only [if_pos, Option.getD_some, Table.find_insert, true_and]
  · simp only [here, false_and, if_false]

theorem get_remove (index : MemoryIndex) (adapter wanted : AdapterId) (dataId key : Bytes) :
    (index.remove adapter dataId).get? wanted key
      = if adapter = wanted ∧ dataId = key then none else index.get? wanted key := by
  simp only [get?, ofAdapter, remove, Table.find_insert]
  by_cases here : adapter = wanted
  · subst here
    simp only [if_pos, Option.getD_some, Table.find_erase, true_and]
  · simp only [here, false_and, if_false]

end MemoryIndex

structure Place where
  name : Text
  root : ObjectPath
deriving DecidableEq, Repr

namespace Place

def ofLocation? (location : Text) : Option Place :=
  let rest := location.drop Location.memoryScheme.length
  let name := rest.takeWhile (· ≠ '/')
  if name = [] then none else some ⟨name, .ofText ((rest.dropWhile (· ≠ '/')).drop 1)⟩

end Place

structure Catalog where
  -- By the number of the index, oldest first.
  places : List Place := []
  records : Place → MemoryIndex := fun _ => .empty

namespace Catalog

def openAt (catalog : Catalog) (location : Text) : Shelf.Answer × Catalog :=
  match Place.ofLocation? location with
  | some place => (.opened catalog.places.length, { catalog with places := catalog.places ++ [place] })
  | none => (.failed Location.Fault.noStoreName.error, catalog)

def write (catalog : Catalog) (place : Place) (change : MemoryIndex → MemoryIndex) : Catalog :=
  { catalog with records := fun other => if place = other then change (catalog.records other) else catalog.records other }

def change (catalog : Catalog) (index : Nat) (change : MemoryIndex → MemoryIndex) : Shelf.Answer × Catalog :=
  match catalog.places[index]? with
  | none => (.noIndex, catalog)
  | some place => (.done, catalog.write place change)

def look (catalog : Catalog) (index : Nat) (seen : MemoryIndex → Shelf.Answer) : Shelf.Answer × Catalog :=
  match catalog.places[index]? with
  | none => (.noIndex, catalog)
  | some place => (seen (catalog.records place), catalog)

def perform (catalog : Catalog) : Shelf.Command → Shelf.Answer × Catalog
  | .openAt location _ => catalog.openAt location
  | .put index adapter dataId values => catalog.change index (·.insert adapter dataId values)
  | .putRow index row => catalog.change index (·.insertRow row)
  | .delete index adapter dataId => catalog.change index (·.remove adapter dataId)
  | .get index adapter dataId => catalog.look index (fun records => .found (records.get? adapter dataId))
  | .fetchBatch index adapter params dataIds =>
      catalog.look index (fun records => .fetched (records.fetchBatch adapter params dataIds) [])

structure Key where
  place : Place
  adapter : AdapterId
  dataId : Bytes
deriving DecidableEq, Repr

abbrev Written := Key × Option Values

def written (catalog : Catalog) : Shelf.Command → List Written
  | .put index adapter dataId values => (catalog.places[index]?.map (fun place => (⟨place, adapter, dataId⟩, some values))).toList
  | .putRow index row =>
      (catalog.places[index]?.map (fun place => (⟨place, row.adapter, row.dataId⟩, some row.values))).toList
  | .delete index adapter dataId => (catalog.places[index]?.map (fun place => (⟨place, adapter, dataId⟩, none))).toList
  | _ => []

def history : Catalog → List Shelf.Command → List Written
  | _, [] => []
  | catalog, command :: rest => catalog.written command ++ history (catalog.perform command).2 rest

-- What was written last under a key, if it was not deleted since.
def last (key : Key) (history : List Written) : Option Values :=
  (history.reverse.lookup key).join

theorem last_append (key : Key) (earlier later : List Written) :
    last key (earlier ++ later) = ((later.reverse.lookup key).getD (last key earlier)) := by
  rw [last, last, List.reverse_append, List.lookup_append]
  cases later.reverse.lookup key <;> rfl

theorem last_one (key : Key) (earlier : List Written) (wrote : Key) (value : Option Values) :
    last key (earlier ++ [(wrote, value)]) = if wrote = key then value else last key earlier := by
  rw [last_append]
  by_cases same : wrote = key
  · rw [if_pos same, same]
    simp
  · rw [if_neg same]
    have different : (key == wrote) = false := beq_false_of_ne (Ne.symm same)
    simp [List.lookup_cons, different]

def Holds (catalog : Catalog) (history : List Written) : Prop :=
  ∀ key : Key, (catalog.records key.place).get? key.adapter key.dataId = last key history

theorem holds_change {catalog : Catalog} {history : List Written} (holds : catalog.Holds history) {wrote : Key}
    {value : Option Values} {change : MemoryIndex → MemoryIndex}
    (changes : ∀ (records : MemoryIndex) (adapter : AdapterId) (dataId : Bytes), (change records).get? adapter dataId
      = if wrote.adapter = adapter ∧ wrote.dataId = dataId then value else records.get? adapter dataId) :
    (catalog.write wrote.place change).Holds (history ++ [(wrote, value)]) := by
  intro key
  rw [last_one, ← holds key]
  by_cases here : wrote.place = key.place
  · simp only [write, if_pos here, changes]
    by_cases same : wrote = key
    · rw [if_pos same, if_pos ⟨congrArg Key.adapter same, congrArg Key.dataId same⟩]
    · rw [if_neg same]
      refine if_neg (fun parts => same ?_)
      cases wrote
      cases key
      simp_all
  · have different : wrote ≠ key := fun same => here (congrArg Key.place same)
    simp only [write, if_neg here, if_neg different]

theorem holds_index {catalog : Catalog} {history : List Written} (holds : catalog.Holds history) (index : Nat)
    {adapter : AdapterId} {dataId : Bytes} {value : Option Values} {change : MemoryIndex → MemoryIndex}
    (changes : ∀ (records : MemoryIndex) (other : AdapterId) (key : Bytes), (change records).get? other key
      = if adapter = other ∧ dataId = key then value else records.get? other key) :
    (catalog.change index change).2.Holds
      (history ++ (catalog.places[index]?.map (fun place => ((⟨place, adapter, dataId⟩ : Key), value))).toList) := by
  rw [Catalog.change]
  cases catalog.places[index]? with
  | none =>
      rw [Option.map_none, Option.toList_none, List.append_nil]
      exact holds
  | some place =>
      rw [Option.map_some, Option.toList_some]
      exact @holds_change catalog history holds ⟨place, adapter, dataId⟩ value change changes

theorem holds_perform {catalog : Catalog} {history : List Written} (holds : catalog.Holds history)
    (command : Shelf.Command) : (catalog.perform command).2.Holds (history ++ catalog.written command) := by
  have unwritten : catalog.Holds (history ++ []) := (List.append_nil history).symm ▸ holds
  cases command with
  | openAt location config =>
      rw [perform, openAt]
      cases Place.ofLocation? location with
      | none => exact unwritten
      | some place => exact unwritten
  | put index adapter dataId values =>
      exact holds_index holds index
        (fun records other key => MemoryIndex.get_insert records adapter other dataId key values)
  | putRow index row =>
      exact holds_index holds index
        (fun records other key => MemoryIndex.get_insert records row.adapter other row.dataId key row.values)
  | delete index adapter dataId =>
      exact holds_index holds index (fun records other key => MemoryIndex.get_remove records adapter other dataId key)
  | get index adapter dataId =>
      rw [perform, look]
      cases catalog.places[index]? <;> exact unwritten
  | fetchBatch index adapter params dataIds =>
      rw [perform, look]
      cases catalog.places[index]? <;> exact unwritten

theorem holds_transcript {catalog : Catalog} {earlier : List Written} (holds : catalog.Holds earlier)
    (commands : List Shelf.Command) :
    (Shelf.transcript perform catalog commands).2.Holds (earlier ++ catalog.history commands) := by
  induction commands generalizing catalog earlier with
  | nil => exact (List.append_nil earlier).symm ▸ holds
  | cons command rest step =>
      rw [history, ← List.append_assoc]
      exact step (holds_perform holds command)

end Catalog

end ThinScan
