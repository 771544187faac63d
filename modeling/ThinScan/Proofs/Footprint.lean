import ThinScan.Proofs.RecordPath
import ThinScan.Shelf

set_option autoImplicit false

namespace ThinScan

namespace Url

theorem mem_resolved {segment : Text} (segments : List Text) (member : segment ∈ resolveDots segments) :
    segment ∈ segments := by
  suffices walk : ∀ (left kept : List Text), segment ∈ left.foldl (fun kept segment =>
      if isDoubleDot segment then back kept else if isDot segment then kept else kept ++ [segment]) kept →
      segment ∈ kept ∨ segment ∈ left by
    exact (walk segments [] member).resolve_left List.not_mem_nil
  intro left
  induction left with
  | nil => exact fun kept held => .inl held
  | cons first rest step =>
      intro kept held
      rw [List.foldl_cons] at held
      rcases step _ held with earlier | later
      · by_cases twice : isDoubleDot first = true
        · rw [if_pos twice, back] at earlier
          by_cases drive : kept.getLast?.any isDriveLetter = true
          · exact .inl (by rwa [if_pos drive] at earlier)
          · rw [if_neg drive] at earlier
            exact .inl (List.dropLast_subset kept earlier)
        · rw [if_neg twice] at earlier
          by_cases once : isDot first = true
          · exact .inl (by rwa [if_pos once] at earlier)
          · rw [if_neg once] at earlier
            rcases List.mem_append.mp earlier with before | here
            · exact .inl before
            · exact .inr (List.mem_singleton.mp here ▸ List.mem_cons_self)
      · exact .inr (List.mem_cons_of_mem _ later)

theorem pathSegments_free (text : Text) : ∀ segment ∈ pathSegments text, '/' ∉ segment := by
  intro segment member
  obtain ⟨part, kept, rfl⟩ := List.mem_map.mp member
  exact Text.percentEncode_free _ (by decide) (Text.splitOn_free '/' _ part (mem_resolved _ kept))

theorem path_free {text : Text} {url : Url} (parsed : parse text = .ok url) : ∀ segment ∈ url.path, '/' ∉ segment := by
  suffices segmented : ∃ rest, url.path = pathSegments rest by
    obtain ⟨rest, same⟩ := segmented
    exact same ▸ pathSegments_free rest
  unfold parse at parsed
  split at parsed
  · cases parsed
  · dsimp only at parsed
    split at parsed
    · simp only [bind, Except.bind] at parsed
      split at parsed
      -- A file with its host, or any other url with its authority: the path follows in both.
      all_goals
        split at parsed
        · cases parsed
        · cases parsed
          exact ⟨_, rfl⟩
    · cases parsed
      exact ⟨_, rfl⟩

end Url

namespace ObjectPath

theorem clean_ofSegments {segments : List Text} (free : ∀ segment ∈ segments, '/' ∉ segment) :
    (ofSegments segments).Clean := by
  intro segment member
  obtain ⟨part, kept, rfl⟩ := List.mem_map.mp member
  obtain ⟨held, something⟩ := List.mem_filter.mp kept
  exact clean_escaped (by simpa using something) (free part held)

end ObjectPath

namespace Location

theorem clean_disk {text : Text} {place : Location} (parsed : ofDisk text = .ok place) : place.path.Clean := by
  unfold ofDisk at parsed
  dsimp only at parsed
  split at parsed
  · cases parsed
  · cases parsed
    intro segment member
    obtain ⟨held, something⟩ := List.mem_filter.mp member
    refine ⟨?_, Text.splitOn_free '/' text segment held⟩
    rintro rfl
    cases something

theorem clean_parse {text : Text} {place : Location} (parsed : parse text = .ok place) : place.path.Clean := by
  unfold parse at parsed
  split at parsed
  · cases read : Url.parse text with
    | error fault =>
        rw [read] at parsed
        cases parsed
    | ok url =>
        rw [read] at parsed
        dsimp only [ofUrl] at parsed
        split at parsed
        · cases parsed
        · cases parsed
          exact ObjectPath.clean_ofSegments (Url.path_free read)
  · split at parsed
    · dsimp only [ofMemory] at parsed
      split at parsed
      · cases parsed
      · cases parsed
        exact ObjectPath.clean_ofText _
    · exact clean_disk parsed

end Location

namespace ObjectStore

variable {store left : ObjectStore}

structure Differs (text : Text) (store left : ObjectStore) : Prop where
  faults : left.faults = store.faults
  objects : ∀ wanted, wanted ≠ text → left.objects.find? wanted = store.objects.find? wanted

theorem Differs.same (text : Text) (store : ObjectStore) : Differs text store store := ⟨rfl, fun _ _ => rfl⟩

theorem differs_put {path : ObjectPath} {body : Bytes} (done : store.put path body = .ok left) :
    Differs path.text store left := by
  unfold ObjectStore.put at done
  split at done
  · cases done
  · cases done
    refine ⟨rfl, fun wanted apart => ?_⟩
    rw [Table.find_insert, if_neg (Ne.symm apart)]

theorem differs_delete {path : ObjectPath} (done : store.delete path = .ok left) : Differs path.text store left := by
  unfold ObjectStore.delete at done
  split at done
  · cases done
  · cases done
    refine ⟨rfl, fun wanted apart => ?_⟩
    rw [Table.find_erase, if_neg (Ne.symm apart)]

theorem get_same {path : ObjectPath} (faults : left.faults = store.faults)
    (object : left.objects.find? path.text = store.objects.find? path.text) : left.get path = store.get path := by
  simp only [ObjectStore.get, planned, faults, object]

end ObjectStore

namespace ObjectIndex

variable {index : ObjectIndex} {store left : ObjectStore}

theorem differs_put {adapter : AdapterId} {dataId : Bytes} {values : Values}
    (done : index.put store adapter dataId values = .ok left) :
    ObjectStore.Differs (index.path adapter dataId).text store left := by
  rw [ObjectIndex.put] at done
  cases stored : store.put (index.path adapter dataId) (Record.encode values) with
  | error cause =>
      rw [stored] at done
      cases done
  | ok after =>
      rw [stored] at done
      cases done
      exact ObjectStore.differs_put stored

theorem differs_delete {adapter : AdapterId} {dataId : Bytes} (done : index.delete store adapter dataId = .ok left) :
    ObjectStore.Differs (index.path adapter dataId).text store left := by
  rw [ObjectIndex.delete] at done
  split at done
  · cases done
    exact .same _ _
  · cases done
  · cases done
    exact ObjectStore.differs_delete ‹_›

theorem get_same {adapter : AdapterId} {dataId : Bytes} (faults : left.faults = store.faults)
    (object : left.objects.find? (index.path adapter dataId).text = store.objects.find? (index.path adapter dataId).text) :
    index.get left adapter dataId = index.get store adapter dataId := by
  rw [ObjectIndex.get, ObjectIndex.get, ObjectStore.get_same faults object]

end ObjectIndex

namespace Depot

theorem store_setStore (depot : Depot) (place other : Place) (store : ObjectStore) :
    (depot.setStore place store).store other = if place = other then store else depot.store other := by
  cases place with
  | beside => cases other <;> rfl
  | opened serial =>
      cases other with
      | beside => rfl
      | opened another =>
          simp only [setStore, Depot.store, Table.find_insert, Place.opened.injEq]
          by_cases here : serial = another
          · simp only [if_pos here, Option.getD_some]
          · simp only [if_neg here]

end Depot

namespace Shelf

structure Key where
  place : Depot.Place
  root : ObjectPath
  adapter : AdapterId
  dataId : Bytes
deriving DecidableEq, Repr

def Key.path (key : Key) : ObjectPath := key.root.record key.adapter key.dataId

def key? (shelf : Shelf) (index : Nat) (adapter : AdapterId) (dataId : Bytes) : Option Key :=
  shelf.indexes[index]?.map (fun opened => ⟨opened.place, opened.index.root, adapter, dataId⟩)

def written? (shelf : Shelf) : Command → Option Key
  | .put index adapter dataId _ => shelf.key? index adapter dataId
  | .putRow index row => shelf.key? index row.adapter row.dataId
  | .delete index adapter dataId => shelf.key? index adapter dataId
  | _ => none

def Command.reads : Command → Bool
  | .get .. => true
  | .fetchBatch .. => true
  | _ => false

def object? (shelf : Shelf) (place : Depot.Place) (text : Text) : Option Bytes :=
  (shelf.depot.store place).objects.find? text

-- What a command leaves alone when it writes at most one record.
structure Framed (target : Option Key) (shelf after : Shelf) : Prop where
  faults : ∀ place, (after.depot.store place).faults = (shelf.depot.store place).faults
  objects : ∀ place text, (∀ key, target = some key → (key.place, key.path.text) ≠ (place, text)) →
    after.object? place text = shelf.object? place text
  indexes : shelf.indexes <+: after.indexes

def Clean (shelf : Shelf) : Prop := ∀ opened ∈ shelf.indexes, opened.index.root.Clean

variable {shelf after : Shelf}

theorem Framed.same (target : Option Key) (shelf : Shelf) : Framed target shelf shelf :=
  ⟨fun _ => rfl, fun _ _ _ => rfl, List.prefix_refl _⟩

theorem Framed.index {target : Option Key} (framed : Framed target shelf after) {number : Nat} {opened : Depot.Opened}
    (held : shelf.indexes[number]? = some opened) : after.indexes[number]? = some opened := by
  obtain ⟨more, same⟩ := framed.indexes
  rw [← same]
  exact List.getElem?_append_left (List.getElem?_eq_some_iff.mp held).1 ▸ held

theorem key_some {index : Nat} {opened : Depot.Opened} (held : shelf.indexes[index]? = some opened) (adapter : AdapterId)
    (dataId : Bytes) : shelf.key? index adapter dataId = some ⟨opened.place, opened.index.root, adapter, dataId⟩ := by
  rw [key?, held, Option.map_some]

theorem framed_update {key : Key} {left : ObjectStore}
    (differs : ObjectStore.Differs key.path.text (shelf.depot.store key.place) left) :
    Framed (some key) shelf { shelf with depot := shelf.depot.setStore key.place left } := by
  refine ⟨fun place => ?_, fun place text apart => ?_, List.prefix_refl _⟩
  · rw [Depot.store_setStore]
    by_cases here : key.place = place
    · rw [if_pos here, differs.faults, here]
    · rw [if_neg here]
  · simp only [object?, Depot.store_setStore]
    by_cases here : key.place = place
    · subst here
      rw [if_pos rfl]
      exact differs.objects text (fun same => apart key rfl (congrArg (Prod.mk key.place) same.symm))
    · rw [if_neg here]

theorem framed_change {index : Nat} {adapter : AdapterId} {dataId : Bytes}
    (changed : Depot.Opened → ObjectStore → Except Error ObjectStore)
    (differs : ∀ opened store left, changed opened store = .ok left →
      ObjectStore.Differs (opened.index.path adapter dataId).text store left) :
    Framed (shelf.key? index adapter dataId) shelf
      (shelf.change index (fun opened =>
        shelf.depot.update opened.place (changed opened (shelf.depot.store opened.place)))).2 := by
  rw [change]
  cases held : shelf.indexes[index]? with
  | none => exact .same _ _
  | some opened =>
      dsimp only
      rw [key_some held]
      cases result : changed opened (shelf.depot.store opened.place) with
      | error cause => exact .same _ _
      | ok left => exact framed_update (differs opened _ left result)

theorem framed_open (location : Text) (config : Config) : Framed none shelf (shelf.openAt location config).2 := by
  rw [Shelf.openAt]
  cases found : shelf.depot.openAt location config with
  | error cause => exact .same _ _
  | ok result =>
      obtain ⟨opened, depot⟩ := result
      have stores : depot.store = shelf.depot.store := by
        unfold Depot.openAt at found
        simp only [bind, Except.bind, pure, Except.pure] at found
        split at found
        · cases found
        · split at found
          · cases found
          · cases found
            funext place
            cases place <;> rfl
      refine ⟨fun place => ?_, fun place text _ => ?_, List.prefix_append _ _⟩
      · simp only [stores]
      · simp only [object?, stores]

theorem clean_opened {depot next : Depot} {location : Text} {config : Config} {opened : Depot.Opened}
    (found : depot.openAt location config = .ok (opened, next)) : opened.index.root.Clean := by
  unfold Depot.openAt Registry.resolve at found
  cases parsed : Location.parse location with
  | error fault =>
      rw [parsed] at found
      simp only [bind, Except.bind] at found
      split at found <;> cases found
  | ok place =>
      rw [parsed] at found
      simp only [bind, Except.bind, pure, Except.pure] at found
      split at found
      · cases found
      · cases found
        exact Location.clean_parse parsed

theorem look_same (index : Nat) (seen : Depot.Opened → Answer) : (shelf.look index seen).2 = shelf := by
  rw [look]
  cases shelf.indexes[index]? <;> rfl

theorem unread_same {command : Command} (reads : command.reads = true) : (shelf.perform command).2 = shelf := by
  cases command with
  | get index adapter dataId => exact look_same _ _
  | fetchBatch index adapter params dataIds => exact look_same _ _
  | _ => cases reads

theorem framed_perform (shelf : Shelf) (command : Command) :
    Framed (shelf.written? command) shelf (shelf.perform command).2 := by
  cases command with
  | openAt location config => exact framed_open location config
  | put index adapter dataId values =>
      exact framed_change (fun opened store => opened.index.put store adapter dataId values)
        (fun _ _ _ done => ObjectIndex.differs_put done)
  | putRow index row =>
      exact framed_change (fun opened store => opened.index.putRow store row)
        (fun _ _ _ done => ObjectIndex.differs_put done)
  | delete index adapter dataId =>
      exact framed_change (fun opened store => opened.index.delete store adapter dataId)
        (fun _ _ _ done => ObjectIndex.differs_delete done)
  | get index adapter dataId => rw [unread_same rfl]; exact .same _ _
  | fetchBatch index adapter params dataIds => rw [unread_same rfl]; exact .same _ _

theorem failed_same {command : Command} {cause : Error} (failed : (shelf.perform command).1 = .failed cause) :
    (shelf.perform command).2 = shelf := by
  have changes (index : Nat) (changed : Depot.Opened → Except Error Depot)
      (failed : (shelf.change index changed).1 = .failed cause) : (shelf.change index changed).2 = shelf := by
    rw [change] at failed ⊢
    cases held : shelf.indexes[index]? with
    | none => rfl
    | some opened =>
        rw [held] at failed
        cases result : changed opened with
        | error _ => simp only [result]
        | ok depot =>
            simp only [result] at failed
            cases failed
  cases command with
  | openAt location config =>
      simp only [perform, Shelf.openAt] at failed ⊢
      cases result : shelf.depot.openAt location config with
      | error _ => rfl
      | ok opened =>
          rw [result] at failed
          cases failed
  | put index adapter dataId values => exact changes index _ failed
  | putRow index row => exact changes index _ failed
  | delete index adapter dataId => exact changes index _ failed
  | get index adapter dataId => exact unread_same rfl
  | fetchBatch index adapter params dataIds => exact unread_same rfl

theorem change_indexes (index : Nat) (changed : Depot.Opened → Except Error Depot) :
    (shelf.change index changed).2.indexes = shelf.indexes := by
  rw [change]
  cases shelf.indexes[index]? with
  | none => rfl
  | some opened =>
      dsimp only
      cases changed opened <;> rfl

theorem clean_perform (clean : shelf.Clean) (command : Command) : (shelf.perform command).2.Clean := by
  cases command with
  | openAt location config =>
      simp only [perform, Shelf.openAt]
      cases found : shelf.depot.openAt location config with
      | error _ => exact clean
      | ok result =>
          intro opened member
          rcases List.mem_append.mp member with earlier | last
          · exact clean opened earlier
          · rw [List.mem_singleton.mp last]
            exact clean_opened found
  | get index adapter dataId => rw [unread_same rfl]; exact clean
  | fetchBatch index adapter params dataIds => rw [unread_same rfl]; exact clean
  | _ =>
      simp only [perform, Clean, change_indexes]
      exact clean

theorem clean_written (clean : shelf.Clean) {command : Command} {key : Key} (written : shelf.written? command = some key) :
    key.root.Clean := by
  have opened_clean (index : Nat) (adapter : AdapterId) (dataId : Bytes)
      (named : shelf.key? index adapter dataId = some key) : key.root.Clean := by
    obtain ⟨opened, held, rfl⟩ := Option.map_eq_some_iff.mp named
    exact clean opened (List.mem_of_getElem? held)
  cases command with
  | put index adapter dataId values => exact opened_clean _ _ _ written
  | putRow index row => exact opened_clean _ _ _ written
  | delete index adapter dataId => exact opened_clean _ _ _ written
  | _ => cases written

theorem path_inj {key other : Key} (clean : key.root.Clean) (clean_other : other.root.Clean) (place : key.place = other.place)
    (text : key.path.text = other.path.text) : key = other := by
  obtain ⟨roots, adapters, dataIds⟩ := ObjectPath.record_inj clean clean_other text
  cases key
  cases other
  simp_all only

theorem perform_get {index : Nat} {opened : Depot.Opened} (held : shelf.indexes[index]? = some opened) (adapter : AdapterId)
    (dataId : Bytes) : (shelf.perform (.get index adapter dataId)).1
      = match opened.index.get (shelf.depot.store opened.place) adapter dataId with
        | .ok found => .found found
        | .error cause => .failed cause := by
  rw [perform, look, held]
  rfl

theorem get_framed {target : Option Key} (framed : Framed target shelf after) (clean : shelf.Clean)
    (clean_target : ∀ key, target = some key → key.root.Clean) {index : Nat} {opened : Depot.Opened}
    (held : shelf.indexes[index]? = some opened) {adapter : AdapterId} {dataId : Bytes}
    (apart : target ≠ shelf.key? index adapter dataId) :
    (after.perform (.get index adapter dataId)).1 = (shelf.perform (.get index adapter dataId)).1 := by
  have object : after.object? opened.place (opened.index.path adapter dataId).text
      = shelf.object? opened.place (opened.index.path adapter dataId).text := by
    refine framed.objects _ _ (fun key named same => apart ?_)
    obtain ⟨place, text⟩ := Prod.mk.inj same
    have here : key = ⟨opened.place, opened.index.root, adapter, dataId⟩ :=
      path_inj (clean_target key named) (clean opened (List.mem_of_getElem? held)) place text
    rw [named, here, key_some held]
  rw [perform_get held, perform_get (framed.index held), ObjectIndex.get_same (framed.faults opened.place) object]

theorem key_framed {target : Option Key} (framed : Framed target shelf after) {index : Nat} {opened : Depot.Opened}
    (held : shelf.indexes[index]? = some opened) (adapter : AdapterId) (dataId : Bytes) :
    after.key? index adapter dataId = shelf.key? index adapter dataId := by
  rw [key_some held, key_some (framed.index held)]

def writings : Shelf → List Command → List Key
  | _, [] => []
  | shelf, command :: rest => (shelf.written? command).toList ++ writings (shelf.perform command).2 rest

theorem get_transcript (clean : shelf.Clean) (commands : List Command) {index : Nat} {opened : Depot.Opened}
    (held : shelf.indexes[index]? = some opened) {adapter : AdapterId} {dataId : Bytes}
    (apart : ∀ key ∈ shelf.writings commands, shelf.key? index adapter dataId ≠ some key) :
    ((transcript perform shelf commands).2.perform (.get index adapter dataId)).1
      = (shelf.perform (.get index adapter dataId)).1 := by
  induction commands generalizing shelf with
  | nil => rfl
  | cons command rest step =>
      have framed := framed_perform shelf command
      have here : shelf.written? command ≠ shelf.key? index adapter dataId := by
        intro same
        rw [key_some held] at same
        refine apart _ (List.mem_append_left _ (Option.mem_toList.mpr same)) (key_some held adapter dataId)
      have later := step (clean_perform clean command) (framed.index held) (fun key member =>
        key_framed framed held adapter dataId ▸ apart key (List.mem_append_right _ member))
      exact later.trans (get_framed framed clean (fun key => clean_written clean) held here)

-- A put or a delete leaves all objects but the one of its record, a command that reads or fails leaves everything;
-- and as no two records have one object, all other records of all indexes read as before.
theorem one_object_or_none (shelf : Shelf) (clean : shelf.Clean) (command : Command) :
    (∀ place text, (∀ key, shelf.written? command = some key → (key.place, key.path.text) ≠ (place, text)) →
        (shelf.perform command).2.object? place text = shelf.object? place text)
      ∧ (command.reads = true ∨ (∃ cause, (shelf.perform command).1 = .failed cause) → (shelf.perform command).2 = shelf)
      ∧ (∀ index < shelf.indexes.length, ∀ adapter dataId, shelf.written? command ≠ shelf.key? index adapter dataId →
        ((shelf.perform command).2.perform (.get index adapter dataId)).1
          = (shelf.perform (.get index adapter dataId)).1)
      ∧ (∀ root other : ObjectPath, root.Clean → other.Clean → ∀ adapter another dataId key,
        (root.record adapter dataId).text = (other.record another key).text →
          root = other ∧ adapter = another ∧ dataId = key) := by
  refine ⟨(framed_perform shelf command).objects, ?_, ?_, ?_⟩
  · rintro (reads | ⟨cause, failed⟩)
    · exact unread_same reads
    · exact failed_same failed
  · intro index within adapter dataId apart
    exact get_framed (framed_perform shelf command) clean (fun key => clean_written clean)
      (List.getElem?_eq_getElem within) apart
  · intro root other clean_root clean_other adapter another dataId key same
    exact ObjectPath.record_inj clean_root clean_other same

-- Three indexes over one store with roots that extend each other, one of them empty, and a store that refuses one object.
def nested : Shelf where
  depot := { beside := {
    objects := ⟨[("1/01.bin".toList, [0, 1]), ("x/1/01.bin".toList, Record.encode []), ("x/1/1/01.bin".toList, [7])]⟩
    faults := [⟨.put, "x/-1".toList, .denied, "read only"⟩] } }
  indexes := [Depot.openBeside ⟨[]⟩ 1, Depot.openBeside ⟨["x".toList]⟩ 4, Depot.openBeside ⟨["x".toList, "1".toList]⟩ 0]

theorem one_object_or_none_of_nested :
    nested.Clean
      ∧ (nested.perform (.put 1 1 [1] [⟨[1], [], [2]⟩])).2.object? .beside "x/1/1/01.bin".toList = some [7]
      ∧ (nested.perform (.put 1 (-1) [1] [])).2 = nested := by
  have clean : nested.Clean := by
    intro opened member
    simp only [nested, List.mem_cons, List.not_mem_nil, or_false] at member
    rcases member with rfl | rfl | rfl <;> intro segment held <;> revert segment held <;> decide
  refine ⟨clean, ?_, ?_⟩
  · refine ((one_object_or_none nested clean (.put 1 1 [1] [⟨[1], [], [2]⟩])).1 .beside "x/1/1/01.bin".toList ?_).trans rfl
    intro key named
    cases named
    decide
  · exact (one_object_or_none nested clean (.put 1 (-1) [1] [])).2.1 (.inr ⟨_, rfl⟩)

end Shelf

end ThinScan
