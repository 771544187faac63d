import ThinScan.Proofs.Catalog
import ThinScan.Proofs.Opening
import ThinScan.Proofs.RecordPath
import ThinScan.Proofs.RoundTrip

set_option autoImplicit false

namespace ThinScan

namespace Location

theorem cut_slash (rest : Text) :
    Text.cut '/' rest = (rest.takeWhile (· ≠ '/'), (rest.dropWhile (· ≠ '/')).tail?) := by
  unfold Text.cut
  cases dropped : rest.dropWhile (· ≠ '/') with
  | nil =>
      have whole := List.takeWhile_append_dropWhile (p := (· ≠ '/')) (l := rest)
      rw [dropped, List.append_nil] at whole
      rw [whole]
      rfl
  | cons slash after => rfl

theorem parse_memory {location : Text} (memory : memoryScheme <+: location) :
    parse location = match Place.ofLocation? location with
      | some place => .ok (.memory place.name place.root)
      | none => .error .noStoreName := by
  obtain ⟨rest, rfl⟩ := memory
  have other : bucketScheme.isPrefixOf (memoryScheme ++ rest) = false := rfl
  have here : memoryScheme.isPrefixOf (memoryScheme ++ rest) = true := by simp
  have dropped : (memoryScheme ++ rest).drop memoryScheme.length = rest := List.drop_left
  rw [parse, other, here, dropped, Place.ofLocation?, dropped, ofMemory, cut_slash]
  generalize rest.takeWhile (· ≠ '/') = name
  generalize rest.dropWhile (· ≠ '/') = after
  cases name with
  | nil => rfl
  | cons first others => cases after <;> rfl

end Location

namespace ObjectStore

variable {store : ObjectStore}

theorem put_faultless (faultless : store.faults = []) (path : ObjectPath) (body : Bytes) :
    store.put path body = .ok { store with objects := store.objects.insert path.text body } := by
  simp [put, planned, faultless]

theorem delete_faultless (faultless : store.faults = []) (path : ObjectPath) :
    store.delete path = .ok { store with objects := store.objects.erase path.text } := by
  simp [delete, planned, faultless]

theorem get_faultless (faultless : store.faults = []) (path : ObjectPath) :
    store.get path = match store.objects.find? path.text with
      | some body => .ok (.ok body)
      | none => .error (.notFound path.text "no such object") := by
  simp only [get, planned, faultless, List.find?_nil, Option.map_none]
  cases store.objects.find? path.text <;> rfl

end ObjectStore

namespace Depot

def named (depot : Depot) (name : Text) : ObjectStore :=
  match depot.registry.memories.lookup name with
  | some handle => depot.store (.opened handle.serial)
  | none => {}

end Depot

namespace Shelf

def Shows (registry : Registry) (place : Place) (opened : Depot.Opened) : Prop :=
  ∃ handle, registry.memories.lookup place.name = some handle ∧ opened.place = .opened handle.serial
    ∧ opened.index.root = place.root

structure Kept (shelf : Shelf) (catalog : Catalog) : Prop where
  sound : shelf.depot.registry.Sound
  unused : ∀ serial, shelf.depot.registry.opened ≤ serial → shelf.depot.stores.find? serial = none
  shown : List.Forall₂ (Shows shelf.depot.registry) catalog.places shelf.indexes
  clean : ∀ place ∈ catalog.places, place.root.Clean
  faultless : ∀ name, (shelf.depot.named name).faults = []
  stored : ∀ (name : Text) (root : ObjectPath), root.Clean → ∀ adapter dataId,
    (shelf.depot.named name).objects.find? (root.record adapter dataId).text
      = ((catalog.records ⟨name, root⟩).get? adapter dataId).map Record.encode
  small : ∀ (place : Place) (adapter : AdapterId) (dataId : Bytes) (values : Values),
    (catalog.records place).get? adapter dataId = some values → (Record.encode values).length < 2147483648

variable {shelf : Shelf} {catalog : Catalog}

theorem shown_at (kept : shelf.Kept catalog) (index : Nat) :
    (catalog.places[index]? = none ∧ shelf.indexes[index]? = none)
      ∨ ∃ place opened, catalog.places[index]? = some place ∧ shelf.indexes[index]? = some opened
        ∧ place.root.Clean ∧ Shows shelf.depot.registry place opened := by
  have lengths := kept.shown.length_eq
  by_cases within : index < catalog.places.length
  · have within_shelf : index < shelf.indexes.length := lengths ▸ within
    have held : catalog.places[index]? = some catalog.places[index] := List.getElem?_eq_getElem within
    refine .inr ⟨_, _, held, List.getElem?_eq_getElem within_shelf, ?_, ?_⟩
    · exact kept.clean _ (List.getElem_mem within)
    · exact List.Forall₂.get kept.shown within within_shelf
  · refine .inl ⟨List.getElem?_eq_none (Nat.not_lt.mp within), List.getElem?_eq_none ?_⟩
    exact lengths ▸ Nat.not_lt.mp within

theorem store_shown {registry : Registry} {place : Place} {opened : Depot.Opened} {depot : Depot}
    (same : depot.registry = registry) (shows : Shows registry place opened) :
    depot.store opened.place = depot.named place.name := by
  obtain ⟨handle, found, stands, _⟩ := shows
  rw [Depot.named, same, found, stands]

theorem path_shown {registry : Registry} {place : Place} {opened : Depot.Opened} (shows : Shows registry place opened)
    (adapter : AdapterId) (dataId : Bytes) : opened.index.path adapter dataId = place.root.record adapter dataId := by
  obtain ⟨handle, _, _, root⟩ := shows
  rw [ObjectIndex.path, root]

theorem named_setStore {depot : Depot} {place : Place} {opened : Depot.Opened} (sound : depot.registry.Sound)
    (shows : Shows depot.registry place opened) (store : ObjectStore) (name : Text) :
    (depot.setStore opened.place store).named name = if place.name = name then store else depot.named name := by
  obtain ⟨handle, found, stands, _⟩ := shows
  rw [stands]
  simp only [Depot.named, Depot.setStore, Depot.store]
  by_cases here : place.name = name
  · subst here
    simp only [found, Table.find_insert, if_pos, Option.getD_some]
  · rw [if_neg here]
    cases lookup : depot.registry.memories.lookup name with
    | none => rfl
    | some another =>
        have apart : handle.serial ≠ another.serial := fun same => here (Registry.memory_inj sound found lookup same)
        simp only [Table.find_insert, if_neg apart]

theorem setStore_opened {depot : Depot} {place : Place} {opened : Depot.Opened} (shows : Shows depot.registry place opened)
    (store : ObjectStore) : (depot.setStore opened.place store).registry = depot.registry := by
  obtain ⟨handle, _, stands, _⟩ := shows
  rw [stands]
  rfl

theorem unused_setStore {depot : Depot} {place : Place} {opened : Depot.Opened} (sound : depot.registry.Sound)
    (shows : Shows depot.registry place opened) (store : ObjectStore) {serial : Nat}
    (unopened : depot.registry.opened ≤ serial) :
    (depot.setStore opened.place store).stores.find? serial = depot.stores.find? serial := by
  obtain ⟨handle, found, stands, _⟩ := shows
  have below := Registry.issued_memory sound found
  have apart : handle.serial ≠ serial := by omega
  rw [stands]
  simp only [Depot.setStore, Table.find_insert, if_neg apart]

theorem kept_write (kept : shelf.Kept catalog) {index : Nat} {place : Place} {opened : Depot.Opened}
    (held : catalog.places[index]? = some place) (shows : Shows shelf.depot.registry place opened) (store : ObjectStore)
    (value : Option Values) {change : MemoryIndex → MemoryIndex} {adapter : AdapterId} {dataId : Bytes} (faultless : store.faults = [])
    (found : ∀ text, store.objects.find? text = if (place.root.record adapter dataId).text = text
      then value.map Record.encode else (shelf.depot.named place.name).objects.find? text)
    (changes : ∀ (records : MemoryIndex) (wanted : AdapterId) (key : Bytes), (change records).get? wanted key
      = if adapter = wanted ∧ dataId = key then value else records.get? wanted key)
    (fits : ∀ values, value = some values → (Record.encode values).length < 2147483648) :
    Kept { shelf with depot := shelf.depot.setStore opened.place store } (catalog.write place change) := by
  have clean := kept.clean place (List.mem_of_getElem? held)
  have registry := setStore_opened shows store
  refine ⟨?_, ?_, ?_, kept.clean, ?_, ?_, ?_⟩
  · rw [registry]
    exact kept.sound
  · intro serial unopened
    rw [registry] at unopened
    rw [unused_setStore kept.sound shows store unopened]
    exact kept.unused serial unopened
  · rw [registry]
    exact kept.shown
  · intro name
    rw [named_setStore kept.sound shows]
    by_cases here : place.name = name
    · rw [if_pos here]
      exact faultless
    · rw [if_neg here]
      exact kept.faultless name
  · intro name root clean_root wanted key
    rw [named_setStore kept.sound shows]
    by_cases here : place.name = name
    · subst here
      rw [if_pos rfl, found, kept.stored place.name root clean_root wanted key]
      by_cases same : (place.root.record adapter dataId).text = (root.record wanted key).text
      · obtain ⟨roots, adapters, keys⟩ := ObjectPath.record_inj clean clean_root same
        subst roots adapters keys
        simp only [Catalog.write, changes, if_pos, and_self]
      · rw [if_neg same]
        by_cases there : place = ⟨place.name, root⟩
        · have different : ¬(adapter = wanted ∧ dataId = key) := by
            rintro ⟨rfl, rfl⟩
            exact same (by rw [there])
          simp only [Catalog.write, if_pos there, changes, if_neg different]
        · simp only [Catalog.write, if_neg there]
    · have elsewhere : place ≠ ⟨name, root⟩ := fun same => here (congrArg Place.name same)
      simp only [if_neg here, Catalog.write, if_neg elsewhere]
      exact kept.stored name root clean_root wanted key
  · intro other wanted key values got
    by_cases here : place = other
    · simp only [Catalog.write, if_pos here, changes] at got
      by_cases same : adapter = wanted ∧ dataId = key
      · rw [if_pos same] at got
        exact fits values got
      · rw [if_neg same] at got
        exact kept.small other wanted key values got
    · simp only [Catalog.write, if_neg here] at got
      exact kept.small other wanted key values got

-- What the commands are to keep to: locations in memory, valid configs, and records that a slot can reach.
def Command.Proper : Command → Prop
  | .openAt location config => Location.memoryScheme <+: location ∧ config.validate = .ok ()
  | .put _ _ _ values => (Record.encode values).length < 2147483648
  | .putRow _ row => (Record.encode row.values).length < 2147483648
  | _ => True

instance (command : Command) : Decidable command.Proper :=
  match command with
  | .openAt location config => inferInstanceAs (Decidable (Location.memoryScheme <+: location ∧ config.validate = .ok ()))
  | .put _ _ _ values => inferInstanceAs (Decidable ((Record.encode values).length < 2147483648))
  | .putRow _ row => inferInstanceAs (Decidable ((Record.encode row.values).length < 2147483648))
  | .delete _ _ _ => .isTrue trivial
  | .get _ _ _ => .isTrue trivial
  | .fetchBatch _ _ _ _ => .isTrue trivial

theorem openAt_memory {depot : Depot} {location : Text} {config : Config} (memory : Location.memoryScheme <+: location)
    (valid : config.validate = .ok ()) :
    depot.openAt location config = match Place.ofLocation? location with
      | some place => .ok (⟨.opened (depot.registry.memory place.name).1.serial, .create place.root config.fetchConcurrency⟩,
          { depot with registry := (depot.registry.memory place.name).2 })
      | none => .error Location.Fault.noStoreName.error := by
  simp only [Depot.openAt, valid, Registry.resolve, Location.parse_memory memory]
  cases Place.ofLocation? location <;> rfl

theorem clean_ofLocation {location : Text} {place : Place} (denoted : Place.ofLocation? location = some place) :
    place.root.Clean := by
  unfold Place.ofLocation? at denoted
  dsimp only at denoted
  split at denoted
  · cases denoted
  · cases denoted
    exact ObjectPath.clean_ofText _

theorem named_opened {depot : Depot} (unused : ∀ serial, depot.registry.opened ≤ serial → depot.stores.find? serial = none)
    (name other : Text) :
    Depot.named { depot with registry := (depot.registry.memory name).2 } other = depot.named other := by
  simp only [Depot.named, Registry.lookup_memory]
  by_cases here : other = name
  · subst here
    rw [if_pos rfl]
    unfold Registry.memory
    cases found : depot.registry.memories.lookup other with
    | some handle => rfl
    | none =>
        have nothing := unused depot.registry.opened (Nat.le_refl _)
        simp only [Depot.store, Registry.fresh, nothing, Option.getD_none]
  · rw [if_neg here]
    rfl

theorem shows_memory {registry : Registry} {place : Place} {opened : Depot.Opened}
    (shows : Shows registry place opened) (name : Text) : Shows (registry.memory name).2 place opened := by
  obtain ⟨handle, found, stands, root⟩ := shows
  refine ⟨handle, ?_, stands, root⟩
  rw [Registry.lookup_memory]
  by_cases here : place.name = name
  · rw [if_pos here]
    rw [here] at found
    simp only [Registry.memory, found]
  · rw [if_neg here]
    exact found

theorem opened_memory (registry : Registry) (name : Text) : registry.opened ≤ (registry.memory name).2.opened := by
  unfold Registry.memory
  cases registry.memories.lookup name with
  | some handle => exact Nat.le_refl _
  | none => exact Nat.le_succ _

theorem kept_open (kept : shelf.Kept catalog) {place : Place} (clean : place.root.Clean) (concurrency : Nat) :
    Kept
      { depot := { shelf.depot with registry := (shelf.depot.registry.memory place.name).2 }
        indexes := shelf.indexes
          ++ [⟨.opened (shelf.depot.registry.memory place.name).1.serial, .create place.root concurrency⟩] }
      { catalog with places := catalog.places ++ [place] } := by
  refine ⟨Registry.sound_memory kept.sound place.name, ?_, ?_, ?_, ?_, ?_, kept.small⟩
  · intro serial unopened
    exact kept.unused serial (Nat.le_trans (opened_memory _ _) unopened)
  · refine List.rel_append (kept.shown.imp (fun _ _ shows => shows_memory shows place.name)) ?_
    refine .cons ⟨(shelf.depot.registry.memory place.name).1, ?_, rfl, rfl⟩ .nil
    rw [Registry.lookup_memory, if_pos rfl]
  · intro other member
    rcases List.mem_append.mp member with earlier | new
    · exact kept.clean other earlier
    · exact List.mem_singleton.mp new ▸ clean
  · intro name
    rw [named_opened kept.unused]
    exact kept.faultless name
  · intro name root clean_root adapter dataId
    rw [named_opened kept.unused]
    exact kept.stored name root clean_root adapter dataId

-- Two that are kept alike answer alike, and stay so.
def Alike {Told : Type} (left : Told × Shelf) (right : Told × Catalog) : Prop := left.1 = right.1 ∧ left.2.Kept right.2

theorem alike_open (kept : shelf.Kept catalog) {location : Text} {config : Config}
    (memory : Location.memoryScheme <+: location) (valid : config.validate = .ok ()) :
    Alike (shelf.openAt location config) (catalog.openAt location) := by
  have opens := @openAt_memory shelf.depot location config memory valid
  cases denoted : Place.ofLocation? location with
  | none =>
      rw [denoted] at opens
      rw [Shelf.openAt, opens, Catalog.openAt, denoted]
      exact ⟨rfl, kept⟩
  | some place =>
      rw [denoted] at opens
      rw [Shelf.openAt, opens, Catalog.openAt, denoted]
      exact ⟨congrArg Answer.opened kept.shown.length_eq.symm, kept_open kept (clean_ofLocation denoted) _⟩

theorem alike_change (kept : shelf.Kept catalog) {index : Nat} {changed : Depot.Opened → Except Error Depot}
    {change : MemoryIndex → MemoryIndex}
    (changes : ∀ place opened, catalog.places[index]? = some place → Shows shelf.depot.registry place opened →
      ∃ depot, changed opened = .ok depot ∧ Kept { shelf with depot := depot } (catalog.write place change)) :
    Alike (shelf.change index changed) (catalog.change index change) := by
  rcases shown_at kept index with ⟨noPlace, noIndex⟩ | ⟨place, opened, held, stands, _, shows⟩
  · rw [Shelf.change, noIndex, Catalog.change, noPlace]
    exact ⟨rfl, kept⟩
  · obtain ⟨depot, done, next⟩ := changes place opened held shows
    simp only [Shelf.change, stands, done, Catalog.change, held]
    exact ⟨rfl, next⟩

theorem alike_look (kept : shelf.Kept catalog) {index : Nat} {seen : Depot.Opened → Answer} {means : MemoryIndex → Answer}
    (same : ∀ place opened, place.root.Clean → Shows shelf.depot.registry place opened →
      seen opened = means (catalog.records place)) :
    Alike (shelf.look index seen) (catalog.look index means) := by
  rcases shown_at kept index with ⟨noPlace, noIndex⟩ | ⟨place, opened, held, stands, clean, shows⟩
  · rw [look, noIndex, Catalog.look, noPlace]
    exact ⟨rfl, kept⟩
  · rw [look, stands, Catalog.look, held]
    exact ⟨same place opened clean shows, kept⟩

theorem alike_put (kept : shelf.Kept catalog) (index : Nat) (adapter : AdapterId) (dataId : Bytes) {values : Values}
    (fits : (Record.encode values).length < 2147483648) :
    Alike (shelf.change index (fun opened => shelf.depot.put opened adapter dataId values))
      (catalog.change index (·.insert adapter dataId values)) := by
  refine alike_change kept (fun place opened held shows => ⟨_, ?_, kept_write kept held shows
    { shelf.depot.named place.name with
      objects := (shelf.depot.named place.name).objects.insert (place.root.record adapter dataId).text
        (Record.encode values) }
    (some values) (kept.faultless place.name) (fun text => Table.find_insert _ _ text _)
    (fun records wanted key => MemoryIndex.get_insert records adapter wanted dataId key values) ?_⟩)
  · rw [Depot.put, Depot.update, ObjectIndex.put, store_shown rfl shows, path_shown shows,
      ObjectStore.put_faultless (kept.faultless place.name)]
    rfl
  · intro stored same
    exact Option.some.inj same ▸ fits

theorem alike_delete (kept : shelf.Kept catalog) (index : Nat) (adapter : AdapterId) (dataId : Bytes) :
    Alike (shelf.change index (fun opened => shelf.depot.delete opened adapter dataId))
      (catalog.change index (·.remove adapter dataId)) := by
  refine alike_change kept (fun place opened held shows => ⟨_, ?_, kept_write kept held shows
    { shelf.depot.named place.name with
      objects := (shelf.depot.named place.name).objects.erase (place.root.record adapter dataId).text }
    none (kept.faultless place.name) (fun text => Table.find_erase _ _ text)
    (fun records wanted key => MemoryIndex.get_remove records adapter wanted dataId key) (fun stored same => by cases same)⟩)
  rw [Depot.delete, Depot.update, ObjectIndex.delete, store_shown rfl shows, path_shown shows,
    ObjectStore.delete_faultless (kept.faultless place.name)]
  rfl

theorem get_shown (kept : shelf.Kept catalog) {place : Place} {opened : Depot.Opened} (clean : place.root.Clean)
    (shows : Shows shelf.depot.registry place opened) (adapter : AdapterId) (dataId : Bytes) :
    shelf.depot.get opened adapter dataId = .ok ((catalog.records place).get? adapter dataId) := by
  have stored := kept.stored place.name place.root clean adapter dataId
  rw [Depot.get, ObjectIndex.get, path_shown shows, store_shown rfl shows,
    ObjectStore.get_faultless (kept.faultless place.name), stored]
  cases got : (catalog.records place).get? adapter dataId with
  | none => rfl
  | some values =>
      have read := Record.read_encode values (kept.small place adapter dataId values got)
      simp only [Option.map_some, Record.decode, read, Except.map]

theorem fetchBatch_shown (kept : shelf.Kept catalog) {place : Place} {opened : Depot.Opened} (clean : place.root.Clean)
    (shows : Shows shelf.depot.registry place opened) (adapter : AdapterId) (params : Params) (dataIds : List Bytes) :
    shelf.depot.fetchBatch opened adapter params dataIds
      = ((catalog.records place).fetchBatch adapter params dataIds, []) := by
  have one (dataId : Bytes) : opened.index.fetchOne (shelf.depot.store opened.place) adapter params dataId
      = ((catalog.records place).fetch adapter params dataId, []) := by
    have got := get_shown kept clean shows adapter dataId
    rw [Depot.get] at got
    rw [ObjectIndex.fetchOne, got]
    rfl
  have silent : dataIds.flatMap (fun _ => ([] : List Event)) = [] := List.flatMap_eq_nil_iff.mpr (fun _ _ => rfl)
  simp only [Depot.fetchBatch, ObjectIndex.fetchBatch, one, MemoryIndex.fetchBatch, List.map_map, Function.comp_def,
    List.flatMap_map, silent]

theorem alike_perform (kept : shelf.Kept catalog) {command : Command} (proper : command.Proper) :
    Alike (shelf.perform command) (catalog.perform command) := by
  cases command with
  | openAt location config => exact alike_open kept proper.1 proper.2
  | put index adapter dataId values => exact alike_put kept index adapter dataId proper
  | putRow index row => exact alike_put kept index row.adapter row.dataId proper
  | delete index adapter dataId => exact alike_delete kept index adapter dataId
  | get index adapter dataId =>
      refine alike_look kept (fun place opened clean shows => ?_)
      rw [get_shown kept clean shows]
  | fetchBatch index adapter params dataIds =>
      refine alike_look kept (fun place opened clean shows => ?_)
      rw [fetchBatch_shown kept clean shows]

theorem alike_transcript (kept : shelf.Kept catalog) {commands : List Command}
    (proper : ∀ command ∈ commands, command.Proper) :
    Alike (transcript perform shelf commands) (transcript Catalog.perform catalog commands) := by
  induction commands generalizing shelf catalog with
  | nil => exact ⟨rfl, kept⟩
  | cons command rest step =>
      obtain ⟨now, later⟩ := List.forall_mem_cons.mp proper
      obtain ⟨same, next⟩ := alike_perform kept now
      obtain ⟨answers, last⟩ := step next later
      exact ⟨congrArg₂ List.cons same answers, last⟩

def bare (registry : Registry) : Shelf := ⟨⟨registry, Table.empty, {}⟩, []⟩

theorem kept_bare {registry : Registry} (sound : registry.Sound) : (bare registry).Kept {} := by
  have empty (name : Text) : (bare registry).depot.named name = {} := by
    unfold Depot.named
    cases (bare registry).depot.registry.memories.lookup name <;> rfl
  refine ⟨sound, fun _ _ => rfl, .nil, List.forall_mem_nil _, ?_, ?_, ?_⟩
  · intro name
    rw [empty]
  · intro name root _ adapter dataId
    rw [empty]
    rfl
  · intro place adapter dataId values got
    cases got

-- Over any registry, all answers are those of the catalog; and an index finds under a key what was written last under
-- it, by whatever index with the same name and root.
theorem one_map (number : Nat) (calls : List Registry.Call) (commands : List Command)
    (proper : ∀ command ∈ commands, command.Proper) :
    (transcript perform (bare (calls.foldl Registry.called { number := number })) commands).1
        = (transcript Catalog.perform {} commands).1
      ∧ ∀ index place, (transcript Catalog.perform {} commands).2.places[index]? = some place → ∀ adapter dataId,
        ((transcript perform (bare (calls.foldl Registry.called { number := number })) commands).2.perform
            (.get index adapter dataId)).1
          = .found (Catalog.last ⟨place, adapter, dataId⟩ (Catalog.history {} commands)) := by
  have sound := Registry.sound_calls (Registry.sound_new number) calls
  obtain ⟨answers, kept⟩ := alike_transcript (kept_bare sound) proper
  refine ⟨answers, ?_⟩
  intro index place held adapter dataId
  have holds : (transcript Catalog.perform {} commands).2.Holds (Catalog.history {} commands) := by
    have nothing : ({} : Catalog).Holds [] := fun _ => rfl
    exact Catalog.holds_transcript nothing commands
  obtain ⟨same, _⟩ := @alike_perform _ _ kept (.get index adapter dataId) trivial
  rw [same, Catalog.perform, Catalog.look, held]
  exact congrArg Answer.found (holds ⟨place, adapter, dataId⟩)

def sharing : List Command :=
  [.openAt "memory://a/x".toList {}, .openAt "memory://a//x/".toList {}, .openAt "memory://a/x/7".toList {},
    .put 0 7 [1] [⟨[1], [], [2]⟩], .put 1 7 [2] [], .put 2 7 [1] [⟨[], [], [9]⟩], .get 1 7 [1], .delete 1 7 [1],
    .get 0 7 [1], .get 2 7 [1], .fetchBatch 0 7 {} [[2], [1], [2]]]

theorem one_map_of_sharing :
    (∀ command ∈ sharing, command.Proper)
      ∧ (transcript perform (bare { number := 0 }) sharing).1
        = [.opened 0, .opened 1, .opened 2, .done, .done, .done, .found (some [⟨[1], [], [2]⟩]), .done, .found none,
          .found (some [⟨[], [], [9]⟩]), .fetched [some [], none, some []] []] := by
  have proper : ∀ command ∈ sharing, command.Proper := by decide
  exact ⟨proper, (one_map 0 [] sharing proper).1.trans (by rfl)⟩

end Shelf

end ThinScan
