import ThinScan.Depot
import ThinScan.Feature
import ThinScan.Lookup
import ThinScan.MemoryIndex
import ThinScan.Schedule

set_option autoImplicit false

namespace ThinScan.FullScan

inductive Backend where
  | memory (index : MemoryIndex)
  | objects (depot : Depot) (target : Depot.Opened)

namespace Backend

def fetchBatch (adapter : AdapterId) (params : Params) (dataIds : List Bytes) :
    Backend → List (Option Values) × List Event
  | memory index => (index.fetchBatch adapter params dataIds, [])
  | objects depot target => depot.fetchBatch target adapter params dataIds

def answers (backend : Backend) : World.Backend := fun _ batch =>
  .results (backend.fetchBatch batch.adapter batch.params batch.keys).1

def events (backend : Backend) (batches : List Batch) : List Event :=
  batches.flatMap (fun batch => (backend.fetchBatch batch.adapter batch.params batch.keys).2)

end Backend

structure Request where
  config : Config
  decoder : Decoder Feature
  selection : Selection Feature
  rows : List Row
  splits : Nat

structure Result where
  -- Scans still counted in; nothing if the lookups are not batched.
  active : Option Nat
  batchFetches : Nat
  features : List Feature
  events : List Event

def runs {α : Type} (size : Nat) (items : List α) : List (List α) :=
  match items with
  | [] => []
  | item :: rest => (item :: rest.take (size - 1)) :: runs size (rest.drop (size - 1))
termination_by items.length
decreasing_by simp only [List.length_drop, List.length_cons]; omega

def sources (request : Request) : List Source :=
  let size := max 1 ((request.rows.length + request.splits - 1) / max 1 request.splits)
  (runs size request.rows).map (fun run => run.map some)

-- One scan after the other; the values do not depend on how their steps interleave.
def scanBatched (answers : World.Backend) (filters : List Filter) (capacity : Nat) :
    World Feature → List Source → List Feature × World Feature
  | world, [] => ([], world)
  | world, source :: rest =>
      let started := world.step (some answers) (.start 0 filters source capacity)
      let (features, _, after) := started.collect (some answers) world.scans.length
      let (others, last) := scanBatched answers filters capacity after rest
      (features ++ others, last)

def scanInline (fetch : FetchKey) (decoder : Decoder Feature) :
    InlineTrace → List Source → List Feature × InlineTrace
  | trace, [] => ([], trace)
  | trace, source :: rest =>
      let (features, _, _, used) := InlineScan.collectFrom decoder fetch source trace
      let (others, last) := scanInline fetch decoder used rest
      (features ++ others, last)

def onBatches (request : Request) (backend : Backend) (lookup : BatchLookup) : Result :=
  let (features, world) := scanBatched backend.answers request.decoder.filters request.config.queueCapacity
    { stores := [request.decoder.adapters], lookup := lookup } (sources request)
  let served := match backend with
    | .memory _ => world.lookup.batches.length
    | .objects .. => 0
  ⟨some world.lookup.active, served, Feature.sorted features,
    request.selection.events ++ world.events ++ world.lookup.events ++ backend.events world.lookup.batches⟩

def onPoints (request : Request) (index : MemoryIndex) (lookup : PointLookup) : Result :=
  let fetch : FetchKey := fun adapter params dataId => .ok (index.fetch adapter params dataId)
  let (features, trace) := scanInline fetch request.decoder { lookup := some lookup } (sources request)
  ⟨none, 0, features, request.selection.events ++ trace.allEvents⟩

def onMemory (request : Request) (index : MemoryIndex) : Except Error Result := do
  match ← Lookup.prepare request.config (some request.selection.params) with
  | .batch lookup => pure (onBatches request (.memory index) lookup)
  | .point lookup => pure (onPoints request index lookup)

def putAll (target : Depot.Opened) : Depot → List (AdapterId × Bytes × Values) → Except Error Depot
  | depot, [] => .ok depot
  | depot, (adapter, dataId, values) :: rest => do
      putAll target (← depot.put target adapter dataId values) rest

def onObjects (request : Request) (location : Text) (records : List (AdapterId × Bytes × Values)) :
    Except Error Result := do
  let (target, depot) ← ({} : Depot).openAt location request.config
  let filled ← putAll target depot records
  let lookup ← BatchLookup.create request.config.batchSize
  pure (onBatches request (.objects filled target) (← lookup.setParams request.selection.params))

end ThinScan.FullScan
