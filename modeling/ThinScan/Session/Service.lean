import ThinScan.Feature
import ThinScan.Lookup
import ThinScan.Schedule
import ThinScan.Session.Command

set_option autoImplicit false

namespace ThinScan.Session

inductive Service where
  | inline (decoder : Decoder Feature) (trace : InlineTrace) (scans : List (Option (InlineScan Feature)))
  | batched (filters : List Filter) (world : World Feature)

inductive Choice where
  | bare
  | single
  | batched
  | byConfig
deriving DecidableEq, Repr

namespace Service

def ofLookup (decoder : Decoder Feature) : Lookup → Service
  | .point lookup => inline decoder { lookup := some lookup } []
  | .batch lookup => batched decoder.filters { stores := [decoder.adapters], lookup := lookup }

def choose (config : Config) (decoder : Decoder Feature) : Choice → Except Error Service
  | .bare => pure (inline decoder { lookup := none } [])
  | .single => pure (ofLookup decoder Lookup.single)
  | .batched => (Lookup.batched config.batchSize).map (ofLookup decoder)
  | .byConfig => (Lookup.ofConfig config).map (ofLookup decoder)

def decoder : Service → Decoder Feature
  | inline decoder _ _ => decoder
  | batched filters world => ⟨world.store 0, filters⟩

def setAdapters (adapters : Adapters Feature) : Service → Service
  | inline decoder trace scans => inline { decoder with adapters := adapters } trace scans
  | batched filters world => batched filters (world.setStore 0 adapters)

def setWorld (world : World Feature) : Service → Service
  | inline decoder trace scans => inline decoder trace scans
  | batched filters _ => batched filters world

def examined : Service → List Row
  | inline _ trace _ => trace.examined
  | batched _ world => world.pulled.map Pulled.row

def events : Service → List Event
  | inline _ trace _ => trace.allEvents
  | batched _ world => world.events ++ world.lookup.events

def clearEvents : Service → Service
  | inline decoder trace scans => inline decoder trace.clearEvents scans
  | batched filters world =>
      batched filters { world with events := [], lookup := { world.lookup with events := [] } }

def callCount : Service → Nat
  | inline _ trace _ => trace.fetches.length
  | batched _ world => world.lookup.batches.length

def callsAfter (reported : Nat) : Service → List Call
  | inline _ trace _ =>
      (trace.fetches.drop reported).map (fun fetch => .key fetch.adapter fetch.dataId fetch.params)
  | batched _ world =>
      let fresh := (world.lookup.batches.drop reported).mergeSort
        (fun left right => left.adapter ≤ right.adapter)
      fresh.map (fun batch => .batch batch.adapter batch.keys batch.params)

def heldFetches : Service → List Held
  | inline .. => []
  | batched _ world =>
      (World.gated world.lookup).map
        (fun entry => ⟨entry.batch.adapter, entry.call, entry.batch.entries.length⟩)

def lookupState : Service → Option LookupState
  | inline .. => none
  | batched _ world => some ⟨world.lookup.active,
      world.lookup.pending.entries.map (fun entry => (entry.1, entry.2.length))⟩

end Service

end ThinScan.Session
