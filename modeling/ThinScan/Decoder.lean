import ThinScan.Event
import ThinScan.Filter
import ThinScan.PointLookup

set_option autoImplicit false

namespace ThinScan

variable {T : Type}

structure Decoder (T : Type) where
  adapters : Adapters T
  filters : List Filter

inductive Admission (T : Type) where
  | refused
  | unknown
  | granted (adapter : Adapter T)

namespace Decoder

def admission (decoder : Decoder T) (row : Row) : Admission T :=
  if Filter.acceptAll decoder.filters row then
    match decoder.adapters.find? row.adapter with
    | some adapter => .granted adapter
    | none => .unknown
  else .refused

end Decoder

inductive Outcome (T : Type) where
  | value (decoded : T)
  | refused
  | lost (event : Event)
  | crashed

namespace Outcome

def events : Outcome T → List Event
  | lost event => [event]
  | _ => []

def ofValues (adapter : Adapter T) (row : Row) (values : Values) : Outcome T :=
  match adapter.decode row values with
  | .value decoded => .value decoded
  | .failed cause => .lost (.decodeFailed adapter.typeName row.dataId cause)
  | .crashed => .crashed

def ofLookup (adapter : Adapter T) (row : Row) : Option Values → Outcome T
  | some values => ofValues adapter row values
  | none => .lost (.recordMissing row.adapter row.dataId)

end Outcome

namespace Decoder

-- A row decoded on the spot. Without a lookup service a thin row is decoded from its empty values.
def decodeInline (decoder : Decoder T) (fetch : FetchKey) (row : Row) (lookup : Option PointLookup) :
    Outcome T × Option PointLookup :=
  match decoder.admission row with
  | .refused => (.refused, lookup)
  | .unknown => (.lost (.adapterMissing row.dataId row.adapter), lookup)
  | .granted adapter =>
      match lookup with
      | some service =>
          if row.needsLookup then
            let (found, used) := service.get fetch row.adapter row.dataId
            (.ofLookup adapter row found, some used)
          else (.ofValues adapter row row.values, lookup)
      | none => (.ofValues adapter row row.values, none)

end Decoder

end ThinScan
