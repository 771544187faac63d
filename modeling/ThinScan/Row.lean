import ThinScan.Bytes

/-!
A full row carries its field values; a thin row names a record by adapter and data id.
-/

set_option autoImplicit false

namespace ThinScan

abbrev AdapterId := Int16

structure FieldValue where
  mask : Bytes
  visibility : Bytes
  payload : Bytes
deriving DecidableEq, Repr

abbrev Values := List FieldValue

structure Row where
  partition : Bytes
  sortKey : Bytes
  dataId : Bytes
  adapter : AdapterId
  duplicates : Int32
  values : Values
deriving DecidableEq, Repr

namespace Row

def thin (partition sortKey dataId : Bytes) (adapter : AdapterId) : Row :=
  ⟨partition, sortKey, dataId, adapter, 0, []⟩

def full (dataId : Bytes) (adapter : AdapterId) (values : Values) : Row :=
  ⟨[], dataId, dataId, adapter, 0, values⟩

def needsLookup (row : Row) : Bool := row.values.isEmpty

end Row

end ThinScan
