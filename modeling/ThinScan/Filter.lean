import ThinScan.Row

set_option autoImplicit false

namespace ThinScan

abbrev Filter := Row → Bool

namespace Filter

def dataIdIsNot (dataId : Bytes) : Filter := fun row => row.dataId ≠ dataId

def dataIdStartsWith (start : Bytes) : Filter := fun row => start.isPrefixOf row.dataId

def adapterIs (adapter : Int) : Filter := fun row => row.adapter.toInt = adapter

def duplicatesAtMost (limit : Int) : Filter := fun row => row.duplicates.toInt ≤ limit

def thinOnly : Filter := Row.needsLookup

def fullOnly : Filter := fun row => !row.needsLookup

def acceptAll (filters : List Filter) (row : Row) : Bool := filters.all (fun accepts => accepts row)

def asked : List Filter → Row → List Nat
  | [], _ => []
  | accepts :: rest, row =>
      1 :: (if accepts row then asked rest row else rest.map (fun _ => 0))

def askedAll (filters : List Filter) (rows : List Row) : List Nat :=
  rows.foldl (fun counts row => counts.zipWith (· + ·) (asked filters row)) (filters.map (fun _ => 0))

end Filter

end ThinScan
