import ThinScan.Adapter
import ThinScan.Event

set_option autoImplicit false

namespace ThinScan

namespace Mask

def padTo (length : Nat) (mask : Bytes) : Bytes :=
  mask ++ List.replicate (length - mask.length) 0

def setBit (mask : Bytes) (position : Nat) : Bytes :=
  (padTo (position / 8 + 1) mask).modify (position / 8)
    (fun byte => byte ||| (1 <<< UInt8.ofNat (position % 8)))

def intersects (left right : Bytes) : Bool :=
  (left.zipWith (· &&& ·) right).any (· ≠ 0)

def union : Bytes → Bytes → Bytes
  | [], right => right
  | left, [] => left
  | byte :: left, other :: right => (byte ||| other) :: union left right

end Mask

structure Projection where
  adapter : AdapterId
  names : List String
  mask : Bytes
deriving DecidableEq, Repr

namespace Projection

def insertName (name : String) : List String → List String
  | [] => [name]
  | held :: rest =>
      if name = held then held :: rest
      else if name < held then name :: held :: rest
      else held :: insertName name rest

def distinct (names : List String) : List String := names.foldr insertName []

variable {T : Type}

def maskOf (adapter : Adapter T) (names : List String) : Bytes :=
  (names.filterMap adapter.fieldPosition).foldl Mask.setBit []

def unknownNames (adapter : Adapter T) (names : List String) : List String :=
  names.filter (fun name => (adapter.fieldPosition name).isNone)

def build (adapter : Adapter T) (names : List String) : Projection :=
  ⟨adapter.id, distinct names, maskOf adapter (distinct names)⟩

def buildEvents (adapter : Adapter T) (names : List String) : List Event :=
  (unknownNames adapter (distinct names)).map (Event.unknownField adapter.typeName)

def selects (projection : Projection) (value : FieldValue) : Bool :=
  Mask.intersects projection.mask value.mask

end Projection

structure Aggregation where
  adapter : AdapterId
  name : String
  fold : Values → Values

structure Params where
  projection : Option Projection := none
  aggregation : Option Aggregation := none

structure Selection (T : Type) where
  fields : Option (Adapter T × List String) := none
  aggregation : Option Aggregation := none

namespace Selection

variable {T : Type}

def params (selection : Selection T) : Params :=
  ⟨selection.fields.map (fun asked => Projection.build asked.1 asked.2), selection.aggregation⟩

def events (selection : Selection T) : List Event :=
  selection.fields.toList.flatMap (fun asked => Projection.buildEvents asked.1 asked.2)

end Selection

namespace Params

def project (params : Params) (adapter : AdapterId) (values : Values) : Values :=
  match params.projection with
  | some projection => if projection.adapter = adapter then values.filter projection.selects else values
  | none => values

def aggregate (params : Params) (adapter : AdapterId) (values : Values) : Values :=
  match params.aggregation with
  | some aggregation => if aggregation.adapter = adapter then aggregation.fold values else values
  | none => values

-- Projection first, then aggregation; each only for the adapter it was made for.
def apply (params : Params) (adapter : AdapterId) (values : Values) : Values :=
  params.aggregate adapter (params.project adapter values)

end Params

end ThinScan
