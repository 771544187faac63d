import ThinScan.Adapter

set_option autoImplicit false

namespace ThinScan

structure Feature where
  dataId : Bytes
  adapter : AdapterId
  typeName : String
  payload : Bytes
  count : Nat
deriving DecidableEq, Repr

namespace Feature

inductive Damage where
  | corrupt
  | unreadable
  | fatal
deriving DecidableEq, Repr

def damage? (value : FieldValue) : Option Damage :=
  if value.payload = Bytes.ofText "corrupt".toList then some .corrupt
  else if value.payload = Bytes.ofText "badbytes".toList then some .unreadable
  else if value.payload = Bytes.ofText "panic".toList then some .fatal
  else none

def Damage.decoding : Damage → Decoding Feature
  | corrupt => .failed (.decode "corrupt field value")
  | unreadable => .failed (.serialization "bad bytes")
  | fatal => .crashed

def decode (typeName : String) (allowEmpty : Bool) (row : Row) (values : Values) : Decoding Feature :=
  if values.isEmpty && !allowEmpty then .failed (.decode "row has no field values")
  else
    match values.findSome? damage? with
    | some damage => damage.decoding
    | none =>
        .value ⟨row.dataId, row.adapter, typeName, values.flatMap FieldValue.payload, values.length⟩

def adapterOf (id : AdapterId) (typeName : String) (fields : List (String × Nat)) (allowEmpty : Bool) :
    Adapter Feature :=
  ⟨id, typeName, fun name => fields.lookup name, decode typeName allowEmpty⟩

def before (left right : Feature) : Bool :=
  if left.dataId ≠ right.dataId then left.dataId < right.dataId
  else if left.adapter ≠ right.adapter then left.adapter < right.adapter
  else if left.typeName ≠ right.typeName then left.typeName < right.typeName
  else if left.payload ≠ right.payload then left.payload < right.payload
  else left.count ≤ right.count

def sorted (features : List Feature) : List Feature := features.mergeSort before

end Feature

end ThinScan
