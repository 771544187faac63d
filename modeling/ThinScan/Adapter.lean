import ThinScan.Error
import ThinScan.Table

set_option autoImplicit false

namespace ThinScan

inductive Decoding (T : Type) where
  | value (decoded : T)
  | failed (cause : Error)
  | crashed
deriving DecidableEq, Repr

structure Adapter (T : Type) where
  id : AdapterId
  typeName : String
  fieldPosition : String → Option Nat
  decode : Row → Values → Decoding T

abbrev Adapters (T : Type) := Table AdapterId (Adapter T)

namespace Adapters

variable {T : Type}

def register (adapters : Adapters T) (adapter : Adapter T) : Adapters T :=
  adapters.insert adapter.id adapter

def ofList (registered : List (Adapter T)) : Adapters T :=
  registered.foldl register Table.empty

end Adapters

end ThinScan
