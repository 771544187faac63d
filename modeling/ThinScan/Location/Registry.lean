import ThinScan.Location.Basic
import ThinScan.Table

/-!
A bucket is opened once per way of access, a store in memory once per name, and the disk anew each time.
-/

set_option autoImplicit false

namespace ThinScan

namespace Registry

inductive Kind where
  | memory
  | disk
  | bucket (name : Text) (anonymous : Bool)
deriving DecidableEq, Repr

def Kind.name : Kind → String
  | memory => "InMemory"
  | disk => "LocalFileSystem(file:///)"
  | bucket name _ => "AmazonS3(" ++ String.ofList name ++ ")"

-- An opened store: two handles are the same store just if they are equal.
structure Handle where
  registry : Nat
  serial : Nat
  kind : Kind
deriving DecidableEq, Repr

end Registry

structure Registry where
  number : Nat
  buckets : List ((Text × Bool) × Registry.Handle) := []
  memories : List (Text × Registry.Handle) := []
  opened : Nat := 0

namespace Registry

def fresh (registry : Registry) (kind : Kind) : Handle := ⟨registry.number, registry.opened, kind⟩

def bucket (registry : Registry) (name : Text) (anonymous : Bool) : Handle × Registry :=
  match registry.buckets.lookup (name, anonymous) with
  | some handle => (handle, registry)
  | none =>
      let handle := registry.fresh (.bucket name anonymous)
      (handle, { registry with
        buckets := ((name, anonymous), handle) :: registry.buckets
        opened := registry.opened + 1 })

def memory (registry : Registry) (name : Text) : Handle × Registry :=
  match registry.memories.lookup name with
  | some handle => (handle, registry)
  | none =>
      let handle := registry.fresh .memory
      (handle, { registry with
        memories := (name, handle) :: registry.memories
        opened := registry.opened + 1 })

def disk (registry : Registry) : Handle × Registry :=
  (registry.fresh .disk, { registry with opened := registry.opened + 1 })

def store (registry : Registry) : Location → Handle × Registry
  | .bucket name anonymous _ => registry.bucket name anonymous
  | .memory name _ => registry.memory name
  | .disk _ => registry.disk

def resolve (registry : Registry) (location : Text) : Except Error ((Handle × ObjectPath) × Registry) :=
  match Location.parse location with
  | .error fault => .error fault.error
  | .ok place =>
      let (handle, after) := registry.store place
      .ok ((handle, place.path), after)

end Registry

end ThinScan
