import ThinScan.Config
import ThinScan.Location.Registry
import ThinScan.ObjectIndex

set_option autoImplicit false

namespace ThinScan

namespace Depot

inductive Place where
  | beside
  | opened (serial : Nat)
deriving DecidableEq, Repr

structure Opened where
  place : Place
  index : ObjectIndex
deriving DecidableEq, Repr

end Depot

structure Depot where
  registry : Registry := { number := 0 }
  stores : Table Nat ObjectStore := Table.empty
  beside : ObjectStore := {}

namespace Depot

def store (depot : Depot) : Place → ObjectStore
  | .beside => depot.beside
  | .opened serial => (depot.stores.find? serial).getD {}

def setStore (depot : Depot) (place : Place) (store : ObjectStore) : Depot :=
  match place with
  | .beside => { depot with beside := store }
  | .opened serial => { depot with stores := depot.stores.insert serial store }

def openBeside (root : ObjectPath) (concurrency : Nat) : Opened := ⟨.beside, .create root concurrency⟩

def openAt (depot : Depot) (location : Text) (config : Config) : Except Error (Opened × Depot) := do
  config.validate
  let ((handle, root), registry) ← depot.registry.resolve location
  pure (⟨.opened handle.serial, .create root config.fetchConcurrency⟩, { depot with registry := registry })

def update (depot : Depot) (place : Place) (result : Except Error ObjectStore) : Except Error Depot :=
  result.map (depot.setStore place)

def put (depot : Depot) (target : Opened) (adapter : AdapterId) (dataId : Bytes) (values : Values) :
    Except Error Depot :=
  depot.update target.place (target.index.put (depot.store target.place) adapter dataId values)

def putRow (depot : Depot) (target : Opened) (row : Row) : Except Error Depot :=
  depot.update target.place (target.index.putRow (depot.store target.place) row)

def delete (depot : Depot) (target : Opened) (adapter : AdapterId) (dataId : Bytes) : Except Error Depot :=
  depot.update target.place (target.index.delete (depot.store target.place) adapter dataId)

def get (depot : Depot) (target : Opened) (adapter : AdapterId) (dataId : Bytes) :
    Except Error (Option Values) :=
  target.index.get (depot.store target.place) adapter dataId

def fetchBatch (depot : Depot) (target : Opened) (adapter : AdapterId) (params : Params)
    (dataIds : List Bytes) : List (Option Values) × List Event :=
  target.index.fetchBatch (depot.store target.place) adapter params dataIds

def putBody (depot : Depot) (target : Opened) (path : ObjectPath) (body : Bytes) : Except Error Depot :=
  depot.update target.place (((depot.store target.place).put path body).mapError StoreError.error)

def body? (depot : Depot) (target : Opened) (path : ObjectPath) : Option Bytes :=
  (depot.store target.place).objects.find? path.text

-- An object at the root itself is held but not listed.
def paths (depot : Depot) (target : Opened) : List Text :=
  (depot.store target.place).objects.keys.filter (fun path => !path.isEmpty)

end Depot

end ThinScan
