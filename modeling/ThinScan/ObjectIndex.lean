import ThinScan.ObjectStore
import ThinScan.Params
import ThinScan.Record.Reading

set_option autoImplicit false

namespace ThinScan

structure ObjectIndex where
  root : ObjectPath
  -- Reads under way at a time when a batch is fetched.
  concurrency : Nat
deriving DecidableEq, Repr

namespace ObjectIndex

def create (root : ObjectPath) (concurrency : Nat) : ObjectIndex := ⟨root, max concurrency 1⟩

def path (index : ObjectIndex) (adapter : AdapterId) (dataId : Bytes) : ObjectPath :=
  index.root.record adapter dataId

def put (index : ObjectIndex) (store : ObjectStore) (adapter : AdapterId) (dataId : Bytes) (values : Values) :
    Except Error ObjectStore :=
  (store.put (index.path adapter dataId) (Record.encode values)).mapError StoreError.error

def putRow (index : ObjectIndex) (store : ObjectStore) (row : Row) : Except Error ObjectStore :=
  index.put store row.adapter row.dataId row.values

def get (index : ObjectIndex) (store : ObjectStore) (adapter : AdapterId) (dataId : Bytes) :
    Except Error (Option Values) :=
  match store.get (index.path adapter dataId) with
  | .error (.notFound ..) => .ok none
  | .error cause => .error cause.error
  | .ok (.error cause) => .error cause.error
  | .ok (.ok body) => (Record.decode body).map some

def delete (index : ObjectIndex) (store : ObjectStore) (adapter : AdapterId) (dataId : Bytes) :
    Except Error ObjectStore :=
  match store.delete (index.path adapter dataId) with
  | .error (.notFound ..) => .ok store
  | .error cause => .error cause.error
  | .ok left => .ok left

def fetchOne (index : ObjectIndex) (store : ObjectStore) (adapter : AdapterId) (params : Params)
    (dataId : Bytes) : Option Values × List Event :=
  match index.get store adapter dataId with
  | .ok found => (found.map (params.apply adapter), [])
  | .error cause => (none, [.recordUnreadable adapter dataId cause])

def fetchBatch (index : ObjectIndex) (store : ObjectStore) (adapter : AdapterId) (params : Params)
    (dataIds : List Bytes) : List (Option Values) × List Event :=
  let fetched := dataIds.map (index.fetchOne store adapter params)
  (fetched.map (·.1), fetched.flatMap (·.2))

end ObjectIndex

end ThinScan
