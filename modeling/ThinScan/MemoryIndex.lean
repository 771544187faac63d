import ThinScan.Params

set_option autoImplicit false

namespace ThinScan

structure MemoryIndex where
  records : Table AdapterId (Table Bytes Values)
  batchFetches : Nat

namespace MemoryIndex

def empty : MemoryIndex := ⟨Table.empty, 0⟩

def ofAdapter (index : MemoryIndex) (adapter : AdapterId) : Table Bytes Values :=
  (index.records.find? adapter).getD Table.empty

def get? (index : MemoryIndex) (adapter : AdapterId) (dataId : Bytes) : Option Values :=
  (index.ofAdapter adapter).find? dataId

def insert (index : MemoryIndex) (adapter : AdapterId) (dataId : Bytes) (values : Values) : MemoryIndex :=
  { index with records := index.records.insert adapter ((index.ofAdapter adapter).insert dataId values) }

def insertRow (index : MemoryIndex) (row : Row) : MemoryIndex :=
  index.insert row.adapter row.dataId row.values

def remove (index : MemoryIndex) (adapter : AdapterId) (dataId : Bytes) : MemoryIndex :=
  { index with records := index.records.insert adapter ((index.ofAdapter adapter).erase dataId) }

inductive Change where
  | insert (adapter : AdapterId) (dataId : Bytes) (values : Values)
  | insertRow (row : Row)
  | remove (adapter : AdapterId) (dataId : Bytes)
deriving DecidableEq, Repr

def perform (index : MemoryIndex) : Change → Option Values × MemoryIndex
  | .insert adapter dataId values => (index.get? adapter dataId, index.insert adapter dataId values)
  | .insertRow row => (index.get? row.adapter row.dataId, index.insertRow row)
  | .remove adapter dataId => (index.get? adapter dataId, index.remove adapter dataId)

def size (index : MemoryIndex) : Nat :=
  (index.records.entries.flatMap (fun entry => entry.2.entries)).length

def scan (index : MemoryIndex) (adapter : AdapterId) : List Row :=
  (index.ofAdapter adapter).entries.map (fun entry => Row.full entry.1 adapter entry.2)

def fetch (index : MemoryIndex) (adapter : AdapterId) (params : Params) (dataId : Bytes) : Option Values :=
  (index.get? adapter dataId).map (params.apply adapter)

def fetchBatch (index : MemoryIndex) (adapter : AdapterId) (params : Params) (dataIds : List Bytes) :
    List (Option Values) :=
  dataIds.map (index.fetch adapter params)

def countBatch (index : MemoryIndex) : MemoryIndex :=
  { index with batchFetches := index.batchFetches + 1 }

end MemoryIndex

end ThinScan
