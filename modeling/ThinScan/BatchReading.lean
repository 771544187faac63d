import ThinScan.ObjectIndex

/-!
The reads of one batch begin, and are passed on, in the order of the keys; they end in any order.
-/

set_option autoImplicit false

namespace ThinScan

structure Reading where
  dataId : Bytes
  ended : Option (Option Values) := none
deriving DecidableEq, Repr

structure BatchReading where
  -- Keys whose reads have not begun.
  waiting : List Bytes
  -- Begun and not passed on, oldest first.
  window : List Reading := []
  -- Passed on, oldest first.
  records : List (Option Values) := []
  events : List Event := []
deriving DecidableEq, Repr

namespace ObjectIndex

def read (index : ObjectIndex) (store : ObjectStore) (adapter : AdapterId) (dataId : Bytes) : Option Values × List Event :=
  match index.get store adapter dataId with
  | .ok found => (found, [])
  | .error cause => (none, [.recordUnreadable adapter dataId cause])

end ObjectIndex

namespace BatchReading

inductive Act where
  | begin
  | finish (place : Nat)
  | pass
deriving DecidableEq, Repr

def begin (index : ObjectIndex) (reading : BatchReading) : Option BatchReading :=
  match reading.waiting with
  | [] => none
  | dataId :: rest =>
      if reading.window.length < index.concurrency then
        some { reading with waiting := rest, window := reading.window ++ [{ dataId := dataId }] }
      else none

def finish (index : ObjectIndex) (store : ObjectStore) (adapter : AdapterId) (reading : BatchReading) (place : Nat) :
    Option BatchReading := do
  match ← reading.window[place]? with
  | ⟨dataId, none⟩ =>
      let (record, events) := index.read store adapter dataId
      some { reading with window := reading.window.set place ⟨dataId, some record⟩, events := reading.events ++ events }
  | ⟨_, some _⟩ => none

def pass (reading : BatchReading) : Option BatchReading :=
  match reading.window with
  | ⟨_, some record⟩ :: rest => some { reading with window := rest, records := reading.records ++ [record] }
  | _ => none

def act (index : ObjectIndex) (store : ObjectStore) (adapter : AdapterId) (reading : BatchReading) :
    Act → Option BatchReading
  | .begin => reading.begin index
  | .finish place => reading.finish index store adapter place
  | .pass => reading.pass

def run (index : ObjectIndex) (store : ObjectStore) (adapter : AdapterId) (reading : BatchReading) (acts : List Act) :
    Option BatchReading := acts.foldlM (act index store adapter) reading

def drained (reading : BatchReading) : Bool := reading.waiting.isEmpty && reading.window.isEmpty

def results (reading : BatchReading) (adapter : AdapterId) (params : Params) : List (Option Values) :=
  reading.records.map (Option.map (params.apply adapter))

end BatchReading

end ThinScan
