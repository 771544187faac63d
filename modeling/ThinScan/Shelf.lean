import ThinScan.Depot

set_option autoImplicit false

namespace ThinScan

structure Shelf where
  depot : Depot
  -- Oldest first.
  indexes : List Depot.Opened := []

namespace Shelf

inductive Command where
  | openAt (location : Text) (config : Config)
  | put (index : Nat) (adapter : AdapterId) (dataId : Bytes) (values : Values)
  | putRow (index : Nat) (row : Row)
  | delete (index : Nat) (adapter : AdapterId) (dataId : Bytes)
  | get (index : Nat) (adapter : AdapterId) (dataId : Bytes)
  | fetchBatch (index : Nat) (adapter : AdapterId) (params : Params) (dataIds : List Bytes)

inductive Answer where
  | opened (index : Nat)
  | done
  | found (values : Option Values)
  | fetched (records : List (Option Values)) (events : List Event)
  | failed (cause : Error)
  | noIndex
deriving DecidableEq, Repr

def openAt (shelf : Shelf) (location : Text) (config : Config) : Answer × Shelf :=
  match shelf.depot.openAt location config with
  | .ok (opened, depot) => (.opened shelf.indexes.length, { depot := depot, indexes := shelf.indexes ++ [opened] })
  | .error cause => (.failed cause, shelf)

def change (shelf : Shelf) (index : Nat) (changed : Depot.Opened → Except Error Depot) : Answer × Shelf :=
  match shelf.indexes[index]? with
  | none => (.noIndex, shelf)
  | some opened =>
      match changed opened with
      | .ok depot => (.done, { shelf with depot := depot })
      | .error cause => (.failed cause, shelf)

def look (shelf : Shelf) (index : Nat) (seen : Depot.Opened → Answer) : Answer × Shelf :=
  match shelf.indexes[index]? with
  | none => (.noIndex, shelf)
  | some opened => (seen opened, shelf)

def perform (shelf : Shelf) : Command → Answer × Shelf
  | .openAt location config => shelf.openAt location config
  | .put index adapter dataId values => shelf.change index (fun opened => shelf.depot.put opened adapter dataId values)
  | .putRow index row => shelf.change index (fun opened => shelf.depot.putRow opened row)
  | .delete index adapter dataId => shelf.change index (fun opened => shelf.depot.delete opened adapter dataId)
  | .get index adapter dataId =>
      shelf.look index (fun opened =>
        match shelf.depot.get opened adapter dataId with
        | .ok found => .found found
        | .error cause => .failed cause)
  | .fetchBatch index adapter params dataIds =>
      shelf.look index (fun opened =>
        let (records, events) := shelf.depot.fetchBatch opened adapter params dataIds
        .fetched records events)

def transcript {State : Type} (perform : State → Command → Answer × State) : State → List Command → List Answer × State
  | state, [] => ([], state)
  | state, command :: rest =>
      let (answer, next) := perform state command
      let (answers, last) := transcript perform next rest
      (answer :: answers, last)

end Shelf

end ThinScan
