import ThinScan.Cursor
import ThinScan.Feature

set_option autoImplicit false

namespace ThinScan.Session

inductive Command where
  | get (adapter : AdapterId) (dataId : Bytes)
  | poll (handle : Nat)
  | forget (handle : Nat)
  | flush
  | flushAdapter (adapter : AdapterId)
  | initiated
  | exhausted
  | pending (adapter : AdapterId)
  | defer (row : Row)
  | pollDeferred (handle : Nat)
  | lookup (adapter : AdapterId) (dataId : Bytes)
  | inline (row : Row)
  | setParams (selection : Selection Feature)
  | params
  | info
  | insert (adapter : AdapterId) (dataId : Bytes) (values : Values)
  | remove (adapter : AdapterId) (dataId : Bytes)
  | addAdapter (adapter : Adapter Feature)
  | removeAdapter (adapter : AdapterId)
  | release (adapter : Option AdapterId)
  | hold (held : Bool)
  | start (source : Source)
  | hasNext (scan : Nat)
  | next (scan : Nat)
  | outstanding (scan : Nat)
  | drop (scan : Nat)
  | collect (scan : Nat)

inductive Silence where
  | blocked
  | busy
  | closed
  | crashed
deriving DecidableEq, Repr

inductive Answer where
  | done
  | inapplicable
  | gone
  | skipped
  | silent (cause : Silence)
  | failed (cause : Error)
  | handle (number : Nat) (sameAs : Option Nat)
  | unsettled
  | found (values : Option Values)
  | forgotten (held : Bool)
  | pending (count : Nat)
  | ready (feature : Feature)
  | deferred (number : Nat)
  | resolved (feature : Option Feature)
  | values (found : Option Values)
  | value (feature : Option Feature)
  | params (bound : Params)
  | info (batchSize : Option Nat) (adapters : List AdapterId)
  | old (values : Option Values)
  | replaced (typeName : Option String)
  | removed (typeName : Option String)
  | released (count : Nat)
  | started (scan : Nat) (deferring : Bool)
  | hasNext (more : Bool)
  | outstanding (count : Option Nat)
  | dropped
  | collected (features : List Feature) (stopped : Option Silence)

def Answer.ofTold : Told Feature → Answer
  | .more more => .hasNext more
  | .value feature => .value feature
  | .crashed => .silent .crashed

structure Held where
  adapter : AdapterId
  call : Nat
  keys : Nat

inductive Call where
  | batch (adapter : AdapterId) (dataIds : List Bytes) (params : Params)
  | key (adapter : AdapterId) (dataId : Bytes) (params : Params)

structure LookupState where
  active : Nat
  waiting : List (AdapterId × Nat)

structure Report where
  answer : Answer
  lookup : Option LookupState
  calls : List Call
  held : List Held
  -- Pulls that were blocked and have answered since.
  unblocked : List (Nat × Answer)
  lines : List String

end ThinScan.Session
