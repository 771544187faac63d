import ThinScan.Error

set_option autoImplicit false

namespace ThinScan

inductive Event where
  | unknownField (typeName field : String)
  | batchDispatched (adapter : AdapterId) (keys : Nat)
  | batchFailed (adapter : AdapterId) (keys : Nat) (cause : Error)
  | resultsMissing (adapter : AdapterId) (expected received : Nat)
  | resultsSurplus (adapter : AdapterId) (expected received : Nat)
  | lookupFailed (adapter : AdapterId) (cause : Error)
  | lookupAbandoned (adapter : AdapterId)
  | keyFetchFailed (adapter : AdapterId) (dataId : Bytes) (cause : Error)
  | exhaustedUninitiated
  | adapterMissing (dataId : Bytes) (adapter : AdapterId)
  | decodeFailed (typeName : String) (dataId : Bytes) (cause : Error)
  | recordMissing (adapter : AdapterId) (dataId : Bytes)
  | valueDiscarded
  | endedEarly (outstanding : Nat)
  | recordUnreadable (adapter : AdapterId) (dataId : Bytes) (cause : Error)
deriving DecidableEq, Repr

namespace Event

inductive Level where
  | debug
  | warn
  | error
deriving DecidableEq, Repr

def Level.text : Level → String
  | debug => "DEBUG"
  | warn => "WARN"
  | error => "ERROR"

def level : Event → Level
  | unknownField .. => .debug
  | batchDispatched .. => .debug
  | batchFailed .. => .warn
  | resultsMissing .. => .warn
  | resultsSurplus .. => .warn
  | lookupFailed .. => .debug
  | lookupAbandoned .. => .warn
  | keyFetchFailed .. => .warn
  | exhaustedUninitiated => .warn
  | adapterMissing .. => .warn
  | decodeFailed .. => .warn
  | recordMissing .. => .debug
  | valueDiscarded => .debug
  | endedEarly .. => .error
  | recordUnreadable .. => .warn

def headline : Event → String
  | unknownField .. => "projected field is unknown to adapter, ignoring"
  | batchDispatched .. => "dispatching data index batch"
  | batchFailed .. => "data index batch fetch failed"
  | resultsMissing .. => "Retrieved less data index results than expected"
  | resultsSurplus .. => "Retrieved more data index results than expected, ignoring the surplus"
  | lookupFailed .. => "data index lookup failed, treating record as missing"
  | lookupAbandoned .. => "data index request abandoned before completion"
  | keyFetchFailed .. => "data index lookup failed, treating record as missing"
  | exhaustedUninitiated => "iterator exhausted without being initiated, flushing pending batches"
  | adapterMissing .. => "no adapter registered for row, skipping"
  | decodeFailed .. => "failed to decode row, skipping"
  | recordMissing .. => "no data index record for row"
  | valueDiscarded => "iterator dropped before a deferred row resolved, discarding it"
  | endedEarly .. => "completion queue closed with lookups still outstanding, ending scan early"
  | recordUnreadable .. => "failed to read data index record"

def adapterField (adapter : AdapterId) : String × String := ("adapter_id", toString adapter.toInt)

def details : Event → List (String × String)
  | unknownField typeName field => [("adapter", typeName), ("field", field)]
  | batchDispatched adapter keys => [adapterField adapter, ("keys", toString keys)]
  | batchFailed adapter keys cause =>
      [adapterField adapter, ("keys", toString keys), ("error", cause.message)]
  | resultsMissing adapter expected received =>
      [adapterField adapter, ("expected", toString expected), ("received", toString received)]
  | resultsSurplus adapter expected received =>
      [adapterField adapter, ("expected", toString expected), ("received", toString received)]
  | lookupFailed adapter cause => [adapterField adapter, ("error", cause.message)]
  | lookupAbandoned adapter => [adapterField adapter]
  | keyFetchFailed adapter dataId cause =>
      [adapterField adapter, ("data_id", dataId.decimals), ("error", cause.message)]
  | exhaustedUninitiated => []
  | adapterMissing dataId adapter =>
      [("data_id", dataId.quoted), ("error", (Error.unknownAdapter adapter).message)]
  | decodeFailed typeName dataId cause =>
      [("adapter", typeName), ("data_id", dataId.quoted), ("error", cause.message)]
  | recordMissing adapter dataId => [adapterField adapter, ("data_id", dataId.quoted)]
  | valueDiscarded => []
  | endedEarly outstanding => [("outstanding", toString outstanding)]
  | recordUnreadable adapter dataId cause =>
      [adapterField adapter, ("data_id", dataId.quoted), ("error", cause.message)]

def line (event : Event) : String :=
  Error.shown (" ".intercalate
    (event.level.text :: event.headline :: event.details.map (fun detail => detail.1 ++ "=" ++ detail.2)))

def lines (events : List Event) : List String :=
  (events.map line).mergeSort (fun left right => !(right < left))

end Event

end ThinScan
