import ThinScan.Config
import ThinScan.Params

/-!
Requests wait per adapter until a batch is full or flushed; a batch is fetched as a whole, and its results go to its
requests by position. Each function is one step that no other step can interrupt.
-/

set_option autoImplicit false

namespace ThinScan

abbrev RequestId := Nat

-- A flush under way: adapters it still has to come to; `none` until they have been listed.
abbrev Flush := Option (List AdapterId)

structure Entry where
  key : Bytes
  request : RequestId
deriving DecidableEq, Repr

-- What a request is told: the values found, or that the lookup was lost, with the event that says how.
inductive Reply where
  | values (found : Option Values)
  | lost (event : Event)
deriving DecidableEq, Repr

inductive Fetched where
  | results (found : List (Option Values))
  | failed (cause : Error)
  | crashed
deriving DecidableEq, Repr

inductive Progress where
  | fetching
  | replying (rest : List (RequestId × Reply))
deriving DecidableEq, Repr

structure Batch where
  adapter : AdapterId
  entries : List Entry
  params : Params
  progress : Progress

namespace Batch

def keys (batch : Batch) : List Bytes := batch.entries.map Entry.key

def isFetching (batch : Batch) : Bool := batch.progress = .fetching

def unsent (batch : Batch) : List (RequestId × Reply) :=
  match batch.progress with
  | .fetching => []
  | .replying rest => rest

end Batch

namespace Fetched

-- Results are matched by position; requests beyond the last result find nothing.
def assign : List Entry → List (Option Values) → List (RequestId × Reply)
  | [], _ => []
  | entry :: entries, [] => (entry.request, .values none) :: assign entries []
  | entry :: entries, found :: rest => (entry.request, .values found) :: assign entries rest

def replies (batch : Batch) : Fetched → List (RequestId × Reply)
  | results found => assign batch.entries found
  | failed cause =>
      batch.entries.map (fun entry => (entry.request, .lost (.lookupFailed batch.adapter cause)))
  | crashed => batch.entries.map (fun entry => (entry.request, .lost (.lookupAbandoned batch.adapter)))

def events (batch : Batch) : Fetched → List Event
  | results found =>
      if found.length < batch.entries.length then
        [.resultsMissing batch.adapter batch.entries.length found.length]
      else if batch.entries.length < found.length then
        [.resultsSurplus batch.adapter batch.entries.length found.length]
      else []
  | failed cause => [.batchFailed batch.adapter batch.entries.length cause]
  | crashed => []

end Fetched

structure BatchLookup where
  batchSize : Nat
  params : Option Params := none
  -- Scans that have started to pull and may still make requests.
  active : Nat := 0
  pending : Table AdapterId (List Entry) := Table.empty
  -- Every batch so far, oldest first.
  batches : List Batch := []
  replies : List (RequestId × Reply) := []
  -- Requests whose loss has been reported.
  reported : List RequestId := []
  requests : RequestId := 0
  -- Newest first.
  events : List Event := []

namespace BatchLookup

def create (batchSize : Nat) : Except Error BatchLookup :=
  if batchSize = 0 then .error Config.Fault.noBatchSize.error
  else .ok { batchSize := batchSize }

def bound (lookup : BatchLookup) : Params := lookup.params.getD {}

def bind (lookup : BatchLookup) : BatchLookup := { lookup with params := some lookup.bound }

def setParams (lookup : BatchLookup) (params : Params) : Except Error BatchLookup :=
  match lookup.params with
  | none => .ok { lookup with params := some params }
  | some _ => .error .paramsAlreadyBound

def waiting (lookup : BatchLookup) (adapter : AdapterId) : List Entry :=
  (lookup.pending.find? adapter).getD []

def dispatch (lookup : BatchLookup) (adapter : AdapterId) (entries : List Entry) : BatchLookup :=
  { lookup with
    params := some lookup.bound
    batches := lookup.batches ++ [⟨adapter, entries, lookup.bound, .fetching⟩]
    events := .batchDispatched adapter entries.length :: lookup.events }

def flushAdapter (lookup : BatchLookup) (adapter : AdapterId) : BatchLookup :=
  match lookup.waiting adapter with
  | [] => lookup
  | entry :: rest =>
      { lookup with pending := lookup.pending.erase adapter }.dispatch adapter (entry :: rest)

def flushAll (lookup : BatchLookup) : BatchLookup :=
  lookup.pending.keys.foldl flushAdapter lookup

def enqueue (lookup : BatchLookup) (adapter : AdapterId) (key : Bytes) : BatchLookup :=
  { lookup with
    pending := lookup.pending.insert adapter (lookup.waiting adapter ++ [⟨key, lookup.requests⟩])
    requests := lookup.requests + 1 }

-- A request for a waiting key is that key's request; any other waits anew, and a full batch goes out.
def request (lookup : BatchLookup) (adapter : AdapterId) (key : Bytes) : RequestId × BatchLookup :=
  match (lookup.waiting adapter).find? (fun entry => entry.key = key) with
  | some entry => (entry.request, lookup)
  | none =>
      let queued := lookup.enqueue adapter key
      (lookup.requests,
        if lookup.batchSize ≤ (queued.waiting adapter).length then queued.flushAdapter adapter else queued)

def initiate (lookup : BatchLookup) : BatchLookup := { lookup with active := lookup.active + 1 }

-- One scan fewer will make requests. True if nothing may wait any longer, so that a flush is due.
def retire (lookup : BatchLookup) : Bool × BatchLookup :=
  match lookup.active with
  | 0 => (true, { lookup with events := .exhaustedUninitiated :: lookup.events })
  | left + 1 => (left = 0, { lookup with active := left })

def exhaust (lookup : BatchLookup) : BatchLookup :=
  if lookup.retire.1 then lookup.retire.2.flushAll else lookup.retire.2

def complete (lookup : BatchLookup) (index : Nat) (fetched : Fetched) : Option BatchLookup := do
  let batch ← lookup.batches[index]?
  if batch.isFetching then
    some { lookup with
      batches := lookup.batches.set index { batch with progress := .replying (fetched.replies batch) }
      events := fetched.events batch ++ lookup.events }
  else none

def reply (lookup : BatchLookup) (index : Nat) : Option BatchLookup := do
  let batch ← lookup.batches[index]?
  match batch.progress with
  | .replying (next :: rest) =>
      some { lookup with
        batches := lookup.batches.set index { batch with progress := .replying rest }
        replies := next :: lookup.replies }
  | _ => none

def reply? (lookup : BatchLookup) (request : RequestId) : Option Reply :=
  lookup.replies.lookup request

-- What a settled request found. A loss is reported when it is first looked at.
def look (lookup : BatchLookup) (request : RequestId) : Option (Option Values × BatchLookup) :=
  match lookup.reply? request with
  | none => none
  | some (.values found) => some (found, lookup)
  | some (.lost event) =>
      if request ∈ lookup.reported then some (none, lookup)
      else some (none, { lookup with
        reported := request :: lookup.reported
        events := event :: lookup.events })

end BatchLookup

end ThinScan
