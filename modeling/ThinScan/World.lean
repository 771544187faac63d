import ThinScan.DeferredScan

/-!
Any number of deferred scans over one batched lookup, with the fetches and the tasks that run in the background.
`World.act` performs one step, or says that it cannot be taken now; which step comes next is left open.
-/

set_option autoImplicit false

namespace ThinScan

variable {T : Type}

structure World (T : Type) where
  -- Adapter tables. Scans may share one, and it may change while they run.
  stores : List (Adapters T)
  lookup : BatchLookup
  scans : List (Scan T) := []
  -- Tasks not yet ended. Those that wait are in the order their rows were deferred, those that send in the order they
  -- became ready.
  tasks : List (Task T) := []
  -- Every row taken from a source, newest first.
  pulled : List (Pulled T) := []
  -- Newest first; the lookup keeps its own.
  events : List Event := []

inductive Act (T : Type) where
  | register (store : Nat) (adapter : Adapter T)
  | unregister (store : Nat) (adapter : AdapterId)
  | start (store : Nat) (filters : List Filter) (source : Source) (capacity : Nat)
  | pull (scan : Nat)
  | advance (scan : Nat)
  | flushNext (scan : Nat) (adapter : AdapterId)
  | flushAdapter (adapter : AdapterId)
  | take (scan : Nat)
  | drop (scan : Nat)
  | complete (batch : Nat) (fetched : Fetched)
  | reply (batch : Nat)
  | wake (task : Nat)
  | send (task : Nat)
  | finish (task : Nat)

namespace World

def store (world : World T) (index : Nat) : Adapters T := world.stores[index]?.getD Table.empty

def decoder (world : World T) (scan : Scan T) : Decoder T := ⟨world.store scan.store, scan.filters⟩

def setStore (world : World T) (index : Nat) (adapters : Adapters T) : World T :=
  { world with stores := world.stores.set index adapters }

def withLookup (world : World T) (lookup : BatchLookup) : World T := { world with lookup := lookup }

def setScan (world : World T) (index : Nat) (scan : Scan T) : World T :=
  { world with scans := world.scans.set index scan }

def report (world : World T) (events : List Event) : World T :=
  { world with events := events ++ world.events }

-- The scan will append no more rows, and no task will append a value.
def queueClosed (world : World T) (index : Nat) (scan : Scan T) : Bool :=
  scan.exhausted && !world.tasks.any (fun task => task.holds index)

-- Begins a pull. The first one counts the scan in.
def pull (world : World T) (index : Nat) : Option (World T) := do
  let scan ← world.scans[index]?
  if !scan.isFree then none
  else
    let counted := if scan.initiated then world.lookup else world.lookup.initiate
    some ((world.withLookup counted).setScan index scan.begin)

def pullRow (world : World T) (index : Nat) (scan : Scan T) (row : Row) (rest : Source) : World T :=
  let noted (verdict : Verdict T) : World T :=
    { world with pulled := ⟨index, row, verdict⟩ :: world.pulled }
  match (world.decoder scan).admission row with
  | .refused => (noted .refused).setScan index { scan with source := rest }
  | .unknown =>
      ((noted .unknown).setScan index { scan with source := rest }).report
        [.adapterMissing row.dataId row.adapter]
  | .granted adapter =>
      if row.needsLookup then
        let asked := world.lookup.request row.adapter row.dataId
        ((noted (.deferred adapter asked.1)).withLookup asked.2).setScan index
          { scan with source := rest, phase := .deferring row adapter asked.1 }
      else
        let outcome := Outcome.ofValues adapter row row.values
        ((noted (.own adapter)).setScan index ({ scan with source := rest }.decoded outcome)).report outcome.events

def deferRow (world : World T) (index : Nat) (scan : Scan T) (row : Row) (adapter : Adapter T) (request : RequestId) :
    World T :=
  match world.lookup.look request with
  | some (found, looked) =>
      let outcome := Outcome.ofLookup adapter row found
      ((world.withLookup looked).setScan index (scan.decoded outcome)).report outcome.events
  | none =>
      { world.setScan index { scan with outstanding := scan.outstanding + 1, phase := .scanning } with
        tasks := world.tasks ++ [⟨index, row, adapter, request, .waiting⟩] }

-- The source has ended. Said once to the lookup; the last scan to say so has to flush.
def exhaust (world : World T) (index : Nat) (scan : Scan T) : World T :=
  if scan.exhausted then world.setScan index { scan with source := [], phase := .receiving }
  else
    let retired := world.lookup.retire
    (world.withLookup retired.2).setScan index
      { scan with
        source := []
        exhausted := true
        phase := if retired.1 then .flushing none else .receiving }

def receive (world : World T) (index : Nat) (scan : Scan T) : Option (World T) :=
  match scan.queue with
  | value :: rest =>
      some (world.setScan index { scan with lookahead := some value, queue := rest, phase := .idle })
  | [] =>
      if world.queueClosed index scan then
        some ((world.setScan index { scan with finished := true, phase := .idle }).report
          (if 0 < scan.outstanding then [.endedEarly scan.outstanding] else []))
      else none

def close (world : World T) (index : Nat) (scan : Scan T) : World T := world.setScan index scan.closed

def advance (world : World T) (index : Nat) : Option (World T) := do
  let scan ← world.scans[index]?
  match scan.phase with
  | .idle => none
  | .scanning =>
      match scan.source with
      | some row :: rest => some (world.pullRow index scan row rest)
      | _ => some (world.exhaust index scan)
  | .deferring row adapter request => some (world.deferRow index scan row adapter request)
  | .flushing none =>
      some (world.setScan index { scan with phase := .flushing (some world.lookup.pending.keys) })
  | .flushing (some []) => some (world.setScan index { scan with phase := .receiving })
  | .flushing (some (_ :: _)) => none
  | .closing none =>
      some (world.setScan index { scan with phase := .closing (some world.lookup.pending.keys) })
  | .closing (some []) => some (world.close index scan)
  | .closing (some (_ :: _)) => none
  | .receiving => world.receive index scan

-- A flush under way takes any adapter still on its list. Adapters that came into use while the list was made may be
-- on it or not: such a flush is an act of its own, `flushAdapter`.
def flushNext (world : World T) (index : Nat) (adapter : AdapterId) : Option (World T) := do
  let scan ← world.scans[index]?
  let flushed := world.withLookup (world.lookup.flushAdapter adapter)
  match scan.phase with
  | .flushing (some left) =>
      if adapter ∈ left then
        some (flushed.setScan index { scan with phase := .flushing (some (left.erase adapter)) })
      else none
  | .closing (some left) =>
      if adapter ∈ left then
        some (flushed.setScan index { scan with phase := .closing (some (left.erase adapter)) })
      else none
  | _ => none

def take (world : World T) (index : Nat) : Option (World T) := do
  let scan ← world.scans[index]?
  if !scan.isFree then none
  else
    let value ← scan.lookahead
    some (world.setScan index { scan with lookahead := none, emitted := scan.emitted ++ [value] })

-- Drops a scan nobody pulls. One that was counted in and never ended is counted out first.
def drop (world : World T) (index : Nat) : Option (World T) := do
  let scan ← world.scans[index]?
  if !scan.isFree then none
  else if scan.initiated && !scan.exhausted then
    let retired := world.lookup.retire
    let counted := world.withLookup retired.2
    let ended := { scan with exhausted := true }
    some (if retired.1 then counted.setScan index { ended with phase := .closing none }
      else counted.close index ended)
  else some (world.close index scan)

def moveTask (world : World T) (index : Nat) (successor : List (Task T)) : World T :=
  { world with tasks := world.tasks.eraseIdx index ++ successor }

def wake (world : World T) (index : Nat) : Option (World T) := do
  let task ← world.tasks[index]?
  match task.stage with
  | .waiting =>
      let (found, looked) ← world.lookup.look task.request
      let outcome := Outcome.ofLookup task.adapter task.row found
      some (((world.withLookup looked).moveTask index [{ task with stage := .ofOutcome outcome }]).report outcome.events)
  | _ => none

-- A task appends its value if the queue has room; the value of a dropped scan is discarded.
def send (world : World T) (index : Nat) : Option (World T) := do
  let task ← world.tasks[index]?
  let scan ← world.scans[task.scan]?
  match task.stage with
  | .sending value =>
      let ended := world.moveTask index [{ task with stage := .ending }]
      if scan.dropped then some (ended.report [.valueDiscarded])
      else if scan.hasRoom then some (ended.setScan task.scan { scan with queue := scan.queue ++ [value] })
      else none
  | _ => none

-- A task at its end counts itself out, and only then lets go of the queue.
def finish (world : World T) (index : Nat) : Option (World T) := do
  let task ← world.tasks[index]?
  let scan ← world.scans[task.scan]?
  match task.stage with
  | .ending =>
      some ((world.moveTask index [{ task with stage := .leaving }]).setScan task.scan
        { scan with outstanding := scan.outstanding - 1 })
  | .leaving => some (world.moveTask index [])
  | _ => none

def act (world : World T) : Act T → Option (World T)
  | .register store adapter => some (world.setStore store ((world.store store).register adapter))
  | .unregister store adapter => some (world.setStore store ((world.store store).erase adapter))
  | .start store filters source capacity =>
      some { world with scans := world.scans ++ [Scan.start store filters source capacity] }
  | .pull scan => world.pull scan
  | .advance scan => world.advance scan
  | .flushNext scan adapter => world.flushNext scan adapter
  | .flushAdapter adapter => some (world.withLookup (world.lookup.flushAdapter adapter))
  | .take scan => world.take scan
  | .drop scan => world.drop scan
  | .complete batch fetched => (world.lookup.complete batch fetched).map world.withLookup
  | .reply batch => (world.lookup.reply batch).map world.withLookup
  | .wake task => world.wake task
  | .send task => world.send task
  | .finish task => world.finish task

def run (world : World T) (acts : List (Act T)) : Option (World T) := acts.foldlM act world

end World

end ThinScan
