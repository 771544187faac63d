import ThinScan.BatchLookup
import ThinScan.InlineScan

/-!
A scan pulls rows. If the values of a thin row are not there at once, the row has a task that waits for its request,
decodes the row and appends the value to the scan's queue.
-/

set_option autoImplicit false

namespace ThinScan

-- Nobody pulls; a pull goes through the source, or has asked for the values of a thin row; the final flush runs,
-- during a pull or because the scan is dropped; or a pull waits for the queue.
inductive Phase (T : Type) where
  | idle
  | scanning
  | deferring (row : Row) (adapter : Adapter T) (request : RequestId)
  | flushing (left : Flush)
  | receiving
  | closing (left : Flush)

def Phase.isIdle {T : Type} : Phase T → Bool
  | idle => true
  | _ => false

structure Scan (T : Type) where
  -- Which of the adapter tables the scan decodes with.
  store : Nat
  filters : List Filter
  source : Source
  -- Values that may stand in the queue; further ones wait with their tasks.
  capacity : Nat
  queue : List T := []
  lookahead : Option T := none
  outstanding : Nat := 0
  phase : Phase T := .idle
  initiated : Bool := false
  exhausted : Bool := false
  finished : Bool := false
  dropped : Bool := false
  -- Values handed out, oldest first.
  emitted : List T := []

-- A task that is leaving has counted itself out, but has the queue still open. One that has crashed never counts itself
-- out.
inductive Stage (T : Type) where
  | waiting
  | sending (value : T)
  | ending
  | leaving
  | crashed
deriving DecidableEq, Repr

def Stage.ofOutcome {T : Type} : Outcome T → Stage T
  | .value value => .sending value
  | .crashed => .crashed
  | _ => .ending

structure Task (T : Type) where
  scan : Nat
  row : Row
  adapter : Adapter T
  request : RequestId
  stage : Stage T

namespace Scan

variable {T : Type}

def start (store : Nat) (filters : List Filter) (source : Source) (capacity : Nat) : Scan T :=
  { store := store, filters := filters, source := source, capacity := max capacity 1 }

def hasRoom (scan : Scan T) : Bool := scan.queue.length < scan.capacity

-- The beginning of a pull: a value that already stands in the queue ends the search at once.
def begin (scan : Scan T) : Scan T :=
  let counted := { scan with initiated := true }
  if counted.lookahead.isSome || counted.finished then counted
  else
    match counted.queue with
    | value :: rest => { counted with lookahead := some value, queue := rest }
    | [] => { counted with phase := .scanning }

def isFree (scan : Scan T) : Bool := !scan.dropped && scan.phase.isIdle

def decoded (scan : Scan T) : Outcome T → Scan T
  | .value value => { scan with lookahead := some value, phase := .idle }
  | .crashed => { scan with phase := .idle }
  | _ => { scan with phase := .scanning }

@[simp] theorem source_decoded (scan : Scan T) (outcome : Outcome T) : (scan.decoded outcome).source = scan.source := by
  cases outcome <;> rfl

def closed (scan : Scan T) : Scan T :=
  { scan with dropped := true, queue := [], lookahead := none, phase := .idle }

end Scan

namespace Task

variable {T : Type}

def isLive (task : Task T) : Bool :=
  match task.stage with
  | .crashed => false
  | _ => true

def holds (task : Task T) (scan : Nat) : Bool := task.scan = scan && task.isLive

end Task

inductive Verdict (T : Type) where
  | refused
  | unknown
  | own (adapter : Adapter T)
  | deferred (adapter : Adapter T) (request : RequestId)

structure Pulled (T : Type) where
  scan : Nat
  row : Row
  verdict : Verdict T

end ThinScan
