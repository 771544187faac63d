import ThinScan.MemoryIndex
import ThinScan.Schedule

set_option autoImplicit false

namespace ThinScan.Session

inductive Mishap where
  | fail
  | crash
  | truncate (count : Nat)
  | surplus (count : Nat)
  | reverse
  | rotate (count : Nat)
deriving DecidableEq, Repr

structure Fault where
  adapter : AdapterId
  call : Nat
  mishap : Mishap

namespace Mishap

def befall (results : List (Option Values)) : Mishap → Fetched
  | fail => .failed (.fetch "storage unavailable")
  | crash => .crashed
  | truncate count => .results (results.take (results.length - count))
  | surplus count => .results (results ++ List.replicate count none)
  | reverse => .results results.reverse
  | rotate count => .results (results.rotateLeft (min count results.length))

end Mishap

-- The records as they are at the release, unless a fault was planned for the call.
def backend (index : MemoryIndex) (faults : List Fault) : World.Backend := fun call batch =>
  let results := index.fetchBatch batch.adapter batch.params batch.keys
  match faults.find? (fun fault => fault.adapter = batch.adapter && fault.call = call) with
  | some fault => fault.mishap.befall results
  | none => .results results

def keyBackend (index : MemoryIndex) (failing : List Bytes) : FetchKey := fun adapter params dataId =>
  if failing.any (fun failed => failed = dataId) then .error (.fetch "connection reset")
  else .ok (index.fetch adapter params dataId)

end ThinScan.Session
