import ThinScan.Session.Batched
import ThinScan.Session.Inline

set_option autoImplicit false

namespace ThinScan.Session

def Command.scan? : Command → Option Nat
  | .hasNext scan => some scan
  | .next scan => some scan
  | .outstanding scan => some scan
  | .drop scan => some scan
  | .collect scan => some scan
  | _ => none

def busyAnswer : Command → Answer
  | .collect _ => .collected [] (some .busy)
  | _ => .silent .busy

def change (session : Session) (change : MemoryIndex.Change) : Answer × Session :=
  let (old, index) := session.index.perform change
  (.old old, { session with index := index })

def perform (session : Session) (command : Command) : Answer × Session :=
  let adapters := session.service.decoder.adapters
  match command with
  | .insert adapter dataId values => session.change (.insert adapter dataId values)
  | .remove adapter dataId => session.change (.remove adapter dataId)
  | .addAdapter adapter =>
      (.replaced ((adapters.find? adapter.id).map Adapter.typeName),
        { session with service := session.service.setAdapters (adapters.register adapter) })
  | .removeAdapter adapter =>
      (.removed ((adapters.find? adapter).map Adapter.typeName),
        { session with service := session.service.setAdapters (adapters.erase adapter) })
  | .hold held => (.done, { session with held := held })
  | _ =>
      if (command.scan?.map session.isBusy).getD false then (busyAnswer command, session)
      else
        match session.service with
        | .batched _ world => session.onBatched world command
        | .inline decoder trace scans => session.onInline decoder trace scans command

def rest (session : Session) : Session :=
  match session.service with
  | .batched _ world => session.setWorld (world.rest session.releasing)
  | .inline .. => session

-- Performs a command, comes to rest, and reports what has happened since the last report.
def step (session : Session) (command : Command) : Report × Session :=
  let (answer, performed) := session.perform command
  let (unblocked, after) := performed.rest.unblock
  ({ answer := answer
     lookup := after.service.lookupState
     calls := after.service.callsAfter session.reportedCalls
     held := after.service.heldFetches
     unblocked := unblocked
     lines := Event.lines (after.events ++ after.service.events) },
    { after with
      events := []
      service := after.service.clearEvents
      reportedCalls := after.service.callCount })

def run : Session → List Command → List Report × Session
  | session, [] => ([], session)
  | session, command :: rest =>
      let (report, after) := session.step command
      let (reports, last) := run after rest
      (report :: reports, last)

end ThinScan.Session
