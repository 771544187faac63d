import ThinScan.Session.Fault
import ThinScan.Session.Service

set_option autoImplicit false

namespace ThinScan

namespace Session

structure Deferral where
  row : Row
  adapter : Adapter Feature
  request : RequestId

end Session

structure Session where
  config : Config
  service : Session.Service
  multiThreaded : Bool := true
  held : Bool := false
  index : MemoryIndex := .empty
  faults : List Session.Fault := []
  failing : List Bytes := []
  -- By number; a forgotten one keeps its number.
  handles : List (Option RequestId) := []
  deferrals : List (Option Session.Deferral) := []
  blocked : List (Nat × Question) := []
  -- Rows examined outside of scans.
  examined : List Row := []
  events : List Event := []
  reportedCalls : Nat := 0

namespace Session

def fetchKey (session : Session) : FetchKey := keyBackend session.index session.failing

def releasing (session : Session) : Option World.Backend :=
  if session.held then none else some (backend session.index session.faults)

def setWorld (session : Session) (world : World Feature) : Session :=
  { session with service := session.service.setWorld world }

def setLookup (session : Session) (world : World Feature) (lookup : BatchLookup) : Session :=
  session.setWorld (world.withLookup lookup)

def act (session : Session) (world : World Feature) (action : Act Feature) : Session :=
  session.setWorld (world.step session.releasing action)

def examine (session : Session) (row : Row) : Session := { session with examined := row :: session.examined }

def report (session : Session) (events : List Event) : Session :=
  { session with events := events ++ session.events }

def isBusy (session : Session) (scan : Nat) : Bool := session.blocked.any (fun entry => entry.1 = scan)

def filterCalls (session : Session) : List Nat :=
  Filter.askedAll session.service.decoder.filters (session.examined ++ session.service.examined)

end Session

end ThinScan
