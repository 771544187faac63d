import ThinScan.BatchLookup

/-!
`Clients.act` performs one step, or says that it cannot be taken now. A flush is no single step: it lists the adapters
and comes to one after the other, while all others go on.
-/

set_option autoImplicit false

namespace ThinScan

structure Clients where
  lookup : BatchLookup
  -- Oldest first; one that is through stays, with nothing left.
  flushes : List Flush := []

namespace Clients

inductive Act where
  | request (adapter : AdapterId) (key : Bytes)
  | flushAdapter (adapter : AdapterId)
  | flush
  | list (flush : Nat)
  | flushNext (flush : Nat) (adapter : AdapterId)
  | initiate
  | exhaust
  | setParams (params : Params)
  | readParams
  | complete (batch : Nat) (fetched : Fetched)
  | reply (batch : Nat)
  | look (request : RequestId)

def withLookup (clients : Clients) (lookup : BatchLookup) : Clients := { clients with lookup := lookup }

def beginFlush (clients : Clients) : Clients := { clients with flushes := clients.flushes ++ [none] }

def list (clients : Clients) (flush : Nat) : Option Clients := do
  match ← clients.flushes[flush]? with
  | none => some { clients with flushes := clients.flushes.set flush (some clients.lookup.pending.keys) }
  | some _ => none

def flushNext (clients : Clients) (flush : Nat) (adapter : AdapterId) : Option Clients := do
  match ← clients.flushes[flush]? with
  | none => none
  | some left =>
      if adapter ∈ left then
        some { lookup := clients.lookup.flushAdapter adapter
               flushes := clients.flushes.set flush (some (left.erase adapter)) }
      else none

def exhaust (clients : Clients) : Clients :=
  let retired := clients.lookup.retire
  let counted := clients.withLookup retired.2
  if retired.1 then counted.beginFlush else counted

def setParams (clients : Clients) (params : Params) : Clients :=
  match clients.lookup.setParams params with
  | .ok bound => clients.withLookup bound
  | .error _ => clients

def act (clients : Clients) : Act → Option Clients
  | .request adapter key => some (clients.withLookup (clients.lookup.request adapter key).2)
  | .flushAdapter adapter => some (clients.withLookup (clients.lookup.flushAdapter adapter))
  | .flush => some clients.beginFlush
  | .list flush => clients.list flush
  | .flushNext flush adapter => clients.flushNext flush adapter
  | .initiate => some (clients.withLookup clients.lookup.initiate)
  | .exhaust => some clients.exhaust
  | .setParams params => some (clients.setParams params)
  | .readParams => some (clients.withLookup clients.lookup.bind)
  | .complete batch fetched => (clients.lookup.complete batch fetched).map clients.withLookup
  | .reply batch => (clients.lookup.reply batch).map clients.withLookup
  | .look request => (clients.lookup.look request).map (fun looked => clients.withLookup looked.2)

def run (clients : Clients) (acts : List Act) : Option Clients := acts.foldlM act clients

end Clients

end ThinScan
