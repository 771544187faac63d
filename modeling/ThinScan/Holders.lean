import ThinScan.Clients

set_option autoImplicit false

namespace ThinScan

structure Handle where
  adapter : AdapterId
  key : Bytes
  request : RequestId
  -- False once the handle is dropped; it keeps its number.
  held : Bool := true
deriving DecidableEq, Repr

structure Holders where
  clients : Clients
  -- In the order in which they were handed out.
  handles : List Handle := []

namespace Holders

inductive Act where
  | client (action : Clients.Act)
  | clone (handle : Nat)
  | drop (handle : Nat)
  | poll (handle : Nat)

def lookup (holders : Holders) : BatchLookup := holders.clients.lookup

def held? (holders : Holders) (number : Nat) : Option Handle := holders.handles[number]?.filter Handle.held

def handedOut (clients : Clients) : Clients.Act → List Handle
  | .request adapter key => [{ adapter := adapter, key := key, request := (clients.lookup.request adapter key).1 }]
  | _ => []

def poll (holders : Holders) (number : Nat) : Option (Option Values × Holders) := do
  let handle ← holders.held? number
  let looked ← holders.lookup.look handle.request
  some (looked.1, { holders with clients := holders.clients.withLookup looked.2 })

def clone (holders : Holders) (number : Nat) : Option Holders := do
  let handle ← holders.held? number
  some { holders with handles := holders.handles ++ [handle] }

def drop (holders : Holders) (number : Nat) : Option Holders := do
  let handle ← holders.held? number
  some { holders with handles := holders.handles.set number { handle with held := false } }

def act (holders : Holders) : Act → Option Holders
  | .client action => do
      let clients ← holders.clients.act action
      some { clients := clients, handles := holders.handles ++ handedOut holders.clients action }
  | .clone number => holders.clone number
  | .drop number => holders.drop number
  | .poll number => (holders.poll number).map Prod.snd

def run (holders : Holders) (acts : List Act) : Option Holders := acts.foldlM act holders

end Holders

end ThinScan
