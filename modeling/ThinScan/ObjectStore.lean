import ThinScan.Error
import ThinScan.ObjectPath
import ThinScan.Table

set_option autoImplicit false

namespace ThinScan

inductive StoreError where
  | generic (store reason : String)
  | notFound (path : Text) (reason : String)
  | denied (path : Text) (reason : String)
  | unimplemented
  -- Any other fault, by its text.
  | other (text : String)
deriving DecidableEq, Repr

namespace StoreError

def message : StoreError → String
  | generic store reason => "Generic " ++ store ++ " error: " ++ reason
  | notFound path reason => "Object at location " ++ String.ofList path ++ " not found: " ++ reason
  | denied path reason =>
      "The operation lacked the necessary privileges to complete for path " ++ String.ofList path ++ ": "
        ++ reason
  | unimplemented => "Operation not yet implemented."
  | other text => text

def error (cause : StoreError) : Error := .storage cause.message

end StoreError

namespace ObjectStore

inductive Operation where
  | get
  | read
  | put
  | delete
deriving DecidableEq, Repr

inductive FaultKind where
  | generic
  | notFound
  | denied
  | unimplemented
  | other
deriving DecidableEq, Repr

structure Fault where
  operation : Operation
  contained : Text
  kind : FaultKind
  reason : String

def Fault.hits (fault : Fault) (operation : Operation) (path : Text) : Bool :=
  fault.operation = operation && Text.contains fault.contained path

def Fault.error (fault : Fault) (path : Text) : StoreError :=
  match fault.kind with
  | .generic => .generic "Faulty" fault.reason
  | .notFound => .notFound path fault.reason
  | .denied => .denied path fault.reason
  | .unimplemented => .unimplemented
  | .other => .other fault.reason

end ObjectStore

structure ObjectStore where
  objects : Table Text Bytes := Table.empty
  faults : List ObjectStore.Fault := []

namespace ObjectStore

def plan (store : ObjectStore) (faults : List Fault) : ObjectStore := { store with faults := store.faults ++ faults }

def unplan (store : ObjectStore) : ObjectStore := { store with faults := [] }

def planned (store : ObjectStore) (operation : Operation) (path : Text) : Option StoreError :=
  (store.faults.find? (fun fault => fault.hits operation path)).map (fun fault => fault.error path)

def put (store : ObjectStore) (path : ObjectPath) (body : Bytes) : Except StoreError ObjectStore :=
  match store.planned .put path.text with
  | some cause => .error cause
  | none => .ok { store with objects := store.objects.insert path.text body }

-- The object at a path. That it is there does not mean that its body can be read.
def get (store : ObjectStore) (path : ObjectPath) : Except StoreError (Except StoreError Bytes) :=
  match store.planned .get path.text with
  | some cause => .error cause
  | none =>
      match store.objects.find? path.text with
      | none => .error (.notFound path.text "no such object")
      | some body =>
          match store.planned .read path.text with
          | some cause => .ok (.error cause)
          | none => .ok (.ok body)

def delete (store : ObjectStore) (path : ObjectPath) : Except StoreError ObjectStore :=
  match store.planned .delete path.text with
  | some cause => .error cause
  | none => .ok { store with objects := store.objects.erase path.text }

end ObjectStore

end ThinScan
