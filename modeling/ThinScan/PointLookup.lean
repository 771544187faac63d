import ThinScan.Params

set_option autoImplicit false

namespace ThinScan

abbrev FetchKey := AdapterId → Params → Bytes → Except Error (Option Values)

structure KeyFetch where
  adapter : AdapterId
  dataId : Bytes
  params : Params

structure PointLookup where
  params : Option Params := none
  -- Oldest first.
  fetches : List KeyFetch := []
  events : List Event := []

namespace PointLookup

def bound (lookup : PointLookup) : Params := lookup.params.getD {}

def bind (lookup : PointLookup) : PointLookup := { lookup with params := some lookup.bound }

def setParams (lookup : PointLookup) (params : Params) : Except Error PointLookup :=
  match lookup.params with
  | none => .ok { lookup with params := some params }
  | some _ => .error .paramsAlreadyBound

-- A failing fetch is reported and counts as a missing record.
def get (fetch : FetchKey) (lookup : PointLookup) (adapter : AdapterId) (dataId : Bytes) :
    Option Values × PointLookup :=
  let issued := { lookup.bind with fetches := lookup.fetches ++ [⟨adapter, dataId, lookup.bound⟩] }
  match fetch adapter lookup.bound dataId with
  | .ok found => (found, issued)
  | .error cause => (none, { issued with events := .keyFetchFailed adapter dataId cause :: issued.events })

end PointLookup

end ThinScan
