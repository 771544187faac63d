import ThinScan.BatchLookup
import ThinScan.PointLookup

set_option autoImplicit false

namespace ThinScan

inductive Lookup where
  | point (service : PointLookup)
  | batch (service : BatchLookup)

namespace Lookup

def single : Lookup := .point {}

def batched (batchSize : Nat) : Except Error Lookup := (BatchLookup.create batchSize).map batch

def ofConfig (config : Config) : Except Error Lookup := do
  config.validate
  if config.batching then batched config.batchSize else pure single

def setParams (params : Params) : Lookup → Except Error Lookup
  | point service => (service.setParams params).map point
  | batch service => (service.setParams params).map batch

def prepare (config : Config) (params : Option Params) : Except Error Lookup := do
  let chosen ← ofConfig config
  match params with
  | some given => chosen.setParams given
  | none => pure chosen

end Lookup

end ThinScan
