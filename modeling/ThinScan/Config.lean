import ThinScan.Error

set_option autoImplicit false

namespace ThinScan

structure Config where
  batchSize : Nat := 1000
  queueCapacity : Nat := 1048576
  fetchConcurrency : Nat := 16
deriving DecidableEq, Repr

namespace Config

inductive Fault where
  | noBatchSize
  | noQueueCapacity
  | noFetchConcurrency
  | singleThreaded
deriving DecidableEq, Repr

def Fault.message : Fault → String
  | noBatchSize => "batch_size must be at least 1"
  | noQueueCapacity => "completion_queue_capacity must be at least 1"
  | noFetchConcurrency => "object_fetch_concurrency must be at least 1"
  | singleThreaded => "asynchronous decoding needs a multi-threaded runtime for batched retrieval"

def Fault.error (fault : Fault) : Error := .invalidConfig fault.message

-- A batch of one key is no batch.
def batching (config : Config) : Bool := 1 < config.batchSize

def validate (config : Config) : Except Error Unit :=
  if config.batchSize = 0 then .error Fault.noBatchSize.error
  else if config.queueCapacity = 0 then .error Fault.noQueueCapacity.error
  else if config.fetchConcurrency = 0 then .error Fault.noFetchConcurrency.error
  else .ok ()

end Config

end ThinScan
