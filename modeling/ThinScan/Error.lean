import ThinScan.Row
import ThinScan.Text

set_option autoImplicit false

namespace ThinScan

inductive Error where
  | fetch (reason : String)
  | storage (reason : String)
  | decode (reason : String)
  | unknownAdapter (adapter : AdapterId)
  | invalidConfig (reason : String)
  | paramsAlreadyBound
  | serialization (reason : String)
deriving DecidableEq, Repr

namespace Error

def accessFailure : String := "Failed to access stored record"

-- What would follow these words are places in memory, which differ from run to run.
def shown (text : String) : String := String.ofList (Text.upThrough accessFailure.toList text.toList)

def description : Error → String
  | fetch reason => "Fetch error: " ++ reason
  | storage reason => "Storage error: " ++ reason
  | decode reason => "Decode error: " ++ reason
  | unknownAdapter adapter => "Unknown adapter: " ++ toString adapter.toInt
  | invalidConfig reason => "Invalid configuration: " ++ reason
  | paramsAlreadyBound => "Retrieval params are already bound"
  | serialization reason => "Serialization error: " ++ reason

def message (error : Error) : String := shown error.description

end Error

end ThinScan
