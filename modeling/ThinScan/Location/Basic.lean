import ThinScan.Error
import ThinScan.Location.Url
import ThinScan.ObjectPath

set_option autoImplicit false

namespace ThinScan

inductive Location where
  | bucket (name : Text) (anonymous : Bool) (path : ObjectPath)
  | memory (name : Text) (path : ObjectPath)
  | disk (path : ObjectPath)
deriving DecidableEq, Repr

namespace Location

def path : Location → ObjectPath
  | bucket _ _ path => path
  | memory _ path => path
  | disk path => path

inductive Fault where
  | url (fault : Url.Fault)
  | noBucket
  | noStoreName
  | badDiskPath (location cleaned illegal component : Text)
deriving DecidableEq, Repr

def Fault.message : Fault → String
  | url fault => "invalid url: " ++ fault.message
  | noBucket => "Invalid S3 URL - no bucket specified"
  | noStoreName => "Invalid memory URL - no store name specified"
  | badDiskPath location cleaned illegal component =>
      "Invalid local path '" ++ String.ofList location ++ "': Error parsing Path \""
        ++ String.ofList cleaned ++ "\": Encountered illegal character sequence \"" ++ String.ofList illegal
        ++ "\" whilst parsing path segment \"" ++ String.ofList component ++ "\""

def Fault.error (fault : Fault) : Error := .invalidConfig fault.message

def asksAnonymous (pair : Bytes × Bytes) : Bool :=
  pair.1 = Bytes.ofText "anon".toList
    && (pair.2 = Bytes.ofText "true".toList || pair.2 = Bytes.ofText "1".toList)

def ofUrl (url : Url) : Except Fault Location :=
  if url.host.isEmpty then .error .noBucket
  else .ok (.bucket url.host (url.pairs.any asksAnonymous) (.ofSegments url.path))

def ofMemory (rest : Text) : Except Fault Location :=
  let (name, key) := Text.cut '/' rest
  if name.isEmpty then .error .noStoreName
  else .ok (.memory name (.ofText (key.getD [])))

def illegal? (component : Text) : Option Text :=
  if component = ['.', '.'] then some component
  else (component.find? Text.isControl).map (fun c => [c])

def ofDisk (location : Text) : Except Fault Location :=
  let components := (Text.splitOn '/' location).filter (fun part => !part.isEmpty && part ≠ ['.'])
  let faults := components.filterMap (fun part => (illegal? part).map (fun illegal => (illegal, part)))
  match faults with
  | (illegal, part) :: _ =>
      .error (.badDiskPath location ('/' :: Text.joined '/' components) illegal part)
  | [] => .ok (.disk ⟨components⟩)

def bucketScheme : Text := "s3://".toList

def memoryScheme : Text := "memory://".toList

def parse (location : Text) : Except Fault Location :=
  if bucketScheme.isPrefixOf location then
    match Url.parse location with
    | .ok url => ofUrl url
    | .error fault => .error (.url fault)
  else if memoryScheme.isPrefixOf location then ofMemory (location.drop memoryScheme.length)
  else ofDisk location

end Location

end ThinScan
