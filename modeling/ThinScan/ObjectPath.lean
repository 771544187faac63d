import ThinScan.Row
import ThinScan.Text

set_option autoImplicit false

namespace ThinScan

structure ObjectPath where
  segments : List Text
deriving DecidableEq, Repr

namespace ObjectPath

def text (path : ObjectPath) : Text := Text.joined '/' path.segments

def isReserved (c : Char) : Bool :=
  Text.isControl c
    || c ∈ ['\\', '\x7b', '^', '\x7d', '%', '\x60', ']', '"', '>', '[', '~', '<', '#', '|', '*', '?']

-- A segment that is a dot or two would name another place, so its dots are escaped.
def escapedSegment (segment : Text) : Text :=
  if segment = ['.'] then ['%', '2', 'E']
  else if segment = ['.', '.'] then ['%', '2', 'E', '%', '2', 'E']
  else Text.percentEncode isReserved segment

def ofSegments (segments : List Text) : ObjectPath :=
  ⟨(segments.filter (fun segment => !segment.isEmpty)).map escapedSegment⟩

def ofText (text : Text) : ObjectPath := ofSegments (Text.splitOn '/' text)

def child (path : ObjectPath) (segment : Text) : ObjectPath := ⟨path.segments ++ [segment]⟩

def record (path : ObjectPath) (adapter : AdapterId) (dataId : Bytes) : ObjectPath :=
  (path.child (toString adapter.toInt).toList).child (Bytes.hexChars dataId ++ ".bin".toList)

end ObjectPath

end ThinScan
