import ThinScan.Location.Domain.Joining
import ThinScan.Location.Domain.Punycode

/-!
Which texts are domain names, and their labels in the form in which names are compared.
-/

set_option autoImplicit false

namespace ThinScan.Url.Domain

def isDenied (c : Char) : Bool :=
  Text.isControl c || c ∈ [' ', '#', '%', '/', ':', '<', '>', '?', '@', '[', '\\', ']', '^', '|']

def longestLabel : Nat := 1000

def isLabel (label : Text) : Bool := !label.head?.any Text.isMark && joinersFit label

def isEncodable (label : Text) : Bool := label.all Text.isAscii || (label.length ≤ longestLabel && isLabel label)

-- A label is encoded only if it is not plain, and only in the form in which names are compared.
def isDecoded (label : Text) : Bool :=
  !label.all Text.isAscii && label.all isSettled && normalForm label = label && isLabel label

def shown? (label : Text) : Option Text :=
  match label with
  | 'x' :: 'n' :: '-' :: '-' :: encoded =>
      if encoded.all Text.isAscii then (Punycode.decode encoded).filter isDecoded else none
  | _ => if isEncodable label then some label else none

def directionsAgree (labels : List Text) : Bool := !labels.any runsRight || labels.all keepsDirection

def labels? (host : Text) : Option (List Text) := do
  let text ← String.fromUTF8? (ByteArray.mk (Text.percentDecode host).toArray)
  let read ← text.toList.mapM reading?
  let name := normalForm read.flatten
  let labels := Text.splitOn '.' name
  let shown ← labels.mapM shown?
  if name.any isDenied || !directionsAgree shown then none else pure labels

end ThinScan.Url.Domain
