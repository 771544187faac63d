import ThinScan.Params
import ThinScan.Text.Mark
import ThinScan.Text.Unprintable

set_option autoImplicit false

namespace ThinScan

namespace Aggregation

def concat (values : Values) : Values :=
  [⟨values.foldl (fun mask value => Mask.union mask value.mask) [], [], values.flatMap FieldValue.payload⟩]

def keepLast (values : Values) : Values := values.getLast?.toList

def foldNamed (name : String) : Values → Values :=
  if name = "concat" then concat
  else if name = "keep_last" then keepLast
  else if name = "reverse" then List.reverse
  else if name = "drop" then fun _ => []
  else id

def named (adapter : AdapterId) (name : String) : Aggregation := ⟨adapter, name, foldNamed name⟩

def isFiller (c : Char) : Bool := c ∈ ['\u115f', '\u1160', '\u3164', '\uffa0']

def isHidden (c : Char) : Bool := Text.isUnprintable c || Text.isAttached c || isFiller c

def escaped (c : Char) : List Char :=
  if c = '"' then ['\\', '"']
  else if c = '\\' then ['\\', '\\']
  else if c = '\n' then ['\\', 'n']
  else if c = '\r' then ['\\', 'r']
  else if c = '\t' then ['\\', 't']
  else if c.toNat = 0 then ['\\', '0']
  else if isHidden c then '\\' :: 'u' :: '\x7b' :: Nat.toDigits 16 c.toNat ++ ['\x7d']
  else [c]

def quotedName (name : String) : String :=
  String.ofList ('"' :: name.toList.flatMap escaped ++ ['"'])

def describe (aggregation : Aggregation) : String :=
  "AggregationSpec \x7b adapter_id: " ++ toString aggregation.adapter.toInt
    ++ ", function: " ++ quotedName aggregation.name ++ " \x7d"

end Aggregation

end ThinScan
