import ThinScan.Location.Domain
import ThinScan.Location.Quad

set_option autoImplicit false

namespace ThinScan

namespace Url

inductive Fault where
  | noScheme
  | badPort
  | emptyHost
  | badAddress
  | badName
  | badQuad
  | badDomain
deriving DecidableEq, Repr

def Fault.message : Fault → String
  | noScheme => "relative URL without a base"
  | badPort => "invalid port number"
  | emptyHost => "empty host"
  | badAddress => "invalid IPv6 address"
  | badName => "invalid domain character"
  | badQuad => "invalid IPv4 address"
  | badDomain => "invalid international domain name"

namespace Address

def group? (text : Text) : Option Nat :=
  if text.isEmpty || 4 < text.length then none
  else (text.mapM Bytes.hexValue?).map (fun digits => digits.foldl (fun value digit => 16 * value + digit) 0)

def octet? (text : Text) : Option Nat :=
  if text.isEmpty || 3 < text.length || !text.all Char.isDigit then none
  else if text.head? = some '0' && 1 < text.length then none
  else
    let value := text.foldl (fun value digit => 10 * value + (digit.toNat - '0'.toNat)) 0
    if value < 256 then some value else none

def dotted? (text : Text) : Option (List Nat) := do
  match ← (Text.splitOn '.' text).mapM octet? with
  | [a, b, c, d] => some [256 * a + b, 256 * c + d]
  | _ => none

def groups? (final : Bool) : List Text → Option (List Nat)
  | [] => some []
  | [last] => (group? last).map (fun group => [group]) <|> (if final then dotted? last else none)
  | text :: rest => do
      let group ← group? text
      let others ← groups? final rest
      pure (group :: others)

def side? (final : Bool) (text : Text) : Option (List Nat) :=
  if text.isEmpty then some [] else groups? final (Text.splitOn ':' text)

def halves : Text → Option (Text × Text)
  | ':' :: ':' :: rest => some ([], rest)
  | c :: rest => (halves rest).map (fun (left, right) => (c :: left, right))
  | [] => none

def parse (text : Text) : Option (List Nat) :=
  match halves text with
  | none => do
      let groups ← side? true text
      if groups.length = 8 then some groups else none
  | some (left, right) => do
      let before ← side? false left
      let after ← side? true right
      let shown := before.length + after.length
      if shown < 8 then some (before ++ List.replicate (8 - shown) 0 ++ after) else none

def zerosFrom (groups : List Nat) (index : Nat) : Nat :=
  ((groups.drop index).takeWhile (· = 0)).length

def longestZeros (groups : List Nat) : Nat × Nat :=
  (List.range groups.length).foldl
    (fun best index => if best.2 < zerosFrom groups index then (index, zerosFrom groups index) else best) (0, 0)

def shown (groups : List Nat) : Text := Text.joined ':' (groups.map (Nat.toDigits 16))

-- The canonical text: the longest run of two or more zeros is left out.
def text (groups : List Nat) : Text :=
  let (start, length) := longestZeros groups
  if length < 2 then shown groups
  else shown (groups.take start) ++ [':', ':'] ++ shown (groups.drop (start + length))

end Address

namespace Host

def isForbidden (c : Char) : Bool :=
  c.toNat = 0 || c ∈ ['\t', '\n', '\r', ' ', '#', '/', ':', '<', '>', '?', '@', '[', '\\', ']', '^', '|']

def bracketed (rest : Text) : Except Fault Text :=
  if rest.getLast? = some ']' then
    match Address.parse rest.dropLast with
    | some groups => .ok ('[' :: Address.text groups ++ [']'])
    | none => .error .badAddress
  else .error .badAddress

def parse (text : Text) : Except Fault Text :=
  match text with
  | '[' :: rest => bracketed rest
  | _ =>
      if text.any isForbidden then .error .badName
      else .ok (Text.percentEncode Text.isControl text)

def ofLabels (labels : List Text) : Except Fault Text :=
  if labels = [[]] then .error .emptyHost
  else if Quad.isMeant labels then
    match Quad.parse labels with
    | some octets => .ok (Quad.text octets)
    | none => .error .badQuad
  else .ok (Text.joined '.' labels)

def parseWeb (text : Text) : Except Fault Text :=
  match text with
  | '[' :: rest => bracketed rest
  | _ =>
      match Domain.labels? text with
      | some labels => ofLabels labels
      | none => .error .badDomain

end Host

end Url

end ThinScan
