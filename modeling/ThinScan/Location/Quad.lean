import ThinScan.Text

set_option autoImplicit false

namespace ThinScan.Url.Quad

inductive Base where
  | octal
  | decimal
  | hexadecimal
deriving DecidableEq, Repr

def Base.size : Base → Nat
  | octal => 8
  | decimal => 10
  | hexadecimal => 16

def Base.digit? (base : Base) (c : Char) : Option Nat := (Bytes.hexValue? c).filter (· < base.size)

-- A leading zero makes a number octal, with an x after it hexadecimal.
def based (part : Text) : Base × Text :=
  match part with
  | '0' :: 'x' :: digits => (.hexadecimal, digits)
  | '0' :: 'X' :: digits => (.hexadecimal, digits)
  | '0' :: c :: digits => (.octal, c :: digits)
  | _ => (.decimal, part)

def number? (part : Text) : Option Nat :=
  if part.isEmpty then none
  else
    let (base, digits) := based part
    (digits.mapM base.digit?).map (fun values => values.foldl (fun value digit => base.size * value + digit) 0)

def withoutEnd (parts : List Text) : List Text := if parts.getLast? = some [] then parts.dropLast else parts

def isMeant (parts : List Text) : Bool :=
  (withoutEnd parts).getLast?.any (fun part => (!part.isEmpty && part.all Char.isDigit) || (number? part).isSome)

def octets (value : Nat) : List Nat :=
  [value / 16777216 % 256, value / 65536 % 256, value / 256 % 256, value % 256]

-- The four octets: one for each number but the last, which gives the rest.
def parse (parts : List Text) : Option (List Nat) := do
  let numbers ← (withoutEnd parts).mapM number?
  let leading := numbers.dropLast
  let last ← numbers.getLast?
  if 4 < numbers.length || leading.any (255 < ·) || Nat.pow 256 (4 - leading.length) ≤ last then none
  else pure (leading ++ (octets last).drop leading.length)

def text (octets : List Nat) : Text := Text.joined '.' (octets.map (Nat.toDigits 10))

end ThinScan.Url.Quad
