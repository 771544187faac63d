set_option autoImplicit false

namespace ThinScan

abbrev Bytes := List UInt8

namespace Bytes

def hexDigits (byte : UInt8) : List Char :=
  [Nat.digitChar (byte.toNat / 16), Nat.digitChar (byte.toNat % 16)]

def hexChars (bytes : Bytes) : List Char := bytes.flatMap hexDigits

def hex (bytes : Bytes) : String := String.ofList (hexChars bytes)

def hexValue? (digit : Char) : Option Nat :=
  if '0' ≤ digit ∧ digit ≤ '9' then some (digit.toNat - '0'.toNat)
  else if 'a' ≤ digit ∧ digit ≤ 'f' then some (digit.toNat - 'a'.toNat + 10)
  else if 'A' ≤ digit ∧ digit ≤ 'F' then some (digit.toNat - 'A'.toNat + 10)
  else none

def ofHexChars? : List Char → Option Bytes
  | [] => some []
  | high :: low :: rest => do
      let upper ← hexValue? high
      let lower ← hexValue? low
      let tail ← ofHexChars? rest
      pure (UInt8.ofNat (16 * upper + lower) :: tail)
  | [_] => none

def ofHex? (text : String) : Option Bytes := ofHexChars? text.toList

def ofText (text : List Char) : Bytes := text.flatMap String.utf8EncodeChar

def quotedByte (byte : UInt8) : List Char :=
  if byte = 34 then ['\\', '"']
  else if byte = 92 then ['\\', '\\']
  else if byte = 10 then ['\\', 'n']
  else if byte = 13 then ['\\', 'r']
  else if byte = 9 then ['\\', 't']
  else if byte = 0 then ['\\', '0']
  else if 32 ≤ byte ∧ byte ≤ 126 then [Char.ofNat byte.toNat]
  else '\\' :: 'x' :: hexDigits byte

def quoted (bytes : Bytes) : String :=
  String.ofList ('b' :: '"' :: bytes.flatMap quotedByte ++ ['"'])

def decimals (bytes : Bytes) : String :=
  "[" ++ ", ".intercalate (bytes.map (fun byte => toString byte.toNat)) ++ "]"

end Bytes

end ThinScan
