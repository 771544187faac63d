import ThinScan.Bytes

set_option autoImplicit false

namespace ThinScan

abbrev Text := List Char

namespace Text

def splitOn (separator : Char) : Text → List Text
  | [] => [[]]
  | c :: rest =>
      if c = separator then [] :: splitOn separator rest
      else
        match splitOn separator rest with
        | part :: parts => (c :: part) :: parts
        | [] => [[c]]

def joined (separator : Char) (parts : List Text) : Text := [separator].intercalate parts

def cut (separator : Char) (text : Text) : Text × Option Text :=
  match text.dropWhile (· ≠ separator) with
  | [] => (text, none)
  | _ :: rest => (text.takeWhile (· ≠ separator), some rest)

def contains (part : Text) : Text → Bool
  | [] => part.isEmpty
  | c :: rest => part.isPrefixOf (c :: rest) || contains part rest

def upThrough (part : Text) : Text → Text
  | [] => []
  | c :: rest => if part.isPrefixOf (c :: rest) then part else c :: upThrough part rest

def isControl (c : Char) : Bool := c.toNat < 32 || c.toNat = 127

def isAscii (c : Char) : Bool := c.toNat < 128

def escapedByte (byte : UInt8) : Text := '%' :: (Bytes.hexDigits byte).map Char.toUpper

-- Escapes the bytes of the chosen characters and of all that are not ASCII.
def percentEncode (chosen : Char → Bool) (text : Text) : Text :=
  text.flatMap (fun c =>
    if isAscii c && !chosen c then [c] else (String.utf8EncodeChar c).flatMap escapedByte)

-- Reads escapes back to bytes; a percent sign that begins none stands for itself.
def percentDecode : Text → Bytes
  | [] => []
  | '%' :: high :: low :: rest =>
      match Bytes.hexValue? high, Bytes.hexValue? low with
      | some upper, some lower => UInt8.ofNat (16 * upper + lower) :: percentDecode rest
      | _, _ => 37 :: percentDecode (high :: low :: rest)
  | c :: rest => String.utf8EncodeChar c ++ percentDecode rest

end Text

end ThinScan
