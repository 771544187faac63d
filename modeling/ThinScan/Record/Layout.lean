import ThinScan.Row

/-!
The stored form of a record: the bytes of all fields in order, zeros up to a multiple of four, a slot per field, and a
root slot for the table of slots. A slot is an offset relative to itself and a length, both little-endian, so the form
is meant for bodies below 2^31 bytes.
-/

set_option autoImplicit false

namespace ThinScan.Record

def littleEndian : Nat → Nat → Bytes
  | 0, _ => []
  | width + 1, number => UInt8.ofNat number :: littleEndian width (number / 256)

def ofLittleEndian : Bytes → Nat
  | [] => 0
  | byte :: rest => byte.toNat + 256 * ofLittleEndian rest

def signed (number : Nat) : Int := if number < 2147483648 then number else number - 4294967296

def unsigned (number : Int) : Nat := (number % 4294967296).toNat

def slotSize : Nat := 8

def slot (offset : Int) (length : Nat) : Bytes :=
  littleEndian 4 (unsigned offset) ++ littleEndian 4 length

def fieldsOf (value : FieldValue) : List Bytes := [value.mask, value.visibility, value.payload]

def fields (values : Values) : List Bytes := values.flatMap fieldsOf

-- The slots from `position` on, for fields whose bytes stand end to end from `start` on.
def slots : Nat → Nat → List Bytes → Bytes
  | _, _, [] => []
  | position, start, field :: rest =>
      slot (start - position) field.length ++ slots (position + slotSize) (start + field.length) rest

def aligned (length : Nat) : Nat := (length + 3) / 4 * 4

def encode (values : Values) : Bytes :=
  let payload := (fields values).flatten
  let table := aligned payload.length
  let root := table + 3 * slotSize * values.length
  payload ++ List.replicate (table - payload.length) 0
    ++ slots table 0 (fields values) ++ slot (table - root) values.length

end ThinScan.Record
