import ThinScan.Error
import ThinScan.Record.Layout

/-!
Whatever a slot points at must lie before the slot's own region and after every region already visited beside it, so
regions never overlap and no read leaves the body.
-/

set_option autoImplicit false

namespace ThinScan.Record

structure Target where
  start : Int
  length : Nat
deriving DecidableEq, Repr

def targetAt (body : Bytes) (position : Nat) : Target where
  start := position + signed (ofLittleEndian ((body.drop position).take 4))
  length := ofLittleEndian ((body.drop (position + 4)).take 4)

structure Range where
  low : Nat
  high : Nat
deriving DecidableEq, Repr

namespace Range

def enter (range : Range) (start : Int) (size alignment : Nat) : Option Nat :=
  if range.low ≤ start ∧ start + size ≤ range.high ∧ start % alignment = 0 then some start.toNat else none

def inside (range : Range) (position : Nat) : Range := ⟨range.low, position⟩

def after (range : Range) (position size : Nat) : Range := ⟨position + size, range.high⟩

end Range

def slice (body : Bytes) (start length : Nat) : Bytes := (body.drop start).take length

def readFields (body : Bytes) : Nat → Nat → Range → Option (List Bytes)
  | 0, _, _ => some []
  | count + 1, position, range => do
      let target := targetAt body position
      let start ← range.enter target.start target.length 1
      let rest ← readFields body count (position + slotSize) (range.after start target.length)
      pure (slice body start target.length :: rest)

def grouped : List Bytes → Values
  | mask :: visibility :: payload :: rest => ⟨mask, visibility, payload⟩ :: grouped rest
  | _ => []

def read (body : Bytes) : Option Values := do
  let whole : Range := ⟨0, body.length⟩
  let root ← whole.enter (body.length - slotSize : Nat) slotSize 4
  let table := targetAt body root
  let start ← (whole.inside root).enter table.start (3 * slotSize * table.length) 4
  let found ← readFields body (3 * table.length) start ((whole.inside root).inside start)
  pure (grouped found)

def decode (body : Bytes) : Except Error Values :=
  match read body with
  | some values => .ok values
  | none => .error (.serialization Error.accessFailure)

end ThinScan.Record
