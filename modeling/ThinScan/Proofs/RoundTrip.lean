import Mathlib.Algebra.Group.Nat.Defs
import ThinScan.Record.Reading

set_option autoImplicit false

namespace ThinScan.Record

theorem length_littleEndian (width number : Nat) : (littleEndian width number).length = width := by
  induction width generalizing number with
  | zero => rfl
  | succ width step => rw [littleEndian, List.length_cons, step]

theorem ofLittleEndian_littleEndian (width number : Nat) (bound : number < 256 ^ width) :
    ofLittleEndian (littleEndian width number) = number := by
  induction width generalizing number with
  | zero =>
      have nothing : number = 0 := by simpa using bound
      rw [nothing]
      rfl
  | succ width step =>
      have rest : number / 256 < 256 ^ width := by
        apply Nat.div_lt_of_lt_mul
        rwa [Nat.pow_succ, Nat.mul_comm] at bound
      rw [littleEndian, ofLittleEndian, step (number / 256) rest, UInt8.toNat_ofNat']
      exact Nat.mod_add_div number 256

theorem length_slot (offset : Int) (length : Nat) : (slot offset length).length = slotSize := by
  rw [slot, List.length_append, length_littleEndian, length_littleEndian]
  rfl

-- A slot has 32 bits for the offset and 32 for the length.
def Fits (place : Int × Nat) : Prop :=
  -2147483648 ≤ place.1 ∧ place.1 < 2147483648 ∧ place.2 < 4294967296

theorem signed_unsigned (offset : Int) (above : -2147483648 ≤ offset) (below : offset < 2147483648) :
    signed (unsigned offset) = offset := by
  unfold signed unsigned
  split <;> omega

theorem unsigned_lt (offset : Int) : unsigned offset < 256 ^ 4 := by
  unfold unsigned
  omega

theorem targetAt_slot (before after : Bytes) (offset : Int) (length : Nat) (fits : Fits (offset, length)) :
    targetAt (before ++ slot offset length ++ after) before.length = ⟨before.length + offset, length⟩ := by
  obtain ⟨above, below, short⟩ := fits
  have first : ((before ++ slot offset length ++ after).drop before.length).take 4 = littleEndian 4 (unsigned offset) := by
    rw [List.append_assoc, List.drop_left, slot, List.append_assoc]
    exact List.take_left' (length_littleEndian 4 _)
  have second : ((before ++ slot offset length ++ after).drop (before.length + 4)).take 4 = littleEndian 4 length := by
    rw [List.append_assoc, ← List.drop_drop, List.drop_left, slot, List.append_assoc,
      List.drop_left' (length_littleEndian 4 _)]
    exact List.take_left' (length_littleEndian 4 _)
  rw [targetAt, first, second, ofLittleEndian_littleEndian 4 _ (unsigned_lt offset),
    ofLittleEndian_littleEndian 4 length short, signed_unsigned offset above below]

theorem enter_of_within {range : Range} {start size alignment : Nat} (low : range.low ≤ start)
    (high : start + size ≤ range.high) (whole : start % alignment = 0) :
    range.enter start size alignment = some start := by
  rw [Range.enter, if_pos ⟨by omega, by omega, by omega⟩, Int.toNat_natCast]

def places : Nat → Nat → List Bytes → List (Int × Nat)
  | _, _, [] => []
  | position, start, field :: rest =>
      ((start - position : Int), field.length) :: places (position + slotSize) (start + field.length) rest

theorem slots_of_places (position start : Nat) (fields : List Bytes) :
    slots position start fields = (places position start fields).flatMap (fun place => slot place.1 place.2) := by
  induction fields generalizing position start with
  | nil => rfl
  | cons field rest step => rw [slots, places, List.flatMap_cons, step]

theorem length_slots (position start : Nat) (fields : List Bytes) :
    (slots position start fields).length = slotSize * fields.length := by
  induction fields generalizing position start with
  | nil => rfl
  | cons field rest step =>
      rw [slots, List.length_append, length_slot, step, List.length_cons]
      exact (Nat.mul_succ slotSize rest.length).symm ▸ Nat.add_comm _ _

theorem places_fit (position start : Nat) (fields : List Bytes) (behind : start + fields.flatten.length ≤ position)
    (small : position + slotSize * fields.length < 2147483648) : ∀ place ∈ places position start fields, Fits place := by
  induction fields generalizing position start with
  | nil => exact List.forall_mem_nil _
  | cons field rest step =>
      rw [List.flatten_cons, List.length_append] at behind
      rw [List.length_cons, Nat.mul_succ] at small
      have first : Fits ((start - position : Int), field.length) := ⟨by omega, by omega, by omega⟩
      have others := step (position + slotSize) (start + field.length) (by omega) (by omega)
      exact List.forall_mem_cons.mpr ⟨first, others⟩

theorem slice_of_prefix {body field rest : Bytes} {start : Nat} (stands : field ++ rest <+: body.drop start) :
    slice body start field.length = field := by
  obtain ⟨after, whole⟩ := stands
  rw [slice, ← whole, List.append_assoc]
  exact List.take_left

theorem readFields_slots (body before after : Bytes) (fields : List Bytes) (start : Nat) (range : Range)
    (whole : body = before ++ slots before.length start fields ++ after)
    (fit : ∀ place ∈ places before.length start fields, Fits place) (stands : fields.flatten <+: body.drop start)
    (low : range.low ≤ start) (high : start + fields.flatten.length ≤ range.high) :
    readFields body fields.length before.length range = some fields := by
  induction fields generalizing before start range with
  | nil => rfl
  | cons field rest step =>
      rw [places] at fit
      obtain ⟨first, others⟩ := List.forall_mem_cons.mp fit
      rw [List.flatten_cons] at stands
      rw [List.flatten_cons, List.length_append] at high
      have split : body = before ++ slot (start - before.length) field.length
          ++ (slots (before.length + slotSize) (start + field.length) rest ++ after) := by
        rw [whole, slots]
        simp only [List.append_assoc]
      have target : targetAt body before.length = ⟨(start : Int), field.length⟩ := by
        rw [split, targetAt_slot before _ _ _ first]
        exact congrArg (Target.mk · _) (by omega)
      have entered : range.enter start field.length 1 = some start :=
        enter_of_within low (by omega) (Nat.mod_one start)
      have moved : (before ++ slot (start - before.length) field.length).length = before.length + slotSize := by
        rw [List.length_append, length_slot]
      have again : body = before ++ slot (start - before.length) field.length
          ++ slots (before ++ slot (start - before.length) field.length).length (start + field.length) rest ++ after := by
        rw [moved, List.append_assoc]
        exact split
      have fit_rest : ∀ place ∈ places (before ++ slot (start - before.length) field.length).length
          (start + field.length) rest, Fits place := by
        rw [moved]
        exact others
      have behind : rest.flatten <+: body.drop (start + field.length) := by
        obtain ⟨tail, bytes⟩ := stands
        refine ⟨tail, ?_⟩
        rw [← List.drop_drop, ← bytes, List.append_assoc]
        exact List.drop_left.symm
      have bounded : start + field.length + rest.flatten.length ≤ (range.after start field.length).high := by
        rw [Nat.add_assoc]
        exact high
      have next := step _ (start + field.length) (range.after start field.length) again fit_rest behind (Nat.le_refl _)
        bounded
      rw [moved] at next
      rw [List.length_cons, readFields, target]
      simp only [entered, next, slice_of_prefix stands, Option.bind_eq_bind, Option.bind_some, Option.pure_def]

theorem length_fields (values : Values) : (fields values).length = 3 * values.length := by
  induction values with
  | nil => rfl
  | cons value rest step =>
      have split : fields (value :: rest) = fieldsOf value ++ fields rest := rfl
      rw [split, List.length_append, step, List.length_cons]
      exact (Nat.mul_succ 3 rest.length).symm ▸ Nat.add_comm _ _

theorem grouped_fields (values : Values) : grouped (fields values) = values := by
  induction values with
  | nil => rfl
  | cons value rest step =>
      have split : fields (value :: rest) = value.mask :: value.visibility :: value.payload :: fields rest := rfl
      rw [split, grouped, step]

def table (values : Values) : Nat := aligned (fields values).flatten.length

def root (values : Values) : Nat := table values + 3 * slotSize * values.length

def written (values : Values) : List (Int × Nat) :=
  places (table values) 0 (fields values) ++ [((table values : Int) - root values, values.length)]

def padded (values : Values) : Bytes :=
  (fields values).flatten ++ List.replicate (table values - (fields values).flatten.length) 0

theorem encode_of_written (values : Values) :
    encode values = padded values ++ (written values).flatMap (fun place => slot place.1 place.2) := by
  rw [written, List.flatMap_append, ← slots_of_places, List.flatMap_singleton, ← List.append_assoc]
  rfl

theorem table_after (values : Values) : (fields values).flatten.length ≤ table values := by
  unfold table aligned
  omega

theorem length_padded (values : Values) : (padded values).length = table values := by
  have after := table_after values
  rw [padded, List.length_append, List.length_replicate]
  omega

theorem encode_split (values : Values) :
    encode values = padded values ++ slots (table values) 0 (fields values)
      ++ slot ((table values : Int) - root values) values.length := rfl

theorem length_before_root (values : Values) :
    (padded values ++ slots (table values) 0 (fields values)).length = root values := by
  rw [List.length_append, length_padded, length_slots, length_fields, root, ← Nat.mul_assoc, Nat.mul_comm slotSize 3]

theorem length_encode (values : Values) : (encode values).length = root values + slotSize := by
  rw [encode_split, List.length_append, length_before_root, length_slot]

theorem written_fit (values : Values) (small : (encode values).length < 2147483648) :
    ∀ place ∈ written values, Fits place := by
  rw [length_encode, root] at small
  have behind := table_after values
  intro place member
  unfold slotSize at small
  rcases List.mem_append.mp member with field | last
  · refine places_fit (table values) 0 (fields values) (by omega) ?_ place field
    rw [length_fields]
    unfold slotSize
    omega
  · rw [List.mem_singleton.mp last, root]
    unfold slotSize
    exact ⟨by omega, by omega, by omega⟩

theorem read_encode (values : Values) (small : (encode values).length < 2147483648) :
    read (encode values) = some values := by
  have fit := List.forall_mem_append.mp (written_fit values small)
  have place : (encode values).length - slotSize = root values := by
    rw [length_encode, Nat.add_sub_cancel]
  have whole_table : table values % 4 = 0 := Nat.mul_mod_left _ 4
  have whole_root : root values % 4 = 0 := by
    unfold root slotSize
    omega
  have rooted : (⟨0, (encode values).length⟩ : Range).enter (root values) slotSize 4 = some (root values) :=
    enter_of_within (Nat.zero_le _) (Nat.le_of_eq (length_encode values).symm) whole_root
  have target : targetAt (encode values) (root values) = ⟨(table values : Int), values.length⟩ := by
    have found := targetAt_slot (padded values ++ slots (table values) 0 (fields values)) [] _ values.length
      (fit.2 _ (List.mem_singleton.mpr rfl))
    rw [List.append_nil, ← encode_split, length_before_root] at found
    rw [found]
    exact congrArg (Target.mk · _) (by omega)
  have entered : ((⟨0, (encode values).length⟩ : Range).inside (root values)).enter (table values)
      (3 * slotSize * values.length) 4 = some (table values) :=
    enter_of_within (Nat.zero_le _) (Nat.le_refl _) whole_table
  have fields_read : readFields (encode values) (fields values).length (padded values).length
      (((⟨0, (encode values).length⟩ : Range).inside (root values)).inside (table values)) = some (fields values) := by
    apply readFields_slots (encode values) (padded values) (slot ((table values : Int) - root values) values.length)
      (fields values) 0
    · rw [length_padded]
      exact encode_split values
    · rw [length_padded]
      exact fit.1
    · rw [encode_split, padded]
      simp only [List.append_assoc, List.drop_zero]
      exact List.prefix_append _ _
    · exact Nat.le_refl 0
    · rw [Nat.zero_add]
      exact table_after values
  rw [length_padded, length_fields] at fields_read
  unfold read
  simp only [place, rooted, target, entered, fields_read, Option.bind_eq_bind, Option.bind_some, Option.pure_def,
    grouped_fields]

-- Each slot holds its offset and length in full, and what is read back are the values.
theorem decode_encode (values : Values) (small : (encode values).length < 2147483648) :
    encode values = padded values ++ (written values).flatMap (fun place => slot place.1 place.2)
      ∧ (∀ place ∈ written values, Fits place) ∧ decode (encode values) = .ok values := by
  refine ⟨encode_of_written values, written_fit values small, ?_⟩
  rw [decode, read_encode values small]

theorem decode_encode_of_empty :
    (encode [⟨[1], [], [2, 3]⟩, ⟨[], [], []⟩]).length < 2147483648
      ∧ (∀ place ∈ written [⟨[1], [], [2, 3]⟩, ⟨[], [], []⟩], Fits place)
      ∧ decode (encode [⟨[1], [], [2, 3]⟩, ⟨[], [], []⟩]) = .ok [⟨[1], [], [2, 3]⟩, ⟨[], [], []⟩] := by
  have small : (encode [⟨[1], [], [2, 3]⟩, ⟨[], [], []⟩]).length < 2147483648 := by decide
  exact ⟨small, (decode_encode _ small).2⟩

end ThinScan.Record
