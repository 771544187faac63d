import Mathlib.Algebra.GroupWithZero.Nat
import ThinScan.Proofs.RoundTrip

set_option autoImplicit false

namespace ThinScan.Record

structure Region where
  start : Nat
  length : Nat

namespace Region

def stop (region : Region) : Nat := region.start + region.length

def target (region : Region) : Target := ⟨region.start, region.length⟩

def bytes (body : Bytes) (region : Region) : Bytes := slice body region.start region.length

theorem length_bytes {body : Bytes} {region : Region} (inside : region.stop ≤ body.length) :
    (region.bytes body).length = region.length := by
  unfold stop at inside
  rw [bytes, slice, List.length_take, List.length_drop]
  omega

theorem total_of_ordered {regions : List Region} {low high : Nat} (room : low ≤ high)
    (ordered : regions.Pairwise (fun region next => region.stop ≤ next.start))
    (within : ∀ region ∈ regions, low ≤ region.start ∧ region.stop ≤ high) :
    low + (regions.map Region.length).sum ≤ high := by
  induction regions generalizing low with
  | nil => exact room
  | cons region rest step =>
      obtain ⟨before, later⟩ := List.pairwise_cons.mp ordered
      obtain ⟨here, others⟩ := List.forall_mem_cons.mp within
      have left := step here.2 later (fun next member => ⟨before next member, (others next member).2⟩)
      unfold stop at left
      rw [List.map_cons, List.sum_cons]
      omega

end Region

def targets (body : Bytes) : Nat → Nat → List Target
  | _, 0 => []
  | position, count + 1 => targetAt body position :: targets body (position + slotSize) count

-- How a record stands in a body: the fields in their order, each at the region its slot points at; behind them the table
-- of slots; and behind that, at the very end, the root.
structure Stands (body : Bytes) (values : Values) (table : Nat) (regions : List Region) : Prop where
  whole : body.length % 4 = 0
  aligned : table % 4 = 0
  rooted : targetAt body (body.length - slotSize) = ⟨table, values.length⟩
  room : table + 3 * slotSize * values.length + slotSize ≤ body.length
  slots : targets body table (3 * values.length) = regions.map Region.target
  ordered : regions.Pairwise (fun region next => region.stop ≤ next.start)
  before : ∀ region ∈ regions, region.stop ≤ table
  fields : fields values = regions.map (Region.bytes body)

theorem enter_iff {range : Range} {start : Int} {size alignment place : Nat} :
    range.enter start size alignment = some place
      ↔ start = place ∧ range.low ≤ place ∧ place + size ≤ range.high ∧ place % alignment = 0 := by
  constructor
  · intro entered
    unfold Range.enter at entered
    split at entered
    · rename_i within
      obtain ⟨low, high, whole⟩ := within
      cases entered
      have natural : start = start.toNat := by omega
      rw [natural] at low high whole
      exact ⟨natural, by omega, by omega, by omega⟩
    · cases entered
  · rintro ⟨rfl, low, high, whole⟩
    exact enter_of_within low high whole

theorem readFields_iff (body : Bytes) (count position : Nat) (range : Range) (found : List Bytes) :
    readFields body count position range = some found
      ↔ ∃ regions : List Region, targets body position count = regions.map Region.target
        ∧ regions.Pairwise (fun region next => region.stop ≤ next.start)
        ∧ (∀ region ∈ regions, range.low ≤ region.start ∧ region.stop ≤ range.high)
        ∧ found = regions.map (Region.bytes body) := by
  induction count generalizing position range found with
  | zero =>
      constructor
      · intro read
        cases read
        exact ⟨[], rfl, .nil, List.forall_mem_nil _, rfl⟩
      · rintro ⟨regions, none_left, _, _, rfl⟩
        rw [List.map_eq_nil_iff.mp none_left.symm]
        rfl
  | succ count step =>
      simp only [readFields, Option.bind_eq_bind, Option.bind_eq_some_iff, Option.pure_def, Option.some.injEq]
      constructor
      · rintro ⟨start, entered, rest, read, rfl⟩
        obtain ⟨placed, low, high, _⟩ := enter_iff.mp entered
        obtain ⟨regions, slots, ordered, within, rfl⟩ := (step _ _ _).mp read
        have first : targetAt body position = Region.target ⟨start, (targetAt body position).length⟩ := by
          rw [Region.target, ← placed]
        refine ⟨⟨start, (targetAt body position).length⟩ :: regions, ?_, ?_, ?_, rfl⟩
        · rw [targets, slots, List.map_cons, ← first]
        · exact List.pairwise_cons.mpr ⟨fun next member => (within next member).1, ordered⟩
        · refine List.forall_mem_cons.mpr ⟨⟨low, high⟩, fun next member => ?_⟩
          obtain ⟨after, inside⟩ := within next member
          exact ⟨Nat.le_trans (Nat.le_add_right_of_le low) after, inside⟩
      · rintro ⟨regions, slots, ordered, within, rfl⟩
        cases regions with
        | nil => cases slots
        | cons region regions =>
            rw [targets, List.map_cons] at slots
            obtain ⟨first, others⟩ := List.cons.inj slots
            obtain ⟨behind, ordered⟩ := List.pairwise_cons.mp ordered
            obtain ⟨⟨low, high⟩, within⟩ := List.forall_mem_cons.mp within
            rw [first]
            have entered : range.enter region.start region.length 1 = some region.start :=
              enter_of_within low high (Nat.mod_one _)
            have read := (step _ (range.after region.start region.length) _).mpr
              ⟨regions, others, ordered, fun next member => ⟨behind next member, (within next member).2⟩, rfl⟩
            exact ⟨region.start, entered, regions.map (Region.bytes body), read, rfl⟩

theorem length_targets (body : Bytes) (position count : Nat) : (targets body position count).length = count := by
  induction count generalizing position with
  | zero => rfl
  | succ count step => rw [targets, List.length_cons, step]

theorem fields_grouped (count : Nat) (found : List Bytes) (threes : found.length = 3 * count) :
    fields (grouped found) = found ∧ (grouped found).length = count := by
  induction count generalizing found with
  | zero =>
      rw [List.eq_nil_of_length_eq_zero threes]
      exact ⟨rfl, rfl⟩
  | succ count step =>
      match found, threes with
      | mask :: visibility :: payload :: rest, threes =>
          simp only [List.length_cons] at threes
          obtain ⟨again, number⟩ := step rest (by omega)
          refine ⟨?_, by rw [grouped, List.length_cons, number]⟩
          exact congrArg ([mask, visibility, payload] ++ ·) again

theorem read_iff (body : Bytes) (values : Values) :
    read body = some values ↔ ∃ table regions, Stands body values table regions := by
  simp only [read, Option.bind_eq_bind, Option.bind_eq_some_iff, Option.pure_def, Option.some.injEq]
  constructor
  · rintro ⟨root, enters, table, entered, found, read, rfl⟩
    obtain ⟨place, _, last, whole⟩ := enter_iff.mp enters
    obtain rfl := Int.ofNat.inj place
    obtain ⟨placed, _, before, aligned⟩ := enter_iff.mp entered
    obtain ⟨regions, slots, ordered, within, rfl⟩ := (readFields_iff _ _ _ _ _).mp read
    have number : (regions.map (Region.bytes body)).length = 3 * (targetAt body (body.length - slotSize)).length := by
      have same := congrArg List.length slots
      rwa [length_targets, List.length_map, ← List.length_map (f := Region.bytes body), eq_comm] at same
    obtain ⟨again, count⟩ := fields_grouped _ _ number
    have inside : table + 3 * slotSize * (targetAt body (body.length - slotSize)).length ≤ body.length - slotSize := before
    dsimp only at last
    unfold slotSize at inside last whole count number placed slots
    refine ⟨table, regions, ⟨by omega, aligned, ?_, ?_, ?_, ordered, fun region member => (within region member).2, again⟩⟩
    · unfold slotSize
      rw [count, ← placed]
    · unfold slotSize
      rw [count]
      omega
    · rw [count]
      exact slots
  · rintro ⟨table, regions, stands⟩
    have room := stands.room
    have whole := stands.whole
    have rooted := stands.rooted
    unfold slotSize at room rooted
    refine ⟨body.length - slotSize, enter_iff.mpr ⟨rfl, Nat.zero_le _, ?_, ?_⟩, table, enter_iff.mpr ⟨?_, ?_, ?_, ?_⟩,
      regions.map (Region.bytes body), (readFields_iff _ _ _ _ _).mpr ⟨regions, ?_, stands.ordered, ?_, rfl⟩, ?_⟩
    · dsimp only
      unfold slotSize
      omega
    · unfold slotSize
      omega
    · rw [stands.rooted]
    · exact Nat.zero_le _
    · rw [stands.rooted, Range.inside]
      unfold slotSize
      dsimp only
      omega
    · exact stands.aligned
    · rw [stands.rooted]
      exact stands.slots
    · exact fun region member => ⟨Nat.zero_le _, stands.before region member⟩
    · rw [← stands.fields, grouped_fields]

theorem length_of_stands {body : Bytes} {values : Values} {table : Nat} {regions : List Region}
    (stands : Stands body values table regions) :
    (∀ region ∈ regions, (region.bytes body).length = region.length)
      ∧ slotSize + 3 * slotSize * values.length + ((fields values).map List.length).sum ≤ body.length := by
  have room := stands.room
  have lengths : ∀ region ∈ regions, (region.bytes body).length = region.length := fun region member =>
    Region.length_bytes (Nat.le_trans (stands.before region member) (by omega))
  have total : 0 + (regions.map Region.length).sum ≤ table :=
    Region.total_of_ordered (Nat.zero_le table) stands.ordered
      (fun region member => ⟨Nat.zero_le _, stands.before region member⟩)
  have same : (fields values).map List.length = regions.map Region.length := by
    rw [stands.fields, List.map_map]
    exact List.map_congr_left lengths
  rw [same]
  exact ⟨lengths, by omega⟩

-- A look at some bytes of a body; none if they do not all belong to it.
def look? (body : Bytes) (start length : Nat) : Option Bytes :=
  if start + length ≤ body.length then some (slice body start length) else none

theorem look_inside {body : Bytes} {start length : Nat} (inside : start + length ≤ body.length) :
    look? body start length = some (slice body start length) := if_pos inside

def lookAt? (body : Bytes) (position : Nat) : Option Target := do
  let offset ← look? body position 4
  let length ← look? body (position + 4) 4
  pure ⟨position + signed (ofLittleEndian offset), ofLittleEndian length⟩

-- Reading in which each look at the body is checked. The outer option is none as soon as a look leaves the body.
def lookFields? (body : Bytes) : Nat → Nat → Range → Option (Option (List Bytes))
  | 0, _, _ => some (some [])
  | count + 1, position, range => do
      let target ← lookAt? body position
      match range.enter target.start target.length 1 with
      | none => pure none
      | some start =>
          let field ← look? body start target.length
          let rest ← lookFields? body count (position + slotSize) (range.after start target.length)
          pure (rest.map (field :: ·))

def lookThrough? (body : Bytes) : Option (Option Values) :=
  let whole : Range := ⟨0, body.length⟩
  match whole.enter (body.length - slotSize : Nat) slotSize 4 with
  | none => pure none
  | some root => do
      let table ← lookAt? body root
      match (whole.inside root).enter table.start (3 * slotSize * table.length) 4 with
      | none => pure none
      | some start =>
          let found ← lookFields? body (3 * table.length) start ((whole.inside root).inside start)
          pure (found.map grouped)

theorem lookAt_inside {body : Bytes} {position : Nat} (inside : position + slotSize ≤ body.length) :
    lookAt? body position = some (targetAt body position) := by
  unfold slotSize at inside
  rw [lookAt?, look_inside (by omega), look_inside (by omega)]
  rfl

theorem lookFields_inside (body : Bytes) (count position : Nat) (range : Range)
    (slots : position + slotSize * count ≤ body.length) (high : range.high ≤ body.length) :
    lookFields? body count position range = some (readFields body count position range) := by
  induction count generalizing position range with
  | zero => rfl
  | succ count step =>
      rw [Nat.mul_succ] at slots
      simp only [lookFields?, readFields, @lookAt_inside body position (by omega),
        Option.bind_eq_bind, Option.bind_some]
      cases entered : range.enter (targetAt body position).start (targetAt body position).length 1 with
      | none => rfl
      | some start =>
          obtain ⟨_, _, last, _⟩ := enter_iff.mp entered
          have rest := step (position + slotSize) (range.after start (targetAt body position).length) (by omega) high
          simp only [look_inside (Nat.le_trans last high), rest, Option.bind_some]
          cases readFields body count (position + slotSize) (range.after start (targetAt body position).length) <;> rfl

theorem lookThrough_read (body : Bytes) : lookThrough? body = some (read body) := by
  simp only [lookThrough?, read, Option.bind_eq_bind]
  cases enters : (⟨0, body.length⟩ : Range).enter (body.length - slotSize : Nat) slotSize 4 with
  | none => rfl
  | some root =>
      obtain ⟨_, _, last, _⟩ := enter_iff.mp enters
      simp only [lookAt_inside last, Option.bind_some]
      cases entered : ((⟨0, body.length⟩ : Range).inside root).enter (targetAt body root).start
          (3 * slotSize * (targetAt body root).length) 4 with
      | none => rfl
      | some start =>
          obtain ⟨_, _, inside, _⟩ := enter_iff.mp entered
          have table : start + slotSize * (3 * (targetAt body root).length) ≤ root := by
            rw [← Nat.mul_assoc, Nat.mul_comm slotSize 3]
            exact inside
          have fields := lookFields_inside body (3 * (targetAt body root).length) start
            (((⟨0, body.length⟩ : Range).inside root).inside start)
            (Nat.le_trans table (Nat.le_trans (Nat.le_add_right _ _) last)) (by
              change start ≤ body.length
              dsimp only at last
              omega)
          simp only [fields, Option.bind_some]
          cases readFields body (3 * (targetAt body root).length) start
            (((⟨0, body.length⟩ : Range).inside root).inside start) <;> rfl

theorem decode_of_unread {body : Bytes} (unread : read body = none) :
    decode body = .error (.serialization Error.accessFailure) := by
  rw [decode, unread]

-- Reading gives a record just if the body holds that record: its fields are regions of the body, one after the other,
-- before the table of slots and the root. Anything else is an error, and no look at the body ever leaves it.
theorem decode_safe (body : Bytes) :
    ((∃ values, decode body = .ok values) ∨ decode body = .error (.serialization Error.accessFailure))
      ∧ (∀ values, decode body = .ok values ↔ ∃ table regions, Stands body values table regions)
      ∧ (∀ values table regions, Stands body values table regions →
        (∀ region ∈ regions, (region.bytes body).length = region.length)
        ∧ slotSize + 3 * slotSize * values.length + ((fields values).map List.length).sum ≤ body.length)
      ∧ (body.length % 4 ≠ 0 ∨ body.length < slotSize → decode body = .error (.serialization Error.accessFailure))
      ∧ lookThrough? body = some (read body) := by
  have decodes (values : Values) : decode body = .ok values ↔ read body = some values := by
    unfold decode
    cases read body <;> simp
  refine ⟨?_, fun values => (decodes values).trans (read_iff body values), fun _ _ _ stands => length_of_stands stands,
    fun misshapen => decode_of_unread ?_, lookThrough_read body⟩
  · cases found : read body with
    | none => exact .inr (decode_of_unread found)
    | some values => exact .inl ⟨values, (decodes values).mpr found⟩
  · refine Option.eq_none_iff_forall_ne_some.mpr (fun values found => ?_)
    obtain ⟨table, regions, stands⟩ := (read_iff body values).mp found
    have room := stands.room
    rcases misshapen with uneven | short
    · exact uneven stands.whole
    · omega

theorem decode_safe_of_one :
    (∃ table regions, Stands (encode [⟨[], [], [1]⟩]) [⟨[], [], [1]⟩] table regions)
      ∧ slotSize + 3 * slotSize * 1 + 1 ≤ (encode [⟨[], [], [1]⟩]).length
      ∧ (encode [⟨[], [], [1]⟩] ++ [0]).length % 4 ≠ 0
      ∧ decode (encode [⟨[], [], [1]⟩] ++ [0]) = .error (.serialization Error.accessFailure) := by
  obtain ⟨_, holds, sizes, _, _⟩ := decode_safe (encode [⟨[], [], [1]⟩])
  obtain ⟨table, regions, stands⟩ := (holds [⟨[], [], [1]⟩]).mp rfl
  obtain ⟨_, _, _, rejected, _⟩ := decode_safe (encode [⟨[], [], [1]⟩] ++ [0])
  exact ⟨⟨table, regions, stands⟩, (sizes _ _ _ stands).2, by decide, rejected (.inl (by decide))⟩

end ThinScan.Record
