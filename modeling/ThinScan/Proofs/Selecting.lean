import ThinScan.Params

set_option autoImplicit false

namespace ThinScan

namespace Mask

-- The mask has the bit of this position; bytes beyond its end count as zeros.
def covers (mask : Bytes) (position : Nat) : Bool := (mask.getD (position / 8) 0).toNat.testBit (position % 8)

def Trimmed (mask : Bytes) : Prop := ∀ last, mask.getLast? = some last → last ≠ 0

theorem byte_ne_zero (byte : UInt8) : byte ≠ 0 ↔ ∃ bit, bit < 8 ∧ byte.toNat.testBit bit = true := by
  constructor
  · intro some_bit
    obtain ⟨bit, set⟩ := Nat.exists_testBit_of_ne_zero (fun zero => some_bit (UInt8.toNat_inj.mp zero))
    refine ⟨bit, Nat.lt_of_not_le (fun beyond => ?_), set⟩
    have small : byte.toNat < 2 ^ bit :=
      Nat.lt_of_lt_of_le byte.toNat_lt (Nat.pow_le_pow_right Nat.zero_lt_two beyond)
    rw [Nat.testBit_lt_two_pow small] at set
    cases set
  · rintro ⟨bit, _, set⟩ rfl
    simp at set

theorem testBit_one_shifted (position bit : Nat) :
    ((1 : UInt8) <<< UInt8.ofNat (position % 8)).toNat.testBit bit = decide (position % 8 = bit) := by
  have bound : position % 8 < 8 := Nat.mod_lt _ (by decide)
  have shift : (UInt8.ofNat (position % 8)).toNat % 8 = position % 8 := by
    rw [UInt8.toNat_ofNat']
    omega
  have small : 2 ^ (position % 8) < 2 ^ 8 := Nat.pow_lt_pow_right (by decide) bound
  rw [UInt8.toNat_shiftLeft, shift, UInt8.toNat_one, Nat.one_shiftLeft, Nat.mod_eq_of_lt small, Nat.testBit_two_pow]

theorem length_padTo (length : Nat) (mask : Bytes) : (padTo length mask).length = max mask.length length := by
  rw [padTo, List.length_append, List.length_replicate]
  omega

theorem getD_padTo (length : Nat) (mask : Bytes) (place : Nat) : (padTo length mask).getD place 0 = mask.getD place 0 := by
  simp only [padTo, List.getD_eq_getElem?_getD, List.getElem?_append, List.getElem?_replicate]
  split
  · rfl
  · rename_i beyond
    rw [List.getElem?_eq_none (Nat.not_lt.mp beyond)]
    split <;> rfl

theorem length_setBit (mask : Bytes) (position : Nat) :
    (setBit mask position).length = max mask.length (position / 8 + 1) := by
  rw [setBit, List.length_modify, length_padTo]

theorem getD_setBit (mask : Bytes) (position place : Nat) :
    (setBit mask position).getD place 0
      = if position / 8 = place then mask.getD place 0 ||| 1 <<< UInt8.ofNat (position % 8) else mask.getD place 0 := by
  have long : position / 8 < (padTo (position / 8 + 1) mask).length := by
    rw [length_padTo]
    omega
  rw [← getD_padTo (position / 8 + 1) mask place, setBit, List.getD_eq_getElem?_getD, List.getElem?_modify,
    List.getD_eq_getElem?_getD]
  by_cases here : position / 8 = place
  · rw [if_pos here, ← here, List.getElem?_eq_getElem long]
    simp
  · simp [here]

theorem covers_setBit (mask : Bytes) (position wanted : Nat) :
    covers (setBit mask position) wanted = (decide (position = wanted) || covers mask wanted) := by
  have split : position = wanted ↔ position / 8 = wanted / 8 ∧ position % 8 = wanted % 8 := by omega
  rw [covers, getD_setBit]
  by_cases here : position / 8 = wanted / 8
  · rw [if_pos here, UInt8.toNat_or, Nat.testBit_or, testBit_one_shifted, Bool.or_comm, covers]
    simp [split, here]
  · rw [if_neg here, covers]
    simp [split, here]

theorem trimmed_of_covered {mask : Bytes} (position : Nat) (long : mask.length = position / 8 + 1)
    (covered : covers mask position = true) : Trimmed mask := by
  intro last stands
  rw [List.getLast?_eq_getElem?, long, Nat.add_sub_cancel] at stands
  rw [covers, List.getD_eq_getElem?_getD, stands] at covered
  exact (byte_ne_zero last).mpr ⟨position % 8, Nat.mod_lt _ (by decide), covered⟩

theorem trimmed_setBit {mask : Bytes} (trimmed : Trimmed mask) (position : Nat) : Trimmed (setBit mask position) := by
  by_cases longer : mask.length ≤ position / 8 + 1
  · refine trimmed_of_covered position ?_ ?_
    · rw [length_setBit, Nat.max_eq_right longer]
    · simp [covers_setBit]
  · obtain ⟨last, stands⟩ : ∃ last, mask.getLast? = some last := by
      rw [List.getLast?_eq_getElem?]
      exact ⟨_, List.getElem?_eq_getElem (by omega)⟩
    obtain ⟨bit, bound, set⟩ := (byte_ne_zero last).mp (trimmed last stands)
    rw [List.getLast?_eq_getElem?] at stands
    have place : (8 * (mask.length - 1) + bit) / 8 = mask.length - 1 := by omega
    have offset : (8 * (mask.length - 1) + bit) % 8 = bit := by omega
    refine trimmed_of_covered (8 * (mask.length - 1) + bit) ?_ ?_
    · rw [length_setBit, place]
      omega
    · rw [covers_setBit, covers, place, offset, List.getD_eq_getElem?_getD, stands, Option.getD_some, set, Bool.or_true]

theorem covers_foldl (positions : List Nat) (mask : Bytes) (wanted : Nat) :
    covers (positions.foldl setBit mask) wanted = true ↔ wanted ∈ positions ∨ covers mask wanted = true := by
  induction positions generalizing mask with
  | nil => simp
  | cons position rest step =>
      rw [List.foldl_cons, step, covers_setBit]
      simp only [Bool.or_eq_true, decide_eq_true_eq, List.mem_cons, @eq_comm _ wanted position]
      exact or_left_comm.trans or_assoc.symm

theorem trimmed_nil : Trimmed [] := by
  intro last stands
  cases stands

theorem trimmed_foldl {mask : Bytes} (trimmed : Trimmed mask) (positions : List Nat) :
    Trimmed (positions.foldl setBit mask) := by
  induction positions generalizing mask with
  | nil => exact trimmed
  | cons position rest step => exact step (trimmed_setBit trimmed position)

theorem covers_nil (position : Nat) : covers [] position = false := by simp [covers]

theorem intersects_iff (left right : Bytes) :
    intersects left right = true ↔ ∃ position, covers left position = true ∧ covers right position = true := by
  simp only [intersects, List.any_eq_true, List.mem_iff_getElem?, List.getElem?_zipWith, decide_eq_true_eq]
  constructor
  · rintro ⟨common, ⟨place, stands⟩, some_bit⟩
    obtain ⟨bit, bound, set⟩ := (byte_ne_zero common).mp some_bit
    split at stands
    · rename_i first second here there
      cases stands
      rw [UInt8.toNat_and, Nat.testBit_and, Bool.and_eq_true] at set
      have whole : (8 * place + bit) / 8 = place := by omega
      have offset : (8 * place + bit) % 8 = bit := by omega
      refine ⟨8 * place + bit, ?_, ?_⟩
      · rw [covers, whole, offset, List.getD_eq_getElem?_getD, here]
        exact set.1
      · rw [covers, whole, offset, List.getD_eq_getElem?_getD, there]
        exact set.2
    · cases stands
  · rintro ⟨position, first, second⟩
    rw [covers, List.getD_eq_getElem?_getD] at first second
    cases here : left[position / 8]? with
    | none => simp [here] at first
    | some byte =>
        cases there : right[position / 8]? with
        | none => simp [there] at second
        | some other =>
            rw [here, Option.getD_some] at first
            rw [there, Option.getD_some] at second
            refine ⟨byte &&& other, ⟨position / 8, by rw [here, there]⟩, ?_⟩
            refine (byte_ne_zero _).mpr ⟨position % 8, Nat.mod_lt _ (by decide), ?_⟩
            rw [UInt8.toNat_and, Nat.testBit_and, first, second, Bool.and_self]

end Mask

namespace Projection

variable {T : Type}

theorem mem_insertName (name wanted : String) (names : List String) :
    wanted ∈ insertName name names ↔ wanted = name ∨ wanted ∈ names := by
  induction names with
  | nil => exact List.mem_singleton.trans (by simp)
  | cons held rest step =>
      rw [insertName]
      split
      · rename_i same
        subst same
        simp
      · split
        · exact List.mem_cons
        · rw [List.mem_cons, step, List.mem_cons]
          exact or_left_comm

theorem ascending_insertName (name : String) {names : List String} (ascending : names.Pairwise (· < ·)) :
    (insertName name names).Pairwise (· < ·) := by
  induction names with
  | nil => exact List.pairwise_singleton _ _
  | cons held rest step =>
      obtain ⟨least, later⟩ := List.pairwise_cons.mp ascending
      rw [insertName]
      split
      · exact ascending
      · rename_i different
        split
        · rename_i before
          refine List.pairwise_cons.mpr ⟨List.forall_mem_cons.mpr ⟨before, fun other member => ?_⟩, ascending⟩
          exact String.lt_trans before (least other member)
        · rename_i not_before
          refine List.pairwise_cons.mpr ⟨fun other member => ?_, step later⟩
          rcases (mem_insertName name other rest).mp member with rfl | member
          · exact Classical.byContradiction (fun not_after =>
              different (String.le_antisymm (String.not_lt.mp not_after) (String.not_lt.mp not_before)))
          · exact least other member

theorem mem_distinct (name : String) (names : List String) : name ∈ distinct names ↔ name ∈ names := by
  induction names with
  | nil => exact Iff.rfl
  | cons first rest step =>
      have inserted : distinct (first :: rest) = insertName first (distinct rest) := rfl
      rw [inserted, mem_insertName, step, List.mem_cons]

theorem ascending_distinct (names : List String) : (distinct names).Pairwise (· < ·) := by
  induction names with
  | nil => exact .nil
  | cons first rest step => exact ascending_insertName first step

theorem nodup_distinct (names : List String) : (distinct names).Nodup := by
  refine (ascending_distinct names).imp ?_
  rintro name _ before rfl
  exact String.lt_irrefl name before

theorem distinct_of_same {names others : List String} (same : ∀ name, name ∈ others ↔ name ∈ names) :
    distinct others = distinct names := by
  have perm : (distinct others).Perm (distinct names) :=
    (List.perm_ext_iff_of_nodup (nodup_distinct others) (nodup_distinct names)).mpr
      (fun name => (mem_distinct name others).trans ((same name).trans (mem_distinct name names).symm))
  exact perm.eq_of_pairwise (fun _ _ _ _ before after => absurd after (String.lt_asymm before))
    (ascending_distinct others) (ascending_distinct names)

variable (adapter : Adapter T) (names : List String)

theorem covers_build (position : Nat) :
    Mask.covers (build adapter names).mask position = true ↔ ∃ name ∈ names, adapter.fieldPosition name = some position := by
  rw [build, maskOf, Mask.covers_foldl, Mask.covers_nil, List.mem_filterMap]
  simp only [Bool.false_eq_true, or_false, mem_distinct]

theorem trimmed_build : Mask.Trimmed (build adapter names).mask := Mask.trimmed_foldl Mask.trimmed_nil _

theorem selects_iff (value : FieldValue) :
    (build adapter names).selects value = true
      ↔ ∃ name ∈ names, ∃ position, adapter.fieldPosition name = some position
        ∧ Mask.covers value.mask position = true := by
  rw [selects, Mask.intersects_iff]
  constructor
  · rintro ⟨position, listed, covered⟩
    obtain ⟨name, member, known⟩ := (covers_build adapter names position).mp listed
    exact ⟨name, member, position, known, covered⟩
  · rintro ⟨name, member, position, known, covered⟩
    exact ⟨position, (covers_build adapter names position).mpr ⟨name, member, known⟩, covered⟩

-- The value covers one of the named fields, by the fields' positions alone.
def wants (value : FieldValue) : Bool :=
  names.any (fun name => (adapter.fieldPosition name).any (Mask.covers value.mask))

theorem selects_eq : (build adapter names).selects = wants adapter names := by
  funext value
  apply Bool.eq_iff_iff.mpr
  rw [selects_iff, wants]
  simp only [List.any_eq_true, Option.any_eq_true]

theorem mem_buildEvents (event : Event) :
    event ∈ buildEvents adapter names
      ↔ ∃ name ∈ names, adapter.fieldPosition name = none ∧ event = .unknownField adapter.typeName name := by
  simp only [buildEvents, unknownNames, List.mem_map, List.mem_filter, mem_distinct, Option.isNone_iff_eq_none, and_assoc,
    @eq_comm _ event]

theorem nodup_buildEvents : (buildEvents adapter names).Nodup := by
  refine List.Pairwise.map _ (fun name other different same => different ?_) ((nodup_distinct names).filter _)
  cases same
  rfl

end Projection

namespace Params

variable {T : Type}

def kept (adapter : Adapter T) (names : List String) (id : AdapterId) (values : Values) : Values :=
  if adapter.id = id then values.filter (Projection.wants adapter names) else values

theorem project_build (adapter : Adapter T) (names : List String) (aggregation : Option Aggregation) (id : AdapterId)
    (values : Values) :
    (Params.mk (some (Projection.build adapter names)) aggregation).project id values = kept adapter names id values := by
  have selected : (Params.mk (some (Projection.build adapter names)) aggregation).project id values
      = if adapter.id = id then values.filter (Projection.build adapter names).selects else values := rfl
  rw [selected, Projection.selects_eq, kept]

theorem aggregate_other {params : Params} {id : AdapterId}
    (other : ∀ aggregation, params.aggregation = some aggregation → aggregation.adapter ≠ id) (values : Values) :
    params.aggregate id values = values := by
  unfold aggregate
  split
  · rename_i aggregation bound
    exact if_neg (other aggregation bound)
  · rfl

end Params

namespace Projection

-- A projection has just the bits of the positions of the fields it was built from, and selects the values whose masks
-- have one of them; what it keeps of a record is folded once if the aggregation is for the same record.
theorem projection_selects {T : Type} (adapter : Adapter T) (names : List String) :
    (build adapter names).adapter = adapter.id
      ∧ (∀ position, Mask.covers (build adapter names).mask position = true
        ↔ ∃ name ∈ names, adapter.fieldPosition name = some position)
      ∧ Mask.Trimmed (build adapter names).mask
      ∧ (∀ others : List String, (∀ name, name ∈ others ↔ name ∈ names) →
        build adapter others = build adapter names ∧ buildEvents adapter others = buildEvents adapter names)
      ∧ (buildEvents adapter names).Nodup
      ∧ (∀ event, event ∈ buildEvents adapter names
        ↔ ∃ name ∈ names, adapter.fieldPosition name = none ∧ event = .unknownField adapter.typeName name)
      ∧ (∀ event ∈ buildEvents adapter names, event.level = .debug)
      ∧ (∀ value, (build adapter names).selects value = true
        ↔ ∃ name ∈ names, ∃ position, adapter.fieldPosition name = some position
          ∧ Mask.covers value.mask position = true)
      ∧ ∀ (aggregation : Option Aggregation) (id : AdapterId) (values : Values),
        (∀ bound, aggregation = some bound → bound.adapter = id →
          (Params.mk (some (build adapter names)) aggregation).apply id values
            = bound.fold (Params.kept adapter names id values))
        ∧ ((∀ bound, aggregation = some bound → bound.adapter ≠ id) →
          (Params.mk (some (build adapter names)) aggregation).apply id values = Params.kept adapter names id values) := by
  refine ⟨rfl, covers_build adapter names, trimmed_build adapter names, fun others same => ?_,
    nodup_buildEvents adapter names, mem_buildEvents adapter names, fun event member => ?_, selects_iff adapter names,
    fun aggregation id values => ⟨?_, fun other => ?_⟩⟩
  · have distinct_same := distinct_of_same same
    exact ⟨by rw [build, build, distinct_same], by rw [buildEvents, buildEvents, distinct_same]⟩
  · obtain ⟨name, _, _, rfl⟩ := (mem_buildEvents adapter names event).mp member
    rfl
  · rintro bound rfl same
    rw [Params.apply, Params.project_build]
    exact if_pos same
  · rw [Params.apply, Params.project_build]
    exact Params.aggregate_other other _

def twoFields : Adapter Nat :=
  ⟨7, "feature", fun name => if name = "shape" then some 1 else if name = "label" then some 9 else none, fun _ _ => .value 0⟩

theorem projection_selects_of_two :
    (build twoFields ["label", "hue", "label", "shape"] = build twoFields ["shape", "hue", "label"]
      ∧ buildEvents twoFields ["label", "hue", "label", "shape"] = buildEvents twoFields ["shape", "hue", "label"])
      ∧ Event.unknownField "feature" "hue" ∈ buildEvents twoFields ["shape", "hue", "label"]
      ∧ (Params.mk (some (build twoFields ["shape", "hue", "label"])) (some ⟨7, "reverse", List.reverse⟩)).apply 7
        [⟨[2], [], [1]⟩, ⟨[1], [], [2]⟩, ⟨[0, 2, 1], [], [3]⟩] = [⟨[0, 2, 1], [], [3]⟩, ⟨[2], [], [1]⟩]
      ∧ (Params.mk (some (build twoFields ["shape", "hue", "label"])) (some ⟨7, "reverse", List.reverse⟩)).apply 8
        [⟨[], [], [1]⟩, ⟨[1], [], [2]⟩] = [⟨[], [], [1]⟩, ⟨[1], [], [2]⟩] := by
  obtain ⟨_, _, _, same, _, reported, _, _, applied⟩ := projection_selects twoFields ["shape", "hue", "label"]
  refine ⟨same _ (fun name => ?_), (reported _).mpr ⟨"hue", by simp, rfl, rfl⟩, (applied _ 7 _).1 _ rfl rfl,
    (applied _ 8 _).2 ?_⟩
  · simp only [List.mem_cons, List.not_mem_nil]
    grind
  · rintro bound ⟨⟩
    decide

end Projection

end ThinScan
