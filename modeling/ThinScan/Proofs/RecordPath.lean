import ThinScan.Proofs.PercentCoding

set_option autoImplicit false

namespace ThinScan

namespace Text

theorem splitOn_free (separator : Char) (text : Text) : ∀ part ∈ splitOn separator text, separator ∉ part := by
  induction text with
  | nil => simp [splitOn]
  | cons c rest step =>
      by_cases cut : c = separator
      · rw [splitOn, if_pos cut]
        exact List.forall_mem_cons.mpr ⟨List.not_mem_nil, step⟩
      · rw [splitOn_cons separator cut]
        cases parts : splitOn separator rest with
        | nil => exact List.forall_mem_nil _
        | cons part others =>
            rw [parts] at step
            obtain ⟨first, later⟩ := List.forall_mem_cons.mp step
            exact List.forall_mem_cons.mpr ⟨List.not_mem_cons_of_ne_of_not_mem (Ne.symm cut) first, later⟩

theorem joined_inj {separator : Char} {left right : List Text} (some_left : left ≠ []) (some_right : right ≠ [])
    (free_left : ∀ part ∈ left, separator ∉ part) (free_right : ∀ part ∈ right, separator ∉ part)
    (same : joined separator left = joined separator right) : left = right := by
  have split := congrArg (splitOn separator) same
  rwa [splitOn_joined separator some_left free_left, splitOn_joined separator some_right free_right] at split

end Text

namespace Bytes

theorem digitChar_cases (digit : Fin 16) :
    hexValue? (Nat.digitChar digit) = some digit.val ∧ Nat.digitChar digit ≠ '/' := by
  revert digit
  decide

theorem ofHexChars_hexChars (bytes : Bytes) : ofHexChars? (hexChars bytes) = some bytes := by
  induction bytes with
  | nil => rfl
  | cons byte rest step =>
      obtain ⟨upper, lower⟩ := digits_lt byte
      have high := (digitChar_cases ⟨byte.toNat / 16, upper⟩).1
      have low := (digitChar_cases ⟨byte.toNat % 16, lower⟩).1
      have whole : 16 * (byte.toNat / 16) + byte.toNat % 16 = byte.toNat := Nat.div_add_mod _ _
      have split : hexChars (byte :: rest)
          = Nat.digitChar (byte.toNat / 16) :: Nat.digitChar (byte.toNat % 16) :: hexChars rest := rfl
      rw [split, ofHexChars?]
      simp only [high, low, step, Option.bind_eq_bind, Option.bind_some, Option.pure_def, whole, UInt8.ofNat_toNat]

theorem hexChars_inj {left right : Bytes} (same : hexChars left = hexChars right) : left = right := by
  have read := congrArg ofHexChars? same
  rwa [ofHexChars_hexChars, ofHexChars_hexChars, Option.some_inj] at read

theorem hexDigits_free (byte : UInt8) : '/' ∉ hexDigits byte := by
  obtain ⟨upper, lower⟩ := digits_lt byte
  have high := (digitChar_cases ⟨byte.toNat / 16, upper⟩).2
  have low := (digitChar_cases ⟨byte.toNat % 16, lower⟩).2
  simp [hexDigits, Ne.symm high, Ne.symm low]

theorem hexChars_free (bytes : Bytes) : '/' ∉ hexChars bytes := by
  intro member
  obtain ⟨byte, _, inside⟩ := List.mem_flatMap.mp member
  exact hexDigits_free byte inside

end Bytes

namespace ObjectPath

def Clean (path : ObjectPath) : Prop := ∀ segment ∈ path.segments, segment ≠ [] ∧ '/' ∉ segment

theorem clean_escaped {segment : Text} (something : segment ≠ []) (free : '/' ∉ segment) :
    escapedSegment segment ≠ [] ∧ '/' ∉ escapedSegment segment := by
  unfold escapedSegment
  by_cases dot : segment = ['.']
  · rw [if_pos dot]
    decide
  · rw [if_neg dot]
    by_cases dots : segment = ['.', '.']
    · rw [if_pos dots]
      decide
    · rw [if_neg dots]
      exact ⟨Text.percentEncode_ne_nil _ something, Text.percentEncode_free _ (by decide) free⟩

theorem clean_ofText (text : Text) : (ofText text).Clean := by
  intro segment member
  obtain ⟨part, kept, rfl⟩ := List.mem_map.mp member
  obtain ⟨held, something⟩ := List.mem_filter.mp kept
  exact clean_escaped (by simpa using something) (Text.splitOn_free '/' text part held)

theorem clean_child {path : ObjectPath} {segment : Text} (clean : path.Clean) (something : segment ≠ [])
    (free : '/' ∉ segment) : (path.child segment).Clean := by
  intro part member
  rcases List.mem_append.mp member with earlier | last
  · exact clean part earlier
  · rw [List.mem_singleton.mp last]
    exact ⟨something, free⟩

theorem text_inj {left right : ObjectPath} (clean_left : left.Clean) (clean_right : right.Clean)
    (some_left : left.segments ≠ []) (some_right : right.segments ≠ []) (same : left.text = right.text) : left = right := by
  have segments := Text.joined_inj some_left some_right (fun part member => (clean_left part member).2)
    (fun part member => (clean_right part member).2) same
  cases left
  cases right
  exact congrArg ObjectPath.mk segments

theorem decimal_ofNat (count : Nat) : (toString (Int.ofNat count)).toList = Nat.toDigits 10 count := Nat.toList_repr

theorem decimal_negSucc (count : Nat) :
    (toString (Int.negSucc count)).toList = '-' :: Nat.toDigits 10 (count + 1) := by
  rw [show toString (Int.negSucc count) = "-" ++ Nat.repr (count + 1) from rfl, String.toList_append, Nat.toList_repr]
  rfl

theorem digits_free {c : Char} (foreign : c.isDigit = false) (count : Nat) : c ∉ Nat.toDigits 10 count := by
  intro member
  have digit := Nat.isDigit_of_mem_toDigits (by decide) (by decide) member
  exact Bool.false_ne_true (foreign.symm.trans digit)

theorem digits_inj {left right : Nat} (same : Nat.toDigits 10 left = Nat.toDigits 10 right) : left = right := by
  have read := congrArg (Nat.ofDigitChars 10 · 0) same
  simpa only [Nat.ofDigitChars_ten_toDigits] using read

theorem decimal_free (number : Int) : '/' ∉ (toString number).toList := by
  cases number with
  | ofNat count =>
      rw [decimal_ofNat]
      exact digits_free (by decide) count
  | negSucc count =>
      rw [decimal_negSucc]
      exact List.not_mem_cons_of_ne_of_not_mem (by decide) (digits_free (by decide) _)

theorem decimal_ne_nil (number : Int) : (toString number).toList ≠ [] := by
  cases number with
  | ofNat count =>
      rw [decimal_ofNat]
      exact Nat.toDigits_ne_nil
  | negSucc count =>
      rw [decimal_negSucc]
      exact List.cons_ne_nil _ _

theorem decimal_inj {left right : Int} (same : (toString left).toList = (toString right).toList) : left = right := by
  have minus (count : Nat) : '-' ∉ Nat.toDigits 10 count := digits_free (by decide) count
  cases left with
  | ofNat count =>
      cases right with
      | ofNat other =>
          rw [decimal_ofNat, decimal_ofNat] at same
          exact congrArg Int.ofNat (digits_inj same)
      | negSucc other =>
          rw [decimal_ofNat, decimal_negSucc] at same
          exact absurd (same ▸ List.mem_cons_self) (minus count)
  | negSucc count =>
      cases right with
      | ofNat other =>
          rw [decimal_ofNat, decimal_negSucc] at same
          exact absurd (same ▸ List.mem_cons_self) (minus other)
      | negSucc other =>
          rw [decimal_negSucc, decimal_negSucc] at same
          have counts := digits_inj (List.cons.inj same).2
          rw [Nat.succ.inj counts]

theorem clean_record {root : ObjectPath} (clean : root.Clean) (adapter : AdapterId) (dataId : Bytes) :
    (root.record adapter dataId).Clean := by
  refine clean_child (clean_child clean (decimal_ne_nil _) (decimal_free _)) (by simp) ?_
  intro member
  rcases List.mem_append.mp member with digits | extension
  · exact Bytes.hexChars_free dataId digits
  · exact absurd extension (by decide)

theorem record_inj {root other : ObjectPath} {adapter another : AdapterId} {dataId key : Bytes} (clean : root.Clean)
    (clean_other : other.Clean) (same : (root.record adapter dataId).text = (other.record another key).text) :
    root = other ∧ adapter = another ∧ dataId = key := by
  have paths := text_inj (clean_record clean adapter dataId) (clean_record clean_other another key)
    (by simp [record, child]) (by simp [record, child]) same
  have segments := congrArg ObjectPath.segments paths
  simp only [record, child, List.append_assoc, List.cons_append, List.nil_append] at segments
  obtain ⟨roots, tails⟩ := List.append_inj' segments (by simp only [List.length_cons, List.length_nil])
  simp only [List.cons.injEq, and_true] at tails
  obtain ⟨adapters, files⟩ := tails
  refine ⟨?_, ?_, Bytes.hexChars_inj (List.append_cancel_right files)⟩
  · cases root
    cases other
    exact congrArg ObjectPath.mk roots
  · exact Int16.toInt_inj.mp (decimal_inj adapters)

end ObjectPath

end ThinScan
