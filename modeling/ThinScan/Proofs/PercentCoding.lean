import Mathlib.Data.List.Basic
import ThinScan.ObjectPath

set_option autoImplicit false

namespace ThinScan

namespace Bytes

theorem digits_lt (byte : UInt8) : byte.toNat / 16 < 16 ∧ byte.toNat % 16 < 16 := by
  have bound : byte.toNat < 256 := byte.toNat_lt
  omega

theorem ofText_inj {left right : Text} (same : ofText left = ofText right) : left = right := by
  have encoded : left.utf8Encode = right.utf8Encode := congrArg List.toByteArray same
  have read := congrArg ByteArray.utf8Decode? encoded
  rw [List.utf8Decode?_utf8Encode, List.utf8Decode?_utf8Encode] at read
  exact congrArg Array.toList (Option.some.inj read)

end Bytes

namespace Text

-- To decide this of a text is to look at its own characters, not at all that there are.
theorem forall_of_all {text : Text} {holds : Char → Prop} [DecidablePred holds]
    (all : text.all (fun c => decide (holds c)) = true) : ∀ c ∈ text, holds c := by
  simpa only [List.all_eq_true, decide_eq_true_eq] using all

section Splitting

variable (separator : Char)

theorem splitOn_ne_nil (text : Text) : splitOn separator text ≠ [] := by
  cases text with
  | nil => exact List.cons_ne_nil _ _
  | cons c rest =>
      rw [splitOn]
      by_cases cut : c = separator
      · rw [if_pos cut]
        exact List.cons_ne_nil _ _
      · rw [if_neg cut]
        cases splitOn separator rest <;> exact List.cons_ne_nil _ _

theorem splitOn_cons {c : Char} (other : c ≠ separator) (rest : Text) :
    splitOn separator (c :: rest) = (splitOn separator rest).modifyHead (c :: ·) := by
  rw [splitOn, if_neg other]
  cases parts : splitOn separator rest with
  | nil => exact absurd parts (splitOn_ne_nil separator rest)
  | cons part others => rfl

theorem splitOn_eq (text : Text) : splitOn separator text = List.splitOn separator text := by
  induction text with
  | nil => rfl
  | cons c rest step =>
      rw [List.splitOn_cons_eq_if_modifyHead, ← step]
      by_cases cut : c = separator
      · rw [if_pos (beq_iff_eq.mpr cut), splitOn, if_pos cut]
      · rw [if_neg (mt beq_iff_eq.mp cut), splitOn_cons separator cut]

theorem joined_splitOn (text : Text) : joined separator (splitOn separator text) = text := by
  rw [joined, splitOn_eq]
  exact List.intercalate_splitOn separator

theorem splitOn_joined {parts : List Text} (something : parts ≠ []) (free : ∀ part ∈ parts, separator ∉ part) :
    splitOn separator (joined separator parts) = parts := by
  rw [joined, splitOn_eq]
  exact List.splitOn_intercalate separator free something

variable {separator} in
theorem mem_joined {parts : List Text} {c : Char} (member : c ∈ joined separator parts) :
    c = separator ∨ ∃ part ∈ parts, c ∈ part := by
  unfold joined at member
  induction parts with
  | nil => cases member
  | cons first others step =>
      cases others with
      | nil =>
          rw [List.intercalate_singleton] at member
          exact .inr ⟨first, List.mem_cons_self, member⟩
      | cons second rest =>
          rw [List.intercalate_cons_cons] at member
          rcases List.mem_append.mp member with before | after
          · rcases List.mem_append.mp before with here | between
            · exact .inr ⟨first, List.mem_cons_self, here⟩
            · exact .inl (List.mem_singleton.mp between)
          · rcases step after with between | ⟨part, held, inside⟩
            · exact .inl between
            · exact .inr ⟨part, List.mem_cons_of_mem _ held, inside⟩

theorem splitOn_append {front : Text} (free : separator ∉ front) (text : Text) :
    splitOn separator (front ++ text) = (splitOn separator text).modifyHead (front ++ ·) := by
  induction front with
  | nil => exact (congrFun List.modifyHead_id (splitOn separator text)).symm
  | cons c rest step =>
      obtain ⟨other, later⟩ := List.ne_and_not_mem_of_not_mem_cons free
      rw [List.cons_append, splitOn_cons separator (Ne.symm other), step later, List.modifyHead_modifyHead]
      rfl

end Splitting

def escapeChars : Text := "%0123456789ABCDEF".toList

theorem digit_upper (digit : Fin 16) :
    Bytes.hexValue? (Nat.digitChar digit).toUpper = some digit.val ∧ (Nat.digitChar digit).toUpper ∈ escapeChars := by
  revert digit
  decide

theorem mem_escapedByte {byte : UInt8} {c : Char} (member : c ∈ escapedByte byte) : c ∈ escapeChars := by
  obtain ⟨upper, lower⟩ := Bytes.digits_lt byte
  have parts : c = '%' ∨ c = (Nat.digitChar (byte.toNat / 16)).toUpper
      ∨ c = (Nat.digitChar (byte.toNat % 16)).toUpper := by
    simpa [escapedByte, Bytes.hexDigits] using member
  rcases parts with rfl | rfl | rfl
  · decide
  · exact (digit_upper ⟨byte.toNat / 16, upper⟩).2
  · exact (digit_upper ⟨byte.toNat % 16, lower⟩).2

section Encoding

variable (chosen : Char → Bool)

def stands (c : Char) : Bool := isAscii c && !chosen c

theorem percentEncode_cons (c : Char) (rest : Text) :
    percentEncode chosen (c :: rest)
      = (if stands chosen c then [c] else (String.utf8EncodeChar c).flatMap escapedByte) ++ percentEncode chosen rest := rfl

theorem percentEncode_cons_stands {c : Char} (kept : stands chosen c = true) (rest : Text) :
    percentEncode chosen (c :: rest) = c :: percentEncode chosen rest := by
  rw [percentEncode_cons, if_pos kept]
  rfl

theorem percentEncode_append (front rest : Text) :
    percentEncode chosen (front ++ rest) = percentEncode chosen front ++ percentEncode chosen rest := List.flatMap_append

theorem mem_percentEncode {text : Text} {c : Char} (member : c ∈ percentEncode chosen text) :
    (c ∈ text ∧ stands chosen c = true) ∨ c ∈ escapeChars := by
  obtain ⟨origin, held, inside⟩ := List.mem_flatMap.mp member
  by_cases kept : (isAscii origin && !chosen origin) = true
  · rw [if_pos kept] at inside
    rw [List.mem_singleton.mp inside]
    exact .inl ⟨held, kept⟩
  · rw [if_neg kept] at inside
    obtain ⟨byte, _, escaped⟩ := List.mem_flatMap.mp inside
    exact .inr (mem_escapedByte escaped)

theorem percentEncode_free {c : Char} (foreign : c ∉ escapeChars) {text : Text} (free : c ∉ text) :
    c ∉ percentEncode chosen text := by
  intro member
  rcases mem_percentEncode chosen member with ⟨held, _⟩ | escape
  · exact free held
  · exact foreign escape

theorem length_escaped (bytes : Bytes) : (bytes.flatMap escapedByte).length = 3 * bytes.length := by
  induction bytes with
  | nil => rfl
  | cons byte rest step =>
      rw [List.flatMap_cons, List.length_append, step, List.length_cons]
      have three : (escapedByte byte).length = 3 := rfl
      omega

theorem length_utf8EncodeChar_pos (c : Char) : 0 < (String.utf8EncodeChar c).length := by
  rw [String.length_utf8EncodeChar]
  exact c.utf8Size_pos

theorem length_le_percentEncode (text : Text) : text.length ≤ (percentEncode chosen text).length := by
  induction text with
  | nil => exact Nat.le_refl 0
  | cons c rest step =>
      rw [percentEncode_cons, List.length_append, List.length_cons]
      by_cases kept : stands chosen c = true
      · rw [if_pos kept, List.length_singleton]
        omega
      · rw [if_neg kept, length_escaped]
        have some_byte := length_utf8EncodeChar_pos c
        omega

theorem percentEncode_ne_nil {text : Text} (something : text ≠ []) : percentEncode chosen text ≠ [] := by
  have longer := length_le_percentEncode chosen text
  exact List.ne_nil_of_length_pos (Nat.lt_of_lt_of_le (List.length_pos_iff.mpr something) longer)

theorem percentEncode_eq_self (text : Text) :
    percentEncode chosen text = text ↔ ∀ c ∈ text, stands chosen c = true := by
  induction text with
  | nil => exact ⟨fun _ => List.forall_mem_nil _, fun _ => rfl⟩
  | cons c rest step =>
      rw [List.forall_mem_cons, ← step]
      by_cases kept : stands chosen c = true
      · rw [percentEncode_cons_stands chosen kept, List.cons.injEq]
        exact ⟨fun same => ⟨kept, same.2⟩, fun same => ⟨rfl, same.2⟩⟩
      · refine ⟨fun same => ?_, fun same => absurd same.1 kept⟩
        have lengths := congrArg List.length same
        rw [percentEncode_cons, if_neg kept, List.length_append, length_escaped, List.length_cons] at lengths
        have some_byte := length_utf8EncodeChar_pos c
        have longer := length_le_percentEncode chosen rest
        omega

theorem splitOn_percentEncode {separator : Char} (kept : stands chosen separator = true)
    (foreign : separator ∉ escapeChars) (text : Text) :
    splitOn separator (percentEncode chosen text) = (splitOn separator text).map (percentEncode chosen) := by
  induction text with
  | nil => rfl
  | cons c rest step =>
      by_cases cut : c = separator
      · rw [cut, percentEncode_cons_stands chosen kept, splitOn, if_pos rfl, splitOn, if_pos rfl, step]
        rfl
      · have free : separator ∉ percentEncode chosen [c] :=
          percentEncode_free chosen foreign (List.not_mem_cons_of_ne_of_not_mem (Ne.symm cut) List.not_mem_nil)
        have single := percentEncode_append chosen [c]
        rw [← List.singleton_append, single, splitOn_append separator free, step, List.singleton_append,
          splitOn_cons separator cut]
        cases splitOn separator rest with
        | nil => rfl
        | cons part others => exact congrArg (· :: others.map (percentEncode chosen)) (single part).symm

end Encoding

section Decoding

theorem percentDecode_escapedByte (byte : UInt8) (rest : Text) :
    percentDecode (escapedByte byte ++ rest) = byte :: percentDecode rest := by
  obtain ⟨upper, lower⟩ := Bytes.digits_lt byte
  have high := (digit_upper ⟨byte.toNat / 16, upper⟩).1
  have low := (digit_upper ⟨byte.toNat % 16, lower⟩).1
  have whole : 16 * (byte.toNat / 16) + byte.toNat % 16 = byte.toNat := Nat.div_add_mod _ _
  have parts : escapedByte byte ++ rest = '%' :: (Nat.digitChar (byte.toNat / 16)).toUpper
      :: (Nat.digitChar (byte.toNat % 16)).toUpper :: rest := rfl
  rw [parts, percentDecode]
  simp only [high, low, whole, UInt8.ofNat_toNat]

theorem percentDecode_escaped (bytes : Bytes) (rest : Text) :
    percentDecode (bytes.flatMap escapedByte ++ rest) = bytes ++ percentDecode rest := by
  induction bytes with
  | nil => rfl
  | cons byte others step =>
      rw [List.flatMap_cons, List.append_assoc, percentDecode_escapedByte, step, List.cons_append]

theorem percentDecode_cons {c : Char} (plain : c ≠ '%') (rest : Text) :
    percentDecode (c :: rest) = String.utf8EncodeChar c ++ percentDecode rest := by
  rw [percentDecode]
  exact fun _ _ _ percent => absurd percent plain

variable {chosen : Char → Bool}

theorem percentDecode_percentEncode (escaped : chosen '%' = true) (text : Text) :
    percentDecode (percentEncode chosen text) = Bytes.ofText text := by
  induction text with
  | nil => rfl
  | cons c rest step =>
      rw [Bytes.ofText, List.flatMap_cons, ← Bytes.ofText, ← step]
      by_cases kept : stands chosen c = true
      · have plain : c ≠ '%' := by
          rintro rfl
          simp [stands, escaped] at kept
        rw [percentEncode_cons_stands chosen kept, percentDecode_cons plain]
      · rw [percentEncode_cons, if_neg kept, percentDecode_escaped]

end Decoding

end Text

namespace ObjectPath

theorem percentDecode_escapedSegment (segment : Text) :
    Text.percentDecode (escapedSegment segment) = Bytes.ofText segment := by
  unfold escapedSegment
  by_cases dot : segment = ['.']
  · rw [if_pos dot, dot]
    decide
  · rw [if_neg dot]
    by_cases dots : segment = ['.', '.']
    · rw [if_pos dots, dots]
      decide
    · rw [if_neg dots]
      exact Text.percentDecode_percentEncode (by decide) segment

theorem escapedSegment_inj {left right : Text} (same : escapedSegment left = escapedSegment right) : left = right := by
  have read := congrArg Text.percentDecode same
  rw [percentDecode_escapedSegment, percentDecode_escapedSegment] at read
  exact Bytes.ofText_inj read

theorem segments_ofText {text : Text} (whole : [] ∉ Text.splitOn '/' text) :
    (ofText text).segments = (Text.splitOn '/' text).map escapedSegment := by
  have all : (Text.splitOn '/' text).filter (fun segment => !segment.isEmpty) = Text.splitOn '/' text := by
    refine List.filter_eq_self.mpr (fun segment member => ?_)
    cases segment with
    | nil => exact absurd member whole
    | cons c rest => rfl
  exact congrArg (List.map escapedSegment) all

theorem ofText_inj {left right : Text} (whole_left : [] ∉ Text.splitOn '/' left)
    (whole_right : [] ∉ Text.splitOn '/' right) (same : ofText left = ofText right) : left = right := by
  have segments := congrArg ObjectPath.segments same
  rw [segments_ofText whole_left, segments_ofText whole_right] at segments
  have parts := List.map_injective_iff.mpr (fun _ _ => escapedSegment_inj) segments
  have texts := congrArg (Text.joined '/') parts
  rwa [Text.joined_splitOn, Text.joined_splitOn] at texts

theorem ofText_percentEncode (chosen : Char → Bool) (slash : Text.stands chosen '/' = true) {text : Text}
    (whole : [] ∉ Text.splitOn '/' text) :
    ofText (Text.percentEncode chosen text) = ofText text ↔ ∀ c ∈ text, Text.stands chosen c = true := by
  have whole_encoded : [] ∉ Text.splitOn '/' (Text.percentEncode chosen text) := by
    rw [Text.splitOn_percentEncode chosen slash (by decide)]
    intro member
    obtain ⟨segment, held, empty⟩ := List.mem_map.mp member
    have nothing : segment = [] := by
      by_contra something
      exact Text.percentEncode_ne_nil chosen something empty
    exact whole (nothing ▸ held)
  rw [← Text.percentEncode_eq_self]
  exact ⟨ofText_inj whole_encoded whole, congrArg ofText⟩

end ObjectPath

end ThinScan
