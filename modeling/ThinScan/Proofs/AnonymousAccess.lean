import ThinScan.Proofs.BucketLocation
import ThinScan.Proofs.SameStore

set_option autoImplicit false

namespace ThinScan

namespace Url

def isFormChar (c : Char) : Bool := c.isAlphanum || c ∈ ['*', '-', '.', '_']

def isFormEscaped (c : Char) : Bool := c ≠ ' ' && !isFormChar c

-- A space is written as a plus sign; all but a few marks are escaped.
def formEncoded (text : Text) : Text :=
  (Text.percentEncode isFormEscaped text).map (fun c => if c = ' ' then '+' else c)

def formPart (pair : Text × Text) : Text := formEncoded pair.1 ++ '=' :: formEncoded pair.2

def bytesOf (pair : Text × Text) : Bytes × Bytes := (Bytes.ofText pair.1, Bytes.ofText pair.2)

def formQuery (pairs : List (Text × Text)) : Text := Text.joined '&' (pairs.map formPart)

def isWritten (c : Char) : Bool := isFormChar c || c = '+' || c = '%'

theorem written_ascii {c : Char} (written : isWritten c = true) : 32 < c.toNat ∧ c.toNat < 127 := by
  simp only [isWritten, isFormChar, Bool.or_eq_true, decide_eq_true_eq] at written
  rcases written with ((plain | mark) | rfl) | rfl
  · exact Location.alphanum_ascii plain
  · have marks : ∀ mark ∈ ['*', '-', '.', '_'], 32 < mark.toNat ∧ mark.toNat < 127 :=
      Text.forall_of_all (by decide)
    exact marks c mark
  · decide
  · decide

theorem written_formEncoded {text : Text} {c : Char} (member : c ∈ formEncoded text) : isWritten c = true := by
  obtain ⟨origin, held, rfl⟩ := List.mem_map.mp member
  by_cases space : origin = ' '
  · rw [if_pos space]
    rfl
  · rw [if_neg space]
    rcases Text.mem_percentEncode _ held with ⟨_, stands⟩ | escape
    · have plain : isFormChar origin = true := by simpa [isFormEscaped, space] using (Bool.and_eq_true_iff.mp stands).2
      simp [isWritten, plain]
    · have escapes : ∀ c ∈ Text.escapeChars, isWritten c = true := Text.forall_of_all (by decide)
      exact escapes origin escape

theorem formEncoded_free {mark : Char} (foreign : isWritten mark = false) (text : Text) : mark ∉ formEncoded text := by
  intro member
  exact Bool.false_ne_true (foreign.symm.trans (written_formEncoded member))

theorem decodePart_formEncoded (text : Text) : decodePart (formEncoded text) = Bytes.ofText text := by
  have plusless : '+' ∉ Text.percentEncode isFormEscaped text := by
    intro member
    rcases Text.mem_percentEncode _ member with ⟨_, stands⟩ | escape
    · exact absurd stands (by decide)
    · exact absurd escape (by decide)
  have back : ∀ c ∈ Text.percentEncode isFormEscaped text,
      ((fun c => if c = '+' then ' ' else c) ∘ fun c => if c = ' ' then '+' else c) c = id c := by
    intro c member
    by_cases space : c = ' '
    · rw [Function.comp_apply, if_pos space, if_pos rfl, space, id]
    · have other : c ≠ '+' := fun same => plusless (same ▸ member)
      rw [Function.comp_apply, if_neg space, if_neg other, id]
  rw [decodePart, formEncoded, List.map_map, List.map_congr_left back, List.map_id]
  exact Text.percentDecode_percentEncode (by decide) text

theorem mem_formPart {pair : Text × Text} {c : Char} (member : c ∈ formPart pair) : c = '=' ∨ isWritten c = true := by
  rcases List.mem_append.mp member with name | behind
  · exact .inr (written_formEncoded name)
  · rcases List.mem_cons.mp behind with mark | value
    · exact .inl mark
    · exact .inr (written_formEncoded value)

theorem formPart_free (pair : Text × Text) : '&' ∉ formPart pair := by
  intro member
  rcases mem_formPart member with mark | written
  · exact absurd mark (by decide)
  · exact absurd written (by decide)

theorem splitOn_formQuery (pairs : List (Text × Text)) :
    (Text.splitOn '&' (formQuery pairs)).filter (fun part => !part.isEmpty) = pairs.map formPart := by
  cases pairs with
  | nil => rfl
  | cons first others =>
      have free : ∀ part ∈ (first :: others).map formPart, '&' ∉ part := by
        intro part member
        obtain ⟨pair, _, rfl⟩ := List.mem_map.mp member
        exact formPart_free pair
      rw [formQuery, Text.splitOn_joined '&' (by simp) free]
      refine List.filter_eq_self.mpr (fun part member => ?_)
      obtain ⟨pair, _, rfl⟩ := List.mem_map.mp member
      simp [formPart]

theorem pairs_formQuery (scheme host : Text) (path : List Text) (pairs : List (Text × Text)) :
    (Url.mk scheme host path (formQuery pairs)).pairs = pairs.map bytesOf := by
  unfold Url.pairs
  rw [splitOn_formQuery, List.map_map]
  refine List.map_congr_left (fun pair _ => ?_)
  have cut : Text.cut '=' (formPart pair) = (formEncoded pair.1, some (formEncoded pair.2)) :=
    Text.cut_marked (formEncoded_free (by decide) pair.1) (some (formEncoded pair.2))
  simp only [Function.comp_apply, cut, Option.getD_some, decodePart_formEncoded, bytesOf]

theorem mem_formQuery {pairs : List (Text × Text)} {c : Char} (member : c ∈ formQuery pairs) :
    c ≠ '#' ∧ 32 < c.toNat := by
  have parts : c = '&' ∨ c = '=' ∨ isWritten c = true := by
    rcases Text.mem_joined member with mark | ⟨part, held, inside⟩
    · exact .inl mark
    · obtain ⟨pair, _, rfl⟩ := List.mem_map.mp held
      exact .inr (mem_formPart inside)
  rcases parts with rfl | rfl | written
  · decide
  · decide
  · refine ⟨?_, (written_ascii written).1⟩
    rintro rfl
    exact absurd written (by decide)

end Url

namespace Location

theorem asksAnonymous_iff (pair : Text × Text) :
    asksAnonymous (Url.bytesOf pair) = true
      ↔ pair = ("anon".toList, "true".toList) ∨ pair = ("anon".toList, "1".toList) := by
  have texts (left right : Text) : Bytes.ofText left = Bytes.ofText right ↔ left = right :=
    ⟨Bytes.ofText_inj, congrArg Bytes.ofText⟩
  obtain ⟨name, value⟩ := pair
  simp only [asksAnonymous, Url.bytesOf, texts, Bool.and_eq_true, Bool.or_eq_true, decide_eq_true_eq, Prod.mk.injEq,
    and_or_left]

theorem any_asksAnonymous (pairs : List (Text × Text)) :
    (pairs.map Url.bytesOf).any asksAnonymous = true
      ↔ ("anon".toList, "true".toList) ∈ pairs ∨ ("anon".toList, "1".toList) ∈ pairs := by
  simp only [List.any_map, List.any_eq_true, Function.comp_apply, asksAnonymous_iff, and_or_left, exists_or,
    exists_eq_right]

section Asking

variable {bucket key : Text} (named : bucket ≠ []) (plain : ∀ c ∈ bucket, isBucketChar c = true)
variable (printable : ∀ c ∈ key, 32 < c.toNat ∧ c ≠ '?' ∧ c ≠ '#')

include plain printable in
theorem high_inBucket : ∀ c ∈ inBucket bucket key, 32 < c.toNat :=
  forall_inBucket (Text.forall_of_all (by decide)) (fun _ bucketed => (bucketChar_ascii bucketed).1) plain
    (fun c member => (printable c member).1)

include named plain printable

theorem parse_unasked :
    parse (inBucket bucket key) = .ok (.bucket bucket false (.ofSegments (Url.pathSegments ('/' :: key)))) := by
  have unmarked : '?' ∉ key ∧ '#' ∉ key :=
    ⟨fun member => (printable _ member).2.1 rfl, fun member => (printable _ member).2.2 rfl⟩
  have tidy := Url.tidy_of_lt (high_inBucket plain printable)
  have parsed :=
    parse_inBucket named plain unmarked none none nofun (by simpa only [Text.marked, List.append_nil] using tidy)
  simp only [Text.marked, List.append_nil] at parsed
  exact parsed

theorem parse_asked (pairs : List (Text × Text)) (fragment : Option Text) :
    parse (inBucket bucket key ++ '?' :: Url.formQuery pairs ++ Text.marked '#' fragment)
      = .ok (.bucket bucket ((pairs.map Url.bytesOf).any asksAnonymous)
          (.ofSegments (Url.pathSegments ('/' :: key)))) := by
  have unmarked : '?' ∉ key ∧ '#' ∉ key :=
    ⟨fun member => (printable _ member).2.1 rfl, fun member => (printable _ member).2.2 rfl⟩
  have tidy : Url.Tidy (inBucket bucket key ++ Text.marked '?' (some (Url.formQuery pairs))) := by
    refine Url.tidy_of_lt (fun c member => ?_)
    rcases List.mem_append.mp member with location | query
    · exact high_inBucket plain printable c location
    · rcases List.mem_cons.mp query with rfl | inside
      · decide
      · exact (Url.mem_formQuery inside).2
  have queried : ∀ text ∈ some (Url.formQuery pairs), '#' ∉ text := by
    rintro text ⟨⟩ member
    exact (Url.mem_formQuery member).1 rfl
  have parsed := parse_inBucket named plain unmarked (some (Url.formQuery pairs)) fragment queried tidy
  rwa [Option.getD_some, Url.pairs_formQuery] at parsed

end Asking

end Location

namespace Registry

theorem handed_same {number : Nat} {calls : List Call} {asked other : Call × Except Error Handle}
    (member : asked ∈ (Registry.mk number [] [] 0).history calls)
    (member_other : other ∈ (Registry.mk number [] [] 0).history calls) {wanted another : Wanted}
    (wants : asked.1.wanted = .ok wanted) (wants_other : other.1.wanted = .ok another) (stored : wanted ≠ .disk) :
    ∃ handle handed, asked.2 = .ok handle ∧ other.2 = .ok handed ∧ (handle = handed ↔ wanted = another) := by
  obtain ⟨handle, answered, given⟩ := ok_of_wanted member wants
  obtain ⟨handed, answered_other, given_other⟩ := ok_of_wanted member_other wants_other
  refine ⟨handle, handed, answered, answered_other, ?_⟩
  by_cases same : (wanted, handle) = (another, handed)
  · obtain ⟨wanted_same, handle_same⟩ := Prod.mk.inj same
    exact ⟨fun _ => wanted_same, fun _ => handle_same⟩
  · have apart := (kept_history (kept_new number) calls).apart.forall
      (List.mem_append_right _ (List.mem_filterMap.mpr ⟨asked, member, given⟩))
      (List.mem_append_right _ (List.mem_filterMap.mpr ⟨other, member_other, given_other⟩)) same
    exact apart.trans ⟨fun shared => shared.1, fun wanted_same => ⟨wanted_same, stored⟩⟩

open Location

-- A location with a query gives the store without credentials just if a pair of the query asks for it; its path is
-- the one that is read without the query.
theorem anonymous_by_pair {bucket key : Text} (named : bucket ≠ []) (plain : ∀ c ∈ bucket, isBucketChar c = true)
    (printable : ∀ c ∈ key, 32 < c.toNat ∧ c ≠ '?' ∧ c ≠ '#') :
    ∃ path, Location.parse (inBucket bucket key) = .ok (.bucket bucket false path)
      ∧ ∀ (pairs : List (Text × Text)) (fragment : Option Text), ∃ anonymous : Bool,
        (anonymous = true ↔ ("anon".toList, "true".toList) ∈ pairs ∨ ("anon".toList, "1".toList) ∈ pairs)
        ∧ (∀ registry : Registry,
            registry.resolve (inBucket bucket key ++ '?' :: Url.formQuery pairs ++ Text.marked '#' fragment)
              = .ok (((registry.bucket bucket anonymous).1, path), (registry.bucket bucket anonymous).2))
        ∧ ∀ (number : Nat) (calls : List Call), ∀ asked ∈ (Registry.mk number [] [] 0).history calls,
            ∀ other ∈ (Registry.mk number [] [] 0).history calls, ∀ flag,
              asked.1 = .resolve (inBucket bucket key ++ '?' :: Url.formQuery pairs ++ Text.marked '#' fragment) →
              other.1 = .bucket bucket flag →
              ∃ handle handed, asked.2 = .ok handle ∧ other.2 = .ok handed ∧ (handle = handed ↔ flag = anonymous) := by
  refine ⟨_, parse_unasked named plain printable, fun pairs fragment => ⟨_, any_asksAnonymous pairs, ?_, ?_⟩⟩
  · intro registry
    rw [resolve, parse_asked named plain printable pairs fragment]
    rfl
  · intro number calls asked member other member_other flag resolved called
    have wants : asked.1.wanted = .ok (.bucket bucket
        ((pairs.map Url.bytesOf).any asksAnonymous)) := by
      rw [resolved, Call.wanted, parse_asked named plain printable pairs fragment]
      rfl
    have wants_other : other.1.wanted = .ok (.bucket bucket flag) := by rw [called, Call.wanted]
    obtain ⟨handle, handed, answered, answered_other, same⟩ :=
      handed_same member member_other wants wants_other (by rintro ⟨⟩)
    refine ⟨handle, handed, answered, answered_other, same.trans ?_⟩
    rw [Wanted.bucket.injEq]
    exact ⟨fun both => both.2.symm, fun flags => ⟨rfl, flags.symm⟩⟩

theorem anonymous_by_pair_of_three :
    ((Registry.mk 1 [] [] 0).history
        [.resolve "s3://b/k?anon=false&x=anon%3Dtrue&anon=1#?anon=0".toList, .bucket "b".toList true,
          .bucket "b".toList false]).map Prod.snd
      = [.ok ⟨1, 0, .bucket "b".toList true⟩, .ok ⟨1, 0, .bucket "b".toList true⟩, .ok ⟨1, 1, .bucket "b".toList false⟩]
    ∧ ∃ anonymous : Bool, anonymous = true ∧ ∀ registry : Registry,
        (registry.resolve "s3://b/k?anon=false&x=anon%3Dtrue&anon=1#?anon=0".toList).map (fun resolved => resolved.1.1)
          = .ok (registry.bucket "b".toList anonymous).1 := by
  obtain ⟨path, _, asked⟩ := anonymous_by_pair (show "b".toList ≠ [] by decide) (Text.forall_of_all (by decide))
    (show ∀ c ∈ "k".toList, 32 < c.toNat ∧ c ≠ '?' ∧ c ≠ '#' from Text.forall_of_all (by decide))
  obtain ⟨anonymous, chosen, resolved, _⟩ := asked
    [("anon".toList, "false".toList), ("x".toList, "anon=true".toList), ("anon".toList, "1".toList)] (some "?anon=0".toList)
  refine ⟨rfl, anonymous, chosen.mpr (by decide), fun registry => ?_⟩
  have written : "s3://b/k?anon=false&x=anon%3Dtrue&anon=1#?anon=0".toList
      = inBucket "b".toList "k".toList ++ '?' :: Url.formQuery
          [("anon".toList, "false".toList), ("x".toList, "anon=true".toList), ("anon".toList, "1".toList)]
        ++ Text.marked '#' (some "?anon=0".toList) := by decide
  rw [written, resolved registry]
  rfl

end Registry

end ThinScan
