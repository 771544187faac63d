import Mathlib.Data.List.TakeWhile
import ThinScan.Location.Registry
import ThinScan.Proofs.PercentCoding

set_option autoImplicit false

namespace ThinScan

namespace Text

def marked (mark : Char) : Option Text → Text
  | none => []
  | some part => mark :: part

theorem cut_marked {mark : Char} {front : Text} (free : mark ∉ front) (part : Option Text) :
    cut mark (front ++ marked mark part) = (front, part) := by
  have before : ∀ c ∈ front, decide (c ≠ mark) = true := by
    intro c member
    exact decide_eq_true (fun same => free (same ▸ member))
  unfold cut
  rw [List.dropWhile_append_of_pos before, List.takeWhile_append_of_pos before]
  cases part with
  | none => simp [marked]
  | some part => simp [marked]

theorem marked_free {mark c : Char} (other : c ≠ mark) {part : Option Text} (free : ∀ text ∈ part, c ∉ text) :
    c ∉ marked mark part := by
  cases part with
  | none => exact List.not_mem_nil
  | some text => exact List.not_mem_cons_of_ne_of_not_mem other (free text rfl)

end Text

namespace Url

def trimmed (text : Text) : Text := (text.reverse.dropWhile isBlank).reverse.filter (fun c => !isBreak c)

theorem unbroken_of_le {c : Char} (high : 32 ≤ c.toNat) : isBreak c = false := by
  by_contra broken
  simp only [isBreak, Bool.not_eq_false, Bool.or_eq_true, decide_eq_true_eq] at broken
  rcases broken with (rfl | rfl) | rfl <;> exact absurd high (by decide)

theorem isBlank_eq_false {c : Char} : isBlank c = false ↔ 32 < c.toNat := by
  rw [isBlank, decide_eq_false_iff_not, Nat.not_le]

structure Tidy (text : Text) : Prop where
  unbroken : ∀ c ∈ text, isBreak c = false
  ended : ∀ c ∈ text.getLast?, isBlank c = false

theorem tidy_of_lt {text : Text} (high : ∀ c ∈ text, 32 < c.toNat) : Tidy text :=
  ⟨fun c member => unbroken_of_le (Nat.le_of_lt (high c member)),
    fun c last => isBlank_eq_false.mpr (high c (List.mem_of_getLast? last))⟩

theorem trimmed_append {front : Text} (tidy : Tidy front) (rest : Text) :
    trimmed (front ++ rest) = front ++ trimmed rest := by
  have kept : front.reverse.dropWhile isBlank = front.reverse := by
    cases reversed : front.reverse with
    | nil => rfl
    | cons last others =>
        have final : front.getLast? = some last := by rw [← List.head?_reverse, reversed, List.head?_cons]
        exact List.dropWhile_cons_of_neg (by simp [tidy.ended last final])
  have whole : front.filter (fun c => !isBreak c) = front :=
    List.filter_eq_self.mpr (fun c member => by rw [tidy.unbroken c member, Bool.not_false])
  have apart : (rest.reverse ++ front.reverse).dropWhile isBlank = rest.reverse.dropWhile isBlank ++ front.reverse := by
    rw [List.dropWhile_append, kept]
    cases rest.reverse.dropWhile isBlank <;> rfl
  unfold trimmed
  rw [List.reverse_append, apart, List.reverse_append, List.reverse_reverse, List.filter_append, whole]

theorem trimmed_marked {mark : Char} (plain : isBlank mark = false) (part : Option Text) :
    trimmed (Text.marked mark part) = Text.marked mark (part.map trimmed) := by
  cases part with
  | none => rfl
  | some part =>
      have unbroken := unbroken_of_le (Nat.le_of_lt (isBlank_eq_false.mp plain))
      have tidy : Tidy [mark] := ⟨by simpa using unbroken, by simpa using plain⟩
      exact trimmed_append tidy part

theorem splitUserinfo_free {text : Text} (free : '@' ∉ text) : splitUserinfo text = (none, text) := by
  have all : ∀ c ∈ text.reverse, decide (c ≠ '@') = true := by
    intro c member
    exact decide_eq_true (fun same => free (same ▸ List.mem_reverse.mp member))
  have taken := List.takeWhile_eq_self_iff.mpr all
  have dropped := List.dropWhile_eq_nil_iff.mpr all
  unfold splitUserinfo
  rw [taken, dropped, List.reverse_reverse]
  rfl

theorem splitHost_free {text : Text} (free : ':' ∉ text) (bracketed : Bool) : splitHost bracketed text = (text, none) := by
  induction text generalizing bracketed with
  | nil => rfl
  | cons c rest step =>
      obtain ⟨other, later⟩ := List.ne_and_not_mem_of_not_mem_cons free
      have colonless : (decide (c = ':') && !bracketed) = false := by
        rw [decide_eq_false (Ne.symm other), Bool.false_and]
      simp only [splitHost, colonless, step later, Bool.false_eq_true, if_false]

theorem resolveDots_plain {segments : List Text}
    (plain : ∀ segment ∈ segments, isDot segment = false ∧ isDoubleDot segment = false) :
    resolveDots segments = segments := by
  have after (kept : List Text) : segments.foldl (fun kept segment =>
      if isDoubleDot segment then back kept else if isDot segment then kept else kept ++ [segment]) kept
        = kept ++ segments := by
    induction segments generalizing kept with
    | nil => exact (List.append_nil kept).symm
    | cons segment rest step =>
        obtain ⟨⟨single, double⟩, later⟩ := List.forall_mem_cons.mp plain
        rw [List.foldl_cons, double, if_neg Bool.false_ne_true, single, if_neg Bool.false_ne_true, step later,
          List.append_assoc, List.singleton_append]
  exact after []

end Url

namespace Location

def isBucketChar (c : Char) : Bool := c.isAlphanum || c = '-' || c = '.'

variable {bucket key : Text}

theorem alphanum_ascii {c : Char} (plain : c.isAlphanum = true) : 32 < c.toNat ∧ c.toNat < 127 := by
  have within {low high : Char} (bounds : low.val ≤ c.val ∧ c.val ≤ high.val) :
      low.toNat ≤ c.toNat ∧ c.toNat ≤ high.toNat :=
    ⟨UInt32.le_iff_toNat_le.mp bounds.1, UInt32.le_iff_toNat_le.mp bounds.2⟩
  have inside {low high : Nat} (bounds : low ≤ c.toNat ∧ c.toNat ≤ high) (above : 32 < low) (below : high < 127) :
      32 < c.toNat ∧ c.toNat < 127 := by omega
  rcases Bool.or_eq_true_iff.mp plain with letter | digit
  · rcases Bool.or_eq_true_iff.mp letter with upper | lower
    · exact inside (within (of_decide_eq_true upper)) (by decide) (by decide)
    · obtain ⟨above, below⟩ := Bool.and_eq_true_iff.mp lower
      exact inside (within ⟨of_decide_eq_true above, of_decide_eq_true below⟩) (by decide) (by decide)
  · exact inside (Char.isDigit_iff_toNat.mp digit) (by decide) (by decide)

theorem bucketChar_ascii {c : Char} (plain : isBucketChar c = true) : 32 < c.toNat ∧ c.toNat < 127 := by
  simp only [isBucketChar, Bool.or_eq_true, decide_eq_true_eq] at plain
  rcases plain with (plain | rfl) | rfl
  · exact alphanum_ascii plain
  · decide
  · decide

theorem bucketChar_ne {c mark : Char} (foreign : isBucketChar mark = false) (plain : isBucketChar c = true) : c ≠ mark := by
  rintro rfl
  exact Bool.false_ne_true (foreign.symm.trans plain)

theorem not_mem_bucket (plain : ∀ c ∈ bucket, isBucketChar c = true) {mark : Char} (foreign : isBucketChar mark = false) :
    mark ∉ bucket := fun member => bucketChar_ne foreign (plain mark member) rfl

theorem host_of_bucket (plain : ∀ c ∈ bucket, isBucketChar c = true) : Url.Host.parse bucket = .ok bucket := by
  have allowed : bucket.any Url.Host.isForbidden = false := by
    refine List.any_eq_false.mpr (fun c member forbidden => ?_)
    rcases Bool.or_eq_true_iff.mp forbidden with zero | listed
    · have above := (bucketChar_ascii (plain c member)).1
      rw [of_decide_eq_true zero] at above
      exact absurd above (by decide)
    · have foreign : ∀ mark ∈ ['\t', '\n', '\r', ' ', '#', '/', ':', '<', '>', '?', '@', '[', '\\', ']', '^', '|'],
          isBucketChar mark = false := Text.forall_of_all (by decide)
      exact bucketChar_ne (foreign c (of_decide_eq_true listed)) (plain c member) rfl
  have stays : Text.percentEncode Text.isControl bucket = bucket := by
    refine (Text.percentEncode_eq_self Text.isControl bucket).mpr (fun c member => ?_)
    obtain ⟨above, below⟩ := bucketChar_ascii (plain c member)
    simp [Text.stands, Text.isAscii, Text.isControl]
    omega
  unfold Url.Host.parse
  split
  · exact absurd rfl (bucketChar_ne (by decide) (plain _ List.mem_cons_self))
  · rw [allowed, if_neg Bool.false_ne_true, stays]

theorem authority_of_bucket (named : bucket ≠ []) (plain : ∀ c ∈ bucket, isBucketChar c = true) (continued : Bool) :
    Url.authority .other bucket continued = .ok (bucket, []) := by
  have filled : bucket.isEmpty = false := by simpa using named
  have no_userinfo := Url.splitUserinfo_free (not_mem_bucket plain (by decide))
  have no_port := Url.splitHost_free (not_mem_bucket plain (by decide)) false
  unfold Url.authority
  simp only [no_userinfo, no_port, host_of_bucket plain, bind, Except.bind, filled, Bool.false_and,
    Bool.and_false]
  rfl

def inBucket (bucket key : Text) : Text := bucketScheme ++ bucket ++ '/' :: key

theorem forall_inBucket {holds : Char → Prop} (schemed : ∀ c ∈ bucketScheme, holds c)
    (named : ∀ c, isBucketChar c = true → holds c) (plain : ∀ c ∈ bucket, isBucketChar c = true)
    (keyed : ∀ c ∈ key, holds c) : ∀ c ∈ inBucket bucket key, holds c := by
  intro c member
  rcases List.mem_append.mp member with before | after
  · rcases List.mem_append.mp before with scheme | name
    · exact schemed c scheme
    · exact named c (plain c name)
  · rcases List.mem_cons.mp after with slash | inside
    · exact slash ▸ schemed '/' (by decide)
    · exact keyed c inside

theorem not_mem_hierarchy (plain : ∀ c ∈ bucket, isBucketChar c = true) {mark : Char} (foreign : isBucketChar mark = false)
    (other : mark ≠ '/') (free : mark ∉ key) : mark ∉ '/' :: '/' :: (bucket ++ '/' :: key) := by
  have unnamed := not_mem_bucket plain foreign
  simp [other, unnamed, free]

theorem takeWhile_bucket (plain : ∀ c ∈ bucket, isBucketChar c = true) (key : Text) :
    (bucket ++ '/' :: key).takeWhile (fun c => !Url.isSlash .other c) = bucket := by
  have slashless : ∀ c ∈ bucket, (!Url.isSlash .other c) = true := by
    intro c member
    have other : c ≠ '/' := bucketChar_ne (by decide) (plain c member)
    simp [Url.isSlash, other]
  rw [List.takeWhile_append_of_pos slashless]
  simp [Url.isSlash]

section Parsing

variable (named : bucket ≠ []) (plain : ∀ c ∈ bucket, isBucketChar c = true) (unmarked : '?' ∉ key ∧ '#' ∉ key)
variable (query fragment : Option Text) (queried : ∀ text ∈ query, '#' ∉ text)
variable (tidy : Url.Tidy (inBucket bucket key ++ Text.marked '?' query))

include tidy in
theorem cleaned_inBucket :
    Url.cleaned (inBucket bucket key ++ Text.marked '?' query ++ Text.marked '#' fragment)
      = "s3".toList ++ Text.marked ':' (some ('/' :: '/' :: (bucket ++ '/' :: key) ++ Text.marked '?' query
          ++ Text.marked '#' (fragment.map Url.trimmed))) := by
  have trimmed := Url.trimmed_append tidy (Text.marked '#' fragment)
  rw [Url.trimmed_marked (by decide)] at trimmed
  refine trimmed.trans ?_
  simp [inBucket, bucketScheme, Text.marked]

include named plain unmarked queried tidy

theorem parse_url :
    Url.parse (inBucket bucket key ++ Text.marked '?' query ++ Text.marked '#' fragment)
      = .ok ⟨"s3".toList, bucket, Url.pathSegments ('/' :: key), query.getD []⟩ := by
  have scheme (rest : Text) : Url.scheme? ("s3".toList ++ Text.marked ':' (some rest)) = some ("s3".toList, rest) := by
    rw [Url.scheme?, Text.cut_marked (by decide)]
    rfl
  have before_query : '?' ∉ '/' :: '/' :: (bucket ++ '/' :: key) :=
    not_mem_hierarchy plain (by decide) (by decide) unmarked.1
  have before_fragment : '#' ∉ '/' :: '/' :: (bucket ++ '/' :: key) ++ Text.marked '?' query := by
    intro member
    rcases List.mem_append.mp member with hierarchy | asked
    · exact not_mem_hierarchy plain (by decide) (by decide) unmarked.2 hierarchy
    · exact Text.marked_free (by decide) queried asked
  have form : Url.form "s3".toList = .other := rfl
  have located : Url.located? .other ('/' :: '/' :: (bucket ++ '/' :: key)) = some (bucket ++ '/' :: key) := rfl
  have key_left : (bucket ++ '/' :: key).drop bucket.length = '/' :: key := List.drop_left
  unfold Url.parse
  rw [cleaned_inBucket query fragment tidy, scheme]
  simp only [form, Text.cut_marked before_fragment, Text.cut_marked before_query, located, takeWhile_bucket plain,
    reduceCtorEq, if_false, authority_of_bucket named plain, key_left, bind, Except.bind, List.nil_append]
  rfl

theorem parse_inBucket :
    parse (inBucket bucket key ++ Text.marked '?' query ++ Text.marked '#' fragment)
      = .ok (.bucket bucket
          ((Url.mk "s3".toList bucket (Url.pathSegments ('/' :: key)) (query.getD [])).pairs.any asksAnonymous)
          (.ofSegments (Url.pathSegments ('/' :: key)))) := by
  have schemed : bucketScheme.isPrefixOf
      (inBucket bucket key ++ Text.marked '?' query ++ Text.marked '#' fragment) = true := by
    simp [inBucket, List.append_assoc]
  have filled : ¬bucket.isEmpty := by simpa using named
  rw [parse, if_pos schemed, parse_url named plain unmarked query fragment queried tidy]
  exact if_neg filled

end Parsing

def inMemory (name key : Text) : Text := memoryScheme ++ name ++ '/' :: key

theorem parse_inMemory {name : Text} (named : name ≠ []) (free : '/' ∉ name) (key : Text) :
    parse (inMemory name key) = .ok (.memory name (.ofText key)) := by
  have other : bucketScheme.isPrefixOf (inMemory name key) = false := rfl
  have here : memoryScheme.isPrefixOf (inMemory name key) = true := by simp [inMemory, List.append_assoc]
  have rest : (inMemory name key).drop memoryScheme.length = name ++ Text.marked '/' (some key) := by
    rw [inMemory, List.append_assoc]
    exact List.drop_left
  have filled : ¬name.isEmpty := by simpa using named
  rw [parse, other, if_neg Bool.false_ne_true, here, if_pos rfl, rest, ofMemory, Text.cut_marked free]
  exact if_neg filled

theorem path_inBucket
    (dotless : ∀ segment ∈ Text.splitOn '/' key, Url.isDot segment = false ∧ Url.isDoubleDot segment = false) :
    ObjectPath.ofSegments (Url.pathSegments ('/' :: key)) = .ofText (Text.percentEncode Url.isPathEscaped key) := by
  have segments : Url.pathSegments ('/' :: key) = Text.splitOn '/' (Text.percentEncode Url.isPathEscaped key) := by
    rw [Text.splitOn_percentEncode Url.isPathEscaped (by decide) (by decide)]
    exact congrArg (List.map (Text.percentEncode Url.isPathEscaped)) (Url.resolveDots_plain dotless)
  rw [segments]
  rfl

section Keys

variable (plain : ∀ c ∈ bucket, isBucketChar c = true) (something : key ≠ [])
variable (unmarked : ∀ c ∈ key, c ≠ '?' ∧ c ≠ '#' ∧ Text.isControl c = false) (ended : key.getLast? ≠ some ' ')

include plain something unmarked ended

theorem tidy_key : Url.Tidy (inBucket bucket key) := by
  have high : ∀ c ∈ key, 32 ≤ c.toNat := by
    intro c member
    have uncontrolled := (unmarked c member).2.2
    simp only [Text.isControl, Bool.or_eq_false_iff, decide_eq_false_iff_not] at uncontrolled
    omega
  have high_before : ∀ c ∈ inBucket bucket key, 32 ≤ c.toNat :=
    forall_inBucket (Text.forall_of_all (by decide)) (fun _ bucketed => Nat.le_of_lt (bucketChar_ascii bucketed).1) plain
      high
  refine ⟨fun c member => Url.unbroken_of_le (high_before c member), ?_⟩
  intro c last
  have written : inBucket bucket key = (bucketScheme ++ bucket ++ ['/']) ++ key := by
    rw [List.append_assoc, List.singleton_append, inBucket]
  rw [written, List.getLast?_append_of_ne_nil _ something] at last
  have spaceless : c.toNat ≠ 32 := fun space => ended (last.trans (congrArg some (Char.toNat_inj.mp space)))
  have bound := high c (List.mem_of_getLast? last)
  exact Url.isBlank_eq_false.mpr (by omega)

theorem parse_key (named : bucket ≠ [])
    (dotless : ∀ segment ∈ Text.splitOn '/' key, Url.isDot segment = false ∧ Url.isDoubleDot segment = false) :
    parse (inBucket bucket key)
      = .ok (.bucket bucket false (.ofText (Text.percentEncode Url.isPathEscaped key))) := by
  have free : '?' ∉ key ∧ '#' ∉ key :=
    ⟨fun member => (unmarked _ member).1 rfl, fun member => (unmarked _ member).2.1 rfl⟩
  have tidy := tidy_key plain something unmarked ended
  have parsed := parse_inBucket named plain free none none nofun (by simpa only [Text.marked, List.append_nil] using tidy)
  rw [path_inBucket dotless] at parsed
  simp only [Text.marked, List.append_nil] at parsed
  exact parsed

end Keys

end Location

namespace Registry

open Location

-- A key in a bucket is read with what a url escapes already escaped, and its path is the one that the same key has in
-- memory just if there is nothing of the kind in it.
theorem bucket_key (registry : Registry) {bucket key : Text} (named : bucket ≠ [])
    (plain : ∀ c ∈ bucket, isBucketChar c = true)
    (whole : ∀ segment ∈ Text.splitOn '/' key, segment ≠ [] ∧ Url.isDot segment = false ∧ Url.isDoubleDot segment = false)
    (unmarked : ∀ c ∈ key, c ≠ '?' ∧ c ≠ '#' ∧ Text.isControl c = false) (ended : key.getLast? ≠ some ' ') :
    (registry.resolve (inBucket bucket key)).map (fun resolved => resolved.1.2)
        = .ok (.ofText (Text.percentEncode Url.isPathEscaped key))
    ∧ (∀ name, name ≠ [] → '/' ∉ name →
        (registry.resolve (inMemory name key)).map (fun resolved => resolved.1.2) = .ok (.ofText key))
    ∧ ((registry.resolve (inBucket bucket key)).map (fun resolved => resolved.1.2) = .ok (.ofText key)
        ↔ ∀ c ∈ key, c.toNat < 128 ∧ c ∉ [' ', '"', '<', '>', '\x60', '\x7b', '\x7d']) := by
  have filled : [] ∉ Text.splitOn '/' key := fun member => (whole [] member).1 rfl
  have something : key ≠ [] := by
    rintro rfl
    exact filled List.mem_cons_self
  have read : (registry.resolve (inBucket bucket key)).map (fun resolved => resolved.1.2)
      = .ok (.ofText (Text.percentEncode Url.isPathEscaped key)) := by
    rw [resolve, parse_key plain something unmarked ended named (fun segment member => (whole segment member).2)]
    rfl
  have stands : ∀ c ∈ key, Text.stands Url.isPathEscaped c = true
      ↔ c.toNat < 128 ∧ c ∉ [' ', '"', '<', '>', '\x60', '\x7b', '\x7d'] := by
    intro c member
    obtain ⟨query, fragment, uncontrolled⟩ := unmarked c member
    simp [Text.stands, Text.isAscii, Url.isPathEscaped, uncontrolled, query, fragment]
  refine ⟨read, fun name named free => ?_, ?_⟩
  · rw [resolve, parse_inMemory named free]
    rfl
  · rw [read, Except.ok.injEq, ObjectPath.ofText_percentEncode _ (by decide) filled]
    exact forall₂_congr stands

theorem bucket_key_of_percent :
    ((Registry.mk 1 [] [] 0).resolve (inBucket "b.1".toList "x/50%".toList)).map (fun resolved => resolved.1.2)
        = .ok (.ofText "x/50%".toList)
    ∧ ((Registry.mk 1 [] [] 0).resolve (inMemory "m".toList "x/50%".toList)).map (fun resolved => resolved.1.2)
        = .ok (.ofText "x/50%".toList)
    ∧ (ObjectPath.ofText "x/50%".toList).segments = ["x".toList, "50%25".toList] := by
  obtain ⟨_, memory, same⟩ := bucket_key (Registry.mk 1 [] [] 0)
    (show "b.1".toList ≠ [] by decide) (Text.forall_of_all (by decide)) (show ∀ segment ∈ Text.splitOn '/' "x/50%".toList,
      segment ≠ [] ∧ Url.isDot segment = false ∧ Url.isDoubleDot segment = false by decide)
    (Text.forall_of_all (by decide)) (by decide)
  exact ⟨same.mpr (Text.forall_of_all (by decide)), memory "m".toList (by decide) (by decide), by decide⟩

-- A space is escaped, and then its escape: the key in memory has another path.
theorem space_escaped_twice :
    (∀ c ∈ "b".toList, isBucketChar c = true)
    ∧ (∀ segment ∈ Text.splitOn '/' "a b".toList,
        segment ≠ [] ∧ Url.isDot segment = false ∧ Url.isDoubleDot segment = false)
    ∧ (∀ c ∈ "a b".toList, c ≠ '?' ∧ c ≠ '#' ∧ Text.isControl c = false) ∧ "a b".toList.getLast? ≠ some ' '
    ∧ ((Registry.mk 1 [] [] 0).resolve (inBucket "b".toList "a b".toList)).map (fun resolved => resolved.1.2)
        = .ok ⟨["a%2520b".toList]⟩
    ∧ ((Registry.mk 1 [] [] 0).resolve (inMemory "name".toList "a b".toList)).map (fun resolved => resolved.1.2)
        = .ok ⟨["a b".toList]⟩
    ∧ ((Registry.mk 1 [] [] 0).resolve (inBucket "b".toList "a b".toList)).map (fun resolved => resolved.1.2)
        ≠ .ok (.ofText "a b".toList) := by
  have read : ((Registry.mk 1 [] [] 0).resolve (inBucket "b".toList "a b".toList)).map (fun resolved => resolved.1.2)
      = .ok ⟨["a%2520b".toList]⟩ := rfl
  refine ⟨Text.forall_of_all (by decide), by decide, Text.forall_of_all (by decide), by decide, read, rfl, fun same => ?_⟩
  rw [read] at same
  exact absurd (Except.ok.inj same) (by decide)

end Registry

end ThinScan
