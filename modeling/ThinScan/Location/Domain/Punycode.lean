import ThinScan.Text

set_option autoImplicit false

namespace ThinScan.Url.Domain.Punycode

def digit? (c : Char) : Option Nat :=
  if 'a' ≤ c && c ≤ 'z' then some (c.toNat - 'a'.toNat)
  else if '0' ≤ c && c ≤ '9' then some (c.toNat - '0'.toNat + 26)
  else none

def threshold (place bias : Nat) : Nat := min 26 (max 1 (place - bias))

def number? (bias : Nat) : (place weight : Nat) → Text → Option (Nat × Text)
  | _, _, [] => none
  | place, weight, c :: rest => do
      let digit ← digit? c
      let limit := threshold place bias
      if digit < limit then pure (digit * weight, rest)
      else
        let (value, left) ← number? bias (place + 36) (weight * (36 - limit)) rest
        pure (digit * weight + value, left)

theorem number?_shorter (bias place weight : Nat) (text : Text) (value : Nat) (left : Text)
    (read : number? bias place weight text = some (value, left)) : left.length < text.length := by
  induction text generalizing place weight value with
  | nil => simp [number?] at read
  | cons c rest ih =>
      simp only [number?, Option.bind_eq_bind, Option.bind_eq_some_iff] at read
      obtain ⟨digit, _, read⟩ := read
      split at read
      · simp only [pure, Option.some.injEq, Prod.mk.injEq] at read
        simp [← read.2]
      · simp only [Option.bind_eq_some_iff, pure, Option.some.injEq, Prod.mk.injEq] at read
        obtain ⟨⟨inner, remaining⟩, found, _, same⟩ := read
        cases same
        exact Nat.lt_succ_of_lt (ih _ _ _ found)

def reduced (delta steps : Nat) : Nat :=
  if 455 < delta then reduced (delta / 35) (steps + 36) else steps + 36 * delta / (delta + 38)
termination_by delta
decreasing_by omega

def adapt (delta count : Nat) (isFirst : Bool) : Nat :=
  let damped := if isFirst then delta / 700 else delta / 2
  reduced (damped + damped / count) 0

def isCharacter (number : Nat) : Bool := number < 0xd800 || (0xdfff < number && number < 0x110000)

-- Each number tells how far it is to the next character to put in: over all places of the text, then on to the next
-- code point.
def insertAll (bias point place : Nat) (text digits : Text) : Option Text :=
  if digits = [] then some text
  else
    match read : number? bias 36 1 digits with
    | none => none
    | some (delta, rest) =>
        let count := text.length + 1
        let reached := point + (place + delta) / count
        let here := (place + delta) % count
        if isCharacter reached then
          insertAll (adapt delta count (place = 0)) reached (here + 1) (text.insertIdx here (Char.ofNat reached)) rest
        else none
termination_by digits.length
decreasing_by exact number?_shorter _ _ _ _ _ _ read

def longest : Nat := 2000

def decode (label : Text) : Option Text :=
  let digits := (label.reverse.takeWhile (· ≠ '-')).reverse
  let kept := label.take (label.length - digits.length)
  if digits = [] || longest < label.length || kept = ['-'] then none
  else insertAll 72 128 0 kept.dropLast digits

end ThinScan.Url.Domain.Punycode
