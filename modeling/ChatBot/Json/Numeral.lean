import ChatBot.Binary64.Reading
import ChatBot.Json.Basic

/-!
Numbers of JSON as they are written, and what they stand for.

* `Numeral`: the sign and the runs of digits of a number;
* `Numeral.read?`: a number at the front of a text. It takes at least one character, by
  `Numeral.length_read?_lt`;
* `Numeral.number?`: the number that is meant. A whole number of at most 64 bits is exact. Any other
  number is found in two roundings: its digits are gathered in a significand of 64 bits, those that
  no longer fit being dropped, the significand is rounded to a binary64 number, and that is
  multiplied or divided by a power of ten.
-/

namespace ChatBot.Json

open ChatBot.Text

-- Powers are those of the core library, whatever else is imported.
attribute [local instance (high)] instPowNat

/-- A number as it is written: its sign, its digits in front of the point and behind it, and the
exponent, which is whether it is negative and its digits. A leading zero stands alone. -/
structure Numeral where
  negative : Bool
  whole : List Char
  fraction : Option (List Char)
  exponent : Option (Bool × List Char)
  deriving DecidableEq

namespace Numeral

/-- A run of digits, and what is left. -/
def digits (cs : List Char) : List Char × List Char := (cs.takeWhile isDigit, cs.dropWhile isDigit)

theorem length_digits_le (cs : List Char) : (digits cs).2.length ≤ cs.length :=
  (List.dropWhile_sublist isDigit).length_le

/-- A run of at least one digit, and what is left. -/
def digits? (cs : List Char) : Option (List Char × List Char) :=
  match digits cs with
  | ([], _) => none
  | run => some run

theorem length_digits?_le {cs ds rest : List Char} (h : digits? cs = some (ds, rest)) :
    rest.length ≤ cs.length := by
  have := length_digits_le cs
  unfold digits? at h
  split at h
  · simp at h
  · next hne =>
    have hr : (digits cs).2 = rest := by simpa using congrArg (Option.map Prod.snd) h
    rw [← hr]
    exact this

/-- The digits after a point, if one follows. -/
def fraction? : List Char → Option (Option (List Char) × List Char)
  | '.' :: cs => (digits? cs).map fun (ds, rest) => (some ds, rest)
  | cs => some (none, cs)

/-- An exponent, if its mark follows. -/
def exponent? : List Char → Option (Option (Bool × List Char) × List Char)
  | [] => some (none, [])
  | c :: cs =>
    if c = 'e' || c = 'E' then
      (digits? (takeSign cs).2).map fun (ds, rest) => (some ((takeSign cs).1, ds), rest)
    else some (none, c :: cs)

theorem length_fraction?_le {cs rest : List Char} {f : Option (List Char)}
    (h : fraction? cs = some (f, rest)) : rest.length ≤ cs.length := by
  unfold fraction? at h
  split at h
  · next ds =>
    obtain ⟨⟨run, left⟩, hr, heq⟩ := Option.map_eq_some_iff.1 h
    have := length_digits?_le hr
    simp only [Prod.mk.injEq] at heq
    rw [← heq.2]
    simp only [List.length_cons]
    omega
  · simp only [Option.some.injEq, Prod.mk.injEq] at h
    simp [h.2]

theorem length_takeSign_le (cs : List Char) : (takeSign cs).2.length ≤ cs.length := by
  unfold takeSign
  split <;> simp

theorem length_exponent?_le {cs rest : List Char} {e : Option (Bool × List Char)}
    (h : exponent? cs = some (e, rest)) : rest.length ≤ cs.length := by
  unfold exponent? at h
  split at h
  · simp only [Option.some.injEq, Prod.mk.injEq] at h
    simp [← h.2]
  · next c ds =>
    split at h
    · obtain ⟨⟨run, left⟩, hr, heq⟩ := Option.map_eq_some_iff.1 h
      have h1 := length_digits?_le hr
      have h2 := length_takeSign_le ds
      simp only [Prod.mk.injEq] at heq
      rw [← heq.2]
      simp only [List.length_cons]
      omega
    · simp only [Option.some.injEq, Prod.mk.injEq] at h
      simp [← h.2]

/-- The digits in front of the point: a zero, or a run that starts with no zero. -/
def whole? (cs : List Char) : Option (List Char × List Char) :=
  match digits? cs with
  | some ('0' :: _ :: _, _) => none
  | run => run

theorem length_whole?_lt {cs ds rest : List Char} (h : whole? cs = some (ds, rest)) :
    rest.length < cs.length := by
  have hrun : digits? cs = some (ds, rest) := by
    unfold whole? at h
    split at h
    · simp at h
    · exact h
  unfold digits? at hrun
  split at hrun
  · simp at hrun
  · next hne =>
    have hd : digits cs = (ds, rest) := by simpa using hrun
    have hnil : ds ≠ [] := fun hnil => hne rest (by rw [hd, hnil])
    have hds : cs.takeWhile isDigit = ds := congrArg Prod.fst hd
    have hrest : cs.dropWhile isDigit = rest := congrArg Prod.snd hd
    have hsum : (cs.takeWhile isDigit ++ cs.dropWhile isDigit).length = cs.length := by
      rw [List.takeWhile_append_dropWhile]
    have hpos := List.length_pos_iff.2 hnil
    rw [hds, hrest, List.length_append] at hsum
    omega

/-- A minus sign in front, and what follows. -/
def minus : List Char → Bool × List Char
  | '-' :: cs => (true, cs)
  | cs => (false, cs)

theorem length_minus_le (cs : List Char) : (minus cs).2.length ≤ cs.length := by
  unfold minus
  split <;> simp

/-- A number at the front of a text, and what is left. -/
def read? (cs : List Char) : Option (Numeral × List Char) := do
  let (whole, afterWhole) ← whole? (minus cs).2
  let (fraction, afterFraction) ← fraction? afterWhole
  let (exponent, rest) ← exponent? afterFraction
  return (⟨(minus cs).1, whole, fraction, exponent⟩, rest)

/-- A number takes at least one character. -/
theorem length_read?_lt {cs rest : List Char} {n : Numeral} (h : read? cs = some (n, rest)) :
    rest.length < cs.length := by
  simp only [read?, Option.bind_eq_bind, Option.bind_eq_some_iff, Option.pure_def] at h
  obtain ⟨⟨whole, afterWhole⟩, hw, ⟨fraction, afterFraction⟩, hf, ⟨exponent, left⟩, he, heq⟩ := h
  simp only [Option.some.injEq, Prod.mk.injEq] at heq
  have h0 := length_minus_le cs
  have h1 : afterWhole.length < (minus cs).2.length := length_whole?_lt hw
  have h2 : afterFraction.length ≤ afterWhole.length := length_fraction?_le hf
  have h3 : left.length ≤ afterFraction.length := length_exponent?_le he
  rw [← heq.2]
  omega

/-! ### What a numeral stands for -/

/-- The first number that no longer fits a significand. -/
def significandBound : Nat := 2 ^ (64 : Nat)

/-- Appends digits to a significand as long as it fits, and leaves the others. -/
def gather (significand : Nat) : List Char → Nat × List Char
  | [] => (significand, [])
  | c :: cs =>
    if 10 * significand + digitValue c < significandBound then
      gather (10 * significand + digitValue c) cs
    else (significand, c :: cs)

/-- The power of ten as a binary64 number. -/
def powerOfTen (n : Nat) : Float := Binary64.nearest false (10 ^ n) 1

/-- The greatest power of ten among the binary64 numbers. -/
def maxPower : Nat := 308

/-- A number divided by a power of ten, in steps of at most the greatest power of ten. -/
def scaleDown (x : Float) (n : Nat) : Float :=
  if n ≤ maxPower then x / powerOfTen n
  else if x == 0 then x
  else scaleDown (x / powerOfTen maxPower) (n - maxPower)
termination_by n
decreasing_by
  simp only [maxPower] at *
  omega

/-- A number multiplied by a power of ten; none, if that is too large. -/
def scaleUp (x : Float) (n : Nat) : Option Float :=
  if n ≤ maxPower then
    let y := x * powerOfTen n
    if y.isInf then none else some y
  else if x == 0 then some x
  else none

/-- A number times a power of ten. -/
def scale (x : Float) (exponent : Int) : Option Float :=
  if 0 ≤ exponent then scaleUp x exponent.toNat else some (scaleDown x (-exponent).toNat)

/-- An exponent from here on counts as infinite. -/
def exponentBound : Nat := 2 ^ (31 : Nat)

/-- The significand and the power of ten that the digits before an exponent make up. Dropped digits
before the point count as a power of ten, those after it not at all. -/
def significand (n : Numeral) : Nat × Int :=
  let (gathered, droppedWhole) := gather 0 n.whole
  let fraction := n.fraction.getD []
  let (all, droppedFraction) := gather gathered fraction
  (all, (droppedWhole.length : Int) - (fraction.length - droppedFraction.length))

/-- The magnitude of a number that is not a whole number of 64 bits. -/
def magnitude? (n : Numeral) : Option Float :=
  let (digits, point) := n.significand
  let x := Binary64.nearest false digits 1
  match n.exponent with
  | none => scale x point
  | some (negative, ds) =>
    let e := numberOfDigits ds
    if exponentBound ≤ e then (if digits = 0 || negative then some 0 else none)
    else scale x (if negative then point - e else point + e)

/-- The number that is meant; none, if it is too large for a number. Zero with a minus sign is no
whole number, as it keeps its sign. -/
def number? (n : Numeral) : Option Number :=
  let signed (x : Float) : Number := .real (if n.negative then -x else x)
  let whole := numberOfDigits n.whole
  if n.fraction.isSome || n.exponent.isSome || significandBound ≤ whole then n.magnitude?.map signed
  else if !n.negative then some (.integer whole)
  else if whole = 0 || 2 ^ (63 : Nat) < whole then some (signed (Binary64.nearest false whole 1))
  else some (.integer (-whole))

end Numeral

end ChatBot.Json
