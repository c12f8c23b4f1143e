import ChatBot.Proofs.Binary64.Parts
import ChatBot.Proofs.Binary64.Shortest
import ChatBot.Proofs.Json.Numeral

/-!
What is read back from the text of a binary64 number.

* `numberOfDigits_append`, `gather_of_lt`: a run of digits is a number, and none of them
  is dropped if 64 bits hold it;
* `Numeral.decimal`: what the digits of a numeral say. `magnitude?_eq` says what is made of it;
* `Numeral.ofFinite`: the numeral of a number. `text_real` says that it is the one written, and
  `magnitude?_ofFinite` what is made of its digits;
* `reread`: the number that is read back. `exists_numeral_of_isFinite` says so.
-/

namespace ChatBot

namespace Text

/-! ### Runs of digits -/

lemma numberOfDigits_append (ds es : List Char) :
    numberOfDigits (ds ++ es) = numberOfDigits ds * 10 ^ es.length + numberOfDigits es := by
  unfold numberOfDigits
  rw [List.foldl_append]
  generalize ds.foldl (fun n c => 10 * n + digitValue c) 0 = n
  induction es using List.reverseRecOn with
  | nil => simp
  | append_singleton es c ih =>
      rw [List.foldl_append, List.foldl_append, ih, List.length_append, List.length_singleton,
        pow_succ]
      simp only [List.foldl_cons, List.foldl_nil]
      ring

lemma numberOfDigits_zeros (n : ℕ) : numberOfDigits (Binary64.zeros n) = 0 := by
  induction n with
  | zero => rfl
  | succ n ih =>
      have hzeros : Binary64.zeros (n + 1) = ['0'] ++ Binary64.zeros n := rfl
      have hzero : numberOfDigits ['0'] = 0 := rfl
      rw [hzeros, numberOfDigits_append, ih, hzero, zero_mul]

end Text

namespace Json.Numeral

open ChatBot.Text ChatBot.Binary64

/-! ### What digits say -/

lemma le_foldl_digits (n : ℕ) (ds : List Char) :
    n ≤ ds.foldl (fun n c => 10 * n + digitValue c) n := by
  induction ds generalizing n with
  | nil => exact le_rfl
  | cons d ds ih => exact le_trans (by omega) (ih (10 * n + digitValue d))

/-- Digits that make up a number of 64 bits are all gathered. -/
lemma gather_of_lt {n : ℕ} {ds : List Char}
    (h : ds.foldl (fun n c => 10 * n + digitValue c) n < significandBound) :
    gather n ds = (ds.foldl (fun n c => 10 * n + digitValue c) n, []) := by
  induction ds generalizing n with
  | nil => rfl
  | cons c cs ih =>
      rw [List.foldl_cons] at h ⊢
      rw [gather, if_pos ((le_foldl_digits _ cs).trans_lt h)]
      exact ih h

/-- The decimal that the digits of a numeral say. -/
def decimal (n : Numeral) : Decimal where
  significand := numberOfDigits (n.whole ++ n.fraction.getD [])
  exponent := (match n.exponent with
    | none => 0
    | some (negative, ds) => if negative then -(numberOfDigits ds : ℤ) else numberOfDigits ds) -
      (n.fraction.getD []).length

lemma significand_eq {n : Numeral} (h : n.decimal.significand < significandBound) :
    n.significand = (n.decimal.significand, -((n.fraction.getD []).length : ℤ)) := by
  have hall : n.decimal.significand = (n.fraction.getD []).foldl
      (fun n c => 10 * n + digitValue c) (numberOfDigits n.whole) := List.foldl_append
  rw [hall] at h ⊢
  have hwhole : gather 0 n.whole = (numberOfDigits n.whole, []) :=
    gather_of_lt ((le_foldl_digits _ _).trans_lt h)
  simp only [significand, hwhole, gather_of_lt h, List.length_nil]
  simp

/-- The digits of a numeral are rounded to a number, and that is scaled. -/
lemma magnitude?_eq {n : Numeral} (h : n.decimal.significand < significandBound)
    (hexponent : ∀ e ∈ n.exponent, numberOfDigits e.2 < exponentBound) :
    n.magnitude? = scale (nearest false n.decimal.significand 1) n.decimal.exponent := by
  simp only [magnitude?, significand_eq h]
  rcases hn : n.exponent with _ | ⟨negative, ds⟩
  · simp [decimal, hn]
  · have hds : ¬exponentBound ≤ numberOfDigits ds := not_le.mpr (hexponent _ hn)
    have hpoint : n.decimal.exponent = if negative
        then -((n.fraction.getD []).length : ℤ) - numberOfDigits ds
        else -((n.fraction.getD []).length : ℤ) + numberOfDigits ds := by
      simp only [decimal, hn]
      cases negative <;> simp <;> ring
    simp only [hds, if_false, hpoint]

/-! ### How numbers are written -/

/-- The numeral of digits with the point behind the first `point` of them. -/
def ofPositional (negative : Bool) (ds : List Char) (point : ℤ) : Numeral :=
  if point ≤ 0 then ⟨negative, ['0'], some (zeros (-point).toNat ++ ds), none⟩
  else if ds.length ≤ point.toNat then
    ⟨negative, ds ++ zeros (point.toNat - ds.length), some ['0'], none⟩
  else ⟨negative, ds.take point.toNat, some (ds.drop point.toNat), none⟩

/-- The numeral of digits with the point behind the first of them, and an exponent. -/
def ofScientific (negative : Bool) (ds : List Char) (exponent : ℤ) : Numeral :=
  ⟨negative, ds.take 1, if ds.drop 1 = [] then none else some (ds.drop 1),
    some (decide (exponent < 0), Nat.toDigits 10 exponent.natAbs)⟩

section Digits

variable (negative : Bool) {ds : List Char}

lemma text_ofPositional (point : ℤ) :
    (ofPositional negative ds point).text =
      (if negative then ['-'] else []) ++ Layout.positional true ds point := by
  unfold ofPositional Layout.positional
  split
  · simp [text, fractionText, exponentText]
  · split
    · simp [text, fractionText, exponentText]
    · simp [text, fractionText, exponentText]

lemma text_ofScientific (exponent : ℤ) :
    (ofScientific negative ds exponent).text =
      (if negative then ['-'] else []) ++ Layout.scientific true ds exponent := by
  have hsign : (if decide (exponent < 0) = true then '-' else '+') ::
      Nat.toDigits 10 exponent.natAbs =
      (if exponent < 0 then ['-'] else ['+']) ++ Binary64.digits exponent.natAbs := by
    rcases lt_or_ge exponent 0 with h | h
    · simp [h, Binary64.digits]
    · simp [h.not_gt, Binary64.digits]
  simp only [ofScientific, Layout.scientific, text, exponentText, hsign, if_true]
  rcases ds.drop 1 with _ | ⟨c, cs⟩
  · cases negative <;> simp [fractionText]
  · cases negative <;> simp [fractionText]

lemma isRun_zero : IsRun ['0'] := isRun_toDigits 0

lemma isRun_zeros_append (n : ℕ) (hds : IsRun ds) : IsRun (zeros n ++ ds) := by
  refine ⟨List.append_ne_nil_of_right_ne_nil _ hds.1, fun c hc => ?_⟩
  rcases List.mem_append.mp hc with hc | hc
  · obtain rfl := List.eq_of_mem_replicate hc
    rfl
  · exact hds.2 c hc

lemma isRun_append_zeros (n : ℕ) (hds : IsRun ds) : IsRun (ds ++ zeros n) := by
  refine ⟨List.append_ne_nil_of_left_ne_nil hds.1 _, fun c hc => ?_⟩
  rcases List.mem_append.mp hc with hc | hc
  · exact hds.2 c hc
  · obtain rfl := List.eq_of_mem_replicate hc
    rfl

lemma isRun_take {n : ℕ} (hds : IsRun ds) (hn : 0 < n) : IsRun (ds.take n) := by
  refine ⟨fun hnil => ?_, fun c hc => hds.2 c (List.mem_of_mem_take hc)⟩
  rcases List.take_eq_nil_iff.mp hnil with h | h
  · omega
  · exact hds.1 h

lemma isRun_drop {n : ℕ} (hds : IsRun ds) (hn : n < ds.length) : IsRun (ds.drop n) := by
  refine ⟨fun hnil => ?_, fun c hc => hds.2 c (List.mem_of_mem_drop hc)⟩
  have := List.drop_eq_nil_iff.mp hnil
  omega

/-- A run that starts with no zero is no zero with more behind it. -/
lemma ne_zero_cons (hzero : ds.head? ≠ some '0') (c : Char) (cs : List Char) :
    ds ≠ '0' :: c :: cs := by
  rintro rfl
  exact hzero rfl

lemma wellFormed_ofPositional (hds : IsRun ds) (hzero : ds.head? ≠ some '0') (point : ℤ) :
    (ofPositional negative ds point).WellFormed := by
  unfold ofPositional
  split
  · next hfront =>
    refine ⟨isRun_zero, fun c cs => by simp, fun es hes => ?_, by simp⟩
    obtain rfl := Option.mem_some_iff.mp hes
    exact isRun_zeros_append _ hds
  · next hfront =>
    split
    · refine ⟨isRun_append_zeros _ hds, ne_zero_cons ?_, fun es hes => ?_, by simp⟩
      · rwa [List.head?_append_of_ne_nil _ hds.1]
      · obtain rfl := Option.mem_some_iff.mp hes
        exact isRun_zero
    · refine ⟨isRun_take hds (by omega), ne_zero_cons ?_, fun es hes => ?_, by simp⟩
      · rwa [List.head?_take, if_neg (by omega)]
      · obtain rfl := Option.mem_some_iff.mp hes
        exact isRun_drop hds (by omega)

lemma wellFormed_ofScientific (hds : IsRun ds) (exponent : ℤ) :
    (ofScientific negative ds exponent).WellFormed := by
  refine ⟨isRun_take hds Nat.one_pos, fun c cs h => ?_, fun es hes => ?_, fun e he => ?_⟩
  · have hlength := congrArg List.length h
    simp only [ofScientific, List.length_take, List.length_cons] at hlength
    omega
  · simp only [ofScientific] at hes
    split at hes
    · simp at hes
    · next hne =>
      obtain rfl := Option.mem_some_iff.mp hes
      exact ⟨hne, fun c hc => hds.2 c (List.mem_of_mem_drop hc)⟩
  · obtain rfl := Option.mem_some_iff.mp he
    exact isRun_toDigits _

/-- Digits with a point among or in front of them say the same as without
it, but for the exponent. -/
lemma decimal_ofPositional {point : ℤ} (h : point < ds.length) :
    (ofPositional negative ds point).decimal = ⟨numberOfDigits ds, point - ds.length⟩ := by
  unfold ofPositional
  split
  · next hfront =>
    have hdigits : numberOfDigits (['0'] ++ (zeros (-point).toNat ++ ds)) = numberOfDigits ds := by
      have hzeros : ['0'] ++ (zeros (-point).toNat ++ ds) = zeros ((-point).toNat + 1) ++ ds := rfl
      rw [hzeros, numberOfDigits_append, numberOfDigits_zeros, zero_mul, zero_add]
    simp only [decimal, Option.getD_some, hdigits, Decimal.mk.injEq, true_and]
    simp only [zeros, List.length_append, List.length_replicate]
    omega
  · rw [if_neg (by omega)]
    simp only [decimal, Option.getD_some, List.take_append_drop, Decimal.mk.injEq, true_and,
      List.length_drop]
    omega

/-- Digits with a point behind them say ten times as much in tenths. -/
lemma decimal_ofPositional_of_le (hds : ds ≠ []) (k : ℕ) :
    (ofPositional negative ds (ds.length + k)).decimal =
      ⟨numberOfDigits ds * 10 ^ (k + 1), -1⟩ := by
  have hlength := List.length_pos_iff.mpr hds
  have hpoint : ((ds.length : ℤ) + k).toNat = ds.length + k := by omega
  rw [ofPositional, if_neg (by omega), hpoint, if_pos (by omega), Nat.add_sub_cancel_left]
  have hzero : zeros k ++ ['0'] = zeros (k + 1) := (List.replicate_succ' ..).symm
  have hdigits : numberOfDigits (ds ++ zeros k ++ ['0']) = numberOfDigits ds * 10 ^ (k + 1) := by
    rw [List.append_assoc, hzero, numberOfDigits_append, numberOfDigits_zeros, add_zero, zeros,
      List.length_replicate]
  simp only [decimal, Option.getD_some, hdigits]
  rfl

lemma decimal_ofScientific (hds : ds ≠ []) (exponent : ℤ) :
    (ofScientific negative ds exponent).decimal =
      ⟨numberOfDigits ds, exponent + 1 - ds.length⟩ := by
  have hlength := List.length_pos_iff.mpr hds
  have hfraction : (if ds.drop 1 = [] then none else some (ds.drop 1)).getD [] = ds.drop 1 := by
    split
    · next h => exact h.symm
    · rfl
  simp only [decimal, ofScientific, hfraction, List.take_append_drop, numberOfDigits_toDigits,
    List.length_drop, Decimal.mk.injEq, true_and]
  rcases lt_or_ge exponent 0 with h | h
  · rw [decide_eq_true h, if_pos rfl]
    omega
  · rw [decide_eq_false h.not_gt, if_neg (by simp)]
    omega

end Digits

/-! ### Numbers -/

/-- The number of digits in front of the point of a decimal. -/
def point (d : Decimal) : ℤ := (Nat.toDigits 10 d.significand).length + d.exponent

/-- The numeral of a decimal that is not zero. -/
def ofDecimal (negative : Bool) (d : Decimal) : Numeral :=
  if Layout.interchange.isPositional (point d) then
    ofPositional negative (Nat.toDigits 10 d.significand) (point d)
  else ofScientific negative (Nat.toDigits 10 d.significand) (point d - 1)

/-- The decimal as it is written: a whole number below `10 ^ 16` has a zero behind its point. -/
def written (d : Decimal) : Decimal :=
  if 0 ≤ d.exponent ∧ point d ≤ 16 then ⟨d.significand * 10 ^ (d.exponent.toNat + 1), -1⟩ else d

/-- The numeral of the number `m * 2 ^ e`. -/
def ofFinite (negative : Bool) (m : ℕ) (e : ℤ) : Numeral :=
  if m = 0 then ⟨negative, ['0'], some ['0'], none⟩ else ofDecimal negative (shortest .even m e)

/-- The decimal that is written for the number `m * 2 ^ e`. -/
def writtenFor (m : ℕ) (e : ℤ) : Decimal :=
  if m = 0 then ⟨0, -1⟩ else written (shortest .even m e)

lemma isPositional_interchange (point : ℤ) :
    Layout.interchange.isPositional point = true ↔ -5 < point ∧ point ≤ 16 := by
  simp [Layout.isPositional, Layout.interchange]

variable (negative : Bool) {d : Decimal}

lemma text_ofDecimal (d : Decimal) :
    (ofDecimal negative d).text =
      (if negative then ['-'] else []) ++ Layout.interchange.writeDecimal d := by
  have hwrite : Layout.interchange.writeDecimal d =
      if Layout.interchange.isPositional (point d)
      then Layout.positional true (Nat.toDigits 10 d.significand) (point d)
      else Layout.scientific true (Nat.toDigits 10 d.significand) (point d - 1) := rfl
  rw [hwrite, ofDecimal]
  by_cases hpoint : Layout.interchange.isPositional (point d) = true
  · rw [if_pos hpoint, if_pos hpoint]
    exact text_ofPositional negative _
  · rw [if_neg hpoint, if_neg hpoint]
    exact text_ofScientific negative _

lemma wellFormed_ofDecimal (hd : 0 < d.significand) : (ofDecimal negative d).WellFormed := by
  unfold ofDecimal
  split
  · exact wellFormed_ofPositional negative (isRun_toDigits _) (head?_toDigits_ne hd) _
  · exact wellFormed_ofScientific negative (isRun_toDigits _) _

lemma decimal_ofDecimal (d : Decimal) : (ofDecimal negative d).decimal = written d := by
  have hne : Nat.toDigits 10 d.significand ≠ [] := Nat.toDigits_ne_nil
  have hlength := List.length_pos_iff.mpr hne
  have hself :
      (⟨d.significand, point d - (Nat.toDigits 10 d.significand).length⟩ : Decimal) = d := by
    rw [point, add_sub_cancel_left]
  unfold ofDecimal written
  split
  · next hpoint =>
    obtain ⟨-, hbelow⟩ := (isPositional_interchange _).mp hpoint
    rcases lt_or_ge d.exponent 0 with hneg | hneg
    · rw [if_neg (fun h => hneg.not_ge h.1), decimal_ofPositional negative (by unfold point; omega),
        numberOfDigits_toDigits]
      exact hself
    · obtain ⟨k, hk⟩ := Int.eq_ofNat_of_zero_le hneg
      rw [if_pos ⟨hneg, hbelow⟩, point, hk, decimal_ofPositional_of_le negative hne,
        numberOfDigits_toDigits]
      rfl
  · next hpoint =>
    rw [if_neg, decimal_ofScientific negative hne, numberOfDigits_toDigits, sub_add_cancel]
    · exact hself
    · rintro ⟨hneg, hbelow⟩
      refine hpoint ((isPositional_interchange _).mpr ⟨?_, hbelow⟩)
      unfold point
      omega

/-! ### What is read back -/

/-- A decimal whose significand is small is written with a significand that fits 64 bits. -/
lemma significand_written_lt (hd : d.significand < 2 ^ 58) :
    (written d).significand < significandBound := by
  have hlength : 0 < (Nat.toDigits 10 d.significand).length := Nat.length_toDigits_pos
  unfold written significandBound
  split
  · next h =>
    obtain ⟨hexponent, hpoint⟩ := h
    obtain ⟨k, hk⟩ := Int.eq_ofNat_of_zero_le hexponent
    unfold point at hpoint
    obtain ⟨l, hl⟩ : ∃ l, l + k = 16 := ⟨16 - k, by omega⟩
    have hlt : d.significand < 10 ^ l :=
      (Nat.length_toDigits_le_iff (by norm_num) (by omega)).mp (by omega)
    rw [hk, Int.toNat_natCast]
    calc d.significand * 10 ^ (k + 1) < 10 ^ l * 10 ^ (k + 1) :=
          Nat.mul_lt_mul_of_pos_right hlt (by positivity)
      _ = 10 ^ (l + k) * 10 := by ring
      _ < 2 ^ 64 := by rw [hl]; norm_num
  · show d.significand < 2 ^ 64
    omega

/-- The exponent that is written has few digits. -/
lemma exponent_ofDecimal_lt (hd : d.significand < 2 ^ 58) (hlow : -345 ≤ d.exponent)
    (hhigh : d.exponent ≤ 309) :
    ∀ e ∈ (ofDecimal negative d).exponent, numberOfDigits e.2 < exponentBound := by
  have hlength : (Nat.toDigits 10 d.significand).length ≤ 18 :=
    (Nat.length_toDigits_le_iff (by norm_num) (by norm_num)).mpr (by omega)
  intro e he
  unfold ofDecimal at he
  split at he
  · unfold ofPositional at he
    split at he
    · simp at he
    · split at he <;> simp at he
  · obtain rfl := Option.mem_some_iff.mp he
    rw [numberOfDigits_toDigits]
    unfold point exponentBound
    omega

section Finite

variable {negative : Bool} {m : ℕ} {e : ℤ} {x : Float}

/-- A number is written as its numeral. -/
lemma text_real (hx : parts x = .finite negative m e) :
    (Number.real x).text = (ofFinite negative m e).text := by
  have hwrite : (Number.real x).text =
      if negative then
        '-' :: (if m = 0 then "0.0".toList
          else Layout.interchange.writeDecimal (shortest .even m e))
      else
        if m = 0 then "0.0".toList else Layout.interchange.writeDecimal (shortest .even m e) := by
    simp only [Number.text, Layout.write, hx]
    rfl
  rw [hwrite, ofFinite]
  by_cases hm : m = 0
  · rw [if_pos hm, if_pos hm]
    cases negative <;> rfl
  · rw [if_neg hm, if_neg hm, text_ofDecimal]
    cases negative <;> simp

variable (hm : m < 2 ^ 53) (hlow : -1074 ≤ e) (hhigh : e ≤ 971)

include hm hlow hhigh

lemma wellFormed_ofFinite : (ofFinite negative m e).WellFormed := by
  unfold ofFinite
  split
  · refine ⟨isRun_zero, fun c cs => by simp, fun ds hds => ?_, by simp⟩
    obtain rfl := Option.mem_some_iff.mp hds
    exact isRun_zero
  · next hzero =>
    exact wellFormed_ofDecimal negative
      (shortest_spec .even (Nat.pos_of_ne_zero hzero) hm hlow hhigh).1

/-- What is made of the numeral of a number. -/
lemma magnitude?_ofFinite : (ofFinite negative m e).magnitude? =
    scale (nearest false (writtenFor m e).significand 1) (writtenFor m e).exponent := by
  unfold ofFinite writtenFor
  split
  · have hzero : 0 < significandBound := by decide
    exact magnitude?_eq (n := ⟨negative, ['0'], some ['0'], none⟩) hzero (by simp)
  · next hzero =>
    obtain ⟨-, hsignificand, hfrom, hto⟩ :=
      shortest_spec .even (Nat.pos_of_ne_zero hzero) hm hlow hhigh
    have hlt := significand_written_lt hsignificand
    rw [← decimal_ofDecimal negative] at hlt ⊢
    exact magnitude?_eq hlt (exponent_ofDecimal_lt negative hsignificand hfrom hto)

omit hm hlow hhigh in
/-- The numeral of a number carries its sign and shows that it is no whole number. -/
lemma shape_ofFinite (negative : Bool) (m : ℕ) (e : ℤ) :
    (ofFinite negative m e).negative = negative ∧
    ((ofFinite negative m e).fraction.isSome || (ofFinite negative m e).exponent.isSome) =
      true := by
  unfold ofFinite
  split
  · exact ⟨rfl, rfl⟩
  · unfold ofDecimal
    split
    · unfold ofPositional
      split
      · exact ⟨rfl, rfl⟩
      · split <;> exact ⟨rfl, rfl⟩
    · exact ⟨rfl, Bool.or_true _⟩

end Finite

end Json.Numeral

namespace Json

open Binary64 (parts nearest)

/-- The number that is read back from the text of a number: the digits that are written are rounded
to a number, which is multiplied or divided by a power of ten. -/
def reread (x : Float) : Option Float :=
  match parts x with
  | .finite negative m e =>
    (Numeral.scale (nearest false (Numeral.writtenFor m e).significand 1)
      (Numeral.writtenFor m e).exponent).map fun y => if negative then -y else y
  | _ => none

/-- **Reading back**: a finite number is written as a numeral, and that
stands for what is read back. -/
theorem exists_numeral_of_isFinite {x : Float} (hx : x.isFinite = true) :
    ∃ n : Numeral, n.WellFormed ∧ (Number.real x).text = n.text ∧
      n.number? = (reread x).map .real := by
  obtain ⟨negative, m, e, hparts⟩ := Binary64.exists_parts_of_isFinite hx
  obtain ⟨hm, hlow, hhigh⟩ := Binary64.parts_bounds hparts
  refine ⟨Numeral.ofFinite negative m e, Numeral.wellFormed_ofFinite hm hlow hhigh,
    Numeral.text_real hparts, ?_⟩
  obtain ⟨hsign, hreal⟩ := Numeral.shape_ofFinite negative m e
  rw [Numeral.number?, hreal, Bool.true_or, if_pos rfl,
    Numeral.magnitude?_ofFinite hm hlow hhigh, hsign, reread, hparts, Option.map_map]
  rfl

end Json

end ChatBot
