import Mathlib.Tactic
import Mathlib.Data.Nat.Digits.Defs
import Mathlib.Data.Nat.Factorial.Basic
import ChatBot.Arithmetic.Factorial
import ChatBot.Proofs.Json.Numeral
import ChatBot.Proofs.Text.Integer

/-!
Factorials are exact.

* `Limbs.value`, `Limbs.IsNormal`: the number that limbs stand for, and the limbs that a number has;
* `Limbs.products`: what the limbs come to before they are carried. By `Limbs.products_lt` a word
  has room for them, so by `Limbs.value_mul` and `Limbs.IsNormal.mul` nothing is lost of a product;
* `digitsFromTop_reverse`: the digits of the limbs are those of the number;
* `factorialLimbs_spec`: the limbs are those of the factorial;
* `factorialText_exact`: the text is that of the factorial, and no word overflows on the way.
-/

namespace ChatBot.Arithmetic

namespace Limbs

variable {factor carry limb : UInt64} {limbs rest : List UInt64}

/-! ### Limbs of a number -/

/-- The number that limbs stand for. -/
def value (limbs : List UInt64) : ℕ := Nat.ofDigits (10 ^ 9) (limbs.map UInt64.toNat)

/-- The limbs are those of a number: none reaches the base, and the highest one is not zero. -/
structure IsNormal (limbs : List UInt64) : Prop where
  lt_base : ∀ limb ∈ limbs, limb.toNat < 10 ^ 9
  top_ne : ∀ limb ∈ limbs.getLast?, limb ≠ 0

@[simp]
lemma toNat_base : base.toNat = 10 ^ 9 := rfl

@[simp]
lemma value_nil : value [] = 0 := rfl

@[simp]
lemma value_cons (limb : UInt64) (rest : List UInt64) :
    value (limb :: rest) = limb.toNat + 10 ^ 9 * value rest :=
  Nat.ofDigits_cons

lemma IsNormal.nil : IsNormal [] := ⟨by simp, by simp⟩

/-- The highest limb of a number that is not zero is not zero. -/
lemma IsNormal.cons (hlimb : limb.toNat < 10 ^ 9) (hpos : 0 < value (limb :: rest))
    (hrest : IsNormal rest) : IsNormal (limb :: rest) := by
  refine ⟨List.forall_mem_cons.mpr ⟨hlimb, hrest.lt_base⟩, fun top hmem => ?_⟩
  cases rest with
  | nil =>
      obtain rfl : limb = top := by simpa using hmem
      rintro rfl
      simp at hpos
  | cons next rest => exact hrest.top_ne top (by rwa [List.getLast?_cons_cons] at hmem)

lemma IsNormal.tail (h : IsNormal (limb :: rest)) : IsNormal rest := by
  refine ⟨(List.forall_mem_cons.mp h.lt_base).2, fun top hmem => h.top_ne top ?_⟩
  rw [List.getLast?_cons, Option.mem_def.mp hmem]
  rfl

/-- A number of at least one limb is not zero. -/
lemma IsNormal.value_pos (h : IsNormal limbs) (hne : limbs ≠ []) : 0 < value limbs := by
  induction limbs with
  | nil => exact absurd rfl hne
  | cons limb rest ih =>
      rw [value_cons]
      cases rest with
      | nil =>
          have hlimb : limb ≠ 0 := h.top_ne limb rfl
          have hpos : limb.toNat ≠ 0 := fun hzero => hlimb (UInt64.toNat_inj.mp hzero)
          omega
      | cons next rest =>
          have hrest := ih h.tail (List.cons_ne_nil _ _)
          omega

/-! ### Carries -/

lemma toNat_mod_base_lt (product : UInt64) : (product % base).toNat < 10 ^ 9 := by
  rw [UInt64.toNat_mod, toNat_base]
  exact Nat.mod_lt _ (by norm_num)

/-- The limbs of a carry stand for it. -/
lemma value_ofCarry (carry : UInt64) : value (ofCarry carry) = carry.toNat := by
  fun_induction ofCarry carry with
  | case1 => rfl
  | case2 carry hne ih =>
      rw [value_cons, ih, UInt64.toNat_mod, UInt64.toNat_div, toNat_base]
      exact Nat.mod_add_div _ _

lemma isNormal_ofCarry (carry : UInt64) : IsNormal (ofCarry carry) := by
  fun_induction ofCarry carry with
  | case1 => exact .nil
  | case2 carry hne ih =>
      have hvalue := value_ofCarry carry
      rw [ofCarry, if_neg hne] at hvalue
      refine .cons (toNat_mod_base_lt carry) ?_ ih
      rw [hvalue]
      exact Nat.pos_of_ne_zero fun hzero => hne (UInt64.toNat_inj.mp hzero)

/-! ### Products -/

/-- What the limbs come to one after the other: the product with the factor and the carry from
below, not cut to a word. -/
def products (factor carry : UInt64) : List UInt64 → List ℕ
  | [] => []
  | limb :: rest =>
    (limb.toNat * factor.toNat + carry.toNat) ::
      products factor ((limb * factor + carry) / base) rest

/-- A carry that is below the factor keeps the product below that of the whole base. -/
lemma product_lt (hlimb : limb.toNat < 10 ^ 9) (hcarry : carry.toNat < factor.toNat) :
    limb.toNat * factor.toNat + carry.toNat < 10 ^ 9 * factor.toNat :=
  calc limb.toNat * factor.toNat + carry.toNat
      < limb.toNat * factor.toNat + factor.toNat := Nat.add_lt_add_left hcarry _
    _ = (limb.toNat + 1) * factor.toNat := (Nat.succ_mul _ _).symm
    _ ≤ 10 ^ 9 * factor.toNat := Nat.mul_le_mul_right _ hlimb

/-- A word has room for a product. -/
lemma toNat_product (hlimb : limb.toNat < 10 ^ 9) (hcarry : carry.toNat < factor.toNat)
    (hfit : 10 ^ 9 * factor.toNat ≤ 2 ^ 64) :
    (limb * factor + carry).toNat = limb.toNat * factor.toNat + carry.toNat := by
  have hlt := (product_lt hlimb hcarry).trans_le hfit
  rw [UInt64.toNat_add, UInt64.toNat_mul, Nat.mod_add_mod, Nat.mod_eq_of_lt hlt]

/-- What is carried on is below the factor again. -/
lemma carry_lt (hlimb : limb.toNat < 10 ^ 9) (hcarry : carry.toNat < factor.toNat)
    (hfit : 10 ^ 9 * factor.toNat ≤ 2 ^ 64) :
    ((limb * factor + carry) / base).toNat < factor.toNat := by
  rw [UInt64.toNat_div, toNat_base, toNat_product hlimb hcarry hfit]
  exact Nat.div_lt_of_lt_mul (product_lt hlimb hcarry)

lemma products_lt (hlimbs : ∀ limb ∈ limbs, limb.toNat < 10 ^ 9)
    (hcarry : carry.toNat < factor.toNat) (hfit : 10 ^ 9 * factor.toNat ≤ 2 ^ 64) :
    ∀ p ∈ products factor carry limbs, p < 10 ^ 9 * factor.toNat := by
  induction limbs generalizing carry with
  | nil => exact List.forall_mem_nil _
  | cons limb rest ih =>
      obtain ⟨hlimb, hrest⟩ := List.forall_mem_cons.mp hlimbs
      exact List.forall_mem_cons.mpr
        ⟨product_lt hlimb hcarry, ih hrest (carry_lt hlimb hcarry hfit)⟩

/-- The limbs of the product stand for the product. -/
lemma value_mul (hlimbs : ∀ limb ∈ limbs, limb.toNat < 10 ^ 9) (hcarry : carry.toNat < factor.toNat)
    (hfit : 10 ^ 9 * factor.toNat ≤ 2 ^ 64) :
    value (mul factor carry limbs) = value limbs * factor.toNat + carry.toNat := by
  induction limbs generalizing carry with
  | nil => rw [mul, value_ofCarry, value_nil, Nat.zero_mul, Nat.zero_add]
  | cons limb rest ih =>
      obtain ⟨hlimb, hrest⟩ := List.forall_mem_cons.mp hlimbs
      have hproduct := toNat_product hlimb hcarry hfit
      have hdiv := Nat.mod_add_div (limb.toNat * factor.toNat + carry.toNat) (10 ^ 9)
      rw [mul, value_cons, ih hrest (carry_lt hlimb hcarry hfit), value_cons, UInt64.toNat_mod,
        UInt64.toNat_div, toNat_base, hproduct]
      linear_combination hdiv

/-- The limbs of the product are those of a number again. -/
lemma IsNormal.mul (h : IsNormal limbs) (hcarry : carry.toNat < factor.toNat)
    (hfit : 10 ^ 9 * factor.toNat ≤ 2 ^ 64) : IsNormal (mul factor carry limbs) := by
  induction limbs generalizing carry with
  | nil => exact isNormal_ofCarry carry
  | cons limb rest ih =>
      have hrest := carry_lt (List.forall_mem_cons.mp h.lt_base).1 hcarry hfit
      have hvalue := value_mul h.lt_base hcarry hfit
      have hpos := Nat.mul_pos (h.value_pos (List.cons_ne_nil _ _)) hcarry.pos
      rw [Limbs.mul] at hvalue ⊢
      refine .cons (toNat_mod_base_lt _) ?_ (ih h.tail hrest)
      rw [hvalue]
      exact Nat.add_pos_left hpos _

/-! ### Text -/

lemma digitsFromTop_concat (hne : limbs ≠ []) (limb : UInt64) :
    digitsFromTop (limbs ++ [limb]) = digitsFromTop limbs ++ paddedDigits limb := by
  cases limbs with
  | nil => exact absurd rfl hne
  | cons top rest => simp [digitsFromTop]

/-- The digits of all limbs are those of the number. -/
lemma digitsFromTop_reverse (h : IsNormal limbs) (hne : limbs ≠ []) :
    digitsFromTop limbs.reverse = Binary64.digits (value limbs) := by
  induction limbs with
  | nil => exact absurd rfl hne
  | cons limb rest ih =>
      have hlimb := (List.forall_mem_cons.mp h.lt_base).1
      rw [List.reverse_cons, value_cons]
      rcases eq_or_ne rest [] with rfl | hrest
      · simp [digitsFromTop]
      · rw [digitsFromTop_concat (by simpa using hrest), ih h.tail hrest, Nat.add_comm,
          Text.digits_mul_pow_add (h.tail.value_pos hrest) 8 hlimb]
        rfl

end Limbs

/-! ### Factorials -/

lemma factorialLimbs_succ {n : ℕ} (hn : 1 ≤ n) :
    factorialLimbs (n + 1) = Limbs.mul (UInt64.ofNat (n + 1)) 0 (factorialLimbs n) := by
  obtain ⟨m, rfl⟩ := Nat.exists_eq_add_of_le' hn
  rw [factorialLimbs, factorialLimbs, Nat.add_sub_cancel, Nat.add_sub_cancel, List.range'_1_concat,
    List.foldl_append, Nat.add_comm 2 m]
  rfl

/-- A factor whose limbs have room is a word. -/
lemma toNat_ofNat_factor {n : ℕ} (h : 10 ^ 9 * n ≤ 2 ^ 64) : (UInt64.ofNat n).toNat = n :=
  UInt64.toNat_ofNat_of_lt'
    (lt_of_mul_lt_mul_left (h.trans_lt (by norm_num [UInt64.size])) (Nat.zero_le (10 ^ 9)))

/-- The limbs are those of the factorial. -/
lemma factorialLimbs_spec {n : ℕ} (h : 10 ^ 9 * n ≤ 2 ^ 64) :
    Limbs.IsNormal (factorialLimbs n) ∧ Limbs.value (factorialLimbs n) = n.factorial := by
  have hone : Limbs.IsNormal [1] := .cons (by decide) (by decide) .nil
  induction n with
  | zero => exact ⟨hone, rfl⟩
  | succ n ih =>
      rcases Nat.eq_zero_or_pos n with rfl | hn
      · exact ⟨hone, rfl⟩
      · obtain ⟨hnormal, hvalue⟩ := ih (by omega)
        have hfactor := toNat_ofNat_factor h
        have hcarry : (0 : UInt64).toNat < (UInt64.ofNat (n + 1)).toNat := by
          rw [hfactor]
          exact Nat.succ_pos n
        have hfit : 10 ^ 9 * (UInt64.ofNat (n + 1)).toNat ≤ 2 ^ 64 := by rwa [hfactor]
        rw [factorialLimbs_succ hn]
        refine ⟨hnormal.mul hcarry hfit, ?_⟩
        rw [Limbs.value_mul hnormal.lt_base hcarry hfit, hvalue, hfactor, Nat.factorial_succ,
          mul_comm]
        rfl

lemma factorialText_eq {n : ℕ} (h : 10 ^ 9 * n ≤ 2 ^ 64) :
    factorialText n = Binary64.digits n.factorial := by
  obtain ⟨hnormal, hvalue⟩ := factorialLimbs_spec h
  have hne : factorialLimbs n ≠ [] := by
    rintro hnil
    rw [hnil] at hvalue
    exact n.factorial_ne_zero hvalue.symm
  rw [factorialText, Limbs.digitsFromTop_reverse hnormal hne, hvalue]

/-- **Factorials**: the text is the decimal one of the factorial, without zeros in front. It
is made from the limbs of the number before by one product, in which a word has room for
every limb with its carry. -/
theorem factorialText_exact {n : ℕ} (h : 10 ^ 9 * n < 2 ^ 64) :
    String.ofList (factorialText n) = toString n.factorial ∧
      (factorialText n).head? ≠ some '0' ∧
      ∀ factor, 2 ≤ factor → factor ≤ n →
        factorialLimbs factor = Limbs.mul (UInt64.ofNat factor) 0 (factorialLimbs (factor - 1)) ∧
          ∀ p ∈ Limbs.products (UInt64.ofNat factor) 0 (factorialLimbs (factor - 1)),
            p < 2 ^ 64 := by
  have htext := factorialText_eq h.le
  refine ⟨by rw [htext]; rfl, ?_, fun factor htwo hle => ?_⟩
  · rw [htext]
    exact Json.Numeral.head?_toDigits_ne n.factorial_pos
  · obtain ⟨k, rfl⟩ := Nat.exists_eq_add_of_le' (Nat.le_of_succ_le htwo)
    have hfit : 10 ^ 9 * (k + 1) ≤ 2 ^ 64 := (Nat.mul_le_mul_left _ hle).trans h.le
    have hfactor := toNat_ofNat_factor hfit
    have hlimbs := (factorialLimbs_spec (n := k) (by omega)).1.lt_base
    have hcarry : (0 : UInt64).toNat < (UInt64.ofNat (k + 1)).toNat := by
      rw [hfactor]
      exact Nat.succ_pos k
    refine ⟨factorialLimbs_succ (by omega), fun p hp => ?_⟩
    have hlt := Limbs.products_lt hlimbs hcarry (by rwa [hfactor]) p hp
    rw [hfactor] at hlt
    exact hlt.trans_le hfit

/-- The factorial of 25 has three limbs, of which the lower ones start with zeros. -/
theorem factorialText_exact_of_three_limbs :
    10 ^ 9 * 25 < 2 ^ 64 ∧ String.ofList (factorialText 25) = "15511210043330985984000000" :=
  ⟨by norm_num, (factorialText_exact (n := 25) (by norm_num)).1.trans (by decide +kernel)⟩

end ChatBot.Arithmetic
