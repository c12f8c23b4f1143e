import Mathlib.Tactic
import ChatBot.Binary64.Basic

/-!
The parts of finite numbers.

* `parts_bounds`: the mantissas and the exponents of numbers;
* `exists_parts_of_isFinite`: a finite number has parts.
-/

namespace ChatBot.Binary64

open Float.Model (UnpackedFloat Format)

/-- Mantissas have 53 bits, and exponents are those of binary64. -/
lemma parts_bounds {x : Float} {negative : Bool} {m : ℕ} {e : ℤ}
    (h : parts x = .finite negative m e) : m < 2 ^ 53 ∧ -1074 ≤ e ∧ e ≤ 971 := by
  simp only [parts] at h
  have hfraction : x.toBits.toNat % 2 ^ 52 < 2 ^ 52 := Nat.mod_lt _ (by norm_num)
  have hbiased : x.toBits.toNat / 2 ^ 52 % 2 ^ 11 < 2 ^ 11 := Nat.mod_lt _ (by norm_num)
  split at h
  · split at h
    · simp at h
    · simp at h
  · next hfinite =>
    split at h
    · obtain ⟨-, rfl, rfl⟩ := Parts.finite.inj h
      omega
    · obtain ⟨-, rfl, rfl⟩ := Parts.finite.inj h
      omega

/-- The exponent that is read off the bits. -/
lemma toNat_unpackExponent (x : Float) :
    (@UnpackedFloat.unpackExponent Format.binary64 x.toModel.toBits.toBitVec).toNat =
      x.toBits.toNat / 2 ^ 52 % 2 ^ 11 := by
  simp [UnpackedFloat.unpackExponent, Nat.shiftRight_eq_div_pow]
  rfl

lemma exists_parts_of_isFinite {x : Float} (h : x.isFinite = true) :
    ∃ negative m e, parts x = .finite negative m e := by
  have hbiased : x.toBits.toNat / 2 ^ 52 % 2 ^ 11 ≠ 2047 := by
    intro hmax
    have hexponent : @UnpackedFloat.unpackExponent Format.binary64
        x.toModel.toBits.toBitVec = -1#_ :=
      BitVec.eq_of_toNat_eq ((toNat_unpackExponent x).trans hmax)
    have hunpack : UnpackedFloat.unpack Format.binary64 x.toModel.toBits.toBitVec =
        if @UnpackedFloat.unpackMantissa Format.binary64 x.toModel.toBits.toBitVec = 0#_
        then .infinity (.ofBitVec
          (@UnpackedFloat.unpackSign Format.binary64 x.toModel.toBits.toBitVec))
        else .notANumber :=
      if_pos hexponent
    have hmodel :
        (UnpackedFloat.unpack Format.binary64 x.toModel.toBits.toBitVec).isFinite = true := h
    rw [hunpack] at hmodel
    by_cases hmantissa :
        @UnpackedFloat.unpackMantissa Format.binary64 x.toModel.toBits.toBitVec = 0#_
    · rw [if_pos hmantissa] at hmodel
      exact Bool.false_ne_true hmodel
    · rw [if_neg hmantissa] at hmodel
      exact Bool.false_ne_true hmodel
  simp only [parts]
  rw [if_neg hbiased]
  split
  · exact ⟨_, _, _, rfl⟩
  · exact ⟨_, _, _, rfl⟩

end ChatBot.Binary64
