import ChatBot.Binary64.Layout

/-!
Factorials, exactly.

A large number is a list of limbs in base `10 ^ 9`, the lowest first. A limb is kept in a word of
64 bits, which has room for its product with a factor.

* `Limbs.mul`: the product with a factor, carried from limb to limb;
* `factorialLimbs`, `factorialText`: the factorial of a number, and its decimal digits.
-/

namespace ChatBot.Arithmetic

namespace Limbs

/-- The base of the limbs. -/
def base : UInt64 := 1000000000

/-- The number of decimal digits of a limb. -/
def limbWidth : Nat := 9

/-- A carry becomes smaller from limb to limb. -/
theorem toNat_div_base_lt {carry : UInt64} (h : carry ≠ 0) :
    (carry / base).toNat < carry.toNat := by
  have hpos : 0 < carry.toNat := Nat.pos_of_ne_zero fun hzero => h (UInt64.toNat_inj.mp hzero)
  rw [UInt64.toNat_div]
  exact Nat.div_lt_self hpos (by decide)

/-- The limbs of a carry. -/
def ofCarry (carry : UInt64) : List UInt64 :=
  if carry = 0 then [] else carry % base :: ofCarry (carry / base)
termination_by carry.toNat
decreasing_by exact toNat_div_base_lt ‹_›

/-- The product of the limbs with a factor, plus a carry. -/
def mul (factor carry : UInt64) : List UInt64 → List UInt64
  | [] => ofCarry carry
  | limb :: rest =>
    let product := limb * factor + carry
    product % base :: mul factor (product / base) rest

/-- The digits of a limb below others, with zeros in front. -/
def paddedDigits (limb : UInt64) : List Char :=
  let ds := Binary64.digits limb.toNat
  Binary64.zeros (limbWidth - ds.length) ++ ds

/-- The decimal digits of limbs whose highest one comes first. -/
def digitsFromTop : List UInt64 → List Char
  | [] => []
  | limb :: rest => Binary64.digits limb.toNat ++ rest.flatMap paddedDigits

end Limbs

/-- The limbs of a factorial: one, times all numbers from two on. -/
def factorialLimbs (n : Nat) : List UInt64 :=
  (List.range' 2 (n - 1)).foldl (fun limbs factor => Limbs.mul (UInt64.ofNat factor) 0 limbs) [1]

/-- The decimal digits of a factorial. -/
def factorialText (n : Nat) : List Char := Limbs.digitsFromTop (factorialLimbs n).reverse

end ChatBot.Arithmetic
