import Mathlib.Tactic
import Mathlib.Data.Nat.Factorial.Basic
import ChatBot.Arithmetic.Commands
import ChatBot.Proofs.Arithmetic.Factorial
import ChatBot.Proofs.Text.Integer

/-!
Factorials that are too long for a platform.

* `checkedFactorial`: the reply to a number whose factorial is written out
  before its length is checked;
* `messageLimit_lt_length`: the factorials that are not computed are too long for every platform;
* `factorialReply_checked`: so all replies are those of the check.
-/

namespace ChatBot.Arithmetic

open Binary64

/-- The factorial of a number, if it is written with at most `limit` digits. -/
def checkedFactorial (n : ℤ) (limit : ℕ) : Reply :=
  if n < 0 then .failure "Error: factorial() not defined for negative values"
  else if (toString n.toNat.factorial).length ≤ limit then .text (toString n.toNat.factorial)
  else .failure "Output too long"

lemma length_factorial (n : ℕ) : (toString n.factorial).length = (digits n.factorial).length :=
  String.length_ofList

/-- The last factorial that is computed is longer already than any message, and larger
numbers have larger ones. -/
lemma messageLimit_lt_length {n : ℕ} (h : 1000 ≤ n) (platform : Platform) :
    platform.messageLimit < (toString n.factorial).length := by
  have hlimit : platform.messageLimit ≤ 2048 := by cases platform <;> decide
  have hlast : 10 ^ 2048 ≤ Nat.factorial 1000 := by decide +kernel
  rw [length_factorial]
  exact hlimit.trans_lt (Text.lt_length_digits (by norm_num) (hlast.trans (Nat.factorial_le h)))

/-- Nothing is computed for larger numbers. -/
lemma factorialOf_of_maxFactorial_lt {n : ℤ} (h : maxFactorial < n) (limit : ℕ) :
    factorialOf n limit = tooLong := by
  have hpos : ¬n < 0 := by
    unfold maxFactorial at h
    omega
  rw [factorialOf, if_neg hpos, if_pos h]

lemma checkedFactorial_of_maxFactorial_lt {n : ℤ} (h : maxFactorial < n) (platform : Platform) :
    checkedFactorial n platform.messageLimit = tooLong := by
  unfold maxFactorial at h
  have hlong := messageLimit_lt_length (n := n.toNat) (by omega) platform
  rw [checkedFactorial, if_neg (by omega), if_neg hlong.not_ge]
  rfl

lemma factorialOf_eq (n : ℤ) (platform : Platform) :
    factorialOf n platform.messageLimit = checkedFactorial n platform.messageLimit := by
  rcases lt_or_ge maxFactorial n with hlarge | hsmall
  · rw [factorialOf_of_maxFactorial_lt hlarge, checkedFactorial_of_maxFactorial_lt hlarge]
  · rw [factorialOf, checkedFactorial]
    split
    · rfl
    · have htext : factorialText n.toNat = digits n.toNat.factorial := by
        unfold maxFactorial at hsmall
        exact factorialText_eq (by omega)
      rw [if_neg hsmall.not_gt, htext, length_factorial]
      rcases lt_or_ge platform.messageLimit (digits n.toNat.factorial).length with hlong | hshort
      · rw [if_pos hlong, if_neg hlong.not_ge]
        rfl
      · rw [if_neg hshort.not_gt, if_pos hshort]
        rfl

/-- **The limit of factorials**: the reply to every argument is the one of the check, so the
factorial itself if the platform shows that many digits. Beyond the largest number that is computed
the report does not depend on the limit, and is that of the check all the same. Every integer of 64
bits can be the argument. -/
theorem factorialReply_checked (m : Message) :
    factorialReply m =
        (match m.content.args[0]? with
        | none => .error (.invalidArgs "missing value")
        | some arg =>
          match arg.toInt64? with
          | none => .error (.invalidArgs (arg ++ " is not an integer"))
          | some n => .ok (checkedFactorial n m.platform.messageLimit)) ∧
      (∀ n, maxFactorial < n → ∀ limit platform,
        factorialOf n limit = tooLong ∧
        checkedFactorial n (Platform.messageLimit platform) = tooLong) ∧
      ∀ n, int64Min ≤ n → n ≤ int64Max → (toString n).toInt64? = some n := by
  refine ⟨?_, fun n h limit platform => ?_, fun n => Text.toInt64?_toString⟩
  · rw [factorialReply, integerArg, Message.requiredArg]
    cases m.content.args[0]? with
    | none => rfl
    | some arg =>
        cases hn : arg.toInt64? with
        | none => simp only [bind, Except.bind, hn]
        | some n => simp only [bind, Except.bind, pure, Except.pure, hn, factorialOf_eq]
  · exact ⟨factorialOf_of_maxFactorial_lt h limit, checkedFactorial_of_maxFactorial_lt h platform⟩

/-- Twenty has a factorial, and five thousand one that is too long. -/
theorem factorialReply_checked_of_twenty :
    factorialReply (.ofCommand "general" "factorial" ["20"]) = .ok (.text "2432902008176640000") ∧
      maxFactorial < 5000 ∧ checkedFactorial 5000 Platform.discord.messageLimit = tooLong ∧
      (toString (20 : ℤ)).toInt64? = some 20 := by
  obtain ⟨hreply, hlarge, hread⟩ := factorialReply_checked (.ofCommand "general" "factorial" ["20"])
  refine ⟨hreply.trans ?_, by decide, (hlarge 5000 (by decide) 0 .discord).2,
    hread 20 (by decide) (by decide)⟩
  decide +kernel

end ChatBot.Arithmetic
