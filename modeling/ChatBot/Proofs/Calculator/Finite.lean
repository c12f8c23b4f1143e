import ChatBot.Calculator.Value
import ChatBot.Proofs.Binary64.Remainder
import ChatBot.Proofs.Grammar

/-!
Finite results.

Operators and functions look at their results, while numbers, signs and remainders are passed on as
they are. What keeps the value of a text finite is thus that signs and remainders lead from finite
numbers to finite ones, and that the numbers of the text are finite themselves.

* `Tree.strictEval`: the value of a tree where every result is looked at;
* `Tree.numbers`: the numbers of a tree, `Derives.mem_numbers`: they are those of its tokens and the
  constants;
* `eval_eq_strictEval`: on finite numbers nothing is missed;
* `evaluate_eq_strictEval`: the same for texts.

A literal that is too large for binary64 is an infinity, and one that stands alone is the value.
-/

namespace ChatBot.Calculator

open Binary64

/-! ### Looking at results -/

lemma finite_of_isFinite {x : Float} (h : x.isFinite = true) : finite x = .ok x := if_pos h

lemma isFinite_of_finite {x v : Float} (h : finite x = .ok v) : v.isFinite = true := by
  rw [finite] at h
  split at h
  · next hx =>
    cases h
    exact hx
  · split at h <;> cases h

/-- What is finite stands a second look. -/
lemma bind_finite {r : Except EvalError Float} (h : ∀ v, r = .ok v → v.isFinite = true) :
    (r >>= finite) = r := by
  cases r with
  | error cause => rfl
  | ok v => exact finite_of_isFinite (h v rfl)

/-- The last look decides. -/
lemma isFinite_of_bind_finite {r : Except EvalError Float} {v : Float}
    (h : (r >>= finite) = .ok v) : v.isFinite = true := by
  cases r with
  | error cause => cases h
  | ok x => exact isFinite_of_finite h

/-! ### Operators -/

/-- The remainder of finite numbers, which no one looks at, is finite. It differs in sign from the
divisor where the divisor is added. -/
lemma isFinite_modulo {x y : Float} (hx : x.isFinite = true) (hy : y.isFinite = true)
    (hy0 : (y == 0) = false) : (modulo x y).isFinite = true := by
  obtain ⟨negative, m, e, hparts⟩ := exists_parts_of_isFinite hx
  obtain ⟨negative', n, f, hparts'⟩ := exists_parts_of_isFinite hy
  have hn : n ≠ 0 := by
    rintro rfl
    rw [beq_zero_of_parts hparts'] at hy0
    cases hy0
  have hr := isFinite_remainder hparts hparts' hn
  simp only [modulo]
  split
  · next hsign =>
    rw [Bool.and_eq_true, bne, Bool.not_eq_true', bne_iff_ne] at hsign
    exact isFinite_add hr hy hsign.1 hy0 hsign.2
  · exact hr

/-- No operator leads out of the finite numbers. -/
lemma isFinite_of_apply {op : Operator} {x y v : Float} (hx : x.isFinite = true)
    (hy : y.isFinite = true) (h : op.apply x y = .ok v) : v.isFinite = true := by
  cases op with
  | add | sub | mul => exact isFinite_of_finite h
  | div | floorDiv =>
      simp only [Operator.apply] at h
      split at h
      · cases h
      · exact isFinite_of_finite h
  | mod =>
      simp only [Operator.apply] at h
      split at h
      · cases h
      · next hy0 =>
        cases h
        exact isFinite_modulo hx hy (Bool.eq_false_iff.mpr hy0)
  | pow =>
      simp only [Operator.apply, power] at h
      split at h
      · cases h
      · split at h
        · cases h
        · exact isFinite_of_finite h

/-! ### Trees -/

namespace Tree

/-- The value of a tree where every result is looked at, those of numbers, signs and remainders
included. -/
def strictEval : Tree → Except EvalError Float
  | .number x => finite x
  | .neg operand => do finite (-(← operand.strictEval))
  | .call f argument => do finite (f.apply (← argument.strictEval))
  | .binary op left right => do
    let x ← left.strictEval
    let y ← right.strictEval
    finite (← op.apply x y)

/-- The numbers of a tree. -/
def numbers : Tree → List Float
  | .number x => [x]
  | .neg operand => operand.numbers
  | .call _ argument => argument.numbers
  | .binary _ left right => left.numbers ++ right.numbers

lemma isFinite_of_strictEval {t : Tree} {v : Float} (h : t.strictEval = .ok v) :
    v.isFinite = true := by
  cases t with
  | number x => exact isFinite_of_finite h
  | neg operand =>
      rw [strictEval] at h
      cases hx : operand.strictEval with
      | error cause => rw [hx] at h; cases h
      | ok x =>
          rw [hx] at h
          exact isFinite_of_finite h
  | call f argument =>
      rw [strictEval] at h
      cases hx : argument.strictEval with
      | error cause => rw [hx] at h; cases h
      | ok x =>
          rw [hx] at h
          exact isFinite_of_finite h
  | binary op left right =>
      rw [strictEval] at h
      cases hx : left.strictEval with
      | error cause => rw [hx] at h; cases h
      | ok x =>
          rw [hx] at h
          cases hy : right.strictEval with
          | error cause => rw [hy] at h; cases h
          | ok y =>
              rw [hy] at h
              exact isFinite_of_bind_finite h

/-- On finite numbers the looks that are not taken would find nothing. -/
lemma eval_eq_strictEval {t : Tree} (h : ∀ x ∈ t.numbers, x.isFinite = true) :
    t.eval = t.strictEval := by
  induction t with
  | number x => exact (finite_of_isFinite (h x (List.mem_singleton_self x))).symm
  | neg operand ih =>
      rw [eval, strictEval, ih h]
      cases hx : operand.strictEval with
      | error cause => rfl
      | ok x => exact (finite_of_isFinite (isFinite_neg (isFinite_of_strictEval hx))).symm
  | call f argument ih => rw [eval, strictEval, ih h]
  | binary op left right ihl ihr =>
      rw [eval, strictEval, ihl fun x hx => h x (List.mem_append_left _ hx),
        ihr fun x hx => h x (List.mem_append_right _ hx)]
      cases hx : left.strictEval with
      | error cause => rfl
      | ok x =>
          cases hy : right.strictEval with
          | error cause => rfl
          | ok y =>
              exact (bind_finite fun v =>
                isFinite_of_apply (isFinite_of_strictEval hx) (isFinite_of_strictEval hy)).symm

end Tree

/-! ### Texts -/

/-- The numbers of a tree are those of the tokens and the constants. -/
lemma Derives.mem_numbers {X : Nonterminal} {d : ℕ} {ts : List Token} {t : Tree}
    (h : Derives X d ts t) {x : Float} (hx : x ∈ t.numbers) :
    .number x ∈ ts ∨ x = piValue ∨ x = eValue := by
  induction h with
  | number y =>
      obtain rfl := List.mem_singleton.mp hx
      exact .inl (List.mem_singleton_self _)
  | pi => exact .inr (.inl (List.mem_singleton.mp hx))
  | e => exact .inr (.inr (List.mem_singleton.mp hx))
  | base _ ih | unsigned _ ih | factor _ ih | summand _ ih => exact ih hx
  | call f _ ih | group _ ih =>
      refine (ih hx).imp_left fun hmem => ?_
      simp [hmem]
  | plus _ ih | minus _ ih => exact (ih hx).imp_left (List.mem_cons_of_mem _)
  | pow _ _ ih ih' | product _ _ _ ih ih' | sum _ _ _ ih ih' =>
      rcases List.mem_append.mp hx with hx | hx
      · exact (ih hx).imp_left fun hmem => by simp [hmem]
      · exact (ih' hx).imp_left fun hmem => by simp [hmem]

lemma isFinite_piValue : piValue.isFinite = true := by decide +kernel

lemma isFinite_eValue : eValue.isFinite = true := by decide +kernel

lemma mapError_eq_ok_iff {ε ε' α : Type} {r : Except ε α} {f : ε → ε'} {a : α} :
    r.mapError f = .ok a ↔ r = .ok a := by
  cases r <;> simp [Except.mapError]

/-- The numbers of the tree of a text are finite if the literals of the text are. -/
lemma isFinite_of_mem_numbers {cs : List Char} {t : Tree} (ht : parse cs = .ok t)
    (h : ∀ ts, Token.scan cs = .ok ts → ∀ x, .number x ∈ ts → x.isFinite = true) {x : Float}
    (hx : x ∈ t.numbers) : x.isFinite = true := by
  rw [parse, mapError_eq_ok_iff, Tree.ofText] at ht
  cases hts : Token.scan cs with
  | error cause => rw [hts] at ht; cases ht
  | ok ts =>
      rw [hts] at ht
      obtain ⟨d, -, hD⟩ := gives_expr_iff_derives.mp (ofTokens_eq_ok_iff.mp ht)
      rcases hD.mem_numbers hx with hmem | rfl | rfl
      · exact h ts hts x hmem
      · exact isFinite_piValue
      · exact isFinite_eValue

/-- **Finite values**: in a text without a literal beyond the largest number every result is looked
at, as it were: the text has the value, or the error, that comes of checking each number, constant,
sign, function and operator, so what it succeeds with is a finite number. -/
theorem evaluate_eq_strictEval (cs : List Char)
    (h : ∀ ts, Token.scan cs = .ok ts → ∀ x, .number x ∈ ts → x.isFinite = true) :
    evaluate cs = (do (← parse cs).strictEval) ∧
      ∀ v, evaluate cs = .ok v → v.isFinite = true := by
  rw [evaluate]
  cases ht : parse cs with
  | error cause => exact ⟨rfl, fun v hv => by cases hv⟩
  | ok t =>
      have heval := Tree.eval_eq_strictEval fun x hx => isFinite_of_mem_numbers ht h hx
      exact ⟨heval, fun v hv => Tree.isFinite_of_strictEval (heval.symm.trans hv)⟩

/-- A remainder whose sign is that of the divisor. -/
theorem evaluate_eq_strictEval_of_remainder :
    (∀ ts, Token.scan "-7%2".toList = .ok ts → ∀ x, .number x ∈ ts → x.isFinite = true) ∧
      evaluate "-7%2".toList = .ok (Binary64.ofInt 1) ∧ (Binary64.ofInt 1).isFinite = true := by
  have hliterals : ∀ ts, Token.scan "-7%2".toList = .ok ts →
      ∀ x, .number x ∈ ts → x.isFinite = true := by
    have hscan : Token.scan "-7%2".toList =
        .ok [.minus, .number (Binary64.ofInt 7), .percent, .number (Binary64.ofInt 2)] := by
      decide +kernel
    intro ts hts x hx
    rw [hscan] at hts
    cases hts
    simp only [List.mem_cons, reduceCtorEq, Token.number.injEq, List.not_mem_nil, false_or,
      or_false] at hx
    rcases hx with rfl | rfl
    · decide +kernel
    · decide +kernel
  have hvalue : evaluate "-7%2".toList = .ok (Binary64.ofInt 1) := by decide +kernel
  exact ⟨hliterals, hvalue, (evaluate_eq_strictEval _ hliterals).2 _ hvalue⟩

/-- A literal of 310 digits stands for an infinity, which no one looks at: it is the value of the
text, where a look would have found it beyond the largest number. -/
theorem evaluate_eq_infinity :
    evaluate ('1' :: List.replicate 309 '0') = .ok (Binary64.infinity false) ∧
      (Binary64.infinity false).isFinite = false ∧
      (do (← parse ('1' :: List.replicate 309 '0')).strictEval) = .error .overflow := by
  decide +kernel

end ChatBot.Calculator
