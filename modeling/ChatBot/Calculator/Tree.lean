import ChatBot.Calculator.Token

/-!
Expressions as trees, and how a list of tokens is read as one.

The tokens follow the grammar

    expr    := term (('+' | '-') term)*
    term    := unary (('*' | '/' | '//' | '%') unary)*
    unary   := ('+' | '-') unary | power
    power   := primary ('**' unary)?
    primary := number | 'pi' | 'e' | func '(' expr ')' | '(' expr ')'

so the binary operators of one level group to the left, and `**` binds tighter than a sign on its
left and takes a signed exponent on its right. A plus sign leaves no node. Parentheses, signs and
exponents may enclose one another at most `maxDepth` times.

* `Tree`: the trees;
* `Reader`: reads a nonterminal from the front of a token list and leaves a shorter rest;
* `Readers.under`: the readers of one depth, given those of the next; `Readers.within n` are the
  readers that may descend `n` times;
* `Tree.ofTokens`, `Tree.ofText`: the tree of all the tokens, of a text.
-/

namespace ChatBot.Calculator

/-- The binary operators. -/
inductive Operator where
  | add
  | sub
  | mul
  | div
  | floorDiv
  | mod
  | pow
  deriving DecidableEq, Repr

/-- Expressions. -/
inductive Tree where
  | number (value : Float)
  | neg (operand : Tree)
  | call (f : Func) (argument : Tree)
  | binary (op : Operator) (left right : Tree)
  deriving DecidableEq

/-- The constant pi, as the nearest binary64 number. -/
def piValue : Float := Float.ofBits 0x400921FB54442D18

/-- Euler's constant, as the nearest binary64 number. -/
def eValue : Float := Float.ofBits 0x4005BF0A8B145769

/-- How often parentheses, signs and exponents may enclose one another. -/
def maxDepth : Nat := 200

/-! ### Readers -/

/-- The tree that was read from the front of a list of fewer than `bound` tokens and more, and the
tokens that are left. -/
structure Taken (bound : Nat) where
  tree : Tree
  rest : List Token
  shorter : rest.length < bound

/-- Reads a nonterminal from the front of a token list; at least one token is taken. -/
abbrev Reader := (ts : List Token) → Except SyntaxError (Taken ts.length)

/-- The operators of sums. -/
def sumOperator? : Token → Option Operator
  | .plus => some .add
  | .minus => some .sub
  | _ => none

/-- The operators of products. -/
def productOperator? : Token → Option Operator
  | .star => some .mul
  | .slash => some .div
  | .doubleSlash => some .floorDiv
  | .percent => some .mod
  | _ => none

/-- Reads operators and operands as long as there are operators, grouping to the left. -/
def chain (operator? : Token → Option Operator) (operand : Reader) (left : Tree)
    (ts : List Token) : Except SyntaxError (Taken (ts.length + 1)) :=
  match ts with
  | [] => .ok ⟨left, [], by simp⟩
  | t :: rest =>
    match operator? t with
    | none => .ok ⟨left, t :: rest, by simp⟩
    | some op => do
      let right ← operand rest
      let all ← chain operator? operand (.binary op left right.tree) right.rest
      return ⟨all.tree, all.rest, by
        have := right.shorter
        have := all.shorter
        simp only [List.length_cons]
        omega⟩
termination_by ts.length
decreasing_by
  have := right.shorter
  simp only [List.length_cons]
  omega

/-- Reads an operand and the chain that starts with it. -/
def chained (operator? : Token → Option Operator) (operand : Reader) : Reader := fun ts => do
  let left ← operand ts
  let all ← chain operator? operand left.tree left.rest
  return ⟨all.tree, all.rest, by
    have := left.shorter
    have := all.shorter
    omega⟩

/-- The readers that stand below an enclosing construct: of expressions, and of operands with their
signs. -/
structure Readers where
  expr : Reader
  unary : Reader

namespace Readers

/-- Below the deepest construct nothing is read. -/
def refusing : Readers where
  expr := fun _ => .error .tooDeep
  unary := fun _ => .error .tooDeep

/-- Reads what stands after an open parenthesis, and the closing one. -/
def group (deeper : Readers) : Reader := fun ts => do
  let inner ← deeper.expr ts
  match inner with
  | ⟨tree, .parenClose :: rest, shorter⟩ => return ⟨tree, rest, by
      simp only [List.length_cons] at shorter
      omega⟩
  | _ => throw .unbalanced

/-- Reads a number, a constant, a call or a group. -/
def primary (deeper : Readers) : Reader
  | .number x :: rest => .ok ⟨.number x, rest, by simp⟩
  | .pi :: rest => .ok ⟨.number piValue, rest, by simp⟩
  | .e :: rest => .ok ⟨.number eValue, rest, by simp⟩
  | .func f :: .parenOpen :: rest => do
    let argument ← deeper.group rest
    return ⟨.call f argument.tree, argument.rest, by
      have := argument.shorter
      simp only [List.length_cons]
      omega⟩
  | .func f :: _ => .error (.missingParentheses f)
  | .parenOpen :: rest => do
    let inner ← deeper.group rest
    return ⟨inner.tree, inner.rest, by
      have := inner.shorter
      simp only [List.length_cons]
      omega⟩
  | t :: _ => .error (.unexpected t)
  | [] => .error .unexpectedEnd

/-- Reads a primary and its exponent. -/
def power (deeper : Readers) : Reader := fun ts => do
  let base ← deeper.primary ts
  match base with
  | ⟨tree, .doubleStar :: rest, shorter⟩ => do
    let exponent ← deeper.unary rest
    return ⟨.binary .pow tree exponent.tree, exponent.rest, by
      have := exponent.shorter
      simp only [List.length_cons] at shorter
      omega⟩
  | _ => return base

/-- Reads signs and the power below them. -/
def signed (deeper : Readers) : Reader
  | .plus :: rest => do
    let operand ← deeper.unary rest
    return ⟨operand.tree, operand.rest, by
      have := operand.shorter
      simp only [List.length_cons]
      omega⟩
  | .minus :: rest => do
    let operand ← deeper.unary rest
    return ⟨.neg operand.tree, operand.rest, by
      have := operand.shorter
      simp only [List.length_cons]
      omega⟩
  | ts => deeper.power ts

/-- The readers of one depth, given those below an enclosing construct. -/
def under (deeper : Readers) : Readers where
  unary := deeper.signed
  expr := chained sumOperator? (chained productOperator? deeper.signed)

/-- The readers that may descend `n` times. -/
def within : Nat → Readers
  | 0 => refusing.under
  | n + 1 => (within n).under

end Readers

namespace Tree

/-- The tree of a token list. -/
def ofTokens (ts : List Token) : Except SyntaxError Tree :=
  if ts.isEmpty then .error .empty
  else do
    let all ← (Readers.within maxDepth).expr ts
    match all.rest with
    | [] => return all.tree
    | t :: _ => throw (.unexpected t)

/-- The tree of a text. -/
def ofText (cs : List Char) : Except SyntaxError Tree := do ofTokens (← Token.scan cs)

end Tree

end ChatBot.Calculator
