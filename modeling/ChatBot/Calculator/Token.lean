import ChatBot.Binary64.Layout
import ChatBot.Binary64.Reading
import ChatBot.Text.Blank

/-!
The tokens of arithmetic expressions.

* `Token`: numbers, constants, functions, operators and parentheses;
* `SyntaxError`: why a text is no expression, and `SyntaxError.message`;
* `Token.scan`: the tokens of a text. Each token is the longest that starts where it stands, and
  white space only separates.
-/

namespace ChatBot.Calculator

open ChatBot.Text

/-- The functions of the calculator. -/
inductive Func where
  | sin
  | cos
  | tan
  deriving DecidableEq, Repr

/-- The name of a function. -/
def Func.name : Func → String
  | .sin => "sin"
  | .cos => "cos"
  | .tan => "tan"

/-- The tokens of an expression. -/
inductive Token where
  | number (value : Float)
  | pi
  | e
  | func (f : Func)
  | plus
  | minus
  | star
  | doubleStar
  | slash
  | doubleSlash
  | percent
  | parenOpen
  | parenClose
  deriving DecidableEq

/-- A token as error details name it. -/
def Token.describe : Token → String
  | .number x => "Number(" ++ String.ofList (Binary64.Layout.detailed.write x) ++ ")"
  | .pi => "Pi"
  | .e => "E"
  | .func .sin => "Func(Sin)"
  | .func .cos => "Func(Cos)"
  | .func .tan => "Func(Tan)"
  | .plus => "Plus"
  | .minus => "Minus"
  | .star => "Star"
  | .doubleStar => "DoubleStar"
  | .slash => "Slash"
  | .doubleSlash => "DoubleSlash"
  | .percent => "Percent"
  | .parenOpen => "ParenOpen"
  | .parenClose => "ParenClose"

/-- Why a text is no expression. -/
inductive SyntaxError where
  /-- A character that starts no token. -/
  | unexpectedCharacter (c : Char)
  /-- A decimal point without digits. -/
  | lonePoint
  /-- Digits and points that make up no number. -/
  | badNumber (literal : List Char)
  /-- Letters that are neither a constant nor a function. -/
  | unknownName (letters : List Char)
  /-- More enclosing constructs than allowed. -/
  | tooDeep
  /-- A token that cannot stand where it stands. -/
  | unexpected (token : Token)
  /-- The expression ends where an operand is due. -/
  | unexpectedEnd
  /-- A function without its argument in parentheses. -/
  | missingParentheses (f : Func)
  /-- An open parenthesis that is not closed. -/
  | unbalanced
  /-- No token at all. -/
  | empty
  deriving DecidableEq

/-- The wording of an error. -/
def SyntaxError.message : SyntaxError → String
  | .unexpectedCharacter c => "unexpected character '" ++ c.toString ++ "'"
  | .lonePoint => "lone decimal point"
  | .badNumber literal => "bad number '" ++ String.ofList literal ++ "': invalid float literal"
  | .unknownName letters => "unknown name '" ++ String.ofList letters ++ "'"
  | .tooDeep => "expression nested too deeply"
  | .unexpected token => "unexpected " ++ token.describe
  | .unexpectedEnd => "unexpected end of expression"
  | .missingParentheses f => f.name ++ " must be called with parentheses"
  | .unbalanced => "unbalanced parentheses"
  | .empty => "empty expression"

namespace Token

/-- The letters that names are made of. -/
def isNameLetter (c : Char) : Bool := ('a' ≤ c && c ≤ 'z') || ('A' ≤ c && c ≤ 'Z')

/-- The longest run of digits with at most one point among them, and what follows it. -/
def splitLiteral (cs : List Char) : List Char × List Char :=
  match cs.dropWhile isDigit with
  | '.' :: ds => (cs.takeWhile isDigit ++ '.' :: ds.takeWhile isDigit, ds.dropWhile isDigit)
  | rest => (cs.takeWhile isDigit, rest)

/-- The number of a run of digits and at most one point. -/
def ofLiteral (literal : List Char) : Except SyntaxError Token :=
  if literal = ['.'] then .error .lonePoint
  else match Binary64.ofText? literal with
    | some x => .ok (.number x)
    | none => .error (.badNumber literal)

/-- The names of the calculator. -/
def names : List (String × Token) :=
  [("pi", .pi), ("e", .e), ("sin", .func .sin), ("cos", .func .cos), ("tan", .func .tan)]

/-- The constant or function of a name. -/
def ofName (letters : List Char) : Except SyntaxError Token :=
  match names.lookup (String.ofList letters) with
  | some token => .ok token
  | none => .error (.unknownName letters)

/-- The first token of a text that starts with `c`, which is no white space, and what follows the
token. -/
def first (c : Char) (cs : List Char) : Except SyntaxError (Token × List Char) :=
  if isDigit c || c == '.' then do
    let (literal, rest) := splitLiteral (c :: cs)
    return (← ofLiteral literal, rest)
  else if isNameLetter c then do
    return (← ofName (c :: cs.takeWhile isNameLetter), cs.dropWhile isNameLetter)
  else match c, cs with
    | '+', _ => .ok (.plus, cs)
    | '-', _ => .ok (.minus, cs)
    | '%', _ => .ok (.percent, cs)
    | '(', _ => .ok (.parenOpen, cs)
    | ')', _ => .ok (.parenClose, cs)
    | '*', '*' :: rest => .ok (.doubleStar, rest)
    | '*', _ => .ok (.star, cs)
    | '/', '/' :: rest => .ok (.doubleSlash, rest)
    | '/', _ => .ok (.slash, cs)
    | _, _ => .error (.unexpectedCharacter c)

theorem length_splitLiteral_le {c : Char} {cs : List Char} (h : isDigit c || c == '.') :
    (splitLiteral (c :: cs)).2.length ≤ cs.length := by
  have hle : ∀ ds : List Char, (ds.dropWhile isDigit).length ≤ ds.length := fun _ =>
    (List.dropWhile_sublist isDigit).length_le
  by_cases hc : isDigit c
  · have hd : (c :: cs).dropWhile isDigit = cs.dropWhile isDigit := by simp [hc]
    unfold splitLiteral
    rw [hd]
    split
    · next ds hds =>
      have h1 := hle cs
      have h2 := hle ds
      simp only [hds, List.length_cons] at h1
      simp only
      omega
    · exact hle cs
  · have hpoint : c = '.' := by simpa [hc] using h
    subst hpoint
    have hd : ('.' :: cs).dropWhile isDigit = '.' :: cs := by simp [hc]
    unfold splitLiteral
    rw [hd]
    exact hle cs

/-- What follows the first token is no longer than what followed its first character. -/
theorem length_first_le {c : Char} {cs rest : List Char} {t : Token}
    (h : first c cs = .ok (t, rest)) : rest.length ≤ cs.length := by
  unfold first at h
  split at h
  · next hc =>
    have hlen := @length_splitLiteral_le c cs hc
    cases hl : ofLiteral (splitLiteral (c :: cs)).1 with
    | error cause => simp [hl, bind, Except.bind] at h
    | ok token =>
      simp only [hl, bind, Except.bind, pure, Except.pure, Except.ok.injEq, Prod.mk.injEq] at h
      rw [← h.2]
      exact hlen
  · split at h
    · cases hl : ofName (c :: cs.takeWhile isNameLetter) with
      | error cause => simp [hl, bind, Except.bind] at h
      | ok token =>
        simp only [hl, bind, Except.bind, pure, Except.pure, Except.ok.injEq, Prod.mk.injEq] at h
        rw [← h.2]
        exact (List.dropWhile_sublist isNameLetter).length_le
    · split at h <;> simp only [Except.ok.injEq, Prod.mk.injEq, reduceCtorEq] at h <;>
        simp [← h.2]

/-- The tokens of a text, in order. -/
def scan : List Char → Except SyntaxError (List Token)
  | [] => .ok []
  | c :: cs =>
    if isBlank c then scan cs
    else match _taken : first c cs with
      | .error cause => .error cause
      | .ok (token, rest) => (scan rest).map (token :: ·)
termination_by cs => cs.length
decreasing_by
  · simp
  · simpa using Nat.lt_succ_of_le (length_first_le _taken)

end Token

end ChatBot.Calculator
