import ChatBot.Text.Digit

/-!
Quoted texts of JSON.

A quoted text is first cut into pieces, which is all the grammar asks for; whether the pieces make
up characters is a question of its own, because a unit of the 16 bit encoding may lack its partner.

* `pieces?`: the pieces up to the closing quote, and what is left;
* `characters?`: the characters that pieces make up.
-/

namespace ChatBot.Json

open ChatBot.Text

/-- What a quoted text is made of: characters, and units of the 16 bit encoding given by their
number. -/
inductive Piece where
  | plain (c : Char)
  | unit (code : Nat)
  deriving DecidableEq

/-- The character of a short escape. -/
def shortEscape? (c : Char) : Option Char :=
  [('"', '"'), ('\\', '\\'), ('/', '/'), ('b', '\x08'), ('f', '\x0c'), ('n', '\n'), ('r', '\r'),
    ('t', '\t')].lookup c

/-- The pieces of a quoted text up to its closing quote, and what is left. -/
def pieces? : List Char → Option (List Piece × List Char)
  | [] => none
  | '"' :: cs => some ([], cs)
  | '\\' :: 'u' :: a :: b :: c :: d :: cs => do
    let code ← numberIn? 16 [a, b, c, d]
    let (ps, rest) ← pieces? cs
    return (.unit code :: ps, rest)
  | '\\' :: c :: cs => do
    let plain ← shortEscape? c
    let (ps, rest) ← pieces? cs
    return (.plain plain :: ps, rest)
  | c :: cs =>
    if c = '\\' || c.toNat < 32 then none
    else do
      let (ps, rest) ← pieces? cs
      return (.plain c :: ps, rest)

theorem length_pieces?_lt {cs rest : List Char} {ps : List Piece}
    (h : pieces? cs = some (ps, rest)) : rest.length < cs.length := by
  fun_induction pieces? cs generalizing ps rest with
  | case1 => simp at h
  | case2 cs =>
    simp only [Option.some.injEq, Prod.mk.injEq] at h
    simp [← h.2]
  | case3 a b c d cs ih =>
    simp only [Option.bind_eq_bind, Option.bind_eq_some_iff, Option.pure_def] at h
    obtain ⟨_, _, ⟨ps', rest'⟩, hp, heq⟩ := h
    simp only [Option.some.injEq, Prod.mk.injEq] at heq
    have := ih hp
    rw [← heq.2]
    simp only [List.length_cons]
    omega
  | case4 c cs _ ih =>
    simp only [Option.bind_eq_bind, Option.bind_eq_some_iff, Option.pure_def] at h
    obtain ⟨_, _, ⟨ps', rest'⟩, hp, heq⟩ := h
    simp only [Option.some.injEq, Prod.mk.injEq] at heq
    have := ih hp
    rw [← heq.2]
    simp only [List.length_cons]
    omega
  | case5 => simp at h
  | case6 c cs _ _ _ _ ih =>
    simp only [Option.bind_eq_bind, Option.bind_eq_some_iff, Option.pure_def] at h
    obtain ⟨⟨ps', rest'⟩, hp, heq⟩ := h
    simp only [Option.some.injEq, Prod.mk.injEq] at heq
    have := ih hp
    rw [← heq.2]
    simp only [List.length_cons]
    omega

/-- The first half of a pair of units. -/
def isLeading (code : Nat) : Bool := 0xD800 ≤ code && code ≤ 0xDBFF

/-- The second half of a pair of units. -/
def isTrailing (code : Nat) : Bool := 0xDC00 ≤ code && code ≤ 0xDFFF

/-- The characters that pieces make up: a leading unit must be followed by a trailing one, and a
trailing one must follow a leading one. -/
def characters? : List Piece → Option (List Char)
  | [] => some []
  | .plain c :: ps => (characters? ps).map (c :: ·)
  | .unit code :: ps =>
    if isLeading code then
      match ps with
      | .unit trailing :: ps =>
        if isTrailing trailing then
          (characters? ps).map
            (Char.ofNat ((code - 0xD800) * 0x400 + (trailing - 0xDC00) + 0x10000) :: ·)
        else none
      | _ => none
    else if isTrailing code then none
    else (characters? ps).map (Char.ofNat code :: ·)

end ChatBot.Json
