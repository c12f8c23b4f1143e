import Mathlib.Data.List.TakeWhile
import Mathlib.Tactic
import ChatBot.Calculator.Alphabet
import ChatBot.Calculator.Token
import ChatBot.Proofs.Text.Blank
import ChatBot.Proofs.Binary64.Decimal

/-!
Reduced texts and their tokens.

The alphabet of reduced texts and the tokens are defined apart from each other, and yet agree.

* `IsPiece`: a single character of the alphabet, or one of the words. `exists_pieces` says that a
  reduced text is made up of these alone;
* `first_error`, `scan_error`: why a text has no tokens. Digits with a point among them always make
  up a literal, by `exists_literal`;
* `sanitize_pieces_scan`: a reduced text has no tokens only if a point stands
  alone or letters make up no name.
-/

namespace ChatBot.Calculator

open ChatBot.Text
open Binary64 (Literal)

/-! ### Reduced texts -/

/-- The words of reduced texts. -/
def canonicalWords : List (List Char) := ["pi", "e", "sin", "cos", "tan"].map String.toList

/-- A piece of a reduced text: a single character of the alphabet, or a whole word. -/
def IsPiece (p : List Char) : Prop := (∃ c ∈ allowed, p = [c]) ∨ p ∈ canonicalWords

/-- A run of letters is spelled as a word or not at all. -/
lemma spelling_mem (letters : List Char) :
    spelling letters = [] ∨ spelling letters ∈ canonicalWords := by
  have hwords : ∀ entry ∈ vocabulary, entry.2.toList ∈ canonicalWords := by decide
  unfold spelling
  split
  · next word hword =>
    obtain ⟨before, behind, heq, -⟩ := List.lookup_eq_some_iff.mp hword
    exact .inr (hwords (String.ofList (lowercase letters), word) (by simp [heq]))
  · exact .inl rfl

/-- What becomes of a character that is no letter is made up of characters of the alphabet. -/
lemma mem_allowed_of_mem_replacement {c d : Char} (h : d ∈ replacement c) : d ∈ allowed := by
  have hsigns : ∀ entry ∈ operatorSigns, entry.2.toList ⊆ allowed := by decide
  unfold replacement at h
  split at h
  · next operator hoperator =>
    obtain ⟨before, behind, heq, -⟩ := List.lookup_eq_some_iff.mp hoperator
    exact hsigns (c, operator) (by simp [heq]) h
  · split at h
    · next hc =>
      obtain rfl := List.mem_singleton.mp h
      exact List.contains_iff_mem.mp hc
    · exact absurd h List.not_mem_nil

/-- A reduced text is made up of pieces. -/
lemma exists_pieces (cs : List Char) :
    ∃ pieces : List (List Char), sanitize cs = pieces.flatten ∧ ∀ p ∈ pieces, IsPiece p := by
  fun_induction sanitize cs with
  | case1 => exact ⟨[], rfl, by simp⟩
  | case2 c cs hc ih =>
      obtain ⟨pieces, heq, hpieces⟩ := ih
      rw [heq]
      rcases spelling_mem (c :: cs.takeWhile isAlphabetic) with hnil | hword
      · exact ⟨pieces, by rw [hnil, List.nil_append], hpieces⟩
      · exact ⟨_ :: pieces, rfl, List.forall_mem_cons.mpr ⟨.inr hword, hpieces⟩⟩
  | case3 c cs hc ih =>
      obtain ⟨pieces, heq, hpieces⟩ := ih
      refine ⟨(replacement c).map ([·]) ++ pieces, ?_, fun p hp => ?_⟩
      · rw [heq, List.flatten_append, ← List.flatMap_def, List.flatMap_singleton']
      · rcases List.mem_append.mp hp with hp | hp
        · obtain ⟨d, hd, rfl⟩ := List.mem_map.mp hp
          exact .inl ⟨d, mem_allowed_of_mem_replacement hd, rfl⟩
        · exact hpieces p hp

/-- What holds of the alphabet and of the letters of all words holds of the characters of a reduced
text. -/
lemma forall_mem_sanitize (p : Char → Bool) (hallowed : allowed.all p = true)
    (hwords : canonicalWords.all (·.all p) = true) (cs : List Char) :
    ∀ c ∈ sanitize cs, p c = true := by
  obtain ⟨pieces, heq, hpieces⟩ := exists_pieces cs
  intro c hc
  rw [heq] at hc
  obtain ⟨piece, hpiece, hcpiece⟩ := List.mem_flatten.mp hc
  rcases hpieces piece hpiece with ⟨d, hd, rfl⟩ | hword
  · obtain rfl := List.mem_singleton.mp hcpiece
    exact List.all_eq_true.mp hallowed c hd
  · exact List.all_eq_true.mp (List.all_eq_true.mp hwords piece hword) c hcpiece

/-- A text without blanks has none at its ends. -/
lemma trim_eq_self {cs : List Char} (h : ∀ c ∈ cs, isBlank c = false) : trim cs = cs :=
  IsTrimmed.trim_eq ⟨fun c hc => h c (List.mem_of_mem_head? hc),
    fun c hc => h c (List.mem_of_getLast? hc)⟩

/-! ### Runs of digits -/

namespace Token

variable {c : Char} {cs ds : List Char}

/-- The two parts of a split make up the text. -/
lemma splitLiteral_append (cs : List Char) : (splitLiteral cs).1 ++ (splitLiteral cs).2 = cs := by
  unfold splitLiteral
  split
  · next ds hds =>
    rw [List.append_assoc, List.cons_append, List.takeWhile_append_dropWhile, ← hds,
      List.takeWhile_append_dropWhile]
  · exact List.takeWhile_append_dropWhile

/-- The longest run of digits with at most one point is a literal, unless it is a point alone. -/
lemma exists_literal (hc : (isDigit c || c == '.') = true)
    (hne : (splitLiteral (c :: cs)).1 ≠ ['.']) :
    ∃ l : Literal, (splitLiteral (c :: cs)).1 = l.text := by
  have hdigits (ds : List Char) : ∀ d ∈ ds.takeWhile isDigit, isDigit d = true := fun _ hd =>
    List.mem_takeWhile_imp hd
  unfold splitLiteral at hne ⊢
  split at hne
  · next ds hds =>
    refine ⟨⟨(c :: cs).takeWhile isDigit, some (ds.takeWhile isDigit), ?_, fun hnil => ?_⟩, rfl⟩
    · exact List.forall_mem_append.mpr ⟨hdigits _, hdigits ds⟩
    · obtain ⟨hwhole, hfraction⟩ := List.append_eq_nil_iff.mp hnil
      rw [Option.getD_some] at hfraction
      rw [hwhole, hfraction] at hne
      exact hne rfl
  · next hpoint =>
    refine ⟨⟨(c :: cs).takeWhile isDigit, none, ?_, fun hnil => ?_⟩, (List.append_nil _).symm⟩
    · rw [Option.getD_none, List.append_nil]
      exact hdigits _
    · have hdigit : isDigit c = false := by
        rw [Option.getD_none, List.append_nil, List.takeWhile_eq_nil_iff] at hnil
        simpa using hnil (by simp)
      obtain rfl : c = '.' := by simpa [hdigit] using hc
      exact hpoint cs (List.dropWhile_cons_of_neg (by simp [hdigit]))

/-! ### Why there are no tokens -/

variable {rest : List Char} {token : Token} {cause : SyntaxError}

lemma first_of_literal (hc : (isDigit c || c == '.') = true) :
    first c cs = (ofLiteral (splitLiteral (c :: cs)).1).map (·, (splitLiteral (c :: cs)).2) := by
  have hbind : first c cs = (ofLiteral (splitLiteral (c :: cs)).1).bind fun t =>
      .ok (t, (splitLiteral (c :: cs)).2) := by
    unfold first
    rw [if_pos hc]
    rfl
  rw [hbind]
  cases ofLiteral (splitLiteral (c :: cs)).1 <;> rfl

lemma first_of_name (hc : ¬(isDigit c || c == '.') = true) (hletter : isNameLetter c = true) :
    first c cs =
      (ofName (c :: cs.takeWhile isNameLetter)).map (·, cs.dropWhile isNameLetter) := by
  unfold first
  rw [if_neg hc, if_pos hletter]
  cases ofName (c :: cs.takeWhile isNameLetter) <;> rfl

/-- What follows the first token is an end of the text. -/
lemma first_suffix (h : first c cs = .ok (token, rest)) : rest <:+ c :: cs := by
  by_cases hc : (isDigit c || c == '.') = true
  · rw [first_of_literal hc] at h
    cases hliteral : ofLiteral (splitLiteral (c :: cs)).1 with
    | error cause =>
        rw [hliteral] at h
        cases h
    | ok number =>
        rw [hliteral] at h
        cases h
        exact ⟨_, splitLiteral_append (c :: cs)⟩
  by_cases hletter : isNameLetter c = true
  · rw [first_of_name hc hletter] at h
    cases hname : ofName (c :: cs.takeWhile isNameLetter) with
    | error cause =>
        rw [hname] at h
        cases h
    | ok name =>
        rw [hname] at h
        cases h
        exact (List.dropWhile_suffix _).trans (List.suffix_cons c cs)
  -- an operator of one character or of two
  unfold first at h
  rw [if_neg hc, if_neg hletter] at h
  have hone : ∀ d : Char, cs <:+ d :: cs := fun d => List.suffix_cons d cs
  split at h <;> cases h
  all_goals first
    | exact hone _
    | exact (List.suffix_cons _ _).trans (List.suffix_cons _ _)

/-- A run of digits with at most one point fails to be a number only if it is a point alone. -/
lemma ofLiteral_error (hc : (isDigit c || c == '.') = true)
    (h : ofLiteral (splitLiteral (c :: cs)).1 = .error cause) : cause = .lonePoint := by
  unfold ofLiteral at h
  split at h
  · exact (Except.error.inj h).symm
  · next hne =>
    obtain ⟨l, hl⟩ := exists_literal hc hne
    rw [hl, l.ofText?_text] at h
    cases h

lemma ofName_error {letters : List Char} (h : ofName letters = .error cause) :
    cause = .unknownName letters := by
  unfold ofName at h
  split at h
  · cases h
  · exact (Except.error.inj h).symm

/-- The characters of the alphabet that are no part of a number are operators and parentheses. -/
lemma mem_signs_of_mem_allowed (hc : c ∈ allowed) (hdigit : ¬(isDigit c || c == '.') = true) :
    c ∈ ['+', '-', '%', '(', ')', '*', '/'] := by
  have hallowed : (allowed.all fun c => (isDigit c || c == '.') ||
      ['+', '-', '%', '(', ')', '*', '/'].contains c) = true := by decide
  have hor := Bool.or_eq_true_iff.mp (List.all_eq_true.mp hallowed c hc)
  exact List.contains_iff_mem.mp (hor.resolve_left hdigit)

/-- A text has no first token only if a point stands alone, or letters make up no name, or it starts
with a character that starts no token. -/
lemma first_error (h : first c cs = .error cause) :
    cause = .lonePoint ∨ (∃ letters, cause = .unknownName letters) ∨
      c ∉ allowed ∧ isNameLetter c = false ∧ cause = .unexpectedCharacter c := by
  by_cases hc : (isDigit c || c == '.') = true
  · rw [first_of_literal hc] at h
    cases hliteral : ofLiteral (splitLiteral (c :: cs)).1 with
    | error cause' =>
        rw [hliteral] at h
        cases h
        exact .inl (ofLiteral_error hc hliteral)
    | ok number =>
        rw [hliteral] at h
        cases h
  by_cases hletter : isNameLetter c = true
  · rw [first_of_name hc hletter] at h
    cases hname : ofName (c :: cs.takeWhile isNameLetter) with
    | error cause' =>
        rw [hname] at h
        cases h
        exact .inr (.inl ⟨_, ofName_error hname⟩)
    | ok name =>
        rw [hname] at h
        cases h
  unfold first at h
  rw [if_neg hc, if_neg hletter] at h
  split at h
  case h_10 hplus hminus hpercent hopen hclose hstar hslash _ _ =>
    refine .inr (.inr ⟨fun hallowed => ?_, by simpa using hletter, (Except.error.inj h).symm⟩)
    have hsign := mem_signs_of_mem_allowed hallowed hc
    simp only [List.mem_cons, List.not_mem_nil, or_false] at hsign
    exact hsign.elim hplus (·.elim hminus (·.elim hpercent (·.elim hopen (·.elim hclose
      (·.elim hstar hslash)))))
  all_goals cases h

/-- A text has no tokens only if a point stands alone in it, or letters make up no name, or it has a
character that starts no token. -/
lemma scan_error (h : scan cs = .error cause) :
    cause = .lonePoint ∨ (∃ letters, cause = .unknownName letters) ∨
      ∃ c ∈ cs, c ∉ allowed ∧ isNameLetter c = false ∧ cause = .unexpectedCharacter c := by
  fun_induction scan cs with
  | case1 => cases h
  | case2 c cs hblank ih =>
      refine (ih h).imp id (Or.imp id ?_)
      rintro ⟨d, hd, hwrong⟩
      exact ⟨d, List.mem_cons_of_mem c hd, hwrong⟩
  | case3 c cs hblank cause' hfirst =>
      obtain rfl := Except.error.inj h
      exact (first_error hfirst).imp id (Or.imp id fun hwrong => ⟨c, List.mem_cons_self, hwrong⟩)
  | case4 c cs hblank token rest hfirst ih =>
      cases hscan : scan rest with
      | ok tokens => simp [hscan, Except.map] at h
      | error cause' =>
        obtain rfl : cause' = cause := by simpa [hscan, Except.map] using h
        refine (ih hscan).imp id (Or.imp id ?_)
        rintro ⟨d, hd, hwrong⟩
        exact ⟨d, (first_suffix hfirst).mem hd, hwrong⟩

/-- No text is refused for its numbers. -/
lemma scan_ne_badNumber (cs literal : List Char) : scan cs ≠ .error (.badNumber literal) := by
  intro h
  rcases scan_error h with hpoint | ⟨letters, hname⟩ | ⟨c, -, -, -, hwrong⟩
  · cases hpoint
  · cases hname
  · cases hwrong

end Token

/-- A reduced text has no tokens only if a point stands alone in it, or letters make up no name. -/
lemma scan_sanitize_error {cs : List Char} {cause : SyntaxError}
    (h : Token.scan (sanitize cs) = .error cause) :
    cause = .lonePoint ∨ ∃ letters, cause = .unknownName letters := by
  have hknown := forall_mem_sanitize (fun c => allowed.contains c || Token.isNameLetter c)
    (by decide)
    (by decide) cs
  rcases Token.scan_error h with hpoint | hname | ⟨c, hc, hallowed, hletter, -⟩
  · exact .inl hpoint
  · exact .inr hname
  · exact absurd (hknown c hc) (by simp [hallowed, hletter])

/-- **Alphabet and tokens**: a reduced text is made up of single characters of the alphabet and
whole words. So all its characters are canonical, and no blanks are to be trimmed. It has no tokens
only if a point stands alone or letters make up no name, never for a character that starts no token
and never for a number. No text at all is refused for its numbers. -/
theorem sanitize_pieces_scan (raw : String) :
    (∃ pieces : List (List Char), sanitize raw.toList = pieces.flatten ∧ ∀ p ∈ pieces, IsPiece p) ∧
      (∀ c ∈ sanitize raw.toList, isCanonical c = true) ∧
      trim (sanitize raw.toList) = sanitize raw.toList ∧
      (∀ cause, Token.scan (sanitize raw.toList) = .error cause →
        cause = .lonePoint ∨ ∃ letters, cause = .unknownName letters) ∧
      ∀ cs literal, Token.scan cs ≠ .error (.badNumber literal) :=
  ⟨exists_pieces raw.toList, forall_mem_sanitize isCanonical (by decide) (by decide) raw.toList,
    trim_eq_self fun c hc => by
      simpa using forall_mem_sanitize (!isBlank ·) (by decide) (by decide) raw.toList c hc,
    fun _ => scan_sanitize_error, Token.scan_ne_badNumber⟩

/-- Two words without a sign between them become one run of letters, which is no name. -/
theorem sanitize_pieces_scan_of_neighbours :
    Token.scan (sanitize "Pi, e".toList) = .error (.unknownName "pie".toList) ∧
      (SyntaxError.unknownName "pie".toList = .lonePoint ∨
        ∃ letters, SyntaxError.unknownName "pie".toList = .unknownName letters) := by
  have hscan : Token.scan (sanitize "Pi, e".toList) = .error (.unknownName "pie".toList) := by
    decide +kernel
  exact ⟨hscan, (sanitize_pieces_scan "Pi, e").2.2.2.1 _ hscan⟩

example : Token.scan (sanitize "1 + .".toList) = .error .lonePoint := by decide +kernel

end ChatBot.Calculator
