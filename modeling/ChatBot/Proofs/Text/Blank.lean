import Mathlib.Data.List.DropRight
import Mathlib.Tactic
import ChatBot.Text.Blank

/-!
Blanks around words.

* `takeWhile_run`, `dropWhile_run`, `head?_dropWhile`: where a run of characters ends;
* `IsTrimmed`: a text without blanks at its ends. `isTrimmed_trim` and `exists_eq_append_trim` say
  what trimming leaves and what it takes away, and `trim_append` that nothing else can be left;
* `breakAtBlank_eq_none_iff`, `breakAtBlank_eq_some_iff`: where a text is cut at its first blank;
* `HasWords`: how words stand in a text, apart from the function that finds them. `words_eq_iff`
  says that it finds these and no others.
-/

namespace ChatBot.Text

variable {cs before after rest word : List Char} {ws : List (List Char)}

/-! ### Runs -/

section Run

variable {p : Char → Bool} {run : List Char}

/-- A run ends where the first character stands that does not belong to it. -/
lemma takeWhile_run (hrun : ∀ c ∈ run, p c = true) (hrest : ∀ c ∈ rest.head?, p c = false) :
    (run ++ rest).takeWhile p = run := by
  rw [List.takeWhile_append_of_pos hrun]
  cases rest with
  | nil => exact List.append_nil run
  | cons c rest => rw [List.takeWhile_cons_of_neg (by simp [hrest c rfl]), List.append_nil]

lemma dropWhile_run (hrun : ∀ c ∈ run, p c = true) (hrest : ∀ c ∈ rest.head?, p c = false) :
    (run ++ rest).dropWhile p = rest := by
  rw [List.dropWhile_append_of_pos hrun]
  cases rest with
  | nil => rfl
  | cons c rest => exact List.dropWhile_cons_of_neg (by simp [hrest c rfl])

/-- What follows a run starts with a character that does not belong to it. -/
lemma head?_dropWhile (p : Char → Bool) (cs : List Char) :
    ∀ c ∈ (cs.dropWhile p).head?, p c = false := by
  intro c hc
  have hnot := List.head?_dropWhile_not p cs
  rw [Option.mem_def.mp hc] at hnot
  simpa using hnot

/-- Two texts in a row start a run only if one of them does. -/
lemma head?_append_run (hbefore : ∀ c ∈ before.head?, p c = false)
    (hrest : ∀ c ∈ rest.head?, p c = false) : ∀ c ∈ (before ++ rest).head?, p c = false := by
  cases before with
  | nil => exact hrest
  | cons c before => exact hbefore

end Run

/-! ### Trimming -/

/-- The text has no blank at either end. -/
structure IsTrimmed (cs : List Char) : Prop where
  head : ∀ c ∈ cs.head?, isBlank c = false
  last : ∀ c ∈ cs.getLast?, isBlank c = false

lemma IsTrimmed.nil : IsTrimmed [] := ⟨by simp, by simp⟩

/-- Nothing is taken away where no blank is in front. -/
lemma trimStart_eq_self (h : ∀ c ∈ cs.head?, isBlank c = false) : trimStart cs = cs :=
  dropWhile_run (List.forall_mem_nil _) h

lemma trimStart_append (hbefore : ∀ c ∈ before, isBlank c = true) (cs : List Char) :
    trimStart (before ++ cs) = trimStart cs :=
  List.dropWhile_append_of_pos hbefore

lemma head?_trimStart (cs : List Char) : ∀ c ∈ (trimStart cs).head?, isBlank c = false :=
  head?_dropWhile isBlank cs

/-- Trimming at the end is trimming at the front from behind. -/
lemma trimEnd_eq (cs : List Char) : trimEnd cs = (trimStart cs.reverse).reverse := rfl

lemma trimEnd_append (hafter : ∀ c ∈ after, isBlank c = true) (cs : List Char) :
    trimEnd (cs ++ after) = trimEnd cs := by
  rw [trimEnd_eq, List.reverse_append, trimStart_append (by simpa using hafter), ← trimEnd_eq]

lemma trimEnd_eq_self (h : ∀ c ∈ cs.getLast?, isBlank c = false) : trimEnd cs = cs := by
  rw [trimEnd_eq, trimStart_eq_self (by simpa using h), List.reverse_reverse]

/-- What is left has no blank at its ends. -/
lemma isTrimmed_trim (cs : List Char) : IsTrimmed (trim cs) := by
  refine ⟨fun c hc => ?_, fun c hc => ?_⟩
  · -- what is left in the end is a front part of what was left before
    obtain ⟨cut, hcut⟩ : trim cs <+: trimStart cs := List.rdropWhile_prefix isBlank _
    refine head?_trimStart cs c ?_
    rw [← hcut, List.head?_append, Option.mem_def.mp hc]
    rfl
  · rw [trim, trimEnd_eq, List.getLast?_reverse] at hc
    exact head?_trimStart _ c hc

/-- What is taken away in front are blanks. -/
lemma exists_eq_append_trimStart (cs : List Char) :
    ∃ gap, (∀ c ∈ gap, isBlank c = true) ∧ cs = gap ++ trimStart cs :=
  ⟨cs.takeWhile isBlank, fun _ hc => List.mem_takeWhile_imp hc,
    List.takeWhile_append_dropWhile.symm⟩

/-- What is taken away are blanks in front and behind. -/
lemma exists_eq_append_trim (cs : List Char) : ∃ before after,
    (∀ c ∈ before, isBlank c = true) ∧ (∀ c ∈ after, isBlank c = true) ∧
      cs = before ++ (trim cs ++ after) := by
  obtain ⟨before, hbefore, hcs⟩ := exists_eq_append_trimStart cs
  obtain ⟨after, hafter, hrest⟩ := exists_eq_append_trimStart (trimStart cs).reverse
  refine ⟨before, after.reverse, hbefore, by simpa using hafter, ?_⟩
  have hreverse := congrArg List.reverse hrest
  rw [List.reverse_reverse, List.reverse_append, ← trimEnd_eq] at hreverse
  calc cs = before ++ trimStart cs := hcs
    _ = before ++ (trim cs ++ after.reverse) := congrArg (before ++ ·) hreverse

/-- Nothing but the text between the blanks is left. -/
lemma trim_append (hbefore : ∀ c ∈ before, isBlank c = true) (hcs : IsTrimmed cs)
    (hafter : ∀ c ∈ after, isBlank c = true) : trim (before ++ (cs ++ after)) = cs := by
  rw [trim, trimStart_append hbefore]
  cases cs with
  | nil =>
      have hnil : trimStart after = [] := List.dropWhile_eq_nil_iff.mpr hafter
      rw [List.nil_append, hnil]
      rfl
  | cons c cs =>
      have hhead : ∀ d ∈ (c :: cs ++ after).head?, isBlank d = false := hcs.head
      rw [trimStart_eq_self hhead, trimEnd_append hafter, trimEnd_eq_self hcs.last]

lemma IsTrimmed.trim_eq (hcs : IsTrimmed cs) : trim cs = cs := by
  simpa using trim_append (List.forall_mem_nil _) hcs (List.forall_mem_nil _)

lemma isTrimmed_iff : IsTrimmed cs ↔ trim cs = cs :=
  ⟨IsTrimmed.trim_eq, fun h => h ▸ isTrimmed_trim cs⟩

/-- Trimming again takes nothing away. -/
lemma trim_trim (cs : List Char) : trim (trim cs) = trim cs := (isTrimmed_trim cs).trim_eq

/-- Nothing is left of blanks alone. -/
lemma trim_eq_nil_iff : trim cs = [] ↔ ∀ c ∈ cs, isBlank c = true := by
  refine ⟨fun hnil => ?_, fun hcs => ?_⟩
  · obtain ⟨before, after, hbefore, hafter, heq⟩ := exists_eq_append_trim cs
    rw [hnil, List.nil_append] at heq
    rw [heq, List.forall_mem_append]
    exact ⟨hbefore, hafter⟩
  · simpa using trim_append hcs .nil (List.forall_mem_nil _)

/-! ### The first blank -/

lemma breakAtBlank_eq_none_iff : breakAtBlank cs = none ↔ ∀ c ∈ cs, isBlank c = false := by
  induction cs with
  | nil => simp [breakAtBlank]
  | cons c cs ih => cases hc : isBlank c <;> simp [breakAtBlank, hc, ih]

/-- A text is cut at a blank that has none before it. -/
lemma breakAtBlank_eq_some_iff : breakAtBlank cs = some (before, after) ↔
    (∀ c ∈ before, isBlank c = false) ∧ ∃ c, isBlank c = true ∧ cs = before ++ c :: after := by
  induction cs generalizing before with
  | nil => simp [breakAtBlank]
  | cons c cs ih =>
      rw [breakAtBlank]
      cases hc : isBlank c with
      | true =>
          simp only [if_true, Option.some.injEq, Prod.mk.injEq]
          constructor
          · rintro ⟨rfl, rfl⟩
            exact ⟨by simp, c, hc, rfl⟩
          · rintro ⟨hsolid, d, -, heq⟩
            cases before with
            | nil => exact ⟨rfl, (List.cons.inj heq).2⟩
            | cons e before =>
                obtain rfl := (List.cons.inj heq).1
                simp [hc] at hsolid
      | false =>
          simp only [Bool.false_eq_true, if_false, Option.map_eq_some_iff, Prod.exists,
            Prod.mk.injEq]
          constructor
          · rintro ⟨start, behind, hbreak, rfl, rfl⟩
            obtain ⟨hsolid, d, hd, rfl⟩ := ih.mp hbreak
            exact ⟨List.forall_mem_cons.mpr ⟨hc, hsolid⟩, d, hd, rfl⟩
          · rintro ⟨hsolid, d, hd, heq⟩
            cases before with
            | nil =>
                obtain rfl := (List.cons.inj heq).1
                simp [hc] at hd
            | cons e before =>
                obtain ⟨rfl, hrest⟩ := List.cons.inj heq
                exact ⟨before, after, ih.mpr ⟨(List.forall_mem_cons.mp hsolid).2, d, hd, hrest⟩,
                  rfl, rfl⟩

/-! ### Words -/

/-- Words stand in a text one after the other, with blanks between them and
nothing but blanks around them. -/
inductive HasWords : List Char → List (List Char) → Prop
  | blank {cs : List Char} (hcs : ∀ c ∈ cs, isBlank c = true) : HasWords cs []
  | word {gap word rest : List Char} {words : List (List Char)} (hgap : ∀ c ∈ gap, isBlank c = true)
      (hne : word ≠ []) (hsolid : ∀ c ∈ word, isBlank c = false)
      (hend : ∀ c ∈ rest.head?, isBlank c = true) (hrest : HasWords rest words) :
      HasWords (gap ++ (word ++ rest)) (word :: words)

/-- A blank in front does not count. -/
lemma HasWords.prepend {c : Char} (hc : isBlank c = true) (h : HasWords cs ws) :
    HasWords (c :: cs) ws := by
  cases h with
  | blank hcs => exact .blank (List.forall_mem_cons.mpr ⟨hc, hcs⟩)
  | @word gap _ _ _ hgap hne hsolid hend hrest =>
      have hgap : ∀ d ∈ c :: gap, isBlank d = true := List.forall_mem_cons.mpr ⟨hc, hgap⟩
      exact .word hgap hne hsolid hend hrest

/-- The words that are found are those of the text. -/
lemma hasWords_words (cs : List Char) : HasWords cs (words cs) := by
  fun_induction words cs with
  | case1 => exact .blank (by simp)
  | case2 c cs hc ih => exact ih.prepend hc
  | case3 c cs hc ih =>
      have hend : ∀ d ∈ (cs.dropWhile isSolid).head?, isBlank d = true := fun d hd => by
        simpa [isSolid] using head?_dropWhile isSolid cs d hd
      have hsolid : ∀ d ∈ c :: cs.takeWhile isSolid, isBlank d = false := by
        refine List.forall_mem_cons.mpr ⟨by simpa using hc, fun d hd => ?_⟩
        simpa [isSolid] using List.mem_takeWhile_imp hd
      have hword := HasWords.word (List.forall_mem_nil _) (List.cons_ne_nil _ _) hsolid hend ih
      rwa [List.nil_append, List.cons_append, List.takeWhile_append_dropWhile] at hword

lemma words_append (hbefore : ∀ c ∈ before, isBlank c = true) (cs : List Char) :
    words (before ++ cs) = words cs := by
  induction before with
  | nil => rfl
  | cons c before ih =>
      obtain ⟨hc, hbefore⟩ := List.forall_mem_cons.mp hbefore
      rw [List.cons_append, words, if_pos hc, ih hbefore]

/-- A word ends at the first blank. -/
lemma words_word (hne : word ≠ []) (hsolid : ∀ c ∈ word, isBlank c = false)
    (hend : ∀ c ∈ rest.head?, isBlank c = true) : words (word ++ rest) = word :: words rest := by
  cases word with
  | nil => exact absurd rfl hne
  | cons c word =>
      obtain ⟨hc, hsolid⟩ := List.forall_mem_cons.mp hsolid
      have hsolid : ∀ d ∈ word, isSolid d = true := fun d hd => by simp [isSolid, hsolid d hd]
      have hstop : ∀ d ∈ rest.head?, isSolid d = false := fun d hd => by simp [isSolid, hend d hd]
      rw [List.cons_append, words, if_neg (by simp [hc]), takeWhile_run hsolid hstop,
        dropWhile_run hsolid hstop]

/-- **Words**: those that are found are the words that stand in the text. -/
theorem words_eq_iff : words cs = ws ↔ HasWords cs ws := by
  refine ⟨fun h => h ▸ hasWords_words cs, fun h => ?_⟩
  induction h with
  | blank hcs => simpa [words] using words_append hcs []
  | word hgap hne hsolid hend hrest ih => rw [words_append hgap, words_word hne hsolid hend, ih]

/-- Words with one blank between them are found again. -/
lemma words_intercalate (hne : ∀ w ∈ ws, w ≠ []) (hsolid : ∀ w ∈ ws, ∀ c ∈ w, isBlank c = false) :
    words ([' '].intercalate ws) = ws := by
  have hblank : isBlank ' ' = true := by decide
  induction ws with
  | nil => simp [words]
  | cons w ws ih =>
      obtain ⟨hw, hne⟩ := List.forall_mem_cons.mp hne
      obtain ⟨hwsolid, hsolid⟩ := List.forall_mem_cons.mp hsolid
      cases ws with
      | nil =>
          have hlast : words (w ++ []) = w :: words [] := words_word hw hwsolid (by simp)
          simpa [words] using hlast
      | cons next ws =>
          rw [List.intercalate_cons_cons, List.append_assoc,
            words_word hw hwsolid (by simpa using hblank), words_append (by simpa using hblank),
            ih hne hsolid]

end ChatBot.Text
