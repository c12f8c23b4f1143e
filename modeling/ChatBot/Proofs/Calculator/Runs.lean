import Mathlib.Tactic
import ChatBot.Proofs.Calculator.Alphabet
import ChatBot.Proofs.Text.Blank

/-!
Reduced texts, run by run.

* `Apart`: two texts that do not touch with letters. `sanitize_append` says that
  these are reduced one by one;
* `spelling_of_entry`, `spelling_of_unknown`: how a run of letters is spelled;
* `IsRun`: a run of letters in a text, with no letter beside it.
  `exists_isRun` finds that of a letter;
* `IsReduced`: every character is one of the alphabet or belongs to a run that is one of the words;
* `sanitize_runs`: texts are reduced run by run and character by character, and those stay as they
  are that are reduced already.
-/

namespace ChatBot.Calculator

open ChatBot.Text

variable {a b run rest front behind : List Char} {c : Char}

/-! ### Splitting -/

/-- Two texts do not touch with letters. -/
def Apart (a b : List Char) : Prop :=
  ∀ c ∈ a.getLast?, ∀ d ∈ b.head?, isAlphabetic c = true → isAlphabetic d = false

lemma Apart.of_head (h : ∀ d ∈ b.head?, isAlphabetic d = false) : Apart a b :=
  fun _ _ d hd _ => h d hd

/-- A run of letters is reduced as a whole. -/
lemma sanitize_letters (hne : run ≠ []) (hrun : ∀ c ∈ run, isAlphabetic c = true)
    (hrest : ∀ c ∈ rest.head?, isAlphabetic c = false) :
    sanitize (run ++ rest) = spelling run ++ sanitize rest := by
  cases run with
  | nil => exact absurd rfl hne
  | cons c run =>
      obtain ⟨hc, hrun⟩ := List.forall_mem_cons.mp hrun
      rw [List.cons_append, sanitize, if_pos hc, takeWhile_run hrun hrest, dropWhile_run hrun hrest]

lemma sanitize_cons (hc : isAlphabetic c = false) (rest : List Char) :
    sanitize (c :: rest) = replacement c ++ sanitize rest := by
  rw [sanitize, if_neg (by simp [hc])]

/-- Texts that do not touch with letters are reduced one by one. -/
lemma sanitize_append (h : Apart a b) : sanitize (a ++ b) = sanitize a ++ sanitize b := by
  fun_induction sanitize a with
  | case1 => rfl
  | case2 c cs hc ih =>
      have hletters : ∀ d ∈ c :: cs.takeWhile isAlphabetic, isAlphabetic d = true :=
        List.forall_mem_cons.mpr ⟨hc, fun _ hd => List.mem_takeWhile_imp hd⟩
      have hsplit : c :: cs = c :: cs.takeWhile isAlphabetic ++ cs.dropWhile isAlphabetic := by
        rw [List.cons_append, List.takeWhile_append_dropWhile]
      have hrest : Apart (cs.dropWhile isAlphabetic) b := by
        intro d hd
        refine h d ?_
        rw [hsplit, List.getLast?_append, Option.mem_def.mp hd]
        rfl
      -- if nothing follows the run, then its last letter is that of the text
      have hstop : ∀ d ∈ (cs.dropWhile isAlphabetic ++ b).head?, isAlphabetic d = false := by
        intro d hd
        rcases hdrop : cs.dropWhile isAlphabetic with _ | ⟨e, behind⟩
        · rw [hdrop, List.append_nil] at hsplit
          rw [hdrop, List.nil_append] at hd
          have hlast := List.getLast?_eq_some_getLast (List.cons_ne_nil c cs)
          refine h _ hlast d hd (hletters _ ?_)
          rw [← hsplit]
          exact List.getLast_mem _
        · rw [hdrop] at hd
          exact head?_dropWhile isAlphabetic cs d (by rw [hdrop]; exact hd)
      calc sanitize (c :: cs ++ b)
          = sanitize (c :: cs.takeWhile isAlphabetic ++ (cs.dropWhile isAlphabetic ++ b)) := by
            rw [← List.append_assoc, ← hsplit]
        _ = spelling (c :: cs.takeWhile isAlphabetic) ++
            sanitize (cs.dropWhile isAlphabetic ++ b) :=
            sanitize_letters (List.cons_ne_nil _ _) hletters hstop
        _ = spelling (c :: cs.takeWhile isAlphabetic) ++ sanitize (cs.dropWhile isAlphabetic) ++
            sanitize b := by rw [ih hrest, List.append_assoc]
  | case3 c cs hc ih =>
      have hc : isAlphabetic c = false := by simpa using hc
      have hrest : Apart cs b := by
        intro d hd
        refine h d ?_
        rw [← List.singleton_append, List.getLast?_append, Option.mem_def.mp hd]
        rfl
      rw [List.cons_append, sanitize_cons hc, ih hrest, List.append_assoc]

/-! ### Spelling -/

/-- A word of the vocabulary in any case has the spelling that stands there. -/
lemma spelling_of_entry {entry : String × String} (hentry : entry ∈ vocabulary)
    (hletters : String.ofList (lowercase run) = entry.1) : spelling run = entry.2.toList := by
  have hlookup : ∀ entry ∈ vocabulary, vocabulary.lookup entry.1 = some entry.2 := by decide
  unfold spelling
  rw [hletters, hlookup entry hentry]

/-- Other letters have no spelling. -/
lemma spelling_of_unknown (h : ∀ entry ∈ vocabulary, String.ofList (lowercase run) ≠ entry.1) :
    spelling run = [] := by
  unfold spelling
  split
  · next word hword =>
    obtain ⟨before, after, heq, -⟩ := List.lookup_eq_some_iff.mp hword
    exact absurd rfl (h (String.ofList (lowercase run), word) (by simp [heq]))
  · rfl

/-- Letters alone have their spelling. -/
lemma sanitize_run (hne : run ≠ []) (hrun : ∀ c ∈ run, isAlphabetic c = true) :
    sanitize run = spelling run := by
  have hletters : sanitize (run ++ []) = _ := sanitize_letters hne hrun (by simp)
  simpa [sanitize] using hletters

/-- The characters of the alphabet are no letters and are kept. -/
lemma replacement_of_mem_allowed (hc : c ∈ allowed) :
    isAlphabetic c = false ∧ replacement c = [c] := by
  have hall : allowed.all (fun c => !isAlphabetic c && replacement c == [c]) = true := by
    decide +kernel
  simpa using List.all_eq_true.mp hall c hc

/-- What becomes of a character that is no letter. -/
lemma sanitize_singleton (hc : isAlphabetic c = false) : sanitize [c] =
    if c = '^' then "**".toList else if c = '×' then "*".toList else if c = '÷' then "/".toList
    else if c ∈ allowed then [c] else [] := by
  have hlookup : operatorSigns.lookup c = if c = '^' then some "**" else if c = '×' then some "*"
      else if c = '÷' then some "/" else none := by
    simp only [operatorSigns, List.lookup_cons, List.lookup_nil]
    split_ifs with hpower htimes hover
    · rw [hpower]
      rfl
    · rw [htimes]
      rfl
    · rw [hover]
      rfl
    · rw [beq_false_of_ne hpower, beq_false_of_ne htimes, beq_false_of_ne hover]
  rw [sanitize_cons hc, sanitize, List.append_nil, replacement, hlookup]
  simp only [List.contains_iff_mem]
  split_ifs <;> rfl

/-! ### Runs -/

/-- Letters in a row, with no letter beside them. -/
structure IsRun (front run behind : List Char) : Prop where
  ne_nil : run ≠ []
  letters : ∀ c ∈ run, isAlphabetic c = true
  front_last : ∀ c ∈ front.getLast?, isAlphabetic c = false
  behind_head : ∀ c ∈ behind.head?, isAlphabetic c = false

/-- A text is reduced run by run. -/
lemma IsRun.sanitize_eq (h : IsRun front run behind) :
    sanitize (front ++ (run ++ behind)) = sanitize front ++ (spelling run ++ sanitize behind) := by
  have hfront : Apart front (run ++ behind) := by
    intro c hc d _ hletter
    exact absurd hletter (by simp [h.front_last c hc])
  rw [sanitize_append hfront, sanitize_letters h.ne_nil h.letters h.behind_head]

/-- A letter belongs to a run. -/
lemma exists_isRun (before : List Char) (hc : isAlphabetic c = true) (after : List Char) :
    ∃ front start ending behind, before = front ++ start ∧ after = ending ++ behind ∧
      IsRun front (start ++ c :: ending) behind := by
  have hbefore : before = (before.reverse.dropWhile isAlphabetic).reverse ++
      (before.reverse.takeWhile isAlphabetic).reverse := by
    rw [← List.reverse_append, List.takeWhile_append_dropWhile, List.reverse_reverse]
  refine ⟨_, _, _, _, hbefore, (List.takeWhile_append_dropWhile (p := isAlphabetic)).symm, by simp,
    ?_, ?_, head?_dropWhile isAlphabetic after⟩
  · intro d hd
    simp only [List.mem_append, List.mem_reverse, List.mem_cons] at hd
    rcases hd with hd | rfl | hd
    · exact List.mem_takeWhile_imp hd
    · exact hc
    · exact List.mem_takeWhile_imp hd
  · intro d hd
    rw [List.getLast?_reverse] at hd
    exact head?_dropWhile isAlphabetic _ d hd

/-- Every character is one of the alphabet, or belongs to a run of letters
that is one of the words. -/
def IsReduced (s : List Char) : Prop :=
  ∀ before c after, s = before ++ c :: after → c ∈ allowed ∨
    ∃ front start ending behind, before = front ++ start ∧ after = ending ++ behind ∧
      IsRun front (start ++ c :: ending) behind ∧ start ++ c :: ending ∈ canonicalWords

/-! ### What stays as it is -/

/-- A character of reduced texts: no letter, or a letter in lower case. -/
def isPlain (c : Char) : Bool :=
  if isAlphabetic c then toLower c == [c] && c != 'Σ' && c != 'π' else allowed.contains c

lemma isPlain_of_mem_sanitize {s : List Char} (hc : c ∈ sanitize s) : isPlain c = true :=
  forall_mem_sanitize isPlain (by decide +kernel) (by decide +kernel) s c hc

/-- Letters in lower case stay as they are. -/
lemma lowercase_eq_self {cs : List Char} (h : ∀ c ∈ cs, toLower c = [c] ∧ c ≠ 'Σ') :
    lowercase cs = cs := by
  have hafter : ∀ (cs before : List Char), (∀ c ∈ cs, toLower c = [c] ∧ c ≠ 'Σ') →
      lowercaseAfter before cs = cs := by
    intro cs
    induction cs with
    | nil => exact fun _ _ => rfl
    | cons c cs ih =>
        intro before hcs
        obtain ⟨⟨hc, hsigma⟩, hcs⟩ := List.forall_mem_cons.mp hcs
        rw [lowercaseAfter, if_neg hsigma, hc, ih _ hcs, List.singleton_append]
  exact hafter cs [] h

/-- A run of plain letters is spelled as it is or not at all. -/
lemma spelling_plain (hplain : ∀ c ∈ run, isPlain c = true)
    (hrun : ∀ c ∈ run, isAlphabetic c = true) : spelling run = [] ∨ spelling run = run := by
  have hwords : ∀ entry ∈ vocabulary, 'π' ∉ entry.1.toList → entry.2 = entry.1 := by decide
  have hletter : ∀ c ∈ run, (toLower c = [c] ∧ c ≠ 'Σ') ∧ c ≠ 'π' := by
    intro c hc
    simpa [isPlain, hrun c hc] using hplain c hc
  have hlower : lowercase run = run := lowercase_eq_self fun c hc => (hletter c hc).1
  by_cases hknown : ∃ entry ∈ vocabulary, String.ofList (lowercase run) = entry.1
  · obtain ⟨entry, hentry, heq⟩ := hknown
    have hpi : 'π' ∉ entry.1.toList := by
      rw [← heq, hlower, String.toList_ofList]
      exact fun hmem => (hletter 'π' hmem).2 rfl
    rw [spelling_of_entry hentry heq, hwords entry hentry hpi, ← heq, hlower, String.toList_ofList]
    exact .inr rfl
  · exact .inl (spelling_of_unknown fun entry hentry heq => hknown ⟨entry, hentry, heq⟩)

/-- Plain texts do not get longer. -/
lemma length_sanitize_le {s : List Char} (hplain : ∀ c ∈ s, isPlain c = true) :
    (sanitize s).length ≤ s.length := by
  fun_induction sanitize s with
  | case1 => exact le_rfl
  | case2 c cs hc ih =>
      have hletters : ∀ d ∈ c :: cs.takeWhile isAlphabetic, isAlphabetic d = true :=
        List.forall_mem_cons.mpr ⟨hc, fun _ hd => List.mem_takeWhile_imp hd⟩
      have hsub : ∀ d ∈ c :: cs.takeWhile isAlphabetic, isPlain d = true := fun d hd =>
        hplain d (List.cons_subset_cons c (List.takeWhile_subset _) hd)
      have hrest := ih fun d hd => hplain d (List.mem_cons_of_mem c (List.dropWhile_subset _ hd))
      have hspelling : (spelling (c :: cs.takeWhile isAlphabetic)).length ≤
          (c :: cs.takeWhile isAlphabetic).length := by
        rcases spelling_plain hsub hletters with hnone | hsame
        · simp [hnone]
        · rw [hsame]
      calc
        (spelling (c :: cs.takeWhile isAlphabetic) ++ sanitize (cs.dropWhile isAlphabetic)).length
          ≤ (c :: cs.takeWhile isAlphabetic).length + (cs.dropWhile isAlphabetic).length := by
            rw [List.length_append]
            exact Nat.add_le_add hspelling hrest
        _ = (c :: cs).length := by
            rw [← List.length_append, List.cons_append, List.takeWhile_append_dropWhile]
  | case3 c cs hc ih =>
      obtain ⟨hplainc, hrest⟩ := List.forall_mem_cons.mp hplain
      have hallowed : c ∈ allowed := by simpa [isPlain, hc] using hplainc
      rw [(replacement_of_mem_allowed hallowed).2, List.singleton_append]
      exact Nat.succ_le_succ (ih hrest)

/-- A text that stays as it is is reduced: no run may get lost in it, as
nothing makes up for its length. -/
lemma isReduced_of_sanitize_eq {s : List Char} (h : sanitize s = s) : IsReduced s := by
  have hplain : ∀ c ∈ s, isPlain c = true := fun c hc => isPlain_of_mem_sanitize (h.symm ▸ hc)
  rintro before c after hs
  cases hc : isAlphabetic c with
  | false =>
      have hplainc := hplain c (by simp [hs])
      exact .inl (by simpa [isPlain, hc] using hplainc)
  | true =>
      obtain ⟨front, start, ending, behind, rfl, rfl, hrun⟩ := exists_isRun before hc after
      have hs : s = front ++ (start ++ c :: ending ++ behind) := by simp [hs]
      refine .inr ⟨front, start, ending, behind, rfl, rfl, hrun, ?_⟩
      simp only [hs, List.forall_mem_append] at hplain
      obtain ⟨hplainfront, hplainrun, hplainbehind⟩ := hplain
      rcases spelling_mem (start ++ c :: ending) with hnone | hword
      · -- the run is dropped, and the rest gets no longer
        have hlength := congrArg List.length h
        rw [hs, hrun.sanitize_eq, hnone] at hlength
        have hfront := length_sanitize_le hplainfront
        have hbehind := length_sanitize_le hplainbehind
        simp only [List.length_append, List.length_cons, List.length_nil] at hlength
        omega
      · have hsame : spelling (start ++ c :: ending) = start ++ c :: ending := by
          refine (spelling_plain (List.forall_mem_append.mpr hplainrun)
            hrun.letters).resolve_left ?_
          intro hnone
          rw [hnone] at hword
          exact absurd hword (by decide)
        rwa [hsame] at hword

/-- A reduced text stays as it is, from any place on that is not inside of a run. -/
lemma sanitize_of_isReduced {s front rest : List Char} (h : IsReduced s) (hs : s = front ++ rest)
    (hapart : Apart front rest) : sanitize rest = rest := by
  have hwords : ∀ word ∈ canonicalWords, spelling word = word := by decide +kernel
  fun_induction sanitize rest generalizing front with
  | case1 => rfl
  | case2 c cs hc ih =>
      rcases h front c cs hs with hc' | ⟨before, start, ending, behind, rfl, rfl, hrun, hword⟩
      · rw [(replacement_of_mem_allowed hc').1] at hc
        exact absurd hc (by decide)
      -- the run starts here, as a letter before it would touch the rest
      obtain rfl : start = [] := by
        by_contra hne
        obtain ⟨d, hd⟩ := Option.isSome_iff_exists.mp (List.getLast?_isSome.mpr hne)
        have hletter := hrun.letters d (List.mem_append_left _ (List.mem_of_getLast? hd))
        have hnone := hapart d (by simp [List.getLast?_append, hd]) c rfl hletter
        rw [hc] at hnone
        exact absurd hnone (by decide)
      have hletters : ∀ d ∈ ending, isAlphabetic d = true := fun d hd =>
        hrun.letters d (List.mem_cons_of_mem c hd)
      rw [List.nil_append] at hword
      have hs : s = before ++ c :: ending ++ behind := by simp [hs]
      rw [dropWhile_run hletters hrun.behind_head] at ih ⊢
      rw [takeWhile_run hletters hrun.behind_head, hwords _ hword,
        ih hs (.of_head hrun.behind_head), List.cons_append]
  | case3 c cs hc ih =>
      have hc : isAlphabetic c = false := by simpa using hc
      rcases h front c cs hs with hc' | ⟨before, start, ending, behind, rfl, rfl, hrun, hword⟩
      · have hrest : sanitize cs = cs := by
          have hs : s = front ++ [c] ++ cs := by simp [hs]
          refine ih hs fun d hd _ _ hletter => ?_
          obtain rfl : c = d := by simpa using hd
          rw [hc] at hletter
          exact absurd hletter (by decide)
        rw [(replacement_of_mem_allowed hc').2, hrest, List.singleton_append]
      · rw [hrun.letters c (by simp)] at hc
        exact absurd hc (by decide)

/-- **Runs**: two texts are reduced one by one where they do not touch with letters. A run of
letters has the spelling of a word if it is that word in any case, and is dropped otherwise. Of the
other characters, three become operators, those of the alphabet are kept and all else is dropped. A
text stays as it is exactly if every character of it is one of the alphabet or belongs to a run of
letters that is one of the words. -/
theorem sanitize_runs :
    (∀ a b : List Char, a = [] ∨ b = [] ∨ (∃ c ∈ a.getLast?, isAlphabetic c = false) ∨
        (∃ c ∈ b.head?, isAlphabetic c = false) → sanitize (a ++ b) = sanitize a ++ sanitize b) ∧
      (∀ run : List Char, run ≠ [] → (∀ c ∈ run, isAlphabetic c = true) →
        (∀ entry ∈ vocabulary, String.ofList (lowercase run) = entry.1 →
            sanitize run = entry.2.toList) ∧
          ((∀ entry ∈ vocabulary, String.ofList (lowercase run) ≠ entry.1) → sanitize run = [])) ∧
      (∀ c, isAlphabetic c = false → sanitize [c] =
        if c = '^' then "**".toList else if c = '×' then "*".toList else if c = '÷' then "/".toList
        else if c ∈ allowed then [c] else []) ∧
      ∀ s, sanitize s = s ↔ IsReduced s := by
  refine ⟨fun a b h => sanitize_append fun c hc d hd hletter => ?_,
    fun run hne hrun => ⟨fun entry hentry
    hword => ?_, fun hnone => ?_⟩, fun c => sanitize_singleton, fun s => ⟨isReduced_of_sanitize_eq,
    fun h => sanitize_of_isReduced h (List.nil_append s).symm fun c hc => ?_⟩⟩
  · rcases h with rfl | rfl | ⟨e, he, hnone⟩ | ⟨e, he, hnone⟩
    · simp at hc
    · simp at hd
    · obtain rfl := Option.mem_unique hc he
      rw [hnone] at hletter
      exact absurd hletter (by decide)
    · obtain rfl := Option.mem_unique hd he
      exact hnone
  · rw [sanitize_run hne hrun, spelling_of_entry hentry hword]
  · rw [sanitize_run hne hrun, spelling_of_unknown hnone]
  · simp at hc

/-- Two texts that do not touch with letters, and a run that is known in
capitals only by its lower case. -/
theorem sanitize_runs_of_words :
    sanitize "2 × SIN(Π)".toList = "2*sin(pi)".toList ∧
      sanitize ("2 × SIN".toList ++ "(Π)".toList) =
        sanitize "2 × SIN".toList ++ sanitize "(Π)".toList ∧
      sanitize "SIN".toList = "sin".toList ∧ sanitize "sine".toList = [] := by
  have hsplit := sanitize_runs.1 "2 × SIN".toList "(Π)".toList
    (.inr (.inr (.inr ⟨'(', rfl, by decide +kernel⟩)))
  have hsin := (sanitize_runs.2.1 "SIN".toList (by decide)
    (List.all_eq_true.mp (by decide +kernel))).1 ("sin", "sin") (by decide) (by decide +kernel)
  have hsine := (sanitize_runs.2.1 "sine".toList (by decide)
    (List.all_eq_true.mp (by decide +kernel))).2 (by decide +kernel)
  refine ⟨?_, hsplit, hsin, hsine⟩
  decide +kernel

/-- Texts that touch with letters are not reduced one by one. -/
example : sanitize ("s".toList ++ "in".toList) = "sin".toList ∧
    sanitize "s".toList ++ sanitize "in".toList = [] := by decide +kernel

end ChatBot.Calculator
