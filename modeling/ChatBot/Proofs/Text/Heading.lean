import Mathlib.Tactic
import ChatBot.Proofs.Text.CamelCase

/-!
Headings of keys in camel case lose and invent nothing.

* `keyOf`: the letters of a heading, which are those of its key again. `IsSpaced`: a
  text without a space too many;
* `exists_cut`: where words with spaces between them are cut;
* `IsHeadingWord`: the shape of a word in a heading, which `IsCamel.isHeadingWord` finds;
* `Joins`: words of which some are written together as `EPS`. By `exists_joinLetters`
  this is what becomes of the words of a heading, and `Joins.split`, `Joins.unsplit`
  follow an ampersand through it;
* `keyOf_fieldTitle`: the key of a heading is read off it, and its ampersands
  stand where the key has `and`.
-/

namespace ChatBot.Text

variable {c : Char} {cs a b key left right w : List Char} {us vs ws : List (List Char)}

/-! ### Reading headings -/

/-- The word of a key that a word of a heading stands for. -/
def wordOfKey (w : List Char) : List Char := if w = ['&'] then "and".toList else w

/-- The letters of words, in lower case. -/
def lettersOf (ws : List (List Char)) : List Char := (ws.map wordOfKey).flatten.map foldAscii

/-- The key of a heading, in lower case: `and` for every word that is an
ampersand, and no spaces. -/
def keyOf (title : List Char) : List Char := lettersOf (title.splitOn ' ')

/-- No space stands at either end, and no two stand in a row. -/
structure IsSpaced (title : List Char) : Prop where
  head : title.head? ≠ some ' '
  last : title.getLast? ≠ some ' '
  single : ¬[' ', ' '] <:+: title

lemma lettersOf_append (us vs : List (List Char)) :
    lettersOf (us ++ vs) = lettersOf us ++ lettersOf vs := by
  simp [lettersOf]

lemma lettersOf_cons (w : List Char) (ws : List (List Char)) :
    lettersOf (w :: ws) = (wordOfKey w).map foldAscii ++ lettersOf ws := by
  simp [lettersOf]

/-- Words with spaces between them are found again. -/
lemma keyOf_intercalate (h : ∀ w ∈ ws, ' ' ∉ w) : keyOf ([' '].intercalate ws) = lettersOf ws := by
  cases ws with
  | nil => rfl
  | cons w ws => rw [keyOf, List.splitOn_intercalate ' ' h (List.cons_ne_nil w ws)]

/-! ### Words with spaces between them -/

/-- Words with spaces between them are cut at one of the words. -/
lemma exists_cut (hne : ws ≠ []) (h : [' '].intercalate ws = a ++ b) : ∃ us u v vs,
    ws = us ++ (u ++ v) :: vs ∧ a = [' '].intercalate (us ++ [u]) ∧
    b = [' '].intercalate (v :: vs) := by
  induction ws generalizing a with
  | nil => exact absurd rfl hne
  | cons w ws ih =>
      cases ws with
      | nil =>
          rw [List.intercalate_singleton] at h
          exact ⟨[], a, b, [], by rw [h, List.nil_append], by simp, by simp⟩
      | cons next ws =>
          rw [List.intercalate_cons_cons, List.append_assoc, List.append_eq_append_iff] at h
          rcases h with ⟨a, rfl, h⟩ | ⟨v, rfl, rfl⟩
          · -- the cut is behind the first word, at its end if nothing stands in between
            cases a with
            | nil => exact ⟨[], w, [], next :: ws, by simp, by simp, by simpa using h.symm⟩
            | cons c a =>
                obtain ⟨rfl, hrest⟩ := List.cons.inj h
                obtain ⟨us, u, v, vs, heq, rfl, hb⟩ := ih (List.cons_ne_nil _ _) hrest
                refine ⟨w :: us, u, v, vs, by rw [heq]; rfl, ?_, hb⟩
                rw [List.cons_append, List.intercalate_cons_of_ne_nil (by simp)]
                simp
          · exact ⟨[], a, v, next :: ws, by simp, by simp, by simp⟩

lemma intercalate_append_cons (us vs : List (List Char)) (u v : List Char) :
    [' '].intercalate (us ++ (u ++ v) :: vs) =
      [' '].intercalate (us ++ [u]) ++ [' '].intercalate (v :: vs) := by
  induction us with
  | nil => cases vs <;> simp
  | cons w us ih =>
      rw [List.cons_append, List.cons_append, List.intercalate_cons_of_ne_nil (by simp),
        List.intercalate_cons_of_ne_nil (by simp), ih, List.append_assoc]
      simp

/-- Words with a space in front of each. -/
def led (ws : List (List Char)) : List Char := ws.flatMap (' ' :: ·)

lemma intercalate_cons (w : List Char) (ws : List (List Char)) :
    [' '].intercalate (w :: ws) = w ++ led ws := by
  induction ws generalizing w with
  | nil => simp [led]
  | cons next ws ih =>
      rw [List.intercalate_cons_cons, ih next, List.append_assoc]
      rfl

lemma led_cons (w : List Char) (ws : List (List Char)) : led (w :: ws) = ' ' :: (w ++ led ws) := rfl

/-- The first word ends at the first space. -/
lemma eq_of_append_led (hw : ' ' ∉ w) (ha : ' ' ∉ a) (h : w ++ led ws = a ++ ' ' :: b) :
    w = a ∧ led ws = ' ' :: b := by
  have hrun (cs : List Char) (hcs : ' ' ∉ cs) : ∀ c ∈ cs, decide (c ≠ ' ') = true := fun c hc =>
    decide_eq_true fun heq => hcs (heq ▸ hc)
  have hled : ∀ c ∈ (led ws).head?, decide (c ≠ ' ') = false := by
    cases ws with
    | nil => simp [led]
    | cons w ws => simp [led_cons]
  have htake := congrArg (List.takeWhile (fun c => decide (c ≠ ' '))) h
  rw [takeWhile_run (hrun w hw) hled, takeWhile_run (hrun a ha) (by simp)] at htake
  subst htake
  exact ⟨rfl, List.append_cancel_left h⟩

/-! ### Words of headings -/

/-- A word of a heading: it has no space, it is an ampersand or has none, and only its
first letter may be an `E`. -/
structure IsHeadingWord (w : List Char) : Prop where
  ne_nil : w ≠ []
  space : ' ' ∉ w
  ampersand : '&' ∈ w → w = ['&']
  initial : 'E' ∉ w.tail

lemma IsCamel.isHeadingWord (h : IsCamel w) : IsHeadingWord (headingWord w) := by
  rcases h.cases with ⟨-, hheading⟩ | ⟨c, cs, rfl, hc, hcs, hheading⟩
  · rw [hheading]
    exact ⟨by decide, by decide, fun _ => rfl, by decide⟩
  · obtain ⟨-, -, hspace, hampersand, -⟩ := upper_of_alphanum hc
    rw [hheading]
    refine ⟨List.cons_ne_nil _ _, ?_, ?_, ?_⟩
    · exact List.not_mem_cons_of_ne_of_not_mem hspace.symm fun hmem =>
        (lower_of_isLower (hcs _ hmem)).2.1 rfl
    · intro hmem
      exact absurd hmem (List.not_mem_cons_of_ne_of_not_mem hampersand.symm fun hmem =>
        (lower_of_isLower (hcs _ hmem)).2.2.1 rfl)
    · exact fun hmem => (lower_of_isLower (hcs _ hmem)).2.2.2 rfl

lemma IsCamel.wordOfKey_headingWord (h : IsCamel w) :
    (wordOfKey (headingWord w)).map foldAscii = w.map foldAscii := by
  rcases h.cases with ⟨rfl | rfl, hheading⟩ | ⟨c, cs, rfl, hc, -, hheading⟩
  · rw [hheading]
    decide
  · rw [hheading]
    decide
  · obtain ⟨-, hfold, -, hampersand, -⟩ := upper_of_alphanum hc
    rw [hheading, wordOfKey, if_neg (fun heq => hampersand (List.cons.inj heq).1), List.map_cons,
      hfold, List.map_cons]

/-- The words of a heading have the letters of their key. -/
lemma lettersOf_map_headingWord (h : ∀ w ∈ ws, IsCamel w) :
    lettersOf (ws.map headingWord) = ws.flatten.map foldAscii := by
  induction ws with
  | nil => rfl
  | cons w ws ih =>
      obtain ⟨hw, hws⟩ := List.forall_mem_cons.mp h
      rw [List.map_cons, lettersOf_cons, hw.wordOfKey_headingWord, ih hws, List.flatten_cons,
        List.map_append]

/-! ### Letters that stay together -/

/-- Words of which some are joined that spell `EPS`. -/
inductive Joins : List (List Char) → List (List Char) → Prop
  | nil : Joins [] []
  | keep (w : List Char) {us vs : List (List Char)} (h : Joins us vs) : Joins (w :: us) (w :: vs)
  | join (w : List Char) {us vs : List (List Char)} (h : Joins us vs) :
      Joins (['E'] :: ['P'] :: ('S' :: w) :: us) (('E' :: 'P' :: 'S' :: w) :: vs)

namespace Joins

lemma lettersOf_eq (h : Joins us vs) : lettersOf vs = lettersOf us := by
  induction h with
  | nil => rfl
  | keep w _ ih => rw [lettersOf_cons, lettersOf_cons, ih]
  | join w _ ih =>
      have hw (d : Char) (hd : d ≠ '&') (ds : List Char) : wordOfKey (d :: ds) = d :: ds :=
        if_neg (by simp [hd])
      simp only [lettersOf_cons, ih, hw 'E' (by decide), hw 'P' (by decide), hw 'S' (by decide)]
      rfl

lemma isHeadingWord (h : Joins us vs) (hus : ∀ w ∈ us, IsHeadingWord w) :
    ∀ w ∈ vs, IsHeadingWord w := by
  induction h with
  | nil => exact hus
  | keep w _ ih =>
      obtain ⟨hw, hus⟩ := List.forall_mem_cons.mp hus
      exact List.forall_mem_cons.mpr ⟨hw, ih hus⟩
  | join w _ ih =>
      simp only [List.forall_mem_cons] at hus
      obtain ⟨-, -, hw, hus⟩ := hus
      refine List.forall_mem_cons.mpr ⟨⟨List.cons_ne_nil _ _, ?_, fun hmem => ?_, ?_⟩, ih hus⟩
      · simpa using hw.space
      · have hmem : '&' ∈ 'S' :: w := by simpa using hmem
        exact absurd (hw.ampersand hmem) (by simp)
      · simpa using hw.initial

/-- An ampersand is joined with nothing. -/
lemma split (h : Joins (us ++ ['&'] :: vs) ws) :
    ∃ us' vs', ws = us' ++ ['&'] :: vs' ∧ Joins us us' ∧ Joins vs vs' := by
  generalize hall : us ++ ['&'] :: vs = all at h
  induction h generalizing us with
  | nil => exact absurd hall (by simp)
  | keep w h ih =>
      cases us with
      | nil =>
          obtain ⟨rfl, rfl⟩ := List.cons.inj hall
          exact ⟨[], _, rfl, .nil, h⟩
      | cons u us =>
          obtain ⟨rfl, hrest⟩ := List.cons.inj hall
          obtain ⟨us', vs', rfl, hus, hvs⟩ := ih hrest
          exact ⟨u :: us', vs', rfl, .keep u hus, hvs⟩
  | join w h ih =>
      -- none of the three words is the ampersand, which therefore stands behind all of them
      rcases us with _ | ⟨u, _ | ⟨v, _ | ⟨x, us⟩⟩⟩
      · simp at hall
      · simp at hall
      · simp at hall
      · simp only [List.cons_append, List.cons.injEq] at hall
        obtain ⟨rfl, rfl, rfl, hrest⟩ := hall
        obtain ⟨us', vs', rfl, hus, hvs⟩ := ih hrest
        exact ⟨('E' :: 'P' :: 'S' :: w) :: us', vs', rfl, .join w hus, hvs⟩

/-- An ampersand is not the outcome of a join. -/
lemma unsplit (h : Joins ws (us ++ ['&'] :: vs)) :
    ∃ us' vs', ws = us' ++ ['&'] :: vs' ∧ Joins us' us ∧ Joins vs' vs := by
  generalize hall : us ++ ['&'] :: vs = all at h
  induction h generalizing us with
  | nil => exact absurd hall (by simp)
  | keep w h ih =>
      cases us with
      | nil =>
          obtain ⟨rfl, rfl⟩ := List.cons.inj hall
          exact ⟨[], _, rfl, .nil, h⟩
      | cons u us =>
          obtain ⟨rfl, hrest⟩ := List.cons.inj hall
          obtain ⟨us', vs', rfl, hus, hvs⟩ := ih hrest
          exact ⟨u :: us', vs', rfl, .keep u hus, hvs⟩
  | join w h ih =>
      cases us with
      | nil => simp at hall
      | cons u us =>
          obtain ⟨rfl, hrest⟩ := List.cons.inj hall
          obtain ⟨us', vs', rfl, hus, hvs⟩ := ih hrest
          exact ⟨['E'] :: ['P'] :: ('S' :: w) :: us', vs', rfl, .join w hus, hvs⟩

end Joins

/-- What a heading becomes in the end. -/
def joinLetters (cs : List Char) : List Char := replaceAll 'E' " P S".toList "EPS".toList cs

lemma joinLetters_join (cs : List Char) :
    joinLetters ("E P S".toList ++ cs) = "EPS".toList ++ joinLetters cs := by
  rw [joinLetters]
  show replaceAll 'E' " P S".toList "EPS".toList ('E' :: (" P S".toList ++ cs)) = _
  rw [replaceAll, if_pos]
  · rfl
  · simp

lemma joinLetters_cons (h : ¬"E P S".toList <+: c :: cs) :
    joinLetters (c :: cs) = c :: joinLetters cs := by
  rw [joinLetters, replaceAll, if_neg]
  · rfl
  · exact fun hstarts => h (List.isPrefixOf_iff_prefix.mp hstarts)

/-- Nothing is replaced where no `E` is. -/
lemma joinLetters_append (h : 'E' ∉ a) (b : List Char) :
    joinLetters (a ++ b) = a ++ joinLetters b := by
  induction a with
  | nil => rfl
  | cons c a ih =>
      rw [List.mem_cons, not_or] at h
      rw [List.cons_append, joinLetters_cons, ih h.2, List.cons_append]
      rintro ⟨rest, hrest⟩
      exact h.1 (List.cons.inj hrest).1

/-- Where `E P S` starts, there are two words of one letter, and a word that starts with an `S`. -/
lemma exists_of_starts (h : ∀ x ∈ w :: ws, IsHeadingWord x)
    (hstarts : "E P S".toList <+: w ++ led ws) :
    ∃ s us, w = ['E'] ∧ ws = ['P'] :: ('S' :: s) :: us := by
  obtain ⟨rest, hrest⟩ := hstarts
  have hfirst : w ++ led ws = ['E'] ++ ' ' :: ('P' :: ' ' :: 'S' :: rest) := hrest.symm
  obtain ⟨rfl, hbehind⟩ := eq_of_append_led (h w List.mem_cons_self).space (by decide) hfirst
  rcases ws with _ | ⟨x, ws⟩
  · exact absurd hbehind (by simp [led])
  have hsecond : x ++ led ws = ['P'] ++ ' ' :: ('S' :: rest) := (List.cons.inj hbehind).2
  obtain ⟨rfl, hlast⟩ := eq_of_append_led (h x (by simp)).space (by decide) hsecond
  rcases ws with _ | ⟨y, us⟩
  · exact absurd hlast (by simp [led])
  have hthird : y ++ led us = 'S' :: rest := (List.cons.inj hlast).2
  rcases y with _ | ⟨d, s⟩
  · exact absurd rfl (h [] (by simp)).ne_nil
  · obtain rfl := (List.cons.inj hthird).1
    exact ⟨s, us, rfl, rfl⟩

lemma joinLetters_space (cs : List Char) : joinLetters (' ' :: cs) = ' ' :: joinLetters cs := by
  refine joinLetters_cons ?_
  rintro ⟨rest, hrest⟩
  exact absurd (List.cons.inj hrest).1 (by decide)

/-- Words with spaces in front are replaced one by one, or three at once. -/
lemma exists_joinLetters_led (h : ∀ w ∈ ws, IsHeadingWord w) :
    ∃ vs, Joins ws vs ∧ joinLetters (led ws) = led vs := by
  -- on the count of words, since a join takes three of them at once
  induction hlength : ws.length using Nat.strong_induction_on generalizing ws with
  | _ n ih =>
      subst hlength
      rcases ws with _ | ⟨w, ws⟩
      · exact ⟨[], .nil, by simp [led, joinLetters, replaceAll]⟩
      by_cases hstarts : "E P S".toList <+: w ++ led ws
      · obtain ⟨s, us, rfl, rfl⟩ := exists_of_starts h hstarts
        simp only [List.forall_mem_cons] at h
        obtain ⟨-, -, hs, hus⟩ := h
        obtain ⟨vs, hjoins, hvs⟩ := ih us.length (by simp; omega) hus rfl
        refine ⟨_, .join s hjoins, ?_⟩
        have hled : led (['E'] :: ['P'] :: ('S' :: s) :: us) =
            ' ' :: ("E P S".toList ++ (s ++ led us)) := rfl
        -- behind the `S` its word has no `E` where another pattern could start
        rw [hled, joinLetters_space, joinLetters_join,
          joinLetters_append (show 'E' ∉ s from hs.initial), hvs]
        rfl
      · obtain ⟨hw, hws⟩ := List.forall_mem_cons.mp h
        obtain ⟨vs, hjoins, hvs⟩ := ih ws.length (by simp) hws rfl
        refine ⟨_, .keep w hjoins, ?_⟩
        obtain ⟨c, cs, rfl⟩ := List.exists_cons_of_ne_nil hw.ne_nil
        have hstarts : ¬"E P S".toList <+: c :: (cs ++ led ws) := hstarts
        rw [led_cons, joinLetters_space, List.cons_append, joinLetters_cons hstarts,
          joinLetters_append (show 'E' ∉ cs from hw.initial), hvs]
        rfl

/-- In the end a heading is made up of its words, of which some are joined. -/
lemma exists_joinLetters (h : ∀ w ∈ ws, IsHeadingWord w) :
    ∃ vs, Joins ws vs ∧ joinLetters ([' '].intercalate ws) = [' '].intercalate vs := by
  obtain ⟨vs, hjoins, hvs⟩ := exists_joinLetters_led h
  refine ⟨vs, hjoins, ?_⟩
  rcases ws with _ | ⟨w, us⟩
  · cases hjoins
    simp [joinLetters, replaceAll]
  · obtain ⟨v, vs, rfl⟩ : ∃ v vs', vs = v :: vs' := by cases hjoins <;> exact ⟨_, _, rfl⟩
    rw [led_cons, led_cons, joinLetters_space, ← intercalate_cons, ← intercalate_cons] at hvs
    exact (List.cons.inj hvs).2

/-! ### Spaces -/

lemma head?_intercalate (h : ∀ w ∈ ws, IsHeadingWord w) :
    ([' '].intercalate ws).head? ≠ some ' ' := by
  rcases ws with _ | ⟨w, ws⟩
  · simp
  · have hw := h w List.mem_cons_self
    obtain ⟨c, cs, rfl⟩ := List.exists_cons_of_ne_nil hw.ne_nil
    rw [intercalate_cons, List.cons_append, List.head?_cons]
    exact fun heq => hw.space (Option.some.inj heq ▸ List.mem_cons_self)

/-- Behind each space there are words again. -/
lemma exists_of_space (h : ∀ w ∈ ws, IsHeadingWord w) (heq : [' '].intercalate ws = a ++ ' ' :: b) :
    b ≠ [] ∧ b.head? ≠ some ' ' := by
  have hne : ws ≠ [] := by
    rintro rfl
    simp at heq
  obtain ⟨us, u, v, vs, rfl, -, hb⟩ := exists_cut hne heq
  have hv : ' ' ∉ v := fun hmem => (h (u ++ v) (by simp)).space (List.mem_append_right u hmem)
  have hcut : v ++ led vs = [] ++ ' ' :: b := by rw [← intercalate_cons, ← hb, List.nil_append]
  obtain ⟨rfl, hled⟩ := eq_of_append_led hv (by simp) hcut
  rcases vs with _ | ⟨x, vs⟩
  · exact absurd hled (by simp [led])
  rw [led_cons, ← intercalate_cons] at hled
  obtain rfl := (List.cons.inj hled).2
  refine ⟨?_, head?_intercalate fun w hw => h w (by simp [List.mem_cons.mp hw])⟩
  rw [intercalate_cons]
  exact List.append_ne_nil_of_left_ne_nil (h x (by simp)).ne_nil _

lemma isSpaced_intercalate (h : ∀ w ∈ ws, IsHeadingWord w) : IsSpaced ([' '].intercalate ws) where
  head := head?_intercalate h
  last := by
    intro hlast
    obtain ⟨a, ha⟩ := List.getLast?_eq_some_iff.mp hlast
    exact (exists_of_space h ha).1 rfl
  single := by
    rintro ⟨a, b, hab⟩
    have hspace : [' '].intercalate ws = a ++ ' ' :: (' ' :: b) := by simpa using hab.symm
    exact (exists_of_space h hspace).2 rfl

/-! ### Keys and their headings -/

/-- The words of a key with headings of their own. -/
lemma exists_fieldTitle (hkey : ∀ c ∈ key, c.isAlphanum = true) : ∃ vs,
    Joins ((camelWords key).map headingWord) vs ∧ (∀ v ∈ vs, IsHeadingWord v) ∧
      fieldTitle key = [' '].intercalate vs := by
  have hwords : ∀ w ∈ (camelWords key).map headingWord, IsHeadingWord w :=
    List.forall_mem_map.mpr fun w hw => (isCamel_of_mem_camelWords hkey w hw).isHeadingWord
  obtain ⟨vs, hjoins, hvs⟩ := exists_joinLetters hwords
  refine ⟨vs, hjoins, hjoins.isHeadingWord hwords, ?_⟩
  rw [← hvs, fieldTitle, words_spaceOut fun c hc => isBlank_eq_false_of_alphanum (hkey c hc)]
  rfl

/-- The letters of a heading that is made from words of a key. -/
lemma lettersOf_joins (hws : ∀ w ∈ ws, IsCamel w) (h : Joins (ws.map headingWord) vs) :
    lettersOf vs = ws.flatten.map foldAscii := by
  rw [h.lettersOf_eq, lettersOf_map_headingWord hws]

/-- What stands before an ampersand and behind it. -/
lemma keyOf_around (h : ∀ w ∈ us ++ ['&'] :: vs, IsHeadingWord w) :
    [' '].intercalate (us ++ ['&'] :: vs) =
        [' '].intercalate (us ++ [[]]) ++ '&' :: [' '].intercalate ([] :: vs) ∧
      keyOf ([' '].intercalate (us ++ [[]])) = lettersOf us ∧
      keyOf ([' '].intercalate ([] :: vs)) = lettersOf vs := by
  have hspace : ∀ w ∈ us ++ ['&'] :: vs, ' ' ∉ w := fun w hw => (h w hw).space
  simp only [List.forall_mem_append, List.forall_mem_cons] at hspace
  obtain ⟨hus, -, hvs⟩ := hspace
  refine ⟨?_, ?_, ?_⟩
  · have hcut := intercalate_append_cons us vs [] ['&']
    rw [intercalate_cons ['&'] vs] at hcut
    rw [intercalate_cons [] vs]
    exact hcut
  · rw [keyOf_intercalate (List.forall_mem_append.mpr ⟨hus, by simp⟩), lettersOf_append]
    exact List.append_nil _
  · exact keyOf_intercalate (List.forall_mem_cons.mpr ⟨by simp, hvs⟩)

/-- An ampersand in a heading is a word of its own. -/
lemma exists_of_ampersand (h : ∀ w ∈ ws, IsHeadingWord w)
    (heq : [' '].intercalate ws = left ++ '&' :: right) :
    ∃ us vs, ws = us ++ ['&'] :: vs ∧ left = [' '].intercalate (us ++ [[]]) ∧
      right = [' '].intercalate ([] :: vs) := by
  have hne : ws ≠ [] := by
    rintro rfl
    simp at heq
  obtain ⟨us, u, v, vs, rfl, rfl, hright⟩ := exists_cut hne heq
  rw [intercalate_cons] at hright
  rcases v with _ | ⟨d, v⟩
  · rcases vs with _ | ⟨w, vs⟩
    · exact absurd hright (by simp [led])
    · exact absurd (List.cons.inj hright).1 (by decide)
  obtain ⟨rfl, rfl⟩ := List.cons.inj hright
  have hword := (h (u ++ '&' :: v) (by simp)).ampersand (by simp)
  obtain ⟨rfl, rfl⟩ : u = [] ∧ v = [] := by
    have hlength := congrArg List.length hword
    simp only [List.length_append, List.length_cons, List.length_nil] at hlength
    exact ⟨List.eq_nil_of_length_eq_zero (by omega), List.eq_nil_of_length_eq_zero (by omega)⟩
  exact ⟨us, vs, rfl, rfl, (intercalate_cons [] vs).symm⟩

/-- **Headings lose and invent nothing**: for a key of letters and digits, the heading with `and`
for each word that is an ampersand, without its spaces and in lower case, is the key in lower
case. It has an ampersand for each word `and` of the key, and no other; what stands before the
ampersand and behind it has the letters that stand before that word and behind it. No space is at
either end, and no two are in a row. -/
theorem keyOf_fieldTitle (key : List Char) (hkey : ∀ c ∈ key, c.isAlphanum = true) :
    keyOf (fieldTitle key) = key.map foldAscii ∧
      (∀ before word after, key = before ++ (word ++ after) → IsAnd before word after →
        ∃ left right, fieldTitle key = left ++ '&' :: right ∧ keyOf left = before.map foldAscii ∧
          keyOf right = after.map foldAscii) ∧
      (∀ left right, fieldTitle key = left ++ '&' :: right →
        ∃ before word after, key = before ++ (word ++ after) ∧ IsAnd before word after ∧
          keyOf left = before.map foldAscii ∧ keyOf right = after.map foldAscii) ∧
      IsSpaced (fieldTitle key) := by
  obtain ⟨vs, hjoins, hvs, htitle⟩ := exists_fieldTitle hkey
  have hcamel := isCamel_of_mem_camelWords hkey
  rw [htitle]
  refine ⟨?_, fun before word after heq hand => ?_, fun left right heq => ?_,
    isSpaced_intercalate hvs⟩
  · rw [keyOf_intercalate fun w hw => (hvs w hw).space, lettersOf_joins hcamel hjoins,
      flatten_camelWords]
  · -- from the key to the heading: the word has its ampersand, which the joins leave alone
    rw [heq, hand.camelWords_eq] at hjoins hcamel
    rw [List.map_append, List.map_cons, headingWord_and hand.spells] at hjoins
    obtain ⟨us', vs', rfl, hus, hvs'⟩ := hjoins.split
    obtain ⟨hcut, hleft, hright⟩ := keyOf_around hvs
    refine ⟨_, _, hcut, ?_, ?_⟩
    · rw [hleft, lettersOf_joins (fun w hw => hcamel w (by simp [hw])) hus, flatten_camelWords]
    · rw [hright, lettersOf_joins (fun w hw => hcamel w (by simp [hw])) hvs', flatten_camelWords]
  · -- from the heading to the key: an ampersand is a word, and the joins have made none
    obtain ⟨us', vs', rfl, rfl, rfl⟩ := exists_of_ampersand hvs heq
    obtain ⟨-, hleft, hright⟩ := keyOf_around hvs
    obtain ⟨us, vs, hmap, hus, hvs'⟩ := hjoins.unsplit
    obtain ⟨bs, ws, hwords, rfl, hws⟩ := List.map_eq_append_iff.mp hmap
    obtain ⟨w, as, rfl, hw, rfl⟩ := List.map_eq_cons_iff.mp hws
    have hkeyeq : key = bs.flatten ++ (w ++ as.flatten) := by
      rw [← flatten_camelWords key, hwords, List.flatten_append, List.flatten_cons]
    rw [hwords] at hcamel
    refine ⟨bs.flatten, w, as.flatten, hkeyeq, isAnd_of_camelWords hkey hwords hw, ?_, ?_⟩
    · rw [hleft, lettersOf_joins (fun w hw => hcamel w (by simp [hw])) hus]
    · rw [hright, lettersOf_joins (fun w hw => hcamel w (by simp [hw])) hvs']

/-- One `and` starts a key and another ends at a digit. The third stands behind a digit and stays,
and the letters of `EPS` are joined with the rest of their word. -/
theorem keyOf_fieldTitle_of_two_ands : (∀ c ∈ "andEPSurpriseAnd1and".toList, c.isAlphanum = true) ∧
    fieldTitle "andEPSurpriseAnd1and".toList = "& EPSurprise & 1and".toList ∧
    keyOf "& EPSurprise & 1and".toList = "andepsurpriseand1and".toList ∧
    IsAnd "andEPSurprise".toList "And".toList "1and".toList ∧
    (∃ left right, "& EPSurprise & 1and".toList = left ++ '&' :: right ∧
      keyOf left = "andepsurprise".toList ∧
      keyOf right = "1and".toList) ∧
    (∃ before word after,
      "andEPSurpriseAnd1and".toList = before ++ (word ++ after) ∧ IsAnd before word after ∧
      keyOf "& EPSurprise ".toList = before.map foldAscii ∧
      keyOf " 1and".toList = after.map foldAscii) ∧
    IsSpaced "& EPSurprise & 1and".toList := by
  have hkey : ∀ c ∈ "andEPSurpriseAnd1and".toList, c.isAlphanum = true :=
    List.all_eq_true.mp (by decide)
  have htitle : fieldTitle "andEPSurpriseAnd1and".toList = "& EPSurprise & 1and".toList := by
    decide +kernel
  have hand : IsAnd "andEPSurprise".toList "And".toList "1and".toList :=
    ⟨.inr rfl, .inr ⟨'A', rfl, by decide⟩, fun c hc => .inr (Option.some.inj hc ▸ by decide)⟩
  obtain ⟨hletters, hampersand, hword, hspaced⟩ := keyOf_fieldTitle _ hkey
  rw [htitle] at hletters hampersand hword hspaced
  exact ⟨hkey, htitle, hletters, hand, hampersand _ _ _ rfl hand, hword _ _ rfl, hspaced⟩

end ChatBot.Text
