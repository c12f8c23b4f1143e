import Mathlib
import ChatBot.Text.Capital
import ChatBot.Proofs.Text.Blank

/-!
Words of keys in camel case.

* `camelWords`: the words of a key. By `words_spaceOut` these are the words
  that a heading is made from;
* `IsCamel`: the shape of such a word when the key is made of letters and digits. `IsCamel.cases`
  says what becomes of it in a heading;
* `IsAnd`: the word `and` between two parts of a key. `IsAnd.camelWords_eq` and
  `isAnd_of_camelWords` say that these are the words of the key that become ampersands.
-/

namespace ChatBot.Text

variable {c : Char} {cs a b key w before after : List Char} {us vs : List (List Char)}

/-! ### Words of keys -/

/-- The words of a key in camel case: each starts at the beginning or at a
character that is no small letter. -/
def camelWords : List Char → List (List Char)
  | [] => []
  | c :: cs => (c :: cs.takeWhile isLowercase) :: camelWords (cs.dropWhile isLowercase)
termination_by cs => cs.length
decreasing_by simpa using Nat.lt_succ_of_le (List.dropWhile_sublist isLowercase).length_le

lemma flatten_camelWords (cs : List Char) : (camelWords cs).flatten = cs := by
  fun_induction camelWords cs with
  | case1 => rfl
  | case2 c cs ih => rw [List.flatten_cons, ih, List.cons_append, List.takeWhile_append_dropWhile]

/-- A word ends where the next one starts. -/
lemma camelWords_append (h : ∀ c ∈ b.head?, isLowercase c = false) (a : List Char) :
    camelWords (a ++ b) = camelWords a ++ camelWords b := by
  fun_induction camelWords a with
  | case1 => rfl
  | case2 c cs ih =>
      have hsmall : ∀ d ∈ cs.takeWhile isLowercase, isLowercase d = true :=
        fun _ hd => List.mem_takeWhile_imp hd
      have hstop : ∀ d ∈ (cs.dropWhile isLowercase ++ b).head?, isLowercase d = false :=
        head?_append_run (head?_dropWhile isLowercase cs) h
      have hsplit : cs ++ b = cs.takeWhile isLowercase ++ (cs.dropWhile isLowercase ++ b) := by
        rw [← List.append_assoc, List.takeWhile_append_dropWhile]
      rw [List.cons_append, hsplit, camelWords, takeWhile_run hsmall hstop,
        dropWhile_run hsmall hstop, ih]
      rfl

/-- All words start with characters that are no small letters if the first one does. -/
lemma head?_of_mem_camelWords (h : ∀ c ∈ cs.head?, isLowercase c = false) :
    ∀ w ∈ camelWords cs, ∀ c ∈ w.head?, isLowercase c = false := by
  fun_induction camelWords cs with
  | case1 => exact List.forall_mem_nil _
  | case2 c cs ih =>
      exact List.forall_mem_cons.mpr ⟨fun d hd => h d hd, ih (head?_dropWhile isLowercase cs)⟩

/-- Behind the first word no small letter starts one. -/
lemma head?_of_mem_tail_camelWords (cs : List Char) :
    ∀ w ∈ (camelWords cs).tail, ∀ c ∈ w.head?, isLowercase c = false := by
  cases cs with
  | nil => simp [camelWords]
  | cons c cs =>
      rw [camelWords]
      exact head?_of_mem_camelWords (head?_dropWhile isLowercase cs)

lemma spaceOut_cons (c : Char) (cs : List Char) :
    spaceOut (c :: cs) = (if isLowercase c then [] else [' ']) ++ c :: spaceOut cs := by
  rw [spaceOut, List.flatMap_cons, ← spaceOut]
  split <;> rfl

/-- No blank is put into a run of small letters. -/
lemma spaceOut_append (h : ∀ c ∈ a, isLowercase c = true) (b : List Char) :
    spaceOut (a ++ b) = a ++ spaceOut b := by
  induction a with
  | nil => rfl
  | cons c a ih =>
      obtain ⟨hc, ha⟩ := List.forall_mem_cons.mp h
      rw [List.cons_append, spaceOut_cons, if_pos hc, ih ha]
      rfl

/-- The words of a key are those between the blanks that are put in. -/
lemma words_spaceOut (h : ∀ c ∈ cs, isBlank c = false) : words (spaceOut cs) = camelWords cs := by
  have hspace : isBlank ' ' = true := by decide
  fun_induction camelWords cs with
  | case1 => simp [spaceOut, words]
  | case2 c cs ih =>
      obtain ⟨hc, hcs⟩ := List.forall_mem_cons.mp h
      have hsmall : ∀ d ∈ cs.takeWhile isLowercase, isLowercase d = true :=
        fun _ hd => List.mem_takeWhile_imp hd
      have hsolid : ∀ d ∈ c :: cs.takeWhile isLowercase, isBlank d = false :=
        List.forall_mem_cons.mpr ⟨hc, fun d hd => hcs d ((List.takeWhile_prefix _).mem hd)⟩
      have hrest : ∀ d ∈ cs.dropWhile isLowercase, isBlank d = false := fun d hd =>
        hcs d ((List.dropWhile_suffix _).mem hd)
      have hend : ∀ d ∈ (spaceOut (cs.dropWhile isLowercase)).head?, isBlank d = true := by
        have hhead := head?_dropWhile isLowercase cs
        cases hdrop : cs.dropWhile isLowercase with
        | nil => simp [spaceOut]
        | cons d behind =>
            rw [hdrop] at hhead
            rw [spaceOut_cons, hhead d rfl]
            simpa using hspace
      have hgap : ∀ d ∈ if isLowercase c then [] else [' '], isBlank d = true := by
        split <;> simp [hspace]
      have hsplit : cs = cs.takeWhile isLowercase ++ cs.dropWhile isLowercase :=
        List.takeWhile_append_dropWhile.symm
      calc words (spaceOut (c :: cs))
          = words ((if isLowercase c then [] else [' ']) ++
              ((c :: cs.takeWhile isLowercase) ++ spaceOut (cs.dropWhile isLowercase))) := by
            rw [spaceOut_cons, List.cons_append, ← spaceOut_append hsmall, ← hsplit]
        _ = (c :: cs.takeWhile isLowercase) :: camelWords (cs.dropWhile isLowercase) := by
            rw [words_append hgap, words_word (List.cons_ne_nil _ _) hsolid hend, ih hrest]

/-! ### Letters and digits -/

/-- What holds of the letters and digits among the first characters holds
of all letters and digits. -/
lemma forall_alphanum {P : Char → Prop}
    (h : ∀ n < 128, (Char.ofNat n).isAlphanum = true → P (Char.ofNat n))
    (hc : c.isAlphanum = true) : P c := by
  have hlt : c.toNat < 128 := by
    simp only [Char.isAlphanum, Char.isAlpha, Char.isUpper, Char.isLower, Char.isDigit,
      Bool.or_eq_true, Bool.and_eq_true, decide_eq_true_eq, ge_iff_le, UInt32.le_iff_toNat_le] at hc
    have hrange : (65 ≤ c.toNat ∧ c.toNat ≤ 90 ∨ 97 ≤ c.toNat ∧ c.toNat ≤ 122) ∨
      48 ≤ c.toNat ∧ c.toNat ≤ 57 := hc
    omega
  have hP := h c.toNat hlt
  rw [Char.ofNat_toNat] at hP
  exact hP hc

/-- The upper case of a letter or a digit. -/
lemma upper_of_alphanum (hc : c.isAlphanum = true) :
    toUpper c = [c.toUpper] ∧ foldAscii c.toUpper = foldAscii c ∧
    c.toUpper ≠ ' ' ∧ c.toUpper ≠ '&' ∧ (c.toUpper = 'A' ↔ c = 'a' ∨ c = 'A') :=
  forall_alphanum (P := fun c => toUpper c = [c.toUpper] ∧ foldAscii c.toUpper = foldAscii c ∧
    c.toUpper ≠ ' ' ∧ c.toUpper ≠ '&' ∧ (c.toUpper = 'A' ↔ c = 'a' ∨ c = 'A'))
    (by decide +kernel) hc

lemma isBlank_eq_false_of_alphanum (hc : c.isAlphanum = true) : isBlank c = false :=
  forall_alphanum (P := fun c => isBlank c = false) (by decide) hc

lemma isLowercase_of_alphanum (hc : c.isAlphanum = true) : isLowercase c = c.isLower :=
  forall_alphanum (P := fun c => isLowercase c = c.isLower) (by decide +kernel) hc

/-- Letters and digits that are no small letters. -/
lemma isLowercase_eq_false_iff (hc : c.isAlphanum = true) :
    isLowercase c = false ↔ c.isUpper = true ∨ c.isDigit = true :=
  forall_alphanum (P := fun c => isLowercase c = false ↔ c.isUpper = true ∨ c.isDigit = true)
    (by decide +kernel) hc

lemma isLowercase_eq_false_of (h : c.isUpper = true ∨ c.isDigit = true) :
    isLowercase c = false := by
  have hc : c.isAlphanum = true := by
    rcases h with h | h <;> simp [Char.isAlphanum, Char.isAlpha, h]
  exact (isLowercase_eq_false_iff hc).mpr h

lemma isAlphanum_of_isLower (h : c.isLower = true) : c.isAlphanum = true := by
  simp [Char.isAlphanum, Char.isAlpha, h]

/-- The lower case of a small letter. -/
lemma lower_of_isLower (hc : c.isLower = true) : toLower c = [c] ∧ c ≠ ' ' ∧ c ≠ '&' ∧ c ≠ 'E' :=
  forall_alphanum (P := fun c => c.isLower = true → toLower c = [c] ∧ c ≠ ' ' ∧ c ≠ '&' ∧ c ≠ 'E')
    (by decide +kernel) (isAlphanum_of_isLower hc) hc

/-! ### Words in camel case -/

/-- A word of a key: a letter or a digit with small letters behind it. -/
inductive IsCamel : List Char → Prop
  | mk {c : Char} {cs : List Char} (hc : c.isAlphanum = true) (hcs : ∀ d ∈ cs, d.isLower = true) :
      IsCamel (c :: cs)

lemma isCamel_of_mem_camelWords (h : ∀ c ∈ key, c.isAlphanum = true) :
    ∀ w ∈ camelWords key, IsCamel w := by
  fun_induction camelWords key with
  | case1 => exact List.forall_mem_nil _
  | case2 c cs ih =>
      obtain ⟨hc, hcs⟩ := List.forall_mem_cons.mp h
      refine List.forall_mem_cons.mpr
        ⟨.mk hc fun d hd => ?_, ih fun d hd => hcs d ((List.dropWhile_suffix _).mem hd)⟩
      rw [← isLowercase_of_alphanum (hcs d ((List.takeWhile_prefix _).mem hd))]
      exact List.mem_takeWhile_imp hd

/-- Only the first letter of a word is changed. -/
lemma capitalize_cons (hc : c.isAlphanum = true) (hcs : ∀ d ∈ cs, d.isLower = true) :
    capitalize (c :: cs) = c.toUpper :: cs := by
  have hlower : cs.flatMap toLower = cs := by
    induction cs with
    | nil => rfl
    | cons d cs ih =>
        obtain ⟨hd, hcs⟩ := List.forall_mem_cons.mp hcs
        rw [List.flatMap_cons, (lower_of_isLower hd).1, ih hcs]
        rfl
  rw [capitalize, (upper_of_alphanum hc).1, hlower]
  rfl

/-- A word of a heading is the word of the key with a capital, or an ampersand. -/
lemma IsCamel.cases (h : IsCamel w) :
    (w = "and".toList ∨ w = "And".toList) ∧ headingWord w = ['&'] ∨
    (∃ c cs, w = c :: cs ∧ c.isAlphanum = true ∧ (∀ d ∈ cs, d.isLower = true) ∧
      headingWord w = c.toUpper :: cs) := by
  obtain ⟨hc, hcs⟩ := h
  rw [headingWord, capitalize_cons hc hcs]
  split
  · next heq =>
    obtain ⟨hfirst, rfl⟩ := List.cons.inj heq
    refine .inl ⟨?_, rfl⟩
    rcases (upper_of_alphanum hc).2.2.2.2.mp hfirst with rfl | rfl
    · exact .inl rfl
    · exact .inr rfl
  · exact .inr ⟨_, _, rfl, hc, hcs, rfl⟩

lemma headingWord_and (h : w = "and".toList ∨ w = "And".toList) : headingWord w = ['&'] := by
  rcases h with rfl | rfl <;> decide

lemma IsCamel.eq_and (h : IsCamel w) (hw : headingWord w = ['&']) :
    w = "and".toList ∨ w = "And".toList := by
  rcases h.cases with ⟨hand, -⟩ | ⟨c, cs, rfl, hc, -, hheading⟩
  · exact hand
  · rw [hheading] at hw
    exact absurd (List.cons.inj hw).1 (upper_of_alphanum hc).2.2.2.1

/-! ### The word `and` -/

/-- The word `and` of a key in camel case: it starts the key or starts with a capital, and it is
followed by the end of the key, by a capital or by a digit. -/
structure IsAnd (before word after : List Char) : Prop where
  spells : word = "and".toList ∨ word = "And".toList
  starts : before = [] ∨ ∃ c ∈ word.head?, c.isUpper = true
  ends : ∀ c ∈ after.head?, c.isUpper = true ∨ c.isDigit = true

/-- The words of a key around `and`. -/
lemma IsAnd.camelWords_eq (h : IsAnd before w after) :
    camelWords (before ++ (w ++ after)) = camelWords before ++ w :: camelWords after := by
  have hsmall : isLowercase 'n' = true ∧ isLowercase 'd' = true := by decide
  -- the key is cut in front of the word and behind it, and the word is not cut
  have hword : camelWords w = [w] := by rcases h.spells with rfl | rfl <;> simp [camelWords, hsmall]
  have hafter : ∀ c ∈ after.head?, isLowercase c = false := fun c hc =>
    isLowercase_eq_false_of (h.ends c hc)
  rw [← List.singleton_append, ← hword, ← camelWords_append hafter]
  rcases h.starts with rfl | ⟨c, hc, hupper⟩
  · have hnil : camelWords [] = [] := by rw [camelWords]
    rw [hnil, List.nil_append, List.nil_append]
  · refine camelWords_append (fun d hd => ?_) before
    rw [List.head?_append, Option.mem_def.mp hc, Option.some_or, Option.mem_some_iff] at hd
    exact hd ▸ isLowercase_eq_false_of (.inl hupper)

/-- A word that becomes an ampersand is `and` between two parts of the key. -/
lemma isAnd_of_camelWords (hkey : ∀ c ∈ key, c.isAlphanum = true)
    (heq : camelWords key = us ++ w :: vs) (hw : headingWord w = ['&']) :
    IsAnd us.flatten w vs.flatten := by
  have hcamel := isCamel_of_mem_camelWords hkey
  have htail := head?_of_mem_tail_camelWords key
  rw [heq] at hcamel htail
  have hspells := (hcamel w (by simp)).eq_and hw
  refine ⟨hspells, ?_, fun c hc => ?_⟩
  · rcases us with _ | ⟨u, us⟩
    · exact .inl rfl
    · -- only the first word of a key may start with a small letter
      rcases hspells with rfl | rfl
      · exact absurd (htail "and".toList (by simp) 'a' rfl) (by decide)
      · exact .inr ⟨'A', rfl, by decide⟩
  · rcases vs with _ | ⟨v, vs⟩
    · exact absurd hc (by simp)
    · have hv : v ∈ (us ++ w :: v :: vs).tail := by cases us <;> simp
      obtain ⟨hd, -⟩ := hcamel v (by simp)
      obtain rfl := Option.some.inj hc
      exact (isLowercase_eq_false_iff hd).mp (htail _ hv _ rfl)

end ChatBot.Text
