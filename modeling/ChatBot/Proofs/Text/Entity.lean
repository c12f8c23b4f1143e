import ChatBot.Proofs.Text.Blank
import ChatBot.Proofs.Text.LetterCase
import ChatBot.Text.Entity

/-!
Texts in which references stand for characters.

* `Names`, `Reference`: the ways in which a reference to a character is
  written, by a name or by a number;
* `Encodes`: a text that is written character by character, each as it is or as a reference;
* `numberIn?_toDigits`: a number is read back from its digits in a base of up to
  sixteen, where neither zeros in front nor the case of letters count
  (`numberIn?_zeros`, `numberIn?_map_foldAscii`);
* `Reference.reference?_append`: a reference is read back in front of any text;
* `unescape_encodes`: so is every text that is written in such a way, and
  what follows is read by itself.
-/

namespace ChatBot.Text

/-- The names of characters. -/
inductive Names : String → Char → Prop
  | ampersand : Names "amp" '&'
  | less : Names "lt" '<'
  | greater : Names "gt" '>'
  | quote : Names "quot" '"'
  | apostrophe : Names "apos" '\''
  | pound : Names "pound" '£'
  | euro : Names "euro" '€'
  | yen : Names "yen" '¥'

/-- The ways in which a reference to a character is written, without the ampersand and the
semicolon: its number in base ten or sixteen, with any zeros in front and letters in
either case, or its name. -/
inductive Reference (c : Char) : List Char → Prop
  | decimal (zeros : ℕ) : Reference c ('#' :: (List.replicate zeros '0' ++ Nat.toDigits 10 c.toNat))
  | hexadecimal {x : Char} (hx : x = 'x' ∨ x = 'X') (zeros : ℕ) {digits : List Char}
      (hdigits : digits.map foldAscii = Nat.toDigits 16 c.toNat) :
      Reference c ('#' :: x :: (List.replicate zeros '0' ++ digits))
  | named {name : String} (h : Names name c) : Reference c name.toList

/-- A text is written character by character: as it is, unless it is an
ampersand, or as a reference. -/
inductive Encodes : List Char → List Char → Prop
  | nil : Encodes [] []
  | plain {c : Char} {cs written : List Char} (hc : c ≠ '&') (h : Encodes cs written) :
      Encodes (c :: cs) (c :: written)
  | reference {c : Char} {cs reference written : List Char} (hc : Reference c reference)
      (h : Encodes cs written) : Encodes (c :: cs) ('&' :: (reference ++ ';' :: written))

variable {base n : ℕ} {c : Char} {cs ds reference rest written : List Char}

/-! ### Numbers -/

/-- The last digit is added to what the others stand for, one place higher. -/
lemma numberIn?_concat (base : ℕ) (ds : List Char) (d : Char) :
    numberIn? base (ds ++ [d]) =
      (numberIn? base ds).bind fun n => (digitIn? base d).map fun v => base * n + v := by
  simp only [numberIn?, List.mapM_append, List.mapM_cons, List.mapM_nil]
  cases ds.mapM (digitIn? base) with
  | none => rfl
  | some values => cases digitIn? base d <;> simp

/-- Zeros in front do not count. -/
lemma numberIn?_zeros (hbase : 0 < base) (zeros : ℕ) (ds : List Char) :
    numberIn? base (List.replicate zeros '0' ++ ds) = numberIn? base ds := by
  have hzero : digitIn? base '0' = some 0 := by simp [digitIn?, isDigit, digitValue, hbase]
  induction zeros with
  | zero => rfl
  | succ zeros ih =>
      rw [← ih, List.replicate_succ, List.cons_append, numberIn?, List.mapM_cons, hzero, numberIn?]
      cases (List.replicate zeros '0' ++ ds).mapM (digitIn? base) <;> simp

/-- A digit is read back. -/
lemma digitIn?_digitChar {v : ℕ} (hv : v < base) (hbase : base ≤ 16) :
    digitIn? base v.digitChar = some v := by
  have hall : ∀ v < 16, digitIn? 16 v.digitChar = some v := by decide
  have hvalue := hall v (by omega)
  simp only [digitIn?, Option.filter_eq_some_iff] at hvalue ⊢
  exact ⟨hvalue.1, by simpa using hv⟩

/-- A number is read back from its digits. -/
lemma numberIn?_toDigits (hbase : 1 < base) (hbase' : base ≤ 16) (n : ℕ) :
    numberIn? base (Nat.toDigits base n) = some n := by
  induction n using Nat.strong_induction_on with
  | _ n ih =>
      rcases Nat.lt_or_ge n base with hlt | hge
      · have hempty : numberIn? base [] = some 0 := rfl
        rw [Nat.toDigits_of_lt_base hlt, ← List.nil_append [n.digitChar], numberIn?_concat, hempty,
          digitIn?_digitChar hlt hbase']
        simp
      · have hdigit := digitIn?_digitChar (Nat.mod_lt n (by omega)) hbase'
        rw [Nat.toDigits_of_base_le hbase hge, numberIn?_concat,
          ih _ (Nat.div_lt_self (by omega) hbase), hdigit]
        simp [Nat.div_add_mod]

/-- Capitals count as small letters. -/
lemma numberIn?_map_foldAscii (ds : List Char) :
    numberIn? 16 (ds.map foldAscii) = numberIn? 16 ds := by
  have hdigit : digitIn? 16 ∘ foldAscii = digitIn? 16 := funext fun c =>
    foldAscii_induct (P := fun d c => digitIn? 16 d = digitIn? 16 c) (fun _ => rfl) (by decide) c
  rw [numberIn?, List.mapM_map, hdigit, numberIn?]

/-- Nothing but digits makes up a number. -/
lemma not_mem_of_numberIn? (h : numberIn? base ds = some n) (hc : digitIn? base c = none) :
    c ∉ ds := by
  obtain ⟨values, hvalues, -⟩ := Option.map_eq_some_iff.mp h
  clear h
  induction ds generalizing values with
  | nil => exact List.not_mem_nil
  | cons d ds ih =>
      simp only [List.mapM_cons, Option.bind_eq_bind, Option.bind_eq_some_iff] at hvalues
      obtain ⟨v, hv, others, hothers, -⟩ := hvalues
      refine List.not_mem_cons_of_ne_of_not_mem (fun heq => ?_) (ih others hothers)
      rw [heq, hv] at hc
      exact nomatch hc

/-- A run of digits has no sign in front. -/
lemma number?_of_numberIn? (hne : ds ≠ []) (h : numberIn? base ds = some n) :
    number? base ds = some n := by
  have hplus : '+' ∉ ds := not_mem_of_numberIn? h rfl
  unfold number?
  split
  · next rest => exact absurd List.mem_cons_self hplus
  · exact (if_neg (by simpa using hne)).trans h

/-! ### References -/

lemma charOfCode?_toNat (c : Char) : charOfCode? c.toNat = some c := by
  have hvalid : c.toNat.isValidChar := c.valid
  rw [charOfCode?, if_pos hvalid, Char.ofNat_toNat]

lemma numberIn?_decimal (zeros n : ℕ) :
    numberIn? 10 (List.replicate zeros '0' ++ Nat.toDigits 10 n) = some n := by
  rw [numberIn?_zeros (by norm_num), numberIn?_toDigits (by norm_num) (by norm_num)]

lemma numberIn?_hexadecimal (zeros : ℕ) (hds : ds.map foldAscii = Nat.toDigits 16 n) :
    numberIn? 16 (List.replicate zeros '0' ++ ds) = some n := by
  rw [numberIn?_zeros (by norm_num), ← numberIn?_map_foldAscii, hds,
    numberIn?_toDigits (by norm_num) (by norm_num)]

/-- A reference is to one character. -/
lemma Reference.entity? (h : Reference c reference) : entity? reference = some c := by
  cases h with
  | decimal zeros =>
      have hnumber := numberIn?_decimal zeros c.toNat
      have hne : List.replicate zeros '0' ++ Nat.toDigits 10 c.toNat ≠ [] :=
        List.append_ne_nil_of_right_ne_nil _ Nat.toDigits_ne_nil
      -- behind the mark there is a digit, and so no sign of base sixteen
      rw [Text.entity?.eq_3, number?_of_numberIn? hne hnumber, Option.bind_some, charOfCode?_toNat]
      · rintro digits heq
        exact not_mem_of_numberIn? hnumber (c := 'x') rfl (heq ▸ List.mem_cons_self)
      · rintro digits heq
        exact not_mem_of_numberIn? hnumber (c := 'X') rfl (heq ▸ List.mem_cons_self)
  | @hexadecimal x hx zeros ds hds =>
      have hnumber := numberIn?_hexadecimal zeros hds
      have hne : List.replicate zeros '0' ++ ds ≠ [] := by
        refine List.append_ne_nil_of_right_ne_nil _ fun hnil =>
          Nat.toDigits_ne_nil (b := 16) (n := c.toNat) ?_
        rw [← hds, hnil, List.map_nil]
      have hdigits : Text.entity? ('#' :: x :: (List.replicate zeros '0' ++ ds)) =
          (number? 16 (List.replicate zeros '0' ++ ds)).bind charOfCode? := by
        rcases hx with rfl | rfl <;> rfl
      rw [hdigits, number?_of_numberIn? hne hnumber, Option.bind_some, charOfCode?_toNat]
  | named h => cases h <;> rfl

/-- No semicolon stands in a reference. -/
lemma Reference.not_mem (h : Reference c reference) : ';' ∉ reference := by
  cases h with
  | decimal zeros =>
      have hdigits := not_mem_of_numberIn? (c := ';') (numberIn?_decimal zeros c.toNat) rfl
      exact List.not_mem_cons_of_ne_of_not_mem (by decide) hdigits
  | @hexadecimal x hx zeros ds hds =>
      have hdigits := not_mem_of_numberIn? (c := ';') (numberIn?_hexadecimal zeros hds) rfl
      have hmark : ';' ≠ x := by rcases hx with rfl | rfl <;> decide
      exact List.not_mem_cons_of_ne_of_not_mem (by decide)
        (List.not_mem_cons_of_ne_of_not_mem hmark hdigits)
  | named h => cases h <;> decide

/-- A reference ends at its semicolon, whatever follows. -/
lemma Reference.reference?_append (h : Reference c reference) (rest : List Char) :
    reference? (reference ++ ';' :: rest) = some (c, rest) := by
  have hbreak : breakAtSemicolon (reference ++ ';' :: rest) = some (reference, rest) := by
    have hrun : ∀ d ∈ reference, decide (d ≠ ';') = true := fun d hd =>
      decide_eq_true fun heq => h.not_mem (heq ▸ hd)
    have hrest : ∀ d ∈ (';' :: rest).head?, decide (d ≠ ';') = false := by simp
    rw [breakAtSemicolon, dropWhile_run hrun hrest, takeWhile_run hrun hrest]
  simp only [reference?, hbreak, Option.bind_some, h.entity?, Option.map_some]

/-! ### Texts -/

lemma unescape_cons (hc : c ≠ '&') (cs : List Char) : unescape (c :: cs) = c :: unescape cs := by
  rw [unescape, if_neg hc]

lemma unescape_reference (hc : Reference c reference) (rest : List Char) :
    unescape ('&' :: (reference ++ ';' :: rest)) = c :: unescape rest := by
  rw [unescape, if_pos rfl]
  split
  · next decoded after hfound =>
    obtain ⟨rfl, rfl⟩ :=
      Prod.mk.inj (Option.some.inj (hfound.symm.trans (hc.reference?_append rest)))
    rfl
  · next hnone =>
    rw [hc.reference?_append rest] at hnone
    exact absurd hnone (Option.some_ne_none _)

/-- A text is read back in front of whatever follows it. -/
lemma Encodes.unescape_append (h : Encodes cs written) (rest : List Char) :
    unescape (written ++ rest) = cs ++ unescape rest := by
  induction h with
  | nil => rfl
  | plain hc _ ih => rw [List.cons_append, unescape_cons hc, ih, List.cons_append]
  | @reference c cs reference written hc _ ih =>
      have hassoc : '&' :: (reference ++ ';' :: written) ++ rest =
          '&' :: (reference ++ ';' :: (written ++ rest)) := by simp
      rw [hassoc, unescape_reference hc, ih, List.cons_append]

/-- The form in which ampersands alone are written as references. -/
def escapeAmpersands (cs : List Char) : List Char :=
  cs.flatMap fun c => if c = '&' then "&amp;".toList else [c]

lemma encodes_escapeAmpersands (cs : List Char) : Encodes cs (escapeAmpersands cs) := by
  induction cs with
  | nil => exact .nil
  | cons c cs ih =>
      by_cases hc : c = '&'
      · subst hc
        exact .reference (.named .ampersand) ih
      · have hcons : escapeAmpersands (c :: cs) = c :: escapeAmpersands cs := by
          simp [escapeAmpersands, hc]
        rw [hcons]
        exact .plain hc ih

lemma encodes_self (h : '&' ∉ cs) : Encodes cs cs := by
  induction cs with
  | nil => exact .nil
  | cons c cs ih =>
      rw [List.mem_cons, not_or] at h
      exact .plain (Ne.symm h.1) (ih h.2)

/-- **Character references**: whichever way the characters of a text are written, as they are (but
for an ampersand) or as references by name or by number, the text is read back. What follows it is
read by itself, so that nothing is looked at again which came out of a reference. So ampersands that
are escaped come back, and a text without any stays as it is. -/
theorem unescape_encodes :
    (∀ cs written, Encodes cs written →
      unescape written = cs ∧ ∀ rest, unescape (written ++ rest) = cs ++ unescape rest) ∧
    (∀ cs, unescape (escapeAmpersands cs) = cs) ∧
    ∀ cs, '&' ∉ cs → unescape cs = cs := by
  have hall : ∀ {cs written}, Encodes cs written → unescape written = cs := by
    intro cs written h
    have hnil : unescape [] = [] := by rw [unescape]
    simpa [hnil] using h.unescape_append []
  exact ⟨fun cs written h => ⟨hall h, h.unescape_append⟩,
    fun cs => hall (encodes_escapeAmpersands cs), fun cs h => hall (encodes_self h)⟩

/-- A text that looks like a reference, written with one reference of each kind. -/
theorem unescape_encodes_of_kinds :
    Encodes "&lt;".toList "&amp;&#0108;&#X74;;".toList ∧
    unescape "&amp;&#0108;&#X74;;".toList = "&lt;".toList ∧
      '&' ∉ "lt;".toList ∧ unescape "lt;".toList = "lt;".toList := by
  have hdigits : ['7', '4'].map foldAscii = Nat.toDigits 16 't'.toNat := rfl
  have h : Encodes "&lt;".toList "&amp;&#0108;&#X74;;".toList :=
    .reference (.named .ampersand) (.reference (.decimal 1)
      (.reference (.hexadecimal (.inr rfl) 0 hdigits) (.plain (by decide) .nil)))
  have hplain : '&' ∉ "lt;".toList := by decide
  exact ⟨h, (unescape_encodes.1 _ _ h).1, hplain, unescape_encodes.2.2 _ hplain⟩

end ChatBot.Text
