import Mathlib.Tactic
import ChatBot.Text.LetterCase

/-!
Lower case, for names of channels.

* `slash_not_mem_lowercase`: no slash comes up where there was none;
* `String.lowercase_eq_of_equalsIgnoringAsciiCase`: texts that are equal up to the case of ASCII
  letters have the same lower case.
-/

namespace ChatBot.Text

/-! ### Runs of letters -/

/-- A code point stays as it is or is moved by a run that it lies in. -/
lemma CaseRun.apply_eq_or (runs : List CaseRun) (n : ℕ) :
    CaseRun.apply runs n = n ∨ ∃ run ∈ runs, run.first ≤ n ∧
      CaseRun.apply runs n = ((n : ℤ) + run.shift).toNat := by
  induction runs with
  | nil => exact .inl rfl
  | cons run rest ih =>
      unfold CaseRun.apply
      split
      · exact .inl rfl
      · next hfirst =>
        split
        · exact .inr ⟨run, List.mem_cons_self, not_lt.mp hfirst, rfl⟩
        · rcases ih with ih | ⟨r, hr, hle, heq⟩
          · exact .inl ih
          · exact .inr ⟨r, List.mem_cons_of_mem _ hr, hle, heq⟩

/-- No run to lower case leads to a slash or below. -/
lemma slash_lt_of_mem_lowerRuns : ∀ run ∈ lowerRuns, (0x2F : ℤ) < run.first + run.shift := by
  decide +kernel

lemma eq_of_ofNat_eq_slash {n : ℕ} (h : Char.ofNat n = '/') : n = 0x2F := by
  by_cases hn : n.isValidChar
  · rw [Char.ofNat, dif_pos hn] at h
    exact congrArg Char.toNat h
  · rw [Char.ofNat, dif_neg hn] at h
    exact absurd h (by decide)

lemma slash_not_mem_toLower {c : Char} (hc : c ≠ '/') : '/' ∉ toLower c := by
  unfold toLower mapCase
  split
  · next codes hcodes =>
    simp only [lowerExpansions, List.lookup_cons, List.lookup_nil] at hcodes
    split at hcodes
    · obtain rfl := Option.some.inj hcodes
      decide
    · simp at hcodes
  · intro hmem
    have hslash := eq_of_ofNat_eq_slash (List.mem_singleton.mp hmem).symm
    rcases CaseRun.apply_eq_or lowerRuns c.toNat with heq | ⟨run, hrun, hle, heq⟩
    · rw [heq] at hslash
      exact hc (Char.toNat_inj.mp hslash)
    · have := slash_lt_of_mem_lowerRuns run hrun
      omega

/-- Lower case brings up no slash. -/
lemma slash_not_mem_lowercase {cs : List Char} (h : '/' ∉ cs) : '/' ∉ lowercase cs := by
  have hafter : ∀ (cs before : List Char), '/' ∉ cs → '/' ∉ lowercaseAfter before cs := by
    intro cs
    induction cs with
    | nil => simp [lowercaseAfter]
    | cons c cs ih =>
        intro before hcs
        obtain ⟨hc, hrest⟩ := not_or.mp (List.mem_cons.not.mp hcs)
        rw [lowercaseAfter, List.mem_append, not_or]
        refine ⟨?_, ih _ hrest⟩
        split
        · split <;> decide
        · exact slash_not_mem_toLower (Ne.symm hc)
  exact hafter cs [] h

/-! ### ASCII letters -/

/-- What holds of the 26 capital letters holds of all characters that folding changes. -/
lemma foldAscii_induct {P : Char → Char → Prop} (same : ∀ c, P c c)
    (letter : ∀ n < 26, P (Char.ofNat (97 + n)) (Char.ofNat (65 + n))) (c : Char) :
    P (foldAscii c) c := by
  unfold foldAscii
  split
  · next hc =>
    obtain ⟨hA, hZ⟩ : 65 ≤ c.toNat ∧ c.toNat ≤ 90 := by
      simpa [Char.le_def, UInt32.le_iff_toNat_le] using hc
    have hletter := letter (c.toNat - 65) (by omega)
    rw [show 97 + (c.toNat - 65) = c.toNat + 32 by omega,
      show 65 + (c.toNat - 65) = c.toNat by omega, Char.ofNat_toNat] at hletter
    exact hletter
  · exact same c

lemma toLower_foldAscii (c : Char) : toLower (foldAscii c) = toLower c := by
  exact foldAscii_induct (P := fun d c => toLower d = toLower c) (fun _ => rfl) (by decide) c

lemma isCased_foldAscii (c : Char) : isCased (foldAscii c) = isCased c :=
  foldAscii_induct (P := fun d c => isCased d = isCased c) (fun _ => rfl) (by decide) c

lemma isCaseIgnorable_foldAscii (c : Char) : isCaseIgnorable (foldAscii c) = isCaseIgnorable c :=
  foldAscii_induct (P := fun d c => isCaseIgnorable d = isCaseIgnorable c) (fun _ => rfl)
    (by decide) c

lemma foldAscii_eq_sigma (c : Char) : foldAscii c = 'Σ' ↔ c = 'Σ' :=
  foldAscii_induct (P := fun d c => d = 'Σ' ↔ c = 'Σ') (fun _ => .rfl) (by decide) c

lemma meetsCased_map_foldAscii (cs : List Char) :
    meetsCased (cs.map foldAscii) = meetsCased cs := by
  unfold meetsCased
  induction cs with
  | nil => rfl
  | cons c cs ih =>
      simp only [List.map_cons, List.dropWhile_cons, isCaseIgnorable_foldAscii]
      split
      · exact ih
      · simp [isCased_foldAscii]

/-- Lower case does not see whether ASCII letters were folded before. -/
lemma lowercase_map_foldAscii (cs : List Char) : lowercase (cs.map foldAscii) = lowercase cs := by
  have hafter : ∀ (cs before : List Char),
      lowercaseAfter (before.map foldAscii) (cs.map foldAscii) = lowercaseAfter before cs := by
    intro cs
    induction cs with
    | nil => exact fun _ => rfl
    | cons c cs ih =>
        intro before
        have hrest := ih (c :: before)
        rw [List.map_cons] at hrest
        simp only [List.map_cons, lowercaseAfter, foldAscii_eq_sigma, toLower_foldAscii,
          meetsCased_map_foldAscii, hrest]
  exact hafter cs []

end ChatBot.Text

/-- Texts that are equal up to the case of ASCII letters have the same lower case. -/
lemma String.lowercase_eq_of_equalsIgnoringAsciiCase {s t : String}
    (h : s.equalsIgnoringAsciiCase t = true) : s.lowercase = t.lowercase := by
  have hmap : s.toList.map ChatBot.Text.foldAscii = t.toList.map ChatBot.Text.foldAscii := by
    simpa [String.equalsIgnoringAsciiCase] using h
  rw [String.lowercase, String.lowercase, ← ChatBot.Text.lowercase_map_foldAscii s.toList, hmap,
    ChatBot.Text.lowercase_map_foldAscii]
