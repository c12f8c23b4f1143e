import Mathlib
import ChatBot.Text.Grouping
import ChatBot.Proofs.Json.Numeral
import ChatBot.Proofs.Text.Integer

/-!
Numbers with commas.

* `filter_withCommas`: without its commas a number has its usual text;
* `IsGrouped`: digits in groups of three, of which the first may be shorter. `exists_groups`
  says that commas cut digits into such groups: the length of the first one is settled by the
  count of the digits behind it;
* `withCommas_grouped`: so a number with commas is its sign and its digits in groups, and no
  two numbers have the same text.
-/

namespace ChatBot.Text

open Binary64 (digits)

/-- Commas are taken out of groups of digits again. -/
lemma filter_groupDigits {cs : List Char} (h : ',' ∉ cs) :
    (groupDigits cs).filter (· ≠ ',') = cs := by
  induction cs with
  | nil => rfl
  | cons c cs ih =>
      rw [List.mem_cons, not_or] at h
      rw [groupDigits, List.filter_cons_of_pos (by simpa using Ne.symm h.1)]
      split
      · rw [List.filter_cons_of_neg (by simp), ih h.2]
      · rw [ih h.2]

lemma comma_not_mem_digits (n : ℕ) : ',' ∉ digits n :=
  fun h => absurd (isDigit_of_mem_toDigits h) (by decide)

/-- Without its commas a number has its usual text. -/
lemma filter_withCommas (n : ℤ) : (withCommas n).filter (· ≠ ',') = (toString n).toList := by
  have hsign : ((if n < 0 then ['-'] else []).filter (· ≠ ',') : List Char) =
      if n < 0 then ['-'] else [] := by
    split <;> decide
  rw [withCommas, List.filter_append, hsign, filter_groupDigits (comma_not_mem_digits _),
    toList_toString_int]

/-- Digits in groups: the first group has one to three of them, and every other has three. -/
structure IsGrouped (groups : List (List Char)) : Prop where
  ne_nil : groups ≠ []
  digits : ∀ g ∈ groups, ∀ c ∈ g, isDigit c = true
  first : ∀ g ∈ groups.head?, 1 ≤ g.length ∧ g.length ≤ 3
  others : ∀ g ∈ groups.tail, g.length = 3

/-- The commas stand between groups of three, the first of which is shorter by
what the others leave over. -/
lemma exists_groups (c : Char) (cs : List Char) : ∃ g gs,
    groupDigits (c :: cs) = [','].intercalate (g :: gs) ∧ (g :: gs).flatten = c :: cs ∧
      g.length = cs.length % 3 + 1 ∧ ∀ h ∈ gs, h.length = 3 := by
  induction cs generalizing c with
  | nil => exact ⟨[c], [], rfl, rfl, rfl, List.forall_mem_nil _⟩
  | cons d ds ih =>
      obtain ⟨g, gs, htext, hflatten, hfirst, hothers⟩ := ih d
      rw [groupDigits, htext, List.length_cons]
      by_cases hfull : (ds.length + 1) % 3 = 0
      · -- the first group behind is full, so a new one starts
        refine ⟨[c], g :: gs, ?_, ?_, ?_, List.forall_mem_cons.mpr ⟨?_, hothers⟩⟩
        · rw [List.intercalate_cons_cons]
          simp [hfull]
        · rw [List.flatten_cons, hflatten, List.singleton_append]
        · rw [hfull, List.length_singleton]
        · omega
      · refine ⟨c :: g, gs, ?_, ?_, ?_, hothers⟩
        · rw [List.intercalate_cons_cons_left]
          simp [hfull]
        · rw [List.flatten_cons, List.cons_append, ← List.flatten_cons, hflatten]
        · rw [List.length_cons, hfirst]
          omega

/-- Digits with commas are digits in groups. -/
lemma exists_isGrouped {ds : List Char} (hne : ds ≠ []) (hds : ∀ c ∈ ds, isDigit c = true) :
    ∃ groups, IsGrouped groups ∧ groupDigits ds = [','].intercalate groups := by
  obtain ⟨c, cs, rfl⟩ := List.exists_cons_of_ne_nil hne
  obtain ⟨g, gs, htext, hflatten, hfirst, hothers⟩ := exists_groups c cs
  refine ⟨g :: gs, ⟨List.cons_ne_nil g gs, fun h hh d hd => hds d ?_, ?_, hothers⟩, htext⟩
  · rw [← hflatten]
    exact List.mem_flatten_of_mem hh hd
  · rintro _ ⟨⟩
    omega

/-- **Numbers with commas**: without the commas an integer has its usual text. Behind a minus
sign, which stands there exactly if the integer is negative, its digits stand in groups with
commas between them: one to three of them in the first group and three in every other. No two
integers have the same text. -/
theorem withCommas_grouped :
    (∀ n : ℤ, (withCommas n).filter (· ≠ ',') = (toString n).toList ∧
      ∃ groups, IsGrouped groups ∧
        withCommas n = (if n < 0 then ['-'] else []) ++ [','].intercalate groups) ∧
      Function.Injective withCommas := by
  refine ⟨fun n => ⟨filter_withCommas n, ?_⟩, fun m n heq => ?_⟩
  · have hdigits : ∀ c ∈ digits n.natAbs, isDigit c = true := fun _ => isDigit_of_mem_toDigits
    have hne : digits n.natAbs ≠ [] := Nat.toDigits_ne_nil
    obtain ⟨groups, hgroups, htext⟩ := exists_isGrouped hne hdigits
    exact ⟨groups, hgroups, by rw [withCommas, htext]⟩
  · have htext := congrArg (List.filter (· ≠ ',')) heq
    rw [filter_withCommas, filter_withCommas, String.toList_inj] at htext
    exact Int.repr_inj.mp htext

example : withCommas Binary64.int64Min = "-9,223,372,036,854,775,808".toList := by decide

end ChatBot.Text
