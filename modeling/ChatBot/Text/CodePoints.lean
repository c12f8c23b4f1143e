/-!
Sets of code points given by ascending ranges.

* `Ranges.contains`: membership, which stops at the first range beyond the code point;
* `Ranges.contains_eq_any`: on ascending ranges this is membership in one of them.
-/

namespace ChatBot.Text

/-- Ranges of code points, both ends included. -/
abbrev Ranges := List (Nat × Nat)

namespace Ranges

/-- Membership in ascending ranges. -/
def contains : Ranges → Nat → Bool
  | [], _ => false
  | (lo, hi) :: rest, n => if n < lo then false else decide (n ≤ hi) || contains rest n

/-- The ranges ascend and none is empty. -/
def Ascending (rs : Ranges) : Prop :=
  rs.Pairwise (fun r s => r.2 < s.1) ∧ ∀ r ∈ rs, r.1 ≤ r.2

theorem contains_of_lt_all {rs : Ranges} {n : Nat} (h : ∀ r ∈ rs, n < r.1) :
    (rs.any fun r => decide (r.1 ≤ n) && decide (n ≤ r.2)) = false := by
  simp only [List.any_eq_false, Bool.and_eq_true, decide_eq_true_eq, not_and]
  intro r hr hle
  have := h r hr
  omega

/-- On ascending ranges the early stop loses nothing. -/
theorem contains_eq_any {rs : Ranges} (h : rs.Ascending) (n : Nat) :
    rs.contains n = rs.any fun r => decide (r.1 ≤ n) && decide (n ≤ r.2) := by
  induction rs with
  | nil => rfl
  | cons r rest ih =>
    obtain ⟨hp, hr⟩ := h
    have hp' := List.pairwise_cons.1 hp
    have hrest : Ascending rest := ⟨hp'.2, fun s hs => hr s (List.mem_cons_of_mem _ hs)⟩
    by_cases hlt : n < r.1
    · have hle := hr r List.mem_cons_self
      have htail : ∀ s ∈ rest, n < s.1 := fun s hs => by
        have := hp'.1 s hs
        omega
      simp [contains, hlt, contains_of_lt_all htail, Nat.not_le.2 hlt]
    · simp [contains, hlt, ih hrest, Nat.le_of_not_lt hlt]

end Ranges

end ChatBot.Text
