import ChatBot.Json.Reading
import Mathlib.Data.List.Perm.Basic

/-!
Fields that are asked for by name.

* `lookup_eq_of_perm`: looking up does not depend on the order, if no key is repeated;
* `Record.picked`: the fields among certain names. `Record.named?_eq` says that they are found;
* `Record.named?_of_perm`: neither the order of the fields nor other fields matter to what is found.
-/

namespace ChatBot

namespace Json

/-! ### Looking up -/

section Lookup

variable {α β : Type} [DecidableEq α] {xs ys : List (α × β)}

lemma lookup_eq_some_iff_mem (hnodup : (xs.map Prod.fst).Nodup) {a : α} {b : β} :
    xs.lookup a = some b ↔ (a, b) ∈ xs := by
  induction xs with
  | nil => simp
  | cons x rest ih =>
      obtain ⟨key, value⟩ := x
      obtain ⟨hkey, hrest⟩ := List.nodup_cons.mp hnodup
      by_cases hsame : a = key
      · subst hsame
        have hnone : (a, b) ∉ rest := fun h => hkey (List.mem_map.mpr ⟨_, h, rfl⟩)
        simp [hnone, eq_comm]
      · simp [List.lookup_cons, beq_eq_false_iff_ne.mpr hsame, hsame, ih hrest]

/-- What is looked up does not depend on the order, if no key is repeated. -/
lemma lookup_eq_of_perm (h : xs.Perm ys) (hnodup : (ys.map Prod.fst).Nodup) (a : α) :
    xs.lookup a = ys.lookup a := by
  have hxs : (xs.map Prod.fst).Nodup := (h.map Prod.fst).nodup_iff.mpr hnodup
  refine Option.ext fun b => ?_
  rw [lookup_eq_some_iff_mem hxs, lookup_eq_some_iff_mem hnodup, h.mem_iff]

end Lookup

/-! ### Records -/

namespace Record

/-- The fields among the given names. -/
def picked (names : List String) (fields : List (Option String × Node)) : List (String × Node) :=
  fields.filterMap fun f => f.1.bind fun key => if names.contains key then some (key, f.2) else none

lemma named?_eq {names : List String} {fields : List (Option String × Node)}
    (hkeys : ∀ f ∈ fields, f.1.isSome) (hnodup : ((picked names fields).map Prod.fst).Nodup) :
    named? names fields = some (picked names fields) := by
  induction fields with
  | nil => rfl
  | cons f rest ih =>
      obtain ⟨_ | key, node⟩ := f
      · exact absurd (hkeys _ List.mem_cons_self) (by simp)
      have hrest := fun h => ih (fun g hg => hkeys g (List.mem_cons_of_mem _ hg)) h
      cases hcontains : names.contains key with
      | false =>
          have hpicked : picked names ((some key, node) :: rest) = picked names rest := by
            simp only [picked, List.filterMap_cons, Option.bind_some, hcontains, Bool.false_eq_true,
              if_false]
          rw [hpicked] at hnodup ⊢
          simp only [named?, hrest hnodup, hcontains, Option.bind_eq_bind, Option.bind_some,
            Bool.false_eq_true, if_false]
      | true =>
          have hpicked : picked names ((some key, node) :: rest) =
              (key, node) :: picked names rest := by
            simp only [picked, List.filterMap_cons, Option.bind_some, hcontains, if_true]
          rw [hpicked] at hnodup ⊢
          obtain ⟨hkey, hothers⟩ := List.nodup_cons.mp hnodup
          have hfresh : (picked names rest).lookup key = none := by
            refine Option.eq_none_iff_forall_ne_some.mpr fun value hvalue => hkey ?_
            exact List.mem_map.mpr ⟨_, (lookup_eq_some_iff_mem hothers).mp hvalue, rfl⟩
          simp only [named?, hrest hothers, hcontains, hfresh, Option.bind_eq_bind,
            Option.bind_some, Option.isSome_none, Bool.false_eq_true, if_true, if_false]

/-- The fields as they stand in an object. -/
def keyed (core : List (String × Node)) : List (Option String × Node) :=
  core.map fun f => (some f.1, f.2)

/-- The fields that are asked for are found, in whatever order and among whatever others. -/
lemma named?_of_perm {names : List String} {fields extras : List (Option String × Node)}
    {core : List (String × Node)} (h : fields.Perm (keyed core ++ extras))
    (hnodup : (core.map Prod.fst).Nodup) (hcore : ∀ f ∈ core, f.1 ∈ names)
    (hextras : ∀ f ∈ extras, ∃ name, f.1 = some name ∧ name ∉ names) :
    ∃ present, named? names fields = some present ∧
    ∀ name, present.lookup name = core.lookup name := by
  have hpicked : (picked names fields).Perm core := by
    have hnames : picked names (keyed core) = core := by
      rw [picked, keyed, List.filterMap_map]
      refine (List.filterMap_congr fun f hf => ?_).trans List.filterMap_some
      simp [hcore f hf]
    have hothers : picked names extras = [] := by
      refine List.filterMap_eq_nil_iff.mpr fun f hf => ?_
      obtain ⟨name, hname, hnot⟩ := hextras f hf
      simp [hname, hnot]
    have hboth : picked names (keyed core ++ extras) = core := by
      rw [picked, List.filterMap_append]
      exact (congrArg₂ (· ++ ·) hnames hothers).trans (List.append_nil core)
    exact hboth ▸ h.filterMap _
  have hkeys : ∀ f ∈ fields, f.1.isSome := by
    intro f hf
    rcases List.mem_append.mp (h.mem_iff.mp hf) with hf | hf
    · obtain ⟨g, -, rfl⟩ := List.mem_map.mp hf
      rfl
    · obtain ⟨name, hname, -⟩ := hextras f hf
      rw [hname]
      rfl
  exact ⟨_, named?_eq hkeys ((hpicked.map Prod.fst).nodup_iff.mpr hnodup),
    lookup_eq_of_perm hpicked hnodup⟩

end Record

end Json

end ChatBot
