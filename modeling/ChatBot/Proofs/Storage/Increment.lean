import ChatBot.Proofs.Storage.Ready

/-!
What an increment does to a variable that holds a whole number.

* `valueOf?_reopen`: tables of durable values are read by a store that is opened anew;
* `successor_countOf`: which number follows a whole one;
* `increment_eq_succ_iff`: which numbers go up by one, and that this is what is stored. The others
  are those that no signed integer of 64 bits can follow, as `increment_restarts` shows.
-/

namespace ChatBot.Storage.Store

open ChatBot.Json (Fields)

variable {s s' : Store} {path : Path} {channel key : String} {table : Table} {n r : ℤ}

/-! ### Tables that are read back -/

/-- A table of durable values is there for a store that is opened anew. -/
lemma valueOf?_reopen (hread : s.files.read (variablesPath s.root channel) = .ok (tableText table))
    (ho : (Json.object table).Ordered) (hdurable : ∀ f ∈ table, IsDurable f.2) (key : String) :
    ((valueOf? channel key).perform s.reopen).1 = .ok (Fields.get? table key) := by
  have hreopen := table_reopen hread
  rw [(ofText?_tableText_iff ho).mpr hdurable] at hreopen
  exact valueOf?_eq hreopen key

/-! ### Numbers that follow -/

/-- What follows a whole number: the next one, but the least one behind the greatest signed one, and
one behind all that no signed integer holds. -/
lemma successor_countOf (hn : (Json.Number.integer n).IsWhole64) :
    (successor (countOf (some (.number (.integer n)))) = n + 1 ↔ n < Binary64.int64Max) ∧
      (n = Binary64.int64Max →
        successor (countOf (some (.number (.integer n)))) = Binary64.int64Min) ∧
      (Binary64.int64Max < n → successor (countOf (some (.number (.integer n)))) = 1) := by
  have hwrap : successor Binary64.int64Max = Binary64.int64Min ∧ successor 0 = 1 := by decide
  have hmax : Binary64.int64Min < Binary64.int64Max + 1 ∧ 0 < Binary64.int64Max := by decide
  rw [countOf_number]
  rcases lt_trichotomy n Binary64.int64Max with hlt | rfl | hgt
  · rw [if_pos hlt.le, successor_eq hn.1 (by omega)]
    omega
  · rw [if_pos le_rfl, hwrap.1]
    omega
  · rw [if_neg (by omega), hwrap.2]
    omega

lemma isWhole64_successor (n : ℤ) : (Json.Number.integer (successor n)).IsWhole64 := by
  have hlow : -(2 ^ 64 / 2) ≤ successor n := Int.le_bmod (by norm_num)
  have hhigh := successor_le n
  unfold Binary64.int64Max at hhigh
  exact ⟨by omega, by omega⟩

/-- **Increments**: a successful increment of a whole number gives the next number exactly if a
signed integer of 64 bits holds it. The greatest signed integer is followed by the least one, and
all greater numbers by one. In every case the number that is given is the one that is written and
looked up from then on, also by a store that is opened anew, and no other variable changes. -/
theorem increment_eq_succ_iff (htable : s.table (variablesPath s.root channel) = .ok table)
    (hvalue : Fields.get? table key = some (.number (.integer n)))
    (hn : (Json.Number.integer n).IsWhole64)
    (hok : (increment channel key).perform s = (.ok r, s')) :
    ((r = n + 1 ↔ n < Binary64.int64Max) ∧ (n = Binary64.int64Max → r = Binary64.int64Min) ∧
        (Binary64.int64Max < n → r = 1)) ∧
      s'.files.read (variablesPath s.root channel) =
        .ok (tableText (Fields.insert table key (.number (.integer r)))) ∧
      ((valueOf? channel key).perform s').1 = .ok (some (.number (.integer r))) ∧
      (∀ other, other ≠ key →
        ((valueOf? channel other).perform s').1 = .ok (Fields.get? table other)) ∧
      (s.InOrder → (∀ f ∈ table, f.1 ≠ key → IsDurable f.2) →
        ((valueOf? channel key).perform s'.reopen).1 = .ok (some (.number (.integer r)))) := by
  rw [perform_increment, ← variablesPath_eq] at hok
  obtain ⟨hr, hroot, hread, htable'⟩ := of_perform_update htable hok
  have hnumbers := successor_countOf hn
  have hwhole := isWhole64_successor (countOf (some (.number (.integer n))))
  simp only [hvalue] at hr hread htable'
  rw [← hr] at hread htable' hnumbers hwhole
  rw [← hroot] at htable'
  refine ⟨hnumbers, hread, ?_, fun other hne => ?_, fun hs hothers => ?_⟩
  · rw [valueOf?_eq htable', Fields.get?_insert_self]
  · rw [valueOf?_eq htable', Fields.get?_insert_of_ne _ _ hne]
  · rw [← hroot] at hread
    have ho := ordered_insert (hs.of_table htable) (.number (.integer r)) key
    have hdurable : ∀ f ∈ Fields.insert table key (.number (.integer r)), IsDurable f.2 := by
      cases ho with
      | object hascending _ =>
          exact (isDurable_insert_iff hascending).mpr ⟨.number hwhole.isExact, hothers⟩
    rw [valueOf?_reopen hread ho hdurable, Fields.get?_insert_self]

/-! ### One count in a file -/

/-- A store that was just opened, with one count in the file of a channel. -/
def counting (n : ℤ) : Store :=
  ⟨⟨false, ["data"]⟩, FileTree.ofFiles
    [("data/variables/a.json", tableText [("n", .number (.integer n))])], []⟩

lemma read_counting (n : ℤ) : (counting n).files.read (variablesPath (counting n).root "a") =
    .ok (tableText [("n", .number (.integer n))]) := by
  unfold counting
  generalize tableText [("n", .number (.integer n))] = body
  rfl

lemma table_counting (hn : (Json.Number.integer n).IsWhole64) :
    (counting n).table (variablesPath (counting n).root "a") = .ok [("n", .number (.integer n))] :=
  table_of_read hn rfl (read_counting n)

lemma increment_counting (hn : (Json.Number.integer n).IsWhole64) :
    ((increment "a" "n").perform (counting n)).1 =
      .ok (successor (countOf (some (.number (.integer n))))) :=
  increment_eq (table_counting hn) (read_counting n) "n"

/-- A count of 41 goes up to 42, also for a store that is opened anew. -/
theorem increment_eq_succ_iff_of_count :
    let s' := ((increment "a" "n").perform (counting 41)).2
    (increment "a" "n").perform (counting 41) = (.ok 42, s') ∧
      ((42 : ℤ) = 41 + 1 ↔ 41 < Binary64.int64Max) ∧
      ((valueOf? "a" "n").perform s'.reopen).1 = .ok (some (.number (.integer 42))) := by
  intro s'
  have hwhole : (Json.Number.integer 41).IsWhole64 := ⟨by norm_num, by norm_num⟩
  have hok : (increment "a" "n").perform (counting 41) = (.ok 42, s') :=
    Prod.ext (increment_counting hwhole) rfl
  obtain ⟨⟨hsucc, -⟩, -, -, -, hreopen⟩ :=
    increment_eq_succ_iff (table_counting hwhole) rfl hwhole hok
  refine ⟨hok, hsucc, hreopen (inOrder_reopen (counting 41)) fun f hf hne => ?_⟩
  obtain rfl := List.mem_singleton.mp hf
  exact absurd rfl hne

/-- The first number behind the signed integers restarts at one, and the greatest signed
integer wraps to the least one. -/
theorem increment_restarts :
    ((increment "a" "n").perform (counting 9223372036854775808)).1 = .ok 1 ∧
      ((increment "a" "n").perform (counting Binary64.int64Max)).1 = .ok Binary64.int64Min ∧
      ¬∀ (s s' : Store) (channel key : String) (table : Table) (n r : ℤ),
        s.table (variablesPath s.root channel) = .ok table →
        Fields.get? table key = some (.number (.integer n)) → (Json.Number.integer n).IsWhole64 →
        (increment channel key).perform s = (.ok r, s') → r = n + 1 := by
  have hwhole : (Json.Number.integer 9223372036854775808).IsWhole64 := ⟨by norm_num, by norm_num⟩
  have hwhole' : (Json.Number.integer Binary64.int64Max).IsWhole64 := ⟨by decide, by decide⟩
  have hrestarts := increment_counting hwhole
  refine ⟨hrestarts, increment_counting hwhole', fun h => ?_⟩
  have hnext := h _ _ "a" "n" _ _ 1 (table_counting hwhole) rfl hwhole (Prod.ext hrestarts rfl)
  norm_num at hnext

end ChatBot.Storage.Store
