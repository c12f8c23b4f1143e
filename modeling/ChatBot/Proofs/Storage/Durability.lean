import ChatBot.Proofs.Storage.Request

/-!
What is left of a variable that was set when the store is opened anew.

A store keeps the tables that it writes, so only a store that is opened anew reads them.

* `Fields.ext_get?`: fields in order are known by the values of their keys;
* `IsDurable`: a value of a table that is read back;
* `ofText?_tableText_iff`: a table is read back from its text exactly if its values are;
* `setVariable_durable_iff`: a variable that was set is there afterwards, and so are the
  others, exactly if the new value and the others are read back. `setVariable_nested` says that
  this is not so for all values.
-/

namespace ChatBot

namespace Json.Fields

/-! ### Fields by their keys -/

lemma mem_insert_self (fields : Fields) (key : String) (value : Json) :
    (key, value) ∈ fields.insert key value := by
  induction fields with
  | nil => exact List.mem_singleton_self _
  | cons f rest ih =>
      obtain ⟨k, v⟩ := f
      unfold insert
      split
      · exact List.mem_cons_self
      · split
        · exact List.mem_cons_self
        · exact List.mem_cons_of_mem _ ih

/-- The fields of other keys are still there. -/
lemma mem_insert_of_ne {fields : Fields} {key : String} {f : String × Json} (hf : f ∈ fields)
    (hne : f.1 ≠ key) (value : Json) : f ∈ fields.insert key value := by
  induction fields with
  | nil => cases hf
  | cons g rest ih =>
      obtain ⟨k, v⟩ := g
      unfold insert
      split
      · next heq =>
        rcases List.mem_cons.mp hf with rfl | hf
        · exact absurd (beq_iff_eq.mp heq).symm hne
        · exact List.mem_cons_of_mem _ hf
      · split
        · exact List.mem_cons_of_mem _ hf
        · rcases List.mem_cons.mp hf with rfl | hf
          · exact List.mem_cons_self
          · exact List.mem_cons_of_mem _ (ih hf)

/-- Fields in order are the same if their keys are. -/
lemma Ascending.eq_of_mem {fields : Fields} {f g : String × Json} (h : fields.Ascending)
    (hf : f ∈ fields) (hg : g ∈ fields) (heq : f.1 = g.1) : f = g := by
  have hkeys : (fields.map Prod.fst).Nodup := List.pairwise_map.mpr (h.imp fun hlt => hlt.ne)
  exact List.inj_on_of_nodup_map hkeys hf hg heq

/-- A key below all others has no value. -/
lemma get?_eq_none_of_forall_lt {fields : Fields} {key : String} (h : ∀ f ∈ fields, key < f.1) :
    fields.get? key = none := by
  refine List.lookup_eq_none_iff.mpr fun f hf => ?_
  simpa using (h f hf).ne

lemma get?_cons_self (f : String × Json) (rest : Fields) :
    get? (f :: rest) f.1 = some f.2 := by
  rw [get?, List.lookup_cons, beq_self_eq_true]

lemma get?_cons_of_ne {f : String × Json} {key : String} (h : key ≠ f.1) (rest : Fields) :
    get? (f :: rest) key = get? rest key := by
  rw [get?, List.lookup_cons, beq_eq_false_iff_ne.2 h]
  rfl

/-- The first key of fields in order is not below that of others with the same values. -/
lemma Ascending.not_lt {f g : String × Json} {rest others : Fields}
    (h : Ascending (g :: others)) (heq : get? (f :: rest) f.1 = get? (g :: others) f.1) :
    ¬f.1 < g.1 := by
  intro hlt
  have hnone : get? (g :: others) f.1 = none := by
    refine get?_eq_none_of_forall_lt fun x hx => ?_
    rcases List.mem_cons.mp hx with rfl | hx
    · exact hlt
    · exact hlt.trans ((List.pairwise_cons.mp h).1 x hx)
  rw [get?_cons_self, hnone] at heq
  cases heq

/-- Fields in order with the same values are the same. -/
lemma ext_get? {fields others : Fields} (h : fields.Ascending) (h' : others.Ascending)
    (heq : ∀ key, fields.get? key = others.get? key) : fields = others := by
  induction fields generalizing others with
  | nil =>
      cases others with
      | nil => rfl
      | cons g others => exact nomatch (heq g.1).trans (get?_cons_self g others)
  | cons f rest ih =>
      cases others with
      | nil => exact nomatch (heq f.1).symm.trans (get?_cons_self f rest)
      | cons g others =>
          have hkey : f.1 = g.1 := le_antisymm (not_lt.mp (h.not_lt (heq g.1).symm))
            (not_lt.mp (h'.not_lt (heq f.1)))
          have hvalue := heq f.1
          rw [get?_cons_self, hkey, get?_cons_self] at hvalue
          obtain rfl : f = g := Prod.ext hkey (Option.some.inj hvalue)
          obtain ⟨hfirst, hrest⟩ := List.pairwise_cons.mp h
          obtain ⟨hfirst', hrest'⟩ := List.pairwise_cons.mp h'
          rw [ih hrest hrest' fun key => ?_]
          by_cases hk : key = f.1
          · rw [hk, get?_eq_none_of_forall_lt hfirst, get?_eq_none_of_forall_lt hfirst']
          · have := heq key
            rwa [get?_cons_of_ne hk, get?_cons_of_ne hk] at this

end Json.Fields

namespace Json

/-! ### Arrays in one another -/

/-- An array in an array, and so on. -/
def nested : ℕ → Json
  | 0 => .array []
  | n + 1 => .array [nested n]

lemma within_nested (n : ℕ) : (nested n).Within Number.IsExact (n + 1) := by
  induction n with
  | zero => exact .array (by simp)
  | succ n ih => exact .array (by simpa using ih)

lemma ordered_nested (n : ℕ) : (nested n).Ordered := by
  induction n with
  | zero => exact .array (by simp)
  | succ n ih => exact .array (by simpa using ih)

/-- Where there is room for fewer arrays in one another, they have no value. -/
lemma value?_nested {room n : ℕ} (h : room ≤ n) :
    (Node.ofWritten (nested n)).value? room = none := by
  induction n generalizing room with
  | zero =>
      obtain rfl : room = 0 := by omega
      rfl
  | succ n ih =>
      simp only [nested, Node.ofWritten, Node.ofWrittenItems, Node.value?]
      split
      · rfl
      · simp [Node.values?, ih (show room - 1 ≤ n by omega)]

end Json

namespace Storage

open ChatBot.Json (Fields)

/-! ### Tables that are read back -/

/-- The value is read back as part of a table. -/
def IsDurable (value : Json) : Prop := value.Within Json.Number.IsExact (Json.maxDepth - 1)

/-- A table in order is read back from its text exactly if its values are. -/
lemma ofText?_tableText_iff {table : Table} (ho : (Json.object table).Ordered) :
    Fields.ofText? (tableText table).toList = some table ↔ ∀ f ∈ table, IsDurable f.2 := by
  have hvalue : Fields.ofText? (tableText table).toList = some table ↔
      Json.ofText? (Json.object table).pretty = some (.object table) := by
    rw [tableText, String.toList_ofList, Fields.ofText?]
    split
    · next fields hfields => simp [hfields]
    · next hnone => exact iff_of_false (by simp) fun h => hnone table h
  rw [hvalue, Json.ofText?_pretty_iff ho]
  constructor
  · intro h
    cases h with
    | object h => exact h
  · exact fun h => .object h

/-- The values of a table are read back if the new one and those of other keys are. -/
lemma isDurable_insert_iff {table : Table} {value : Json} {key : String}
    (h : Fields.Ascending (Fields.insert table key value)) :
    (∀ f ∈ Fields.insert table key value, IsDurable f.2) ↔
      IsDurable value ∧ ∀ f ∈ table, f.1 ≠ key → IsDurable f.2 := by
  constructor
  · intro hall
    exact ⟨hall _ (Fields.mem_insert_self table key value),
      fun f hf hne => hall f (Fields.mem_insert_of_ne hf hne value)⟩
  · rintro ⟨hvalue, hothers⟩ f hf
    by_cases hne : f.1 = key
    · obtain rfl := h.eq_of_mem hf (Fields.mem_insert_self table key value) hne
      exact hvalue
    · rcases Fields.mem_insert hf with rfl | hf
      · exact hvalue
      · exact hothers f hf hne

/-! ### Opening the store anew -/

namespace Store

variable {s s' : Store} {channel key : String} {value : Json} {table : Table}

/-- A store that keeps nothing reads its tables. -/
lemma table_of_kept_eq_nil (h : s.kept = []) (path : Path) :
    s.table path = readTable s.files path := by
  rw [Store.table, h]
  rfl

/-- A variable that is set is written with the others. -/
lemma read_of_setVariable (htable : s.table (variablesPath s.root channel) = .ok table)
    (hset : (setVariable channel key value).perform s = (.ok (), s')) :
    s'.root = s.root ∧ s'.files.read (variablesPath s.root channel) =
      .ok (tableText (Fields.insert table key value)) := by
  rw [perform_setVariable, ← variablesPath_eq] at hset
  obtain ⟨-, hroot, hread, -⟩ := of_perform_update htable hset
  exact ⟨hroot, hread⟩

/-- A store that is opened anew has the table that was written, if that is read back. -/
lemma table_reopen (hread : s.files.read (variablesPath s.root channel) = .ok (tableText table)) :
    s.reopen.table (variablesPath s.root channel) =
      (Fields.ofText? (tableText table).toList).elim (.error .malformed) .ok := by
  rw [table_of_kept_eq_nil rfl, readTable]
  simp only [reopen, hread]
  cases Fields.ofText? (tableText table).toList <;> rfl

lemma valueOf?_eq (htable : s.table (variablesPath s.root channel) = .ok table) (key : String) :
    ((valueOf? channel key).perform s).1 = .ok (Fields.get? table key) := by
  rw [valueOf?_fst, htable]
  rfl

lemma valueOf?_eq_error {cause : StorageError}
    (htable : s.table (variablesPath s.root channel) = .error cause) (key : String) :
    ((valueOf? channel key).perform s).1 = .error cause := by
  rw [valueOf?_fst, htable]
  rfl

lemma increment_eq_error {cause : StorageError}
    (htable : s.table (variablesPath s.root channel) = .error cause) (key : String) :
    ((increment channel key).perform s).1 = .error cause := by
  rw [perform_increment, perform_update_eq, ← variablesPath_eq, htable]

/-- A counter in a file that can be read is increased. -/
lemma increment_eq {body : String} (htable : s.table (variablesPath s.root channel) = .ok table)
    (hread : s.files.read (variablesPath s.root channel) = .ok body) (key : String) :
    ((increment channel key).perform s).1 =
      .ok (successor (countOf (Fields.get? table key))) := by
  rw [perform_increment, perform_update_eq, ← variablesPath_eq, htable]
  obtain ⟨files, hsave⟩ := FileTree.exists_save_of_read hread
    (tableText (Fields.insert table key
      (.number (.integer (successor (countOf (Fields.get? table key)))))))
  simp only [writeTable, hsave]
  rfl

/-- A store that is opened anew answers for all variables as if the table had been kept only if the
table is read back. -/
lemma ofText?_of_valueOf? (h : Fields.Ascending table)
    (hread : s.files.read (variablesPath s.root channel) = .ok (tableText table))
    (hanswers : ∀ key, ((valueOf? channel key).perform s.reopen).1 = .ok (Fields.get? table key)) :
    Fields.ofText? (tableText table).toList = some table := by
  have hreopen := table_reopen hread
  cases hback : Fields.ofText? (tableText table).toList with
  | none =>
      rw [hback] at hreopen
      exact nomatch (valueOf?_eq_error hreopen "").symm.trans (hanswers "")
  | some read =>
      rw [hback] at hreopen
      cases Fields.ordered_of_ofText? hback with
      | object hascending _ =>
          refine congrArg some (Fields.ext_get? hascending h fun key => ?_)
          exact Except.ok.inj ((valueOf?_eq hreopen key).symm.trans (hanswers key))

/-- **Durable variables**: a variable that was set is there for a store that is opened anew,
which answers for the other variables of the channel as before and still counts, if and only if
the value and the other values of the channel are read back: their numbers are, and their
arrays and objects do not enclose one another more than 126 times. Values that are read from a
text may be nested once more. -/
theorem setVariable_durable_iff (hs : s.InOrder)
    (htable : s.table (variablesPath s.root channel) = .ok table)
    (hvalue : ∃ cs, Json.ofText? cs = some value)
    (hset : (setVariable channel key value).perform s = (.ok (), s')) :
    (((valueOf? channel key).perform s'.reopen).1 = .ok (some value) ∧
      (∀ other, other ≠ key → ((valueOf? channel other).perform s'.reopen).1 =
        ((valueOf? channel other).perform s).1) ∧
      ∀ counter, ((increment channel counter).perform s'.reopen).1 =
        .ok (successor (countOf (Fields.get? (Fields.insert table key value) counter)))) ↔
    IsDurable value ∧ ∀ f ∈ table, f.1 ≠ key → IsDurable f.2 := by
  obtain ⟨cs, hcs⟩ := hvalue
  obtain ⟨hroot, hread⟩ := read_of_setVariable htable hset
  rw [← hroot] at hread
  have hordered := ordered_insert (hs.of_table htable) (ordered_of_ofText? hcs) key
  have hback := ofText?_tableText_iff hordered
  cases hordered with
  | object hascending _ =>
  rw [← isDurable_insert_iff hascending, ← hback]
  constructor
  · rintro ⟨hkey, hothers, -⟩
    refine ofText?_of_valueOf? hascending hread fun other => ?_
    by_cases hne : other = key
    · rw [hne, hkey, Fields.get?_insert_self]
    · rw [hothers other hne, valueOf?_eq htable, Fields.get?_insert_of_ne _ _ hne]
  · intro hback
    have hreopen := table_reopen hread
    rw [hback] at hreopen
    refine ⟨?_, fun other hne => ?_, fun counter => increment_eq hreopen hread counter⟩
    · rw [valueOf?_eq hreopen, Fields.get?_insert_self]
    · rw [valueOf?_eq hreopen, valueOf?_eq htable, Fields.get?_insert_of_ne _ _ hne]

/-- A quarter in an array, which is set beside a count of 41, is durable. -/
theorem setVariable_durable_of_array :
    let table : Table := [("n", .number (.integer 41))]
    let s : Store :=
      ⟨⟨false, ["data"]⟩, FileTree.ofFiles [("data/variables/a.json", tableText table)], []⟩
    let value : Json := .array [.number (.real 0.25)]
    let s' := ((setVariable "a" "x" value).perform s).2
    (setVariable "a" "x" value).perform s = (.ok (), s') ∧
      ((valueOf? "a" "x").perform s'.reopen).1 = .ok (some value) ∧
      ((increment "a" "n").perform s'.reopen).1 = .ok 42 := by
  intro table s value s'
  have hexact : (Json.Number.real 0.25).IsExact :=
    (Json.Number.isExact_real_iff (by decide +kernel)).mpr (by decide +kernel)
  have hdurable : ∀ room, value.Within Json.Number.IsExact (room + 1) := fun room =>
    .array fun v hv => by
      obtain rfl := List.mem_singleton.mp hv
      exact .number hexact
  have hvalue : value.Ordered := .array fun v hv => by
    obtain rfl := List.mem_singleton.mp hv
    exact .number _
  have hothers : ∀ f ∈ table, IsDurable f.2 := fun f hf => by
    obtain rfl := List.mem_singleton.mp hf
    exact .number (Json.Number.IsWhole64.isExact ⟨by decide, by decide⟩)
  have htable : s.table (variablesPath s.root "a") = .ok table := by
    have hread : s.files.read (variablesPath s.root "a") = .ok (tableText table) := by
      decide +kernel
    have hback : Fields.ofText? (tableText table).toList = some table :=
      (ofText?_tableText_iff (.object (List.pairwise_singleton _ _) fun f hf => by
        obtain rfl := List.mem_singleton.mp hf
        exact .number _)).mpr hothers
    rw [table_of_kept_eq_nil rfl]
    simp only [readTable, hread, hback]
  have hset : (setVariable "a" "x" value).perform s = (.ok (), s') :=
    Prod.ext (by decide +kernel) rfl
  obtain ⟨hx, -, hn⟩ := (setVariable_durable_iff s.inOrder_reopen htable
    ⟨_, (Json.ofText?_pretty_iff hvalue).mpr (hdurable _)⟩ hset).mpr
    ⟨hdurable _, fun f hf _ => hothers f hf⟩
  exact ⟨hset, hx, hn "n"⟩

/-- A value of 127 arrays in one another is read from its text and set without an error, but the
store that is opened anew can neither look up nor count any variable of the channel. -/
theorem setVariable_nested :
    let s : Store := ⟨⟨false, ["data"]⟩, {}, []⟩
    let s' := ((setVariable "a" "x" (Json.nested 126)).perform s).2
    (∃ cs, Json.ofText? cs = some (Json.nested 126)) ∧
      (setVariable "a" "x" (Json.nested 126)).perform s = (.ok (), s') ∧
      ((valueOf? "a" "x").perform s'.reopen).1 = .error .malformed ∧
      ((increment "a" "n").perform s'.reopen).1 = .error .malformed := by
  intro s s'
  have hset : (setVariable "a" "x" (Json.nested 126)).perform s = (.ok (), s') :=
    Prod.ext (by decide +kernel) rfl
  have htable : s.table (variablesPath s.root "a") = .ok [] := by
    have hmissing : s.files.read (variablesPath s.root "a") = .error .missing := by decide +kernel
    rw [table_of_kept_eq_nil rfl, readTable, hmissing]
  obtain ⟨hroot, hread⟩ := read_of_setVariable htable hset
  rw [← hroot] at hread
  have hlost : (Json.Node.ofWritten (.object [("x", Json.nested 126)])).value? Json.maxDepth =
      none := by
    simp [Json.Node.ofWritten, Json.Node.ofWrittenFields, Json.Node.value?, Json.Node.fields?,
      Json.maxDepth, Json.value?_nested (Nat.le_refl 126)]
  have hback : Fields.ofText? (tableText [("x", Json.nested 126)]).toList = none := by
    rw [tableText, String.toList_ofList, Fields.ofText?, Json.ofText?_pretty_eq, hlost]
  have hreopen := table_reopen hread
  rw [Fields.insert, hback] at hreopen
  exact ⟨⟨_, (Json.ofText?_pretty_iff (Json.ordered_nested 126)).mpr (Json.within_nested 126)⟩,
    hset, valueOf?_eq_error hreopen "x", increment_eq_error hreopen "n"⟩

end Store

end Storage

end ChatBot
