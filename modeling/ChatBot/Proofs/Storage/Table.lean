import ChatBot.Proofs.Storage.Channel

/-!
What operations of a store do to tables.

* `Storing.perform`: what a computation gives, and the store afterwards;
* `Tables`: what all channels have under all names. `Tables.get?_insert` says that a new value in a
  table is one there;
* `Stands`: a table stands in its file, or it is empty and has no file. Files that others change do
  not matter, by `Stands.of_keeps`;
* `Store.Has`: a store has a table, kept or in its file;
* `perform_lookUp`, `perform_update`: looking a name up gives its value in the table that the
  store has, and changing a table changes no other one. `of_perform_update` says what a
  change that succeeds leaves.
-/

namespace ChatBot.Storage

/-! ### Computations -/

/-- What a computation gives, and the store afterwards. -/
def Storing.perform {α : Type} (x : Storing α) (s : Store) : Except StorageError α × Store :=
  x.run.run s

section Perform

variable {α β : Type} {s s' : Store}

lemma perform_get (s : Store) : (get : Storing Store).perform s = (.ok s, s) := rfl

lemma perform_bind_of_ok {x : Storing α} {f : α → Storing β} {a : α}
    (h : x.perform s = (.ok a, s')) : (x >>= f).perform s = (f a).perform s' := by
  simp only [Storing.perform, ExceptT.run_bind, StateT.run_bind] at h ⊢
  rw [h]
  rfl

lemma perform_bind_of_error {x : Storing α} {f : α → Storing β} {cause : StorageError}
    (h : x.perform s = (.error cause, s')) : (x >>= f).perform s = (.error cause, s') := by
  simp only [Storing.perform, ExceptT.run_bind, StateT.run_bind] at h ⊢
  rw [h]
  rfl

/-- A computation that succeeds did so all the way. -/
lemma of_perform_bind {x : Storing α} {f : α → Storing β} {b : β}
    (h : (x >>= f).perform s = (.ok b, s')) :
    ∃ a between, x.perform s = (.ok a, between) ∧ (f a).perform between = (.ok b, s') := by
  rcases hx : x.perform s with ⟨r, between⟩
  cases r with
  | ok a => exact ⟨a, between, rfl, (perform_bind_of_ok hx).symm.trans h⟩
  | error cause => exact nomatch (perform_bind_of_error hx).symm.trans h

/-- A result is only passed on. -/
lemma perform_bind_pure (x : Storing α) (f : α → β) (s : Store) :
    (x >>= fun a => pure (f a)).perform s = ((x.perform s).1.map f, (x.perform s).2) := by
  rcases h : x.perform s with ⟨r, s'⟩
  cases r with
  | ok a => exact perform_bind_of_ok h
  | error cause => exact perform_bind_of_error h

end Perform

/-! ### Tables as maps -/

/-- What channels have under names, by the kind of table and the name of the channel. -/
abbrev Tables := TableKind → String → String → Option Json

/-- The tables with a new value under a name of a channel. -/
def Tables.put (t : Tables) (kind : TableKind) (name key : String) (value : Json) : Tables :=
  fun k n x => if k = kind ∧ n = name ∧ x = key then some value else t k n x

namespace Tables

variable {t : Tables} {kind k : TableKind} {name n key x : String} {value : Json}

lemma put_self : t.put kind name key value kind name key = some value := by
  simp [put]

lemma put_of_ne (h : ¬(k = kind ∧ n = name ∧ x = key)) :
    t.put kind name key value k n x = t k n x := by
  rw [put]
  exact if_neg h

/-- Other tables keep their values. -/
lemma put_elsewhere (h : ¬(k = kind ∧ n = name)) : t.put kind name key value k n = t k n := by
  funext x
  exact put_of_ne fun hall => h ⟨hall.1, hall.2.1⟩

/-- A table with a new value shows in the tables with the new value. -/
lemma get?_insert {table : Table} (h : ∀ x, Json.Fields.get? table x = t kind name x)
    (key : String) (value : Json) (x : String) :
    Json.Fields.get? (Json.Fields.insert table key value) x =
      t.put kind name key value kind name x := by
  by_cases hx : x = key
  · subst hx
    rw [put_self, Json.Fields.get?_insert_self]
  · rw [put_of_ne (fun hall => hx hall.2.2), Json.Fields.get?_insert_of_ne _ _ hx, h x]

end Tables

/-! ### Tables in files -/

/-- The table stands in its file, or it is empty and has no file. -/
def Stands (files : FileTree) (path : Path) (table : Table) : Prop :=
  (∃ body, files.read path = .ok body ∧ Json.Fields.ofText? body.toList = some table) ∨
    table = [] ∧ ∀ body, files.get? path.lexical ≠ some (.file body)

namespace Stands

variable {files files' : FileTree} {path : Path} {table : Table}

/-- A table is read as it stands, if it can be read. -/
lemma readTable_eq (h : Stands files path table) :
    readTable files path = .ok table ∨ readTable files path = .error .unusableFile := by
  unfold readTable
  rcases h with ⟨body, hread, htable⟩ | ⟨rfl, hnone⟩
  · exact .inl (by rw [hread]; simp only [htable])
  · cases hread : files.read path with
    | ok body => exact absurd (FileTree.read_eq_ok_iff.mp hread).2 (hnone body)
    | error cause =>
        cases cause with
        | missing => exact .inl rfl
        | unusable => exact .inr rfl

/-- No more than one table stands in a file. -/
lemma unique {t : Table} (h : Stands files path table) (h' : Stands files path t) : table = t := by
  rcases h with ⟨body, hread, htable⟩ | ⟨rfl, hnone⟩
  · rcases h' with ⟨body', hread', ht⟩ | ⟨-, hnone⟩
    · obtain rfl : body = body' := Except.ok.inj (hread.symm.trans hread')
      exact Option.some.inj (htable.symm.trans ht)
    · exact absurd (FileTree.read_eq_ok_iff.mp hread).2 (hnone body)
  · rcases h' with ⟨body, hread, -⟩ | ⟨rfl, -⟩
    · exact absurd (FileTree.read_eq_ok_iff.mp hread).2 (hnone body)
    · rfl

lemma of_keeps {q : Path → Prop} (hkeeps : FileTree.Keeps files files' q) (hq : ¬q path.lexical)
    (h : Stands files path table) : Stands files' path table := by
  rcases h with ⟨body, hread, htable⟩ | ⟨rfl, hnone⟩
  · exact .inl ⟨body, FileTree.read_of_keeps hkeeps hq hread, htable⟩
  · exact .inr ⟨rfl, fun body hbody => hnone body ((hkeeps.file _ hq body).mp hbody)⟩

end Stands

section WriteTable

variable {files files' : FileTree} {path : Path} {table : Table}

/-- A table that is written has its text saved. -/
lemma save_of_writeTable (h : writeTable files path table = (.ok (), files')) :
    files.save path (tableText table) = (.ok (), files') := by
  unfold writeTable at h
  rcases hsave : files.save path (tableText table) with ⟨cause | ⟨⟩, left⟩
  · rw [hsave] at h
    exact nomatch congrArg Prod.fst h
  · rw [hsave] at h
    exact congrArg _ (congrArg Prod.snd h)

/-- A table that cannot be written is one whose text cannot be saved, and its file cannot be
used. -/
lemma save_of_writeTable_error {cause : StorageError}
    (h : writeTable files path table = (.error cause, files')) :
    cause = .unusableFile ∧ ∃ e, files.save path (tableText table) = (.error e, files') := by
  unfold writeTable at h
  rcases hsave : files.save path (tableText table) with ⟨e | ⟨⟩, left⟩
  · rw [hsave] at h
    obtain ⟨hcause, rfl⟩ := Prod.mk.inj h
    exact ⟨(Except.error.inj hcause).symm, e, rfl⟩
  · rw [hsave] at h
    exact nomatch congrArg Prod.fst h

/-- A table that is written stands in its file, if its text gives it back. No other file changes. -/
lemma writeTable_spec (h : writeTable files path table = (.ok (), files')) :
    files'.read path = .ok (tableText table) ∧ FileTree.Keeps files files' (· = path.lexical) :=
  FileTree.save_spec (save_of_writeTable h)

end WriteTable

/-! ### Tables of a store -/

/-- The successor is the next number, if it fits. -/
lemma successor_eq {n : ℤ} (hlow : -2 ^ 63 ≤ n) (hhigh : n + 1 ≤ Binary64.int64Max) :
    Store.successor n = n + 1 := by
  unfold Binary64.int64Max at hhigh
  unfold Store.successor
  exact Int.bmod_eq_of_le_mul_two (by omega) (by omega)

/-- What a number counts as. -/
lemma countOf_number (n : ℤ) :
    Store.countOf (some (.number (.integer n))) = if n ≤ Binary64.int64Max then n else 0 := by
  simp only [Store.countOf, Json.int64?, Option.bind_some]
  split <;> rfl

namespace Store

/-- The store has the table at the path: it is the one that is kept, or
else it stands in its file. -/
def Has (s : Store) (path : Path) (table : Table) : Prop :=
  match s.kept.lookup path with
  | some kept => kept = table
  | none => Stands s.files path table

variable {s s' : Store} {path other : Path} {table : Table}

lemma Has.table_eq (h : s.Has path table) :
    s.table path = .ok table ∨ s.table path = .error .unusableFile := by
  unfold Has at h
  unfold Store.table
  cases hkept : s.kept.lookup path with
  | some kept =>
      rw [hkept] at h
      exact .inl (congrArg Except.ok h)
  | none =>
      rw [hkept] at h
      exact h.readTable_eq

lemma lookup_keep_of_ne (s : Store) (table : Table) (h : other ≠ path) :
    (s.keep path table).kept.lookup other = s.kept.lookup other := by
  rw [keep, List.lookup_cons, beq_eq_false_iff_ne.2 h]
  exact FileTree.lookup_filter_ne h _

/-! ### Looking up and changing -/

lemma perform_lookUp_eq (path : Path) (name : String) (s : Store) :
    (lookUp path name).perform s =
      match s.table path with
      | .ok table => (.ok (Json.Fields.get? table name), s.keep path table)
      | .error cause => (.error cause, s) := rfl

lemma perform_update_eq {α : Type} (path : Path) (change : Table → α × Table) (s : Store) :
    (update path change).perform s =
      match s.table path with
      | .ok table =>
        match writeTable s.files path (change table).2 with
        | (.ok (), files) =>
          (.ok (change table).1, { s with files := files }.keep path (change table).2)
        | (.error cause, files) => (.error cause, { s with files := files })
      | .error cause => (.error cause, s) := rfl

lemma table_keep_self (s : Store) (path : Path) (table : Table) :
    (s.keep path table).table path = .ok table := by
  rw [Store.table]
  simp [keep]

/-- A change that succeeds is written, and kept. -/
lemma of_perform_update {α : Type} {change : Table → α × Table} {a : α}
    (htable : s.table path = .ok table) (h : (update path change).perform s = (.ok a, s')) :
    a = (change table).1 ∧ s'.root = s.root ∧
    s'.files.read path = .ok (tableText (change table).2) ∧
      s'.table path = .ok (change table).2 := by
  rw [perform_update_eq, htable] at h
  rcases hwrite : writeTable s.files path (change table).2 with ⟨written, files⟩
  simp only [hwrite] at h
  cases written with
  | error cause => exact nomatch congrArg Prod.fst h
  | ok =>
      obtain ⟨ha, rfl⟩ := Prod.mk.inj h
      exact ⟨(Except.ok.inj ha).symm, rfl, (writeTable_spec hwrite).1, table_keep_self _ path _⟩

/-- A name is looked up in the table that the store has, unless the file cannot be used. -/
lemma perform_lookUp (h : s.Has path table) (name : String) :
    (lookUp path name).perform s = (.ok (Json.Fields.get? table name), s.keep path table) ∨
      ((lookUp path name).perform s).1 = .error .unusableFile := by
  rw [perform_lookUp_eq]
  rcases h.table_eq with heq | heq
  · exact .inl (by rw [heq])
  · exact .inr (by rw [heq])

/-- The table that the store has is changed and written, unless the file cannot be used. -/
lemma perform_update {α : Type} (h : s.Has path table) (change : Table → α × Table) :
    (∃ files, files.read path = .ok (tableText (change table).2) ∧
      FileTree.Keeps s.files files (· = path.lexical) ∧
      (update path change).perform s =
        (.ok (change table).1, { s with files }.keep path (change table).2)) ∨
      ((update path change).perform s).1 = .error .unusableFile := by
  rw [perform_update_eq]
  rcases h.table_eq with heq | heq
  · rw [heq]
    rcases hwrite : writeTable s.files path (change table).2 with ⟨written, files⟩
    cases written with
    | ok =>
        obtain ⟨hread, hkeeps⟩ := writeTable_spec hwrite
        exact .inl ⟨files, hread, hkeeps, by simp only [hwrite]⟩
    | error cause =>
        obtain ⟨rfl, -⟩ := save_of_writeTable_error hwrite
        exact .inr (by simp only [hwrite])
  · exact .inr (by rw [heq])

/-! ### Requests for channels -/

variable (channel key : String) (s : Store)

lemma perform_commandText? :
    (commandText? channel key).perform s =
      (((lookUp (tablePath s.root .commands (tableName channel)) key).perform s).1.map
          (·.bind Json.string?),
        ((lookUp (tablePath s.root .commands (tableName channel)) key).perform s).2) := by
  rw [commandText?, perform_bind_of_ok (perform_get s)]
  exact perform_bind_pure _ _ s

lemma perform_aliasOf? :
    (aliasOf? channel key).perform s =
      (((lookUp (tablePath s.root .aliases (tableName channel)) key).perform s).1.map
          (·.bind Json.string?),
        ((lookUp (tablePath s.root .aliases (tableName channel)) key).perform s).2) := by
  rw [aliasOf?, perform_bind_of_ok (perform_get s)]
  exact perform_bind_pure _ _ s

lemma perform_valueOf? :
    (valueOf? channel key).perform s =
      (lookUp (tablePath s.root .variables (tableName channel)) key).perform s :=
  perform_bind_of_ok (perform_get s)

lemma perform_setVariable (value : Json) :
    (setVariable channel key value).perform s =
      (update (tablePath s.root .variables (tableName channel)) fun table =>
        ((), Json.Fields.insert table key value)).perform s :=
  perform_bind_of_ok (perform_get s)

lemma perform_increment :
    (increment channel key).perform s =
      (update (tablePath s.root .variables (tableName channel)) fun table =>
        (successor (countOf (Json.Fields.get? table key)),
          Json.Fields.insert table key
            (.number (.integer (successor (countOf (Json.Fields.get? table key))))))).perform s :=
  perform_bind_of_ok (perform_get s)

lemma perform_makeFolder_eq (names : List String) :
    (makeFolder names).perform s =
      ((s.files.makeFolders (s.root.join ⟨false, names⟩)).1.mapError fun _ => .unusableFile,
        { s with files := (s.files.makeFolders (s.root.join ⟨false, names⟩)).2 }) := by
  simp only [Storing.perform, makeFolder, ExceptT.run_mk, StateT.run]
  rcases s.files.makeFolders (s.root.join ⟨false, names⟩) with ⟨cause | _, files⟩
  · rfl
  · rfl

/-- Making a folder changes no file. -/
lemma perform_makeFolder (names : List String) :
    (∃ files, FileTree.Keeps s.files files (fun _ => False) ∧
      (makeFolder names).perform s = (.ok (), { s with files })) ∨
      ((makeFolder names).perform s).1 = .error .unusableFile := by
  have hkeeps := FileTree.makeFolders_keeps (t := s.files) (s.root.join ⟨false, names⟩)
  rw [perform_makeFolder_eq]
  rcases hmade : s.files.makeFolders (s.root.join ⟨false, names⟩) with ⟨cause | _, files⟩
  · exact .inr rfl
  · rw [hmade] at hkeeps
    exact .inl ⟨files, hkeeps, rfl⟩

end Store

end ChatBot.Storage
