import ChatBot.Proofs.Storage.Ready

/-!
Stores of which one has looked up more tables than the other.

* `FileTree.Indistinct`: trees in which files are read and saved alike at some paths. Equal trees
  are (`indistinct_eq`), and so are trees with the folders of all these paths and the same in their
  places (`SameAt`, `indistinct_sameAt`);
* `Store.Ahead`: a store that keeps what another one does, and tables that this one could have
  had. It has the same tables (`Ahead.table`), and the same is kept or changed in both
  (`Ahead.keep`, `Ahead.update`);
* `save_error_eq_of_isClear`: a file at the end of a clear path that cannot be saved leaves nothing.
-/

namespace ChatBot.Storage

namespace FileTree

variable {t t' : FileTree} {p : Path} {P : Path → Prop}

/-! ### Trees that cannot be told apart -/

/-- In trees that are related, files are read and saved alike at some paths, and what is left is
related. -/
structure Indistinct (P : Path → Prop) (F : FileTree → FileTree → Prop) : Prop where
  read : ∀ {t t' p}, F t t' → P p → t'.read p = t.read p
  save : ∀ {t t' p}, F t t' → P p → ∀ body,
    (t'.save p body).1 = (t.save p body).1 ∧ F (t.save p body).2 (t'.save p body).2

lemma indistinct_eq : Indistinct (fun _ => True) Eq where
  read h _ := by rw [h]
  save h _ body := by rw [h]; exact ⟨rfl, rfl⟩

/-- The folders of the paths are there in both trees, and the same stands in the places of the
paths. -/
structure SameAt (P : Path → Prop) (t t' : FileTree) : Prop where
  folder : ∀ p, P p → ∃ f, t.folder p.dropLast = .ok f
  folder' : ∀ p, P p → ∃ f, t'.folder p.dropLast = .ok f
  get? : ∀ p, P p → t'.get? p.lexical = t.get? p.lexical

/-- A path whose folder is there leads to its place or nowhere, whatever else there is. -/
lemma SameAt.place (h : SameAt P t t') (hp : P p) : t'.place p = t.place p := by
  obtain ⟨f, hfolder⟩ := h.folder p hp
  obtain ⟨f', hfolder'⟩ := h.folder' p hp
  rw [folder_eq_lexical hfolder] at hfolder
  rw [folder_eq_lexical hfolder'] at hfolder'
  simp only [FileTree.place, hfolder, hfolder']

/-- A file at the end of a clear path that cannot be saved leaves nothing. -/
lemma save_error_eq_of_isClear (h : t.IsClear p) {body : String} {cause : FileError}
    (hsave : t.save p body = (.error cause, t')) : t' = t := by
  rcases h with ⟨folder, hfolder⟩ | ⟨hrooted, hnames⟩
  · exact save_error_eq_of_folder hfolder hsave
  · exact save_error_eq hrooted hnames hsave

end FileTree

namespace Store

variable {F : FileTree → FileTree → Prop} {P own : Path → Prop} {u s s' : Store} {path : Path}

/-! ### Stores that are ahead -/

/-- The store `s'` is ahead of `s`: it keeps what `s` does, and at some paths `own` tables that the
store `u` has. Their files are related. -/
structure Ahead (F : FileTree → FileTree → Prop) (u : Store) (own : Path → Prop) (s s' : Store) :
    Prop where
  root : s'.root = s.root
  files : F s.files s'.files
  kept : ∀ path, s'.kept.lookup path = s.kept.lookup path ∨
    own path ∧ ∃ table, s'.kept.lookup path = some table ∧ u.table path = .ok table

lemma Ahead.refl (u : Store) (own : Path → Prop) (s : Store) : Ahead Eq u own s s :=
  ⟨rfl, rfl, fun _ => .inl rfl⟩

/-- Both stores have the same table at a path where files are read alike, if `s` has what `u` had
wherever `s'` has looked it up there. -/
lemma Ahead.table (h : Ahead F u own s s') (hread : s'.files.read path = s.files.read path)
    (hown : own path → s.table path = u.table path) : s'.table path = s.table path := by
  rcases h.kept path with hsame | ⟨hpath, table, hkept, htable⟩
  · unfold Store.table readTable
    rw [hsame, hread]
  · rw [hown hpath, htable, Store.table, hkept]

/-- The same is kept in both stores. -/
lemma Ahead.keep (h : Ahead F u own s s') (path : Path) (table : Table) :
    Ahead F u own (s.keep path table) (s'.keep path table) := by
  refine ⟨h.root, h.files, fun other => ?_⟩
  by_cases hother : other = path
  · subst hother
    exact .inl (by simp [Store.keep])
  · rw [lookup_keep_of_ne s' table hother, lookup_keep_of_ne s table hother]
    exact h.kept other

/-- A store gets ahead when it keeps a table that it could have had. -/
lemma Ahead.keep_own {t : Table} (h : Ahead F u own s s') (hown : own path)
    (htable : u.table path = .ok t) : Ahead F u own s (s'.keep path t) := by
  refine ⟨h.root, h.files, fun other => ?_⟩
  by_cases hother : other = path
  · subst hother
    exact .inr ⟨hown, t, by simp [Store.keep], htable⟩
  · rw [lookup_keep_of_ne s' t hother]
    exact h.kept other

/-- Files may be exchanged for others that are related. -/
lemma Ahead.with_files {G : FileTree → FileTree → Prop} (h : Ahead F u own s s')
    {files files' : FileTree} (hfiles : G files files') :
    Ahead G u own { s with files } { s' with files := files' } :=
  ⟨h.root, hfiles, h.kept⟩

/-- A table that both stores have is changed in both or in neither. -/
lemma Ahead.update {α : Type} (hF : FileTree.Indistinct P F) (h : Ahead F u own s s')
    (hpath : P path) (htable : s'.table path = s.table path) (change : Table → α × Table) :
    ((update path change).perform s').1 = ((update path change).perform s).1 ∧
      Ahead F u own ((update path change).perform s).2 ((update path change).perform s').2 := by
  rw [perform_update_eq, perform_update_eq, htable]
  cases s.table path with
  | error cause => exact ⟨rfl, h⟩
  | ok table =>
      obtain ⟨hsaved, hfiles⟩ := hF.save h.files hpath (tableText (change table).2)
      simp only [writeTable, hsaved]
      cases (s.files.save path (tableText (change table).2)).1 with
      | error cause => exact ⟨rfl, h.with_files hfiles⟩
      | ok => exact ⟨rfl, (h.with_files hfiles).keep path _⟩

end Store

end ChatBot.Storage
