import ChatBot.Proofs.Storage.Table

/-!
What a store holds, and how operations that succeed change it.

* `Store.content`: what all channels have under all names, in the tables that are kept and else in
  the files at the places of tables;
* `Store.Reaches`: a file at the place of a table is found along its path. `reaches_of_prepare` says
  that this is so once the folders of the tables are made;
* `Becomes s s' t`: the store `s'` comes after `s` and holds `t`;
* `aliasOf?_spec`, `commandText?_spec`, `increment_spec`: what an operation gives, and what the
  store holds afterwards, if it succeeds.
-/

namespace ChatBot.Storage

open ChatBot.Json (Fields)

/-! ### Files at places -/

/-- The body of the file at the place of a path, if there is one. -/
def placedBody? (files : FileTree) (path : Path) : Option String :=
  match files.get? path.lexical with
  | some (.file body) => some body
  | _ => none

lemma placedBody?_eq_some_iff {files : FileTree} {path : Path} {body : String} :
    placedBody? files path = some body ↔ files.get? path.lexical = some (.file body) := by
  unfold placedBody?
  split
  · next found hfound => simp [hfound]
  · next hnone => simpa using hnone body

lemma placedBody?_of_keeps {files files' : FileTree} {path : Path} {q : Path → Prop}
    (hkeeps : FileTree.Keeps files files' q) (hq : ¬q path.lexical) :
    placedBody? files' path = placedBody? files path := by
  refine Option.ext fun body => ?_
  rw [placedBody?_eq_some_iff, placedBody?_eq_some_iff]
  exact hkeeps.file _ hq body

namespace Store

/-! ### What shows -/

/-- The table of a path: the one that is kept, or else the one in the file at its place. -/
def shown (s : Store) (path : Path) : Table :=
  (s.kept.lookup path).getD (((placedBody? s.files path).bind (Fields.ofText? ·.toList)).getD [])

/-- What channels have under names. -/
def content (s : Store) : Tables := fun kind name key =>
  Fields.get? (s.shown (tablePath s.root kind name)) key

/-- A file at the place of the path is found along the path, unless a table is kept anyway. -/
def Reaches (s : Store) (path : Path) : Prop :=
  s.kept.lookup path = none →
    ∀ body, placedBody? s.files path = some body → s.files.read path = .ok body

variable {s s' : Store} {path other : Path} {table : Table}

/-- A table that is found is the one that shows. -/
lemma eq_shown_of_table_eq (h : s.Reaches path) (ht : s.table path = .ok table) :
    table = s.shown path := by
  unfold Store.table at ht
  unfold shown
  cases hkept : s.kept.lookup path with
  | some kept =>
      rw [hkept] at ht
      exact (Except.ok.inj ht).symm
  | none =>
      rw [hkept] at ht
      simp only [Option.getD_none]
      cases hread : s.files.read path with
      | ok body =>
          have hbody := placedBody?_eq_some_iff.mpr (FileTree.read_eq_ok_iff.mp hread).2
          simp only [readTable, hread] at ht
          split at ht
          · next found hfound =>
            rw [hbody, Option.bind_some, hfound, ← Except.ok.inj ht]
            rfl
          · simp at ht
      | error cause =>
          have hnone : placedBody? s.files path = none := by
            refine Option.eq_none_iff_forall_ne_some.mpr fun body hbody => ?_
            exact absurd (hread.symm.trans (h hkept body hbody)) (by simp)
          cases cause with
          | missing =>
              simp only [readTable, hread] at ht
              rw [hnone, ← Except.ok.inj ht]
              rfl
          | unusable => simp [readTable, hread] at ht

lemma shown_keep_self (s : Store) (path : Path) (table : Table) :
    (s.keep path table).shown path = table := by
  simp [shown, keep]

lemma shown_keep_of_ne (s : Store) (table : Table) (h : other ≠ path) :
    (s.keep path table).shown other = s.shown other := by
  unfold shown
  rw [lookup_keep_of_ne s table h]
  rfl

lemma reaches_of_read (h : (s.files.read path).toOption = placedBody? s.files path) :
    s.Reaches path := by
  intro _ body hbody
  rw [hbody] at h
  cases hread : s.files.read path with
  | ok found =>
      rw [hread] at h
      exact congrArg Except.ok (Option.some.inj h)
  | error cause => exact nomatch hread ▸ h

/-- A store that keeps a table needs no file for it. -/
lemma reaches_keep_self (s : Store) (path : Path) (table : Table) :
    (s.keep path table).Reaches path := by
  intro hkept
  simp [keep] at hkept

lemma Reaches.keep (h : s.Reaches other) (path : Path) (table : Table) :
    (s.keep path table).Reaches other := by
  by_cases hother : other = path
  · subst hother
    exact reaches_keep_self s other table
  · intro hkept
    rw [lookup_keep_of_ne s table hother] at hkept
    exact h hkept

lemma Reaches.of_keeps {files : FileTree} {q : Path → Prop} (h : s.Reaches other)
    (hkeeps : FileTree.Keeps s.files files q) (hq : ¬q other.lexical) :
    { s with files }.Reaches other := by
  intro hkept body hbody
  rw [placedBody?_of_keeps hkeeps hq] at hbody
  exact FileTree.read_of_keeps hkeeps hq (h hkept body hbody)

/-! ### Operations that succeed -/

/-- The store `s'` comes after `s` and holds `t` for all channels without slashes in their names. -/
structure Becomes (s s' : Store) (t : Tables) : Prop where
  root : s'.root = s.root
  content : ∀ kind name, '/' ∉ name.toList → s'.content kind name = t kind name
  reaches : ∀ kind name, '/' ∉ name.toList → s.Reaches (tablePath s.root kind name) →
    s'.Reaches (tablePath s'.root kind name)

lemma Becomes.refl (s : Store) : Becomes s s s.content := ⟨rfl, fun _ _ _ => rfl, fun _ _ _ h => h⟩

lemma Becomes.trans {s'' : Store} {t u : Tables} (h : Becomes s s' t) (h' : Becomes s' s'' u) :
    Becomes s s'' u where
  root := h'.root.trans h.root
  content := h'.content
  reaches kind name hname hreaches :=
    h'.reaches kind name hname (h.reaches kind name hname hreaches)

lemma Becomes.congr {t u : Tables} (h : Becomes s s' t)
    (htu : ∀ kind name, '/' ∉ name.toList → t kind name = u kind name) : Becomes s s' u where
  root := h.root
  content kind name hname := (h.content kind name hname).trans (htu kind name hname)
  reaches := h.reaches

/-- Nothing changes, and then again nothing changes. -/
lemma Becomes.trans_same {s'' : Store} {t : Tables} (h : Becomes s s' t)
    (h' : Becomes s' s'' s'.content) : Becomes s s'' t :=
  (h.trans h').congr h.content

lemma Becomes.trans_put {s'' : Store} {t : Tables} {kind : TableKind} {name key : String}
    {value : Json} (h : Becomes s s' t) (h' : Becomes s' s'' (s'.content.put kind name key value)) :
    Becomes s s'' (t.put kind name key value) := by
  refine (h.trans h').congr fun k n hn => ?_
  funext x
  rw [Tables.put, Tables.put, h.content k n hn]

/-- No name of a table of the channel has slashes, and its files are found. -/
structure Finds (s : Store) (channel : String) : Prop where
  slash : '/' ∉ (tableName channel).toList
  reaches : ∀ kind, s.Reaches (tablePath s.root kind (tableName channel))

lemma Finds.channelName {chat : String} (h : s.Finds chat) : s.Finds (channelName chat) := by
  obtain ⟨hslash, hreaches⟩ := h
  rw [← tableName_channelName] at hslash hreaches
  exact ⟨hslash, hreaches⟩

lemma Finds.becomes {t : Tables} {channel : String} (h : s.Finds channel) (h' : Becomes s s' t) :
    s'.Finds channel :=
  ⟨h.slash, fun kind => h'.reaches kind _ h.slash (h.reaches kind)⟩

/-- Keeping a table that shows changes nothing. -/
lemma becomes_keep (s : Store) (path : Path) :
    Becomes s (s.keep path (s.shown path)) s.content where
  root := rfl
  content kind name _ := by
    funext key
    have hshown : (s.keep path (s.shown path)).shown (tablePath s.root kind name) =
        s.shown (tablePath s.root kind name) := by
      by_cases hpath : tablePath s.root kind name = path
      · rw [hpath, shown_keep_self]
      · exact shown_keep_of_ne s _ hpath
    exact congrArg (Fields.get? · key) hshown
  reaches kind name _ h := h.keep path _

lemma lookUp_spec {key : String} {v : Option Json} (h : s.Reaches path)
    (hok : (lookUp path key).perform s = (.ok v, s')) :
    v = Fields.get? (s.shown path) key ∧ Becomes s s' s.content := by
  rw [perform_lookUp_eq] at hok
  cases ht : s.table path with
  | error cause => simp [ht] at hok
  | ok table =>
      obtain rfl := eq_shown_of_table_eq h ht
      rw [ht] at hok
      obtain ⟨hv, rfl⟩ := Prod.mk.inj hok
      exact ⟨(Except.ok.inj hv).symm, becomes_keep s path⟩

variable {kind : TableKind} {name : String}

/-- A table that is written shows, and no other one changes. -/
lemma becomes_write {files : FileTree} {t : Tables} (hname : '/' ∉ name.toList)
    (hkeeps : FileTree.Keeps s.files files (· = (tablePath s.root kind name).lexical))
    (hself : ∀ key, Fields.get? table key = t kind name key)
    (hother : ∀ k n, ¬(k = kind ∧ n = name) → t k n = s.content k n) :
    Becomes s ({ s with files }.keep (tablePath s.root kind name) table) t where
  root := rfl
  content k n hn := by
    funext key
    by_cases heq : k = kind ∧ n = name
    · obtain ⟨rfl, rfl⟩ := heq
      rw [← hself key]
      exact congrArg (Fields.get? · key) (shown_keep_self { s with files } _ table)
    · have hplace : ¬(tablePath s.root k n).lexical = (tablePath s.root kind name).lexical :=
        fun hlex => heq (lexical_tablePath_inj hn hname hlex)
      have hne : tablePath s.root k n ≠ tablePath s.root kind name :=
        fun hpath => hplace (by rw [hpath])
      have hshown : ({ s with files }.keep (tablePath s.root kind name) table).shown
          (tablePath s.root k n) = s.shown (tablePath s.root k n) := by
        rw [shown_keep_of_ne { s with files } table hne]
        unfold shown
        rw [placedBody?_of_keeps hkeeps hplace]
      rw [hother k n heq]
      exact congrArg (Fields.get? · key) hshown
  reaches k n hn hreaches := by
    by_cases heq : k = kind ∧ n = name
    · obtain ⟨rfl, rfl⟩ := heq
      exact reaches_keep_self { s with files } _ table
    · have hplace : ¬(tablePath s.root k n).lexical = (tablePath s.root kind name).lexical :=
        fun hlex => heq (lexical_tablePath_inj hn hname hlex)
      exact (hreaches.of_keeps hkeeps hplace).keep _ _

lemma update_spec {α : Type} {change : Table → α × Table} {a : α} (key : String) {value : Json}
    (hname : '/' ∉ name.toList) (h : s.Reaches (tablePath s.root kind name))
    (hchange : change (s.shown (tablePath s.root kind name)) =
      (a, Fields.insert (s.shown (tablePath s.root kind name)) key value)) {b : α}
    (hok : (update (tablePath s.root kind name) change).perform s = (.ok b, s')) :
    b = a ∧ Becomes s s' (s.content.put kind name key value) := by
  rw [perform_update_eq] at hok
  cases ht : s.table (tablePath s.root kind name) with
  | error cause => simp [ht] at hok
  | ok table =>
      obtain rfl := eq_shown_of_table_eq h ht
      simp only [ht, hchange] at hok
      rcases hwrite : writeTable s.files (tablePath s.root kind name)
        (Fields.insert (s.shown (tablePath s.root kind name)) key value) with ⟨written, files⟩
      rw [hwrite] at hok
      cases written with
      | error cause => simp at hok
      | ok =>
          obtain ⟨hb, rfl⟩ := Prod.mk.inj hok
          refine ⟨(Except.ok.inj hb).symm, ?_⟩
          have hshows : ∀ x, Fields.get? (s.shown (tablePath s.root kind name)) x =
              s.content kind name x := fun _ => rfl
          exact becomes_write hname (writeTable_spec hwrite).2 (Tables.get?_insert hshows key value)
            fun _ _ => Tables.put_elsewhere

/-! ### Operations for channels -/

variable {channel key : String}

/-- A text that is looked up is that of what shows. -/
lemma text_spec {found : Option String}
    (h : s.Reaches (tablePath s.root kind name))
    (hok : ((((lookUp (tablePath s.root kind name) key).perform s).1.map (·.bind Json.string?),
      ((lookUp (tablePath s.root kind name) key).perform s).2) :
        Except StorageError (Option String) × Store) = (.ok found, s')) :
    found = (s.content kind name key).bind Json.string? ∧ Becomes s s' s.content := by
  rcases hlook : (lookUp (tablePath s.root kind name) key).perform s with ⟨r, left⟩
  rw [hlook] at hok
  cases r with
  | error cause => simp [Except.map] at hok
  | ok v =>
      obtain ⟨hfound, rfl⟩ := Prod.mk.inj hok
      obtain ⟨rfl, hbecomes⟩ := lookUp_spec h hlook
      exact ⟨(Except.ok.inj hfound).symm, hbecomes⟩

lemma aliasOf?_spec {found : Option String}
    (h : s.Reaches (tablePath s.root .aliases (tableName channel)))
    (hok : (aliasOf? channel key).perform s = (.ok found, s')) :
    found = (s.content .aliases (tableName channel) key).bind Json.string? ∧
      Becomes s s' s.content := by
  rw [perform_aliasOf?] at hok
  exact text_spec h hok

lemma commandText?_spec {found : Option String}
    (h : s.Reaches (tablePath s.root .commands (tableName channel)))
    (hok : (commandText? channel key).perform s = (.ok found, s')) :
    found = (s.content .commands (tableName channel) key).bind Json.string? ∧
      Becomes s s' s.content := by
  rw [perform_commandText?] at hok
  exact text_spec h hok

/-- A count goes up by one and shows from then on. -/
lemma increment_spec {n : ℤ} (hslash : '/' ∉ (tableName channel).toList)
    (h : s.Reaches (tablePath s.root .variables (tableName channel)))
    (hok : (increment channel key).perform s = (.ok n, s')) :
    n = successor (countOf (s.content .variables (tableName channel) key)) ∧
      Becomes s s' (s.content.put .variables (tableName channel) key (.number (.integer n))) := by
  rw [perform_increment] at hok
  obtain ⟨hn, hbecomes⟩ := update_spec key hslash h rfl hok
  rw [hn]
  exact ⟨rfl, hbecomes⟩

/-! ### Folders of tables -/

lemma tablePath_eq_child {root : Path} (hslash : '/' ∉ name.toList) :
    tablePath root kind name = (root.join ⟨false, kind.folders⟩).child (name ++ ".json") := by
  rw [tablePath, ofText_fileName hslash]
  rfl

/-- A table is found along its path if its folder is there and a file can have its name. -/
lemma reaches_of_folder {folder : Path} (hslash : '/' ∉ name.toList)
    (hproper : '\x00' ∉ name.toList) (hlong : FileTree.isTooLong (name ++ ".json") = false)
    (h : s.files.folder (s.root.join ⟨false, kind.folders⟩) = .ok folder) :
    s.Reaches (tablePath s.root kind name) := by
  intro _ body hbody
  have hpath : tablePath s.root kind name =
      (s.root.join ⟨false, kind.folders⟩).child (name ++ ".json") := tablePath_eq_child hslash
  have hlast : (tablePath s.root kind name).names.getLast? = some (name ++ ".json") := by
    rw [hpath, Path.child, List.getLast?_concat]
  have hfolder : s.files.folder (tablePath s.root kind name).dropLast =
      .ok (tablePath s.root kind name).dropLast.lexical := by
    have hdrop : (tablePath s.root kind name).dropLast = s.root.join ⟨false, kind.folders⟩ := by
      rw [hpath, Path.dropLast, Path.child, List.dropLast_concat]
    rw [hdrop, h, ← FileTree.folder_eq_lexical h]
  have hisProper : FileTree.isProper (tablePath s.root kind name) = true := by
    rw [hpath, FileTree.isProper, Path.child, List.all_append, Bool.and_eq_true]
    exact ⟨FileTree.isProper_of_folder h, by simp [hproper]⟩
  have hplace := FileTree.place_eq_ok_iff.mpr
    ⟨_, hlast, hisProper, fileName_ne name (by decide), hlong, hfolder, rfl⟩
  rw [FileTree.place_eq_lexical hplace] at hplace
  exact FileTree.read_eq_ok_iff.mpr ⟨hplace, placedBody?_eq_some_iff.mp hbody⟩

lemma makeFolder_spec {names : List String} (h : (makeFolder names).perform s = (.ok (), s')) :
    ∃ files, s.files.makeFolders (s.root.join ⟨false, names⟩) = (.ok (), files) ∧
      s' = { s with files } := by
  rw [perform_makeFolder_eq] at h
  rcases hmade : s.files.makeFolders (s.root.join ⟨false, names⟩) with ⟨cause | _, files⟩
  · rw [hmade] at h
    exact nomatch (Prod.mk.inj h).1
  · rw [hmade] at h
    exact ⟨files, rfl, (Prod.mk.inj h).2.symm⟩

/-- The folders of all tables are there once they are made. -/
lemma folder_of_prepare (h : prepare.perform s = (.ok (), s')) :
    ∃ folder, s'.files.folder (s'.root.join ⟨false, kind.folders⟩) = .ok folder := by
  obtain ⟨⟨⟩, between, hfirst, hsecond⟩ := of_perform_bind h
  obtain ⟨files, hfiles, rfl⟩ := makeFolder_spec hfirst
  obtain ⟨files', hfiles', rfl⟩ := makeFolder_spec hsecond
  obtain ⟨inner, hinner⟩ := FileTree.folder_of_makeFolders hfiles
  obtain ⟨outer, houter⟩ := FileTree.folder_of_makeFolders hfiles'
  have hkeeps : FileTree.Keeps files files' fun _ => False := by
    have hmade := FileTree.makeFolders_keeps (t := files) (s.root.join ⟨false, ["variables"]⟩)
    rwa [hfiles'] at hmade
  match kind with
  | .commands =>
      have hchild : s.root.join ⟨false, ["commands", "aliases"]⟩ =
          (s.root.join ⟨false, ["commands"]⟩).child "aliases" := by
        simp [Path.join, Path.child]
      rw [hchild] at hinner
      exact FileTree.folder_of_folder_child (FileTree.folder_of_keeps hkeeps hinner)
  | .aliases => exact ⟨inner, FileTree.folder_of_keeps hkeeps hinner⟩
  | .variables => exact ⟨outer, houter⟩

/-- Tables are found along their paths once the folders of all tables are made. -/
theorem reaches_of_prepare (hslash : '/' ∉ name.toList) (hproper : '\x00' ∉ name.toList)
    (hlong : FileTree.isTooLong (name ++ ".json") = false) (h : prepare.perform s = (.ok (), s')) :
    s'.Reaches (tablePath s'.root kind name) := by
  obtain ⟨folder, hfolder⟩ := folder_of_prepare h
  exact reaches_of_folder hslash hproper hlong hfolder

end Store

end ChatBot.Storage
