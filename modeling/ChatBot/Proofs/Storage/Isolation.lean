import ChatBot.Proofs.Storage.Content
import ChatBot.Proofs.Storage.Durability
import ChatBot.Proofs.Storage.Elsewhere
import ChatBot.Proofs.Storage.Failure

/-!
Channels do not see one another's variables.

* `read_tablePath_of_save`: the file of a table is read as before after the variables
  of another channel were saved;
* `Request.Does.elsewhere`: a request saves no file but that of its table, and keeps no other table;
* `Store.table_ask`: so a request for the variables of a channel changes no other table;
* `Store.isClear_of_prepare`: all paths of tables are clear once the folders of a store are made;
* `channels_own_tables`: it changes no answer for another channel, and none about commands. This is
  for channels without slashes in their names. `setVariable_climbs` says that with a slash a channel
  may come to the tables of others, and out of the folder of all tables.
-/

namespace ChatBot.Storage

variable {root : Path} {kind : TableKind} {m n : String}

/-! ### Places of tables -/

lemma dropLast_tablePath (hn : '/' ∉ n.toList) :
    (tablePath root kind n).dropLast = root.join ⟨false, kind.folders⟩ := by
  rw [Store.tablePath_eq_child hn, Path.dropLast, Path.child, List.dropLast_concat]

lemma names_tablePath (hn : '/' ∉ n.toList) :
    (tablePath root kind n).names = root.names ++ (kind.folders ++ [n ++ ".json"]) := by
  rw [Store.tablePath_eq_child hn]
  simp [Path.join, Path.child]

lemma names_tablePath_ne_nil (hn : '/' ∉ n.toList) : (tablePath root kind n).names ≠ [] := by
  rw [names_tablePath hn]
  simp

lemma folders_ne_nil (kind : TableKind) : kind.folders ≠ [] := by
  cases kind <;> decide

/-- The folder of all tables is there if one of those in it is. -/
lemma folder_root {files : FileTree} {folder : Path}
    (h : files.folder (root.join ⟨false, kind.folders⟩) = .ok folder) :
    ∃ folder, files.folder root = .ok folder := by
  have hjoin : ∀ name, root.join ⟨false, [name]⟩ = root.child name := fun _ => rfl
  match kind with
  | .commands => exact FileTree.folder_of_folder_child (hjoin _ ▸ h)
  | .variables => exact FileTree.folder_of_folder_child (hjoin _ ▸ h)
  | .aliases =>
      have haliases : root.join ⟨false, TableKind.aliases.folders⟩ =
          (root.child "commands").child "aliases" := by
        simp [Path.join, Path.child, TableKind.folders]
      rw [haliases] at h
      obtain ⟨between, hbetween⟩ := FileTree.folder_of_folder_child h
      exact FileTree.folder_of_folder_child hbetween

lemma canStand_variables : ∀ name ∈ TableKind.variables.folders, FileTree.CanStand name := by
  intro name hname
  obtain rfl := List.mem_singleton.mp hname
  exact ⟨by decide, by decide, by decide⟩

lemma canStand_root (hn : '/' ∉ n.toList)
    (hnames : ∀ name ∈ (tablePath root kind n).names, FileTree.CanStand name) :
    (∀ name ∈ root.names, FileTree.CanStand name) ∧
      ∀ name ∈ (root.join ⟨false, TableKind.variables.folders⟩).names, FileTree.CanStand name := by
  have hroot : ∀ name ∈ root.names, FileTree.CanStand name := fun name hname =>
    hnames name (by rw [names_tablePath hn]; exact List.mem_append_left _ hname)
  refine ⟨hroot, fun name hname => ?_⟩
  rcases List.mem_append.mp hname with hname | hname
  · exact hroot name hname
  · exact canStand_variables name hname

/-- A table has its place below the folders of variables and commands. -/
lemma lt_length_lexical_tablePath (hn : '/' ∉ n.toList) :
    root.lexical.names.length + 1 < (tablePath root kind n).lexical.names.length := by
  have hpos := List.length_pos_iff.mpr (folders_ne_nil kind)
  rw [lexical_tablePath hn]
  simp only [List.length_append, List.length_singleton]
  omega

/-- No folder is made in the place of a table when those on the way to variables are. -/
lemma get?_makeFolders_tablePath {files : FileTree} (hn : '/' ∉ n.toList)
    (h : files.IsClear (tablePath root kind n)) :
    (files.makeFolders (root.join ⟨false, TableKind.variables.folders⟩)).2.get?
        (tablePath root kind n).lexical = files.get? (tablePath root kind n).lexical := by
  rcases h with ⟨folder, hfolder⟩ | ⟨-, hnames⟩
  · rw [dropLast_tablePath hn] at hfolder
    obtain ⟨top, htop⟩ := folder_root hfolder
    obtain rfl := FileTree.folder_eq_lexical htop
    -- the folder of all tables is there, so at most the one of variables is made
    have hproper : FileTree.isProper (root.join ⟨false, TableKind.variables.folders⟩) = true := by
      have hroot : root.names.all _ = true := FileTree.isProper_of_folder htop
      rw [FileTree.isProper, Path.join, if_neg Bool.false_ne_true, List.all_append, hroot]
      decide
    have hwalk : root.names.foldlM files.enter ⟨root.isAbsolute, []⟩ = .ok root.lexical := by
      rw [FileTree.folder, if_pos (FileTree.isProper_of_folder htop)] at htop
      exact htop
    rw [FileTree.makeFolders, if_pos hproper, Path.join, if_neg Bool.false_ne_true,
      FileTree.makeFrom_append hwalk]
    rcases FileTree.get?_makeFrom (t := files) canStand_variables root.lexical
      (tablePath root kind n).lexical with hsame | ⟨-, way, hway, hplace⟩
    · exact hsame
    · have hle : way.length ≤ 1 := hway.length_le
      have hlength := congrArg (fun x => x.names.length) hplace
      simp only [FileTree.descend, List.length_append] at hlength
      have hlt : _ < (tablePath root kind n).lexical.names.length := lt_length_lexical_tablePath hn
      omega
  · obtain ⟨hroot, hvariables⟩ := canStand_root hn hnames
    rw [FileTree.makeFolders_of_canStand hvariables]
    rcases FileTree.get?_makeFrom (t := files) hvariables ⟨root.isAbsolute, []⟩
      (tablePath root kind n).lexical with hsame | ⟨-, way, hway, hplace⟩
    · exact hsame
    · have hle : way.length ≤ (root.names ++ TableKind.variables.folders).length := hway.length_le
      have hlength := congrArg (fun x => x.names.length) hplace
      have hlt : _ < (tablePath root kind n).lexical.names.length := lt_length_lexical_tablePath hn
      rw [FileTree.lexical_of_canStand hroot] at hlt
      simp only [FileTree.descend, List.nil_append] at hlength
      rw [List.length_append, TableKind.folders, List.length_singleton] at hle
      omega

/-- The variables of a channel are on the way to no table. -/
lemma descend_ne_lexical_variables (hm : '/' ∉ m.toList)
    (hroot : ∀ name ∈ root.names, FileTree.CanStand name) {way : List String}
    (hway : way <+: root.names ++ kind.folders) :
    FileTree.descend ⟨root.isAbsolute, []⟩ way ≠ (tablePath root .variables m).lexical := by
  intro h
  rw [lexical_tablePath hm, FileTree.lexical_of_canStand hroot] at h
  obtain rfl := (Path.mk.inj h).2
  rw [List.prefix_append_right_inj] at hway
  cases kind <;> simp [TableKind.folders] at hway

/-- The file of another table is read as before after the variables of a channel
were saved, or could not be. -/
theorem read_tablePath_of_save {files : FileTree} (body : String) (hm : '/' ∉ m.toList)
    (hn : '/' ∉ n.toList) (hne : ¬(kind = .variables ∧ n = m))
    (hclear : files.IsClear (tablePath root kind n)) :
    (files.save (tablePath root .variables m) body).2.read (tablePath root kind n) =
      files.read (tablePath root kind n) := by
  have hsave : files.save (tablePath root .variables m) body =
    ((files.save (tablePath root .variables m) body).1,
      (files.save (tablePath root .variables m) body).2) := rfl
  have hplace : (tablePath root kind n).lexical ≠ (tablePath root .variables m).lexical :=
    fun h => hne (lexical_tablePath_inj hn hm h)
  by_cases hread : files.read (tablePath root kind n) = .error .missing
  · rw [hread]
    refine FileTree.read_missing_of_save hsave hclear (names_tablePath_ne_nil hn) hplace ?_
      (fun hnames => ?_) hread
    · rw [dropLast_tablePath hm]
      exact get?_makeFolders_tablePath hn hclear
    · obtain ⟨hroot, hvariables⟩ := canStand_root hn hnames
      rw [dropLast_tablePath hm, dropLast_tablePath hn]
      exact ⟨hvariables, fun way hway => descend_ne_lexical_variables hm hroot hway⟩
  · exact FileTree.read_of_save hsave hplace hread

/-! ### Requests for variables -/

variable {s : Store} {r : Request} {a b : String}

/-- A request saves no file but that of its table, and keeps no other table. -/
lemma Request.Does.elsewhere {path : Path} {result : Except StorageError Answer × Store}
    (h : r.Does s path result) :
    (result.2.files = s.files ∨ ∃ body, result.2.files = (s.files.save path body).2) ∧
      ∀ other, other ≠ path → result.2.kept.lookup other = s.kept.lookup other := by
  cases h with
  | unread => exact ⟨.inl rfl, fun _ _ => rfl⟩
  | found => exact ⟨.inl rfl, fun other hne => Store.lookup_keep_of_ne s _ hne⟩
  | @changed _ table' _ _ _ _ hwrite =>
      refine ⟨.inr ⟨tableText table', ?_⟩, fun other hne => Store.lookup_keep_of_ne _ _ hne⟩
      exact (congrArg Prod.snd hwrite).symm
  | @unwritten _ table' _ _ _ hwrite =>
      exact ⟨.inr ⟨tableText table', (congrArg Prod.snd hwrite).symm⟩, fun _ _ => rfl⟩

namespace Store

/-- A request for the variables of a channel changes no other table, for a store that goes on
or one that is opened anew. -/
lemma table_ask (kind : TableKind) (hr : r.target? = some (.variables, a)) (ha : '/' ∉ a.toList)
    (hn : '/' ∉ n.toList) (hne : ¬(kind = .variables ∧ n = tableName a))
    (hclear : s.files.IsClear (tablePath s.root kind n)) :
    (r.ask.perform s).2.table (tablePath s.root kind n) = s.table (tablePath s.root kind n) ∧
      (r.ask.perform s).2.reopen.table (tablePath s.root kind n) =
        s.reopen.table (tablePath s.root kind n) := by
  have hname := slash_not_mem_tableName ha
  have hpath : tablePath s.root kind n ≠ tablePath s.root .variables (tableName a) :=
    fun h => hne (lexical_tablePath_inj hn hname (by rw [h]))
  obtain ⟨hfiles, hkept⟩ := (Request.perform_ask hr s).elsewhere
  have hread : readTable (r.ask.perform s).2.files (tablePath s.root kind n) =
      readTable s.files (tablePath s.root kind n) := by
    rcases hfiles with hfiles | ⟨body, hfiles⟩
    · rw [hfiles]
    · rw [hfiles, readTable, read_tablePath_of_save body hname hn hne hclear, readTable]
  refine ⟨?_, ?_⟩
  · rw [Store.table, hkept _ hpath, hread, Store.table]
  · rw [table_of_kept_eq_nil rfl, table_of_kept_eq_nil rfl]
    exact hread

/-- The files of a channel are those of its tables. -/
lemma exists_tablePath_of_mem {root path : Path} (h : path ∈ pathsOf root b) :
    ∃ kind, path = tablePath root kind (tableName b) := by
  have hpaths : pathsOf root b = [tablePath root .commands (tableName b),
    tablePath root .aliases (tableName b), tablePath root .variables (tableName b)] := rfl
  rw [hpaths, List.mem_cons, List.mem_pair] at h
  rcases h with h | h | h
  · exact ⟨.commands, h⟩
  · exact ⟨.aliases, h⟩
  · exact ⟨.variables, h⟩

/-- All paths of tables are clear once the folders of a store are made. -/
lemma isClear_of_prepare {s' : Store} (hn : '/' ∉ n.toList) (h : prepare.perform s = (.ok (), s')) :
    s'.files.IsClear (tablePath s'.root kind n) := by
  obtain ⟨folder, hfolder⟩ := folder_of_prepare h
  rw [← dropLast_tablePath hn] at hfolder
  exact .inl ⟨folder, hfolder⟩

/-- The stores answer alike, as they go on and when they are opened anew. -/
def AnswersAlike {α : Type} (s s' : Store) (x : Storing α) : Prop :=
  (x.perform s').1 = (x.perform s).1 ∧ (x.perform s'.reopen).1 = (x.perform s.reopen).1

/-- A table has its place in the folder of its kind. -/
lemma lexical_tablePath_eq_child {root : Path} (hn : '/' ∉ n.toList) :
    (tablePath root kind n).lexical =
      (root.join ⟨false, kind.folders⟩).lexical.child (n ++ ".json") := by
  have hlast : (tablePath root kind n).names.getLast? = some (n ++ ".json") := by
    rw [tablePath_eq_child hn, Path.child, List.getLast?_concat]
  rw [Path.lexical_of_getLast? hlast (fileName_ne n (by decide)), dropLast_tablePath hn]

/-- What is answered from a table is the same if the table is. -/
lemma answersAlike_of_table {α : Type} {s' : Store} {x : Storing α} {f : Table → α}
    (path : Path → Path)
    (hx : ∀ t : Store, (x.perform t).1 = (t.table (path t.root)).map f) (hroot : s'.root = s.root)
    (h : s'.table (path s.root) = s.table (path s.root) ∧
      s'.reopen.table (path s.root) = s.reopen.table (path s.root)) : AnswersAlike s s' x := by
  obtain ⟨hsame, hreopen⟩ := h
  have hroot' : s'.reopen.root = s.reopen.root := hroot
  refine ⟨?_, ?_⟩
  · rw [hx s', hx s, hroot, hsame]
  · rw [hx s'.reopen, hx s.reopen, hroot']
    exact congrArg (Except.map f) hreopen

/-- **Own tables**: a request for the variables of a channel, whatever it sets or counts, changes

* no answer about the commands of any channel or their other names, and no answer about the
  variables of a channel with another name, neither of the store as it goes on nor of one that
  is opened anew, if the tables asked for are at the end of clear paths, as all are once the
  folders of a store are made;
* the body of no file but that of the variables of the channel.

The files of all channels are in the folders of their kinds. All this is for channels
without slashes in their names. -/
theorem channels_own_tables (s : Store) (hr : r.target? = some (.variables, a))
    (ha : '/' ∉ a.toList) : (∀ b key, '/' ∉ b.toList →
      (s.files.IsClear (commandsPath s.root b) →
        AnswersAlike s (r.ask.perform s).2 (commandText? b key)) ∧
      (s.files.IsClear (aliasesPath s.root b) →
        AnswersAlike s (r.ask.perform s).2 (aliasOf? b key)) ∧
      (tableName b ≠ tableName a → s.files.IsClear (variablesPath s.root b) →
        AnswersAlike s (r.ask.perform s).2 (valueOf? b key))) ∧
    (∀ place body, place ≠ (variablesPath s.root a).lexical →
      ((r.ask.perform s).2.files.get? place = some (.file body) ↔
        s.files.get? place = some (.file body))) ∧
    ∀ b, '/' ∉ b.toList → ∀ path ∈ pathsOf s.root b, ∃ kind : TableKind,
      path.lexical = (s.root.join ⟨false, kind.folders⟩).lexical.child
        (tableName b ++ ".json") := by
  have hroot := root_ask r s
  refine ⟨fun b key hb => ?_, fun place body hplace => ?_, fun b hb path hpath => ?_⟩
  · have hname := slash_not_mem_tableName hb
    refine ⟨fun hclear => ?_, fun hclear => ?_, fun hne hclear => ?_⟩
    · exact answersAlike_of_table (commandsPath · b) (commandText?_fst b key) hroot
        (table_ask .commands hr ha hname (by simp) hclear)
    · exact answersAlike_of_table (aliasesPath · b) (aliasOf?_fst b key) hroot
        (table_ask .aliases hr ha hname (by simp) hclear)
    · exact answersAlike_of_table (variablesPath · b) (valueOf?_fst b key) hroot
        (table_ask .variables hr ha hname (fun h => hne h.2) hclear)
  · rcases (Request.perform_ask hr s).elsewhere.1 with hfiles | ⟨text, hfiles⟩
    · rw [hfiles]
    · rcases hsave : s.files.save (variablesPath s.root a) text with ⟨saved, files⟩
      rw [variablesPath_eq] at hsave hplace
      rw [hsave] at hfiles
      rw [hfiles]
      exact (FileTree.keeps_save hsave).file place hplace body
  · obtain ⟨kind, hkind⟩ := exists_tablePath_of_mem hpath
    rw [hkind]
    exact ⟨kind, lexical_tablePath_eq_child (slash_not_mem_tableName hb)⟩

/-- A count that stands alone in the file of a channel is its table, if none is kept. -/
lemma table_of_read {key : String} {i : ℤ} (hi : (Json.Number.integer i).IsWhole64)
    (hkept : s.kept.lookup (variablesPath s.root a) = none)
    (hread : s.files.read (variablesPath s.root a) =
      .ok (tableText [(key, .number (.integer i))])) :
    s.table (variablesPath s.root a) = .ok [(key, .number (.integer i))] := by
  have hordered : (Json.object [(key, .number (.integer i))]).Ordered :=
    .object (List.pairwise_singleton _ _) fun f hf => by
      obtain rfl := List.mem_singleton.mp hf
      exact .number _
  have hback : Json.Fields.ofText? (tableText [(key, .number (.integer i))]).toList =
      some [(key, .number (.integer i))] :=
    (ofText?_tableText_iff hordered).mpr fun f hf => by
      obtain rfl := List.mem_singleton.mp hf
      exact .number hi.isExact
  rw [Store.table, hkept, readTable, hread]
  simp only [hback]

lemma valueOf?_of_read {key : String} {i : ℤ} (hi : (Json.Number.integer i).IsWhole64)
    (hkept : s.kept.lookup (variablesPath s.root a) = none)
    (hread : s.files.read (variablesPath s.root a) =
      .ok (tableText [(key, .number (.integer i))])) :
    ((valueOf? a key).perform s).1 = .ok (some (.number (.integer i))) := by
  rw [valueOf?_eq (table_of_read hi hkept hread), Json.Fields.get?_cons_self (key, _)]

/-- One channel counts from nothing, and another one still has 41, also when
the store is opened anew. -/
theorem channels_own_tables_of_count :
    let s : Store := ⟨⟨false, ["data"]⟩, FileTree.ofFiles
      [("data/variables/b.json", tableText [("n", .number (.integer 41))])], []⟩
    let s' := ((Request.increment "#A" "n").ask.perform s).2
    s'.files.read (variablesPath s.root "a") = .ok (tableText [("n", .number (.integer 1))]) ∧
      ((valueOf? "b" "n").perform s').1 = .ok (some (.number (.integer 41))) ∧
      ((valueOf? "b" "n").perform s'.reopen).1 = .ok (some (.number (.integer 41))) := by
  intro s s'
  have hcount : ((valueOf? "b" "n").perform s).1 = .ok (some (.number (.integer 41))) :=
    valueOf?_of_read ⟨by decide, by decide⟩ rfl (by decide +kernel)
  have hclear : s.files.IsClear (variablesPath s.root "b") :=
    .inl ⟨⟨false, ["data", "variables"]⟩, by decide +kernel⟩
  obtain ⟨hsame, -, -⟩ := channels_own_tables (r := .increment "#A" "n") s rfl (by decide)
  obtain ⟨hgoing, hreopen⟩ := (hsame "b" "n" (by decide)).2.2 (by decide +kernel) hclear
  exact ⟨by decide +kernel, hgoing.trans hcount, hreopen.trans hcount⟩

/-- A channel with slashes in its name sets the variable of another one, and its variables may even
be outside the folder of all tables. -/
theorem setVariable_climbs :
    let s : Store := ⟨⟨false, ["data"]⟩, FileTree.ofFiles
      [("data/variables/b.json", tableText [("k", .number (.integer 1))])], []⟩
    let s' := ((setVariable "x/../b" "k" (.number (.integer 2))).perform s).2
    tableName "x/../b" ≠ tableName "b" ∧
      ((valueOf? "b" "k").perform s).1 = .ok (some (.number (.integer 1))) ∧
      ((valueOf? "b" "k").perform s').1 = .ok (some (.number (.integer 2))) ∧
      ((valueOf? "b" "k").perform s'.reopen).1 = .ok (some (.number (.integer 2))) ∧
      (variablesPath s.root "../../x").lexical = ⟨false, ["x.json"]⟩ := by
  intro s s'
  have hread : s'.files.read (variablesPath s'.root "b") =
      .ok (tableText [("k", .number (.integer 2))]) := by decide +kernel
  exact ⟨by decide +kernel, valueOf?_of_read ⟨by decide, by decide⟩ rfl (by decide +kernel),
    valueOf?_of_read ⟨by decide, by decide⟩ (by decide +kernel) hread,
    valueOf?_of_read ⟨by decide, by decide⟩ rfl hread, by decide +kernel⟩

end Store

end ChatBot.Storage
