import ChatBot.Proofs.Storage.Isolation

/-!
Counting in stores whose tables can be used.

* `Json.Fields.insert_comm`: values of different keys may be put in a table in any order;
* `bump`: a table with a variable counted up. `foldl_bump_perm` says that the order of counts does
  not matter, and `countOf_foldl_bump` where a variable gets to;
* `Store.Ready`: the tables of a name can be read and written;
* `Store.Alike`: tables are kept, and none is another than before;
* `Store.Counted`: a variable is counted up in its table and in the file of
  it, and nothing else changes;
* `increment_of_ready`: that is what counting does, and it does not fail.
-/

namespace ChatBot

namespace Json.Fields

lemma insert_cons_self (k : String) (v : Json) (rest : Fields) (value : Json) :
    insert ((k, v) :: rest) k value = (k, value) :: rest := by
  rw [insert, if_pos (beq_self_eq_true k)]

lemma insert_cons_of_lt {key k : String} (h : key < k) (v : Json) (rest : Fields) (value : Json) :
    insert ((k, v) :: rest) key value = (key, value) :: (k, v) :: rest := by
  rw [insert, if_neg (by simpa using h.ne), if_pos h]

lemma insert_cons_of_gt {key k : String} (h : k < key) (v : Json) (rest : Fields) (value : Json) :
    insert ((k, v) :: rest) key value = (k, v) :: insert rest key value := by
  rw [insert, if_neg (by simpa using h.ne'), if_neg h.asymm]

/-- Values of different keys may be put in fields in any order. -/
lemma insert_comm (fields : Fields) {key other : String} (hne : key ≠ other) (value value' : Json) :
    (fields.insert key value).insert other value' =
      (fields.insert other value').insert key value := by
  wlog hlt : key < other generalizing key other value value'
  · exact (this hne.symm value' value (lt_of_le_of_ne (not_lt.mp hlt) hne.symm)).symm
  have hnil : ∀ rest : Fields, insert ((key, value) :: rest) other value' =
      (key, value) :: insert rest other value' :=
        fun rest => insert_cons_of_gt hlt value rest value'
  induction fields with
  | nil => exact (hnil []).trans (insert_cons_of_lt hlt value' [] value).symm
  | cons f rest ih =>
      obtain ⟨k, v⟩ := f
      rcases lt_trichotomy key k with hk | rfl | hk
      · rw [insert_cons_of_lt hk, hnil]
        rcases lt_trichotomy other k with ho | rfl | ho
        · rw [insert_cons_of_lt ho, insert_cons_of_lt hlt]
        · rw [insert_cons_self, insert_cons_of_lt hlt]
        · rw [insert_cons_of_gt ho, insert_cons_of_lt hk]
      · rw [insert_cons_self, hnil, insert_cons_of_gt hlt, insert_cons_self]
      · rw [insert_cons_of_gt hk, insert_cons_of_gt (hk.trans hlt),
          insert_cons_of_gt (hk.trans hlt), insert_cons_of_gt hk, ih]

end Json.Fields

namespace Storage

open ChatBot.Json (Fields)

/-! ### Tables that count -/

/-- The table with a variable counted up. -/
def bump (table : Table) (key : String) : Table :=
  Fields.insert table key
    (.number (.integer (Store.successor (Store.countOf (Fields.get? table key)))))

lemma bump_comm (table : Table) (key other : String) :
    bump (bump table key) other = bump (bump table other) key := by
  by_cases heq : key = other
  · rw [heq]
  · rw [bump, bump, bump, bump, Fields.get?_insert_of_ne _ _ (Ne.symm heq),
      Fields.get?_insert_of_ne _ _ heq, Fields.insert_comm _ heq]

/-- The order of counts does not matter. -/
lemma foldl_bump_perm {keys others : List String} (h : keys.Perm others) (table : Table) :
    keys.foldl bump table = others.foldl bump table :=
  h.foldl_eq' (fun key _ other _ t => bump_comm t key other) table

lemma successor_le (n : ℤ) : Store.successor n ≤ Binary64.int64Max := by
  have hlt : Store.successor n < (2 ^ 64 + 1) / 2 := Int.bmod_lt (by omega)
  unfold Binary64.int64Max
  omega

lemma countOf_bump_self (table : Table) (key : String) :
    Store.countOf (Fields.get? (bump table key) key) =
      Store.successor (Store.countOf (Fields.get? table key)) := by
  rw [bump, Fields.get?_insert_self]
  simp [Store.countOf, Json.int64?, successor_le]

/-- A variable gets as far as it is counted. -/
lemma countOf_foldl_bump (keys : List String) (table : Table) (key : String) :
    Store.countOf (Fields.get? (keys.foldl bump table) key) =
      Store.successor^[keys.count key] (Store.countOf (Fields.get? table key)) := by
  induction keys generalizing table with
  | nil => rfl
  | cons other keys ih =>
      rw [List.foldl_cons, ih]
      by_cases heq : other = key
      · rw [heq, List.count_cons_self, Function.iterate_succ_apply, countOf_bump_self]
      · rw [List.count_cons_of_ne heq, bump, Fields.get?_insert_of_ne _ _ (Ne.symm heq)]

namespace Store

variable {s s' : Store} {kind : TableKind} {name key channel : String} {table : Table}

/-! ### Tables that can be used -/

/-- The tables of a name can be read and written: each is there or missing,
at the end of a clear path. -/
structure Ready (s : Store) (name : String) : Prop where
  slash : '/' ∉ name.toList
  table : ∀ kind, ∃ table, s.table (tablePath s.root kind name) = .ok table
  read : ∀ kind, s.files.read (tablePath s.root kind name) ≠ .error .unusable
  clear : ∀ kind, s.files.IsClear (tablePath s.root kind name)

/-- A name is ready if each of its tables can be read from its file. -/
lemma ready_of_readTable (hslash : '/' ∉ name.toList)
    (hread : ∀ kind, ∃ table, readTable s.files (tablePath s.root kind name) = .ok table)
    (hclear : ∀ kind, s.files.IsClear (tablePath s.root kind name)) : s.Ready name where
  slash := hslash
  table kind := by
    obtain ⟨table, htable⟩ := hread kind
    rw [Store.table]
    split
    · next kept _ => exact ⟨kept, rfl⟩
    · exact ⟨table, htable⟩
  read kind hunusable := by
    obtain ⟨table, htable⟩ := hread kind
    rw [readTable, hunusable] at htable
    cases htable
  clear := hclear

/-- The file of a table is found along its path. -/
lemma Ready.reaches (h : s.Ready name) (kind : TableKind) :
    s.Reaches (tablePath s.root kind name) := by
  intro _ body hbody
  have hget := placedBody?_eq_some_iff.mp hbody
  cases hread : s.files.read (tablePath s.root kind name) with
  | ok found =>
      have hfound := (FileTree.read_eq_ok_iff.mp hread).2
      obtain rfl : found = body := by simpa using hfound.symm.trans hget
      rfl
  | error cause =>
      cases cause with
      | missing =>
          have hnone := FileTree.get?_eq_none_of_read (h.clear kind)
            (names_tablePath_ne_nil h.slash) hread
          exact nomatch hnone.symm.trans hget
      | unusable => exact absurd hread (h.read kind)

/-- Tables are kept, and none is another than before. -/
structure Alike (s s' : Store) : Prop where
  root : s'.root = s.root
  files : s'.files = s.files
  table : ∀ path, s'.table path = s.table path

lemma Alike.refl (s : Store) : Alike s s := ⟨rfl, rfl, fun _ => rfl⟩

lemma Alike.ready (h : Alike s s') (hready : s.Ready name) : s'.Ready name := by
  obtain ⟨hroot, hfiles, htable⟩ := h
  obtain ⟨hslash, htables, hread, hclear⟩ := hready
  rw [← hroot] at htables hread hclear
  rw [← hfiles] at hread hclear
  refine ⟨hslash, fun kind => ?_, hread, hclear⟩
  rw [htable]
  exact htables kind

/-! ### Counting -/

/-- The variable `key` of a name is counted up in its table and in the file of it. No other table
and no other file changes. -/
structure Counted (s s' : Store) (name key : String) (table : Table) : Prop where
  root : s'.root = s.root
  self : s'.table (tablePath s.root .variables name) = .ok (bump table key)
  other : ∀ k n, s.Ready n → ¬(k = .variables ∧ n = name) →
    s'.table (tablePath s.root k n) = s.table (tablePath s.root k n)
  written : s'.files.get? (tablePath s.root .variables name).lexical =
    some (.file (tableText (bump table key)))
  elsewhere : ∀ place, place ≠ (tablePath s.root .variables name).lexical →
    ∀ body, s'.files.get? place = some (.file body) ↔ s.files.get? place = some (.file body)
  ready : ∀ n, s.Ready n → s'.Ready n

/-- It is the same if tables were kept before. -/
lemma Alike.counted {between : Store} (h : Alike s between)
    (hcounted : Counted between s' name key table) : Counted s s' name key table := by
  obtain ⟨hroot, hself, hother, hwritten, helsewhere, hready⟩ := hcounted
  rw [h.root] at hself hother hwritten helsewhere
  rw [h.files] at helsewhere
  refine ⟨hroot.trans h.root, hself, fun k n hn hne => ?_, hwritten, helsewhere,
    fun n hn => hready n (h.ready hn)⟩
  rw [hother k n (h.ready hn) hne, h.table]

/-- A path of a table that is clear stays so when variables are saved. -/
lemma isClear_save {root : Path} {files : FileTree} {m n : String} (body : String)
    (hm : '/' ∉ m.toList) (hn : '/' ∉ n.toList) (h : files.IsClear (tablePath root kind n)) :
    (files.save (tablePath root .variables m) body).2.IsClear (tablePath root kind n) := by
  rcases hsave : files.save (tablePath root .variables m) body with ⟨saved, files'⟩
  rcases h with ⟨folder, hfolder⟩ | ⟨hrooted, hnames⟩
  · exact .inl ⟨folder, FileTree.folder_of_keeps (FileTree.keeps_save hsave) hfolder⟩
  · refine .inr ⟨hrooted.save ?_ hsave, hnames⟩
    rw [dropLast_tablePath hm]
    exact (canStand_root hn hnames).2

/-- A table that is written and kept is counted in. -/
lemma counted_of_save {files : FileTree} (h : s.Ready name)
    (hsave : s.files.save (tablePath s.root .variables name) (tableText (bump table key)) =
      (.ok (), files)) :
    Counted s ({ s with files }.keep (tablePath s.root .variables name) (bump table key)) name key
      table := by
  obtain ⟨hbody, hkeeps⟩ := FileTree.save_spec hsave
  have hself : ({ s with files }.keep (tablePath s.root .variables name) (bump table key)).table
      (tablePath s.root .variables name) = .ok (bump table key) := table_keep_self _ _ _
  have hfiles : files = (s.files.save (tablePath s.root .variables name)
      (tableText (bump table key))).2 := by rw [hsave]
  have hread : ∀ k n, s.Ready n → ¬(k = .variables ∧ n = name) →
      files.read (tablePath s.root k n) = s.files.read (tablePath s.root k n) := by
    intro k n hn hne
    rw [hfiles]
    exact read_tablePath_of_save _ h.slash hn.slash hne (hn.clear k)
  have hother : ∀ k n, s.Ready n → ¬(k = .variables ∧ n = name) →
      ({ s with files }.keep (tablePath s.root .variables name) (bump table key)).table
        (tablePath s.root k n) = s.table (tablePath s.root k n) := by
    intro k n hn hne
    have hpath : tablePath s.root k n ≠ tablePath s.root .variables name :=
      fun heq => hne (lexical_tablePath_inj hn.slash h.slash (by rw [heq]))
    rw [Store.table, lookup_keep_of_ne _ _ hpath, Store.table]
    simp only [keep, readTable, hread k n hn hne]
  refine ⟨rfl, hself, hother, (FileTree.read_eq_ok_iff.mp hbody).2, hkeeps.file, fun n hn => ?_⟩
  refine ⟨hn.slash, fun k => ?_, fun k => ?_, fun k => ?_⟩
  · by_cases heq : k = .variables ∧ n = name
    · obtain ⟨rfl, rfl⟩ := heq
      exact ⟨_, hself⟩
    · obtain ⟨t, ht⟩ := hn.table k
      exact ⟨t, (hother k n hn heq).trans ht⟩
  · by_cases heq : k = .variables ∧ n = name
    · obtain ⟨rfl, rfl⟩ := heq
      intro hunusable
      have hboth := hbody.symm.trans hunusable
      cases hboth
    · exact (hread k n hn heq).symm ▸ hn.read k
  · have hclear := isClear_save (tableText (bump table key)) h.slash hn.slash (hn.clear k)
    rw [← hfiles] at hclear
    exact hclear

/-- **Counting**: where tables can be used, counting gives the next number and counts the variable
up in its table and file. -/
theorem increment_of_ready (h : s.Ready (tableName channel))
    (htable : s.table (variablesPath s.root channel) = .ok table) (key : String) :
    ((increment channel key).perform s).1 = .ok (successor (countOf (Fields.get? table key))) ∧
      Counted s ((increment channel key).perform s).2 (tableName channel) key table := by
  rw [variablesPath_eq] at htable
  obtain ⟨files, hsave⟩ := FileTree.exists_save_of_isClear (h.clear .variables)
    (names_tablePath_ne_nil h.slash) (h.read .variables) (tableText (bump table key))
  have hperform : (increment channel key).perform s =
      (.ok (successor (countOf (Fields.get? table key))),
        { s with files }.keep (tablePath s.root .variables (tableName channel))
            (bump table key)) := by
    have hwrite : writeTable s.files (tablePath s.root .variables (tableName channel))
        (bump table key) = (.ok (), files) := by
      rw [writeTable, hsave]
      rfl
    rw [perform_increment, perform_update_eq, htable]
    simp only
    rw [bump] at hwrite
    rw [hwrite]
    rfl
  rw [hperform]
  exact ⟨rfl, counted_of_save h hsave⟩

end Store

end Storage

end ChatBot
