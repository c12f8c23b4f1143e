import ChatBot.Proofs.Storage.Refinement

/-!
What a request does, case by case.

* `Request.written?`: the table that a request writes in place of another;
* `Request.Does`: the ways in which a request can end, and `perform_ask`: it ends in one of them;
* `Store.InOrder`: the tables that are kept have their keys in order. `inOrder_after` says
  that this is so after every run from a store that was just opened, if the values that
  are set were read from texts.
-/

namespace ChatBot.Storage

open ChatBot.Json (Fields)

/-- The table that a request writes in place of another one, if it writes any. -/
def Request.written? (table : Table) : Request → Option Table
  | .setVariable _ key value => some (Fields.insert table key value)
  | .increment _ key =>
    some (Fields.insert table key
      (.number (.integer (Store.successor (Store.countOf (Fields.get? table key))))))
  | _ => none

/-- What comes of a request for the table at a path. -/
inductive Request.Does (r : Request) (s : Store) (path : Path) :
    Except StorageError Answer × Store → Prop
  /-- The table cannot be read. -/
  | unread {cause : StorageError} (h : s.table path = .error cause) :
      Does r s path (.error cause, s)
  /-- The table is looked at, and kept. -/
  | found {table : Table} {answer : Answer} (h : s.table path = .ok table)
      (hnone : r.written? table = none) : Does r s path (.ok answer, s.keep path table)
  /-- The table is changed and written, and the new one is kept. -/
  | changed {table table' : Table} {answer : Answer} {files : FileTree}
      (h : s.table path = .ok table) (hsome : r.written? table = some table')
      (hwrite : writeTable s.files path table' = (.ok (), files)) :
      Does r s path (.ok answer, { s with files }.keep path table')
  /-- The table is changed, but cannot be written. -/
  | unwritten {table table' : Table} {files : FileTree} (h : s.table path = .ok table)
      (hsome : r.written? table = some table')
      (hwrite : writeTable s.files path table' = (.error .unusableFile, files)) :
      Does r s path (.error .unusableFile, { s with files })

namespace Request

variable {r : Request} {kind : TableKind} {channel : String}

/-- A name is looked up in a table. -/
lemma Does.lookUp {s : Store} {path : Path} (hnone : ∀ table, r.written? table = none)
    (key : String) (f : Option Json → Answer) :
    r.Does s path (((Store.lookUp path key).perform s).1.map f,
      ((Store.lookUp path key).perform s).2) := by
  rw [Store.perform_lookUp_eq]
  cases htable : s.table path with
  | ok table => exact .found htable (hnone table)
  | error cause => exact .unread htable

/-- A table is changed. -/
lemma Does.update {α : Type} {s : Store} {path : Path} {change : Table → α × Table}
    (hsome : ∀ table, r.written? table = some (change table).2) (f : α → Answer) :
    r.Does s path (((Store.update path change).perform s).1.map f,
      ((Store.update path change).perform s).2) := by
  rw [Store.perform_update_eq]
  cases htable : s.table path with
  | error cause => exact .unread htable
  | ok table =>
      rcases hwrite : writeTable s.files path (change table).2 with ⟨written, files⟩
      cases written with
      | ok =>
          simp only [hwrite]
          exact .changed htable (hsome table) hwrite
      | error cause =>
          obtain ⟨rfl, -⟩ := save_of_writeTable_error hwrite
          simp only [hwrite]
          exact .unwritten htable (hsome table) hwrite

lemma map_map {α β γ : Type} (x : Except StorageError α) (f : α → β) (g : β → γ) :
    (x.map f).map g = x.map fun a => g (f a) := by
  cases x <;> rfl

/-- A request for a table of a channel ends in one of these ways. -/
theorem perform_ask (h : r.target? = some (kind, channel)) (s : Store) :
    r.Does s (tablePath s.root kind (tableName channel)) (r.ask.perform s) := by
  cases r with
  | prepare => cases h
  | commandText channel key =>
      cases h
      rw [ask, perform_bind_pure, Store.perform_commandText?, map_map]
      exact .lookUp (fun _ => rfl) key _
  | aliasOf channel key =>
      cases h
      rw [ask, perform_bind_pure, Store.perform_aliasOf?, map_map]
      exact .lookUp (fun _ => rfl) key _
  | valueOf channel key =>
      cases h
      rw [ask, perform_bind_pure, Store.perform_valueOf?]
      exact .lookUp (fun _ => rfl) key _
  | setVariable channel key value =>
      cases h
      rw [ask, perform_bind_pure, Store.perform_setVariable]
      exact .update (fun _ => rfl) _
  | increment channel key =>
      cases h
      rw [ask, perform_bind_pure, Store.perform_increment]
      exact .update (fun _ => rfl) _

end Request

namespace Store

/-- Where the variables of a channel are. -/
lemma variablesPath_eq (root : Path) (channel : String) :
    variablesPath root channel = tablePath root .variables (tableName channel) := rfl

/-- A variable is looked up in the table of its channel, or there is none. -/
lemma valueOf?_fst (channel key : String) (s : Store) :
    ((valueOf? channel key).perform s).1 =
      (s.table (variablesPath s.root channel)).map (Fields.get? · key) := by
  rw [perform_valueOf?, perform_lookUp_eq, ← variablesPath_eq]
  cases s.table (variablesPath s.root channel) <;> rfl

/-- To keep a table that the store has anyway changes no table. -/
lemma table_keep {s : Store} {path : Path} {table : Table} (h : s.table path = .ok table)
    (other : Path) : (s.keep path table).table other = s.table other := by
  by_cases hother : other = path
  · rw [hother, h, Store.table]
    simp [keep]
  · rw [Store.table, lookup_keep_of_ne s table hother]
    rfl

lemma lookUp_fst (path : Path) (key : String) (s : Store) :
    ((lookUp path key).perform s).1 = (s.table path).map (Fields.get? · key) := by
  rw [perform_lookUp_eq]
  cases s.table path <;> rfl

/-- The text of a command is looked up in the table of its channel, or there is none. -/
lemma commandText?_fst (channel key : String) (s : Store) :
    ((commandText? channel key).perform s).1 =
      (s.table (commandsPath s.root channel)).map fun table =>
        (Fields.get? table key).bind Json.string? := by
  rw [perform_commandText?, lookUp_fst, Request.map_map]
  rfl

/-- Another name for a command is looked up in the table of its channel, or there is none. -/
lemma aliasOf?_fst (channel key : String) (s : Store) :
    ((aliasOf? channel key).perform s).1 =
      (s.table (aliasesPath s.root channel)).map fun table =>
        (Fields.get? table key).bind Json.string? := by
  rw [perform_aliasOf?, lookUp_fst, Request.map_map]
  rfl

end Store

/-! ### Keys in order -/

namespace Store

variable {s : Store} {path : Path} {table : Table}

/-- The tables that are kept have their keys in order. -/
def InOrder (s : Store) : Prop := ∀ entry ∈ s.kept, (Json.object entry.2).Ordered

lemma inOrder_reopen (s : Store) : s.reopen.InOrder := fun _ h => nomatch h

/-- A table that is read from a file, or that has none, is in order. -/
lemma ordered_of_readTable {files : FileTree} (h : readTable files path = .ok table) :
    (Json.object table).Ordered := by
  unfold readTable at h
  split at h
  · split at h
    · next t ht =>
      obtain rfl := Except.ok.inj h
      exact Fields.ordered_of_ofText? ht
    · cases h
  · obtain rfl := Except.ok.inj h
    exact .object List.Pairwise.nil (by simp)
  · cases h

/-- The table of a path is in order. -/
lemma InOrder.of_table (h : s.InOrder) (htable : s.table path = .ok table) :
    (Json.object table).Ordered := by
  unfold Store.table at htable
  split at htable
  · next kept hkept =>
    obtain rfl := Except.ok.inj htable
    obtain ⟨before, behind, heq, -⟩ := List.lookup_eq_some_iff.mp hkept
    exact h (path, kept) (by simp [heq])
  · exact ordered_of_readTable htable

lemma InOrder.keep (h : s.InOrder) (hordered : (Json.object table).Ordered) (files : FileTree) :
    ({ s with files }.keep path table).InOrder := by
  intro entry hentry
  rcases List.mem_cons.mp hentry with rfl | hentry
  · exact hordered
  · exact h entry (List.mem_of_mem_filter hentry)

end Store

lemma ordered_insert {table : Table} (h : (Json.object table).Ordered) {value : Json}
    (hvalue : value.Ordered) (key : String) :
    (Json.object (Fields.insert table key value)).Ordered := by
  cases h with
  | object ha ho =>
      refine .object (ha.insert key value) fun f hf => ?_
      rcases Fields.mem_insert hf with rfl | hf
      · exact hvalue
      · exact ho f hf

/-- A value that the request sets was read from a text. -/
def Request.SetsRead : Request → Prop
  | .setVariable _ _ value => ∃ cs, Json.ofText? cs = some value
  | _ => True

lemma ordered_of_ofText? {cs : List Char} {value : Json} (h : Json.ofText? cs = some value) :
    value.Ordered := by
  simp only [Json.ofText?, Option.bind_eq_bind, Option.bind_eq_some_iff] at h
  obtain ⟨n, -, hn⟩ := h
  exact n.ordered_of_value? _ _ hn

/-- The table that is written in place of one in order is in order. -/
lemma Request.SetsRead.ordered {r : Request} (hr : r.SetsRead) {table table' : Table}
    (h : (Json.object table).Ordered) (hsome : r.written? table = some table') :
    (Json.object table').Ordered := by
  cases r with
  | setVariable channel key value =>
      obtain ⟨cs, hcs⟩ := hr
      obtain rfl := Option.some.inj hsome
      exact ordered_insert h (ordered_of_ofText? hcs) key
  | increment channel key =>
      obtain rfl := Option.some.inj hsome
      exact ordered_insert h (.number _) key
  | prepare | commandText | aliasOf | valueOf => cases hsome

/-- Making a folder changes no file and no table that is kept. -/
lemma Store.makeFolder_snd (names : List String) (s : Store) :
    ∃ files, FileTree.Keeps s.files files (fun _ => False) ∧
      ((makeFolder names).perform s).2 = { s with files } :=
  ⟨_, FileTree.makeFolders_keeps _, by rw [perform_makeFolder_eq]⟩

/-- Making the folders changes no file and no table that is kept. -/
lemma Store.prepare_snd (s : Store) :
    ∃ files, FileTree.Keeps s.files files (fun _ => False) ∧
      (prepare.perform s).2 = { s with files } := by
  obtain ⟨files, hkeeps, hfirst⟩ := makeFolder_snd ["commands", "aliases"] s
  rcases hmade : (makeFolder ["commands", "aliases"]).perform s with ⟨made, between⟩
  obtain rfl : between = { s with files } := by rw [← hfirst, hmade]
  rw [prepare]
  cases made with
  | error cause => exact ⟨files, hkeeps, by rw [perform_bind_of_error hmade]⟩
  | ok =>
      obtain ⟨files', hkeeps', hsecond⟩ := makeFolder_snd ["variables"] { s with files }
      rw [perform_bind_of_ok hmade, hsecond]
      exact ⟨files', (hkeeps.trans hkeeps').mono (by simp), rfl⟩

/-- A request only makes folders, or it is for a table and ends in one of the ways. -/
lemma Request.perform_cases (r : Request) (s : Store) :
    (∃ files, FileTree.Keeps s.files files (fun _ => False) ∧
      (r.ask.perform s).2 = { s with files }) ∨
      ∃ kind channel, r.target? = some (kind, channel) ∧
        r.Does s (tablePath s.root kind (tableName channel)) (r.ask.perform s) := by
  cases htarget : r.target? with
  | none =>
      cases r with
      | prepare =>
          obtain ⟨files, hkeeps, hprepare⟩ := s.prepare_snd
          rw [ask, perform_bind_pure]
          exact .inl ⟨files, hkeeps, hprepare⟩
      | _ => cases htarget
  | some target => exact .inr ⟨target.1, target.2, rfl, perform_ask htarget s⟩

/-- A request leaves the tables that are kept in order. -/
lemma Store.InOrder.ask {s : Store} {r : Request} (h : s.InOrder) (hr : r.SetsRead) :
    (r.ask.perform s).2.InOrder := by
  rcases r.perform_cases s with ⟨files, -, hfolders⟩ | ⟨kind, channel, -, hdoes⟩
  · rw [hfolders]
    exact h
  · generalize r.ask.perform s = result at hdoes
    cases hdoes with
    | unread => exact h
    | found htable => exact h.keep (h.of_table htable) s.files
    | changed htable hsome => exact h.keep (hr.ordered (h.of_table htable) hsome) _
    | unwritten => exact h

/-- After every run the tables that are kept are in order. -/
theorem Store.InOrder.after {s : Store} (h : s.InOrder) (events : List Event)
    (hevents : ∀ r ∈ events.filterMap Event.request?, r.SetsRead) : (s.after events).InOrder := by
  induction events generalizing s with
  | nil => exact h
  | cons e rest ih =>
      cases e with
      | reopen => exact ih s.inOrder_reopen hevents
      | ask r =>
          obtain ⟨hr, hrest⟩ := List.forall_mem_cons.mp hevents
          exact ih (h.ask hr) hrest

end ChatBot.Storage
