import ChatBot.Proofs.Json.Reread
import ChatBot.Proofs.Storage.Table

/-!
A store answers as if it were nothing but a map.

* `Tables.ofFiles`: what the files hold for all channels;
* `Request`: what a store can be asked for. `Request.ask` asks a store, `Request.answer` and
  `Request.change` say what the tables answer and become;
* `Event`: a request, or opening the store anew;
* `Mirrors`: the invariant. Every table that requests may touch stands in its file and shows in the
  tables, and a table that is kept stands in its file as well;
* `Mirrors.ask`: a request preserves the invariant, and its answer is that of the tables;
* `answers_eq_tables`: so it is for whole runs, wherever the store is opened anew.
-/

namespace ChatBot.Storage

open ChatBot.Json (Fields)

/-! ### What the files hold -/

namespace Tables

/-- What the files hold; a file that is not there holds nothing. -/
def ofFiles (root : Path) (files : FileTree) : Tables := fun kind name key =>
  match readTable files (tablePath root kind name) with
  | .ok table => Fields.get? table key
  | .error _ => none

/-- The next count of a variable. -/
def nextCount (t : Tables) (channel key : String) : ℤ :=
  Store.countOf (t .variables (tableName channel) key) + 1

end Tables

/-! ### Requests -/

/-- What a store can be asked for. -/
inductive Request where
  | prepare
  | commandText (channel key : String)
  | aliasOf (channel key : String)
  | valueOf (channel key : String)
  | setVariable (channel key : String) (value : Json)
  | increment (channel key : String)

/-- What a store can answer. -/
inductive Answer where
  | done
  | text (found : Option String)
  | value (found : Option Json)
  | count (n : ℤ)

namespace Request

/-- What a store does with a request. -/
def ask : Request → Storing Answer
  | .prepare => do Store.prepare; return .done
  | .commandText channel key => return .text (← Store.commandText? channel key)
  | .aliasOf channel key => return .text (← Store.aliasOf? channel key)
  | .valueOf channel key => return .value (← Store.valueOf? channel key)
  | .setVariable channel key value => do Store.setVariable channel key value; return .done
  | .increment channel key => return .count (← Store.increment channel key)

/-- What tables answer to a request. -/
def answer (t : Tables) : Request → Answer
  | .prepare => .done
  | .commandText channel key => .text ((t .commands (tableName channel) key).bind Json.string?)
  | .aliasOf channel key => .text ((t .aliases (tableName channel) key).bind Json.string?)
  | .valueOf channel key => .value (t .variables (tableName channel) key)
  | .setVariable .. => .done
  | .increment channel key => .count (t.nextCount channel key)

/-- What a request makes of tables. -/
def change (t : Tables) : Request → Tables
  | .setVariable channel key value => t.put .variables (tableName channel) key value
  | .increment channel key =>
    t.put .variables (tableName channel) key (.number (.integer (t.nextCount channel key)))
  | _ => t

/-- The channel and the kind of table that a request touches. -/
def target? : Request → Option (TableKind × String)
  | .prepare => none
  | .commandText channel _ => some (.commands, channel)
  | .aliasOf channel _ => some (.aliases, channel)
  | .valueOf channel _ => some (.variables, channel)
  | .setVariable channel _ _ => some (.variables, channel)
  | .increment channel _ => some (.variables, channel)

end Request

/-- What tables answer to requests, one after the other. -/
def Tables.answers (t : Tables) : List Request → List Answer
  | [] => []
  | r :: rest => r.answer t :: answers (r.change t) rest

/-! ### Runs -/

/-- What happens to a store: it is asked, or it is opened anew on the same files. -/
inductive Event where
  | ask (r : Request)
  | reopen

namespace Event

/-- The request, if it is one. -/
def request? : Event → Option Request
  | .ask r => some r
  | .reopen => none

/-- The answer, if there is one. -/
def answer? (s : Store) : Event → Option (Except StorageError Answer)
  | .ask r => some (r.ask.perform s).1
  | .reopen => none

/-- The store afterwards. -/
def next (s : Store) : Event → Store
  | .ask r => (r.ask.perform s).2
  | .reopen => s.reopen

end Event

namespace Store

/-- The store after a run. -/
def after (s : Store) (events : List Event) : Store := events.foldl Event.next s

/-- The answers of a run. -/
def answers (s : Store) : List Event → List (Except StorageError Answer)
  | [] => []
  | e :: rest => (e.answer? s).toList ++ answers (e.next s) rest

end Store

/-! ### Tables that are read back -/

/-- The values in a table are whole numbers of 64 bits and what can be made of them, with as many
arrays and objects around them as can be read. -/
def Storable (table : Table) : Prop :=
  (Json.object table).Within Json.Number.IsWhole64 Json.maxDepth ∧ (Json.object table).Ordered

/-- A value that may be put in a table. -/
def IsStorableValue (value : Json) : Prop :=
  value.Within Json.Number.IsWhole64 (Json.maxDepth - 1) ∧ value.Ordered

namespace Storable

variable {table : Table}

lemma ofText?_tableText (h : Storable table) :
    Fields.ofText? (tableText table).toList = some table := by
  have hvalue := (Json.ofText?_pretty_iff h.2).mpr
    (h.1.mono fun _ => Json.Number.IsWhole64.isExact)
  simp only [tableText, String.toList_ofList, Fields.ofText?, hvalue]

lemma value (h : Storable table) : ∀ f ∈ table, IsStorableValue f.2 := by
  obtain ⟨hwithin, hordered⟩ := h
  intro f hf
  cases hwithin with
  | object hwithin =>
      cases hordered with
      | object _ hordered => exact ⟨hwithin f hf, hordered f hf⟩

lemma nil : Storable [] := ⟨.object (by simp), .object List.Pairwise.nil (by simp)⟩

lemma insert (h : Storable table) (key : String) {value : Json} (hvalue : IsStorableValue value) :
    Storable (Fields.insert table key value) := by
  have hfields : ∀ f ∈ Fields.insert table key value, IsStorableValue f.2 := by
    intro f hf
    rcases Fields.mem_insert hf with rfl | hf
    · exact hvalue
    · exact h.value f hf
  obtain ⟨-, hordered⟩ := h
  cases hordered with
  | object hascending _ =>
      exact ⟨.object fun f hf => (hfields f hf).1,
        .object (hascending.insert key value) fun f hf => (hfields f hf).2⟩

/-- A table in a file is in order, whatever its values are. -/
lemma of_ofText? {cs : List Char} (h : Fields.ofText? cs = some table)
    (hvalues : ∀ f ∈ table, f.2.Within Json.Number.IsWhole64 (Json.maxDepth - 1)) :
    Storable table :=
  ⟨.object hvalues, Fields.ordered_of_ofText? h⟩

end Storable

/-- A count is a value that may be put in a table, if 64 bits hold it. -/
lemma isStorableValue_integer {n : ℤ} (hlow : -2 ^ 63 ≤ n) (hhigh : n < 2 ^ 64) :
    IsStorableValue (.number (.integer n)) :=
  ⟨.number ⟨hlow, hhigh⟩, .number _⟩

lemma countOf_ge {value : Option Json} (h : ∀ v ∈ value, IsStorableValue v) :
    -2 ^ 63 ≤ Store.countOf value := by
  rcases value with _ | v
  · decide
  · have hv := (h v rfl).1
    cases hv with
    | @number _ x hx =>
        cases x with
        | integer n =>
            have hn : -2 ^ 63 ≤ n := hx.1
            simp only [Store.countOf, Option.bind_some, Json.int64?]
            split
            · simpa using hn
            · decide
        | real x => exact hx.elim
    | _ => simp [Store.countOf, Json.int64?]

/-! ### The invariant -/

/-- The tables in `D` stand in their files and show in `t`, and every table that is kept is one of
them and stands in its file. -/
structure Mirrors (D : TableKind → String → Prop) (s : Store) (t : Tables) : Prop where
  table : ∀ kind name, D kind name → ∃ table, Stands s.files (tablePath s.root kind name) table ∧
    (∀ key, Fields.get? table key = t kind name key) ∧ Storable table
  kept : ∀ entry ∈ s.kept, Stands s.files entry.1 entry.2 ∧
    ∃ kind name, D kind name ∧ entry.1 = tablePath s.root kind name

namespace Mirrors

variable {D : TableKind → String → Prop} {s : Store} {t : Tables} {kind : TableKind} {name : String}

lemma has {table : Table} (h : Mirrors D s t)
    (hstands : Stands s.files (tablePath s.root kind name) table) :
    s.Has (tablePath s.root kind name) table := by
  unfold Store.Has
  split
  · next kept hkept =>
    obtain ⟨before, behind, heq, -⟩ := List.lookup_eq_some_iff.mp hkept
    have hmem : (tablePath s.root kind name, kept) ∈ s.kept := by
      rw [heq]
      exact List.mem_append_right _ List.mem_cons_self
    exact (h.kept _ hmem).1.unique hstands
  · exact hstands

/-- Files that hold none of the tables do not matter. -/
lemma folders {files : FileTree} (h : Mirrors D s t)
    (hkeeps : FileTree.Keeps s.files files fun _ => False) : Mirrors D { s with files } t where
  table kind name hD := by
    obtain ⟨table, hstands, hshows⟩ := h.table kind name hD
    exact ⟨table, hstands.of_keeps hkeeps id, hshows⟩
  kept entry hentry := ⟨(h.kept entry hentry).1.of_keeps hkeeps id, (h.kept entry hentry).2⟩

/-- Nothing depends on which tables are kept. -/
lemma reopen (h : Mirrors D s t) : Mirrors D s.reopen t := ⟨h.table, by simp [Store.reopen]⟩

/-- A table that stands in its file may be kept. -/
lemma keep {table : Table} (h : Mirrors D s t) (hD : D kind name)
    (hstands : Stands s.files (tablePath s.root kind name) table) :
    Mirrors D (s.keep (tablePath s.root kind name) table) t where
  table := h.table
  kept entry hentry := by
    rcases List.mem_cons.mp hentry with rfl | hentry
    · exact ⟨hstands, kind, name, hD, rfl⟩
    · exact h.kept entry (List.mem_of_mem_filter hentry)

/-- A table that is written shows, and no other one changes. -/
lemma write {files : FileTree} {table : Table} {t' : Tables} (h : Mirrors D s t)
    (hslash : ∀ kind name, D kind name → '/' ∉ name.toList) (hD : D kind name)
    (hread : files.read (tablePath s.root kind name) = .ok (tableText table))
    (hkeeps : FileTree.Keeps s.files files (· = (tablePath s.root kind name).lexical))
    (hstorable : Storable table) (hself : ∀ key, Fields.get? table key = t' kind name key)
    (hother : ∀ k n, ¬(k = kind ∧ n = name) → t' k n = t k n) :
    Mirrors D ({ s with files }.keep (tablePath s.root kind name) table) t' := by
  have hstands : Stands files (tablePath s.root kind name) table :=
    .inl ⟨_, hread, hstorable.ofText?_tableText⟩
  have hplace : ∀ k n, D k n → ¬(k = kind ∧ n = name) →
      ¬(tablePath s.root k n).lexical = (tablePath s.root kind name).lexical :=
    fun k n hkn hne heq => hne (lexical_tablePath_inj (hslash k n hkn) (hslash kind name hD) heq)
  refine ⟨fun k n hkn => ?_, fun entry hentry => ?_⟩
  · by_cases heq : k = kind ∧ n = name
    · obtain ⟨rfl, rfl⟩ := heq
      exact ⟨table, hstands, hself, hstorable⟩
    · obtain ⟨other, hother', hshows, hgood⟩ := h.table k n hkn
      refine ⟨other, hother'.of_keeps hkeeps (hplace k n hkn heq), ?_, hgood⟩
      rw [hother k n heq]
      exact hshows
  · rcases List.mem_cons.mp hentry with rfl | hentry
    · exact ⟨hstands, kind, name, hD, rfl⟩
    · obtain ⟨hmem, hne⟩ := List.mem_filter.mp hentry
      obtain ⟨hother', k, n, hkn, hpath⟩ := h.kept entry hmem
      refine ⟨hother'.of_keeps hkeeps ?_, k, n, hkn, hpath⟩
      rw [hpath]
      refine hplace k n hkn ?_
      rintro ⟨rfl, rfl⟩
      simp [hpath] at hne

end Mirrors

/-! ### One request -/

section Step

variable {D : TableKind → String → Prop} {s : Store} {t : Tables}

/-- The result is `a` and a store that mirrors `t`, unless a file could not be used. -/
def Yields {α : Type} (D : TableKind → String → Prop) (result : Except StorageError α × Store)
    (a : α) (t : Tables) : Prop :=
  (result.1 = .ok a ∧ Mirrors D result.2 t) ∨ result.1 = .error .unusableFile

lemma Yields.map {α β : Type} {result : Except StorageError α × Store} {a : α}
    (h : Yields D result a t) (f : α → β) : Yields D (result.1.map f, result.2) (f a) t := by
  rcases h with ⟨hok, hmirrors⟩ | herror
  · exact .inl ⟨congrArg (Except.map f) hok, hmirrors⟩
  · exact .inr (congrArg (Except.map f) herror)

lemma Yields.pass {α β : Type} {x : Storing α} {a : α} (h : Yields D (x.perform s) a t)
    (f : α → β) : Yields D ((x >>= fun a => pure (f a)).perform s) (f a) t := by
  rw [perform_bind_pure]
  exact h.map f

namespace Mirrors

variable {kind : TableKind} {name : String}

/-- A value that is looked up is the one of the tables. -/
lemma lookUp (h : Mirrors D s t) (hD : D kind name) (key : String) :
    Yields D ((Store.lookUp (tablePath s.root kind name) key).perform s) (t kind name key) t := by
  obtain ⟨table, hstands, hshows, -⟩ := h.table kind name hD
  rcases Store.perform_lookUp (h.has hstands) key with hok | herror
  · rw [hok, ← hshows key]
    exact .inl ⟨rfl, h.keep hD hstands⟩
  · exact .inr herror

/-- A value that is put under a name shows in the tables. -/
lemma update {α : Type} (h : Mirrors D s t) (hslash : ∀ kind name, D kind name → '/' ∉ name.toList)
    (hD : D kind name) (key : String) (change : Table → α × Table) {value : Json} {a : α}
    (hvalue : IsStorableValue value)
    (hchange : ∀ table, (∀ key, Fields.get? table key = t kind name key) →
      change table = (a, Fields.insert table key value)) :
    Yields D ((Store.update (tablePath s.root kind name) change).perform s) a
      (t.put kind name key value) := by
  obtain ⟨table, hstands, hshows, hstorable⟩ := h.table kind name hD
  rcases Store.perform_update (h.has hstands) change with ⟨files, hread, hkeeps, hok⟩ | herror
  · rw [hchange table hshows] at hread hok
    rw [hok]
    have hwrite := h.write hslash hD hread hkeeps (hstorable.insert key hvalue)
      (Tables.get?_insert hshows key value) fun _ _ => Tables.put_elsewhere
    exact .inl ⟨rfl, hwrite⟩
  · exact .inr herror

lemma prepare (h : Mirrors D s t) : Yields D (Store.prepare.perform s) () t := by
  rcases Store.perform_makeFolder s ["commands", "aliases"] with ⟨files, hkeeps, hok⟩ | herror
  · rw [Store.prepare, perform_bind_of_ok hok]
    have hfolders := h.folders hkeeps
    rcases Store.perform_makeFolder { s with files } ["variables"] with ⟨_, hkeeps, hok⟩ | herror
    · rw [hok]
      exact .inl ⟨rfl, hfolders.folders hkeeps⟩
    · exact .inr herror
  · right
    rw [Store.prepare, perform_bind_of_error (Prod.ext herror rfl)]

/-- The values in the tables may all be put in a table. -/
lemma isStorableValue (h : Mirrors D s t) (hD : D kind name) (key : String) :
    ∀ v ∈ t kind name key, IsStorableValue v := by
  obtain ⟨table, -, hshows, hstorable⟩ := h.table kind name hD
  intro v hv
  rw [← hshows key] at hv
  obtain ⟨before, behind, heq, -⟩ := List.lookup_eq_some_iff.mp hv
  exact hstorable.value (key, v) (by simp [heq])

end Mirrors

/-- The request fits the tables: a value that is set may be put in a table, and a count fits 64 bits
with a sign. -/
def Request.Fits (t : Tables) : Request → Prop
  | .setVariable _ _ value => IsStorableValue value
  | .increment channel key => t.nextCount channel key ≤ Binary64.int64Max
  | _ => True

/-- **One request**: the answer is that of the tables, and the store goes on mirroring them. -/
theorem Mirrors.ask {r : Request} (h : Mirrors D s t)
    (hslash : ∀ kind name, D kind name → '/' ∉ name.toList)
    (hD : ∀ kind channel, r.target? = some (kind, channel) → D kind (tableName channel))
    (hfits : r.Fits t) : Yields D (r.ask.perform s) (r.answer t) (r.change t) := by
  cases r with
  | prepare => exact h.prepare.pass fun _ => Answer.done
  | commandText channel key =>
      have hfound := (h.lookUp (hD _ _ rfl) key).map (·.bind Json.string?)
      rw [← Store.perform_commandText?] at hfound
      exact hfound.pass Answer.text
  | aliasOf channel key =>
      have hfound := (h.lookUp (hD _ _ rfl) key).map (·.bind Json.string?)
      rw [← Store.perform_aliasOf?] at hfound
      exact hfound.pass Answer.text
  | valueOf channel key =>
      have hfound := h.lookUp (hD _ _ rfl) key
      rw [← Store.perform_valueOf?] at hfound
      exact hfound.pass Answer.value
  | setVariable channel key value =>
      have hset := h.update hslash (hD _ _ rfl) key
        (fun table => ((), Fields.insert table key value))
        hfits fun _ _ => rfl
      rw [← Store.perform_setVariable] at hset
      exact hset.pass fun _ => Answer.done
  | increment channel key =>
      have hvariables : D .variables (tableName channel) := hD _ _ rfl
      have hlow := countOf_ge (h.isStorableValue hvariables key)
      have hhigh : Store.countOf (t .variables (tableName channel) key) + 1 ≤ Binary64.int64Max :=
        hfits
      have hnext := successor_eq hlow hhigh
      have hvalue : IsStorableValue (.number (.integer (t.nextCount channel key))) := by
        unfold Binary64.int64Max at hhigh
        exact isStorableValue_integer (by unfold Tables.nextCount; omega)
          (by unfold Tables.nextCount; omega)
      have hcount := h.update hslash hvariables key
        (fun table => (Store.successor (Store.countOf (Fields.get? table key)),
          Fields.insert table key
            (.number (.integer (Store.successor (Store.countOf (Fields.get? table key)))))))
        hvalue fun table hshows => by rw [hshows key, hnext]; rfl
      rw [← Store.perform_increment] at hcount
      exact hcount.pass Answer.count

end Step

/-! ### Runs -/

namespace Tables

/-- All requests fit the tables, each those that the ones before it have left. -/
def Fit (t : Tables) : List Request → Prop
  | [] => True
  | r :: rest => r.Fits t ∧ Fit (r.change t) rest

lemma Fit.of_append {t : Tables} {rs rest : List Request} (h : t.Fit (rs ++ rest)) : t.Fit rs := by
  induction rs generalizing t with
  | nil => trivial
  | cons r rs ih => exact ⟨h.1, ih h.2⟩

end Tables

lemma Store.answers_append (s : Store) (past rest : List Event) :
    s.answers (past ++ rest) = s.answers past ++ (s.after past).answers rest := by
  induction past generalizing s with
  | nil => rfl
  | cons e past ih => simp only [List.cons_append, Store.answers, ih, List.append_assoc]; rfl

/-- **Runs**: the answers are those of the tables, and the store goes on mirroring them. -/
theorem Mirrors.answers {D : TableKind → String → Prop} {s : Store} {t : Tables}
    {events : List Event}
    (h : Mirrors D s t) (hslash : ∀ kind name, D kind name → '/' ∉ name.toList)
    (hD : ∀ r ∈ events.filterMap Event.request?, ∀ kind channel,
      r.target? = some (kind, channel) → D kind (tableName channel))
    (hfit : t.Fit (events.filterMap Event.request?))
    (hfiles : .error .unusableFile ∉ s.answers events) :
    s.answers events = (t.answers (events.filterMap Event.request?)).map .ok ∧
      ∃ t', Mirrors D (s.after events) t' := by
  induction events generalizing s t with
  | nil => exact ⟨rfl, t, h⟩
  | cons e rest ih =>
      cases e with
      | reopen => exact ih h.reopen hD hfit hfiles
      | ask r =>
          obtain ⟨hr, hrest⟩ := hfit
          have hD' := List.forall_mem_cons.mp hD
          obtain ⟨hfirst, hothers⟩ : .error .unusableFile ≠ (r.ask.perform s).1 ∧
              .error .unusableFile ∉ (r.ask.perform s).2.answers rest := by
            simpa [Store.answers, Event.answer?, Event.next] using hfiles
          rcases h.ask hslash hD'.1 hr with ⟨hok, hmirrors⟩ | herror
          · obtain ⟨hanswers, ht⟩ := ih hmirrors hD'.2 hrest hothers
            refine ⟨?_, ht⟩
            simp only [Store.answers, Event.answer?, Event.next, hok, hanswers]
            rfl
          · exact absurd herror.symm hfirst

/-! ### From fresh stores on -/

/-- The table may be touched: either there is nothing at its place, or it can be read, and all its
values may be put in a table. -/
def IsUsable (files : FileTree) (path : Path) : Prop :=
  files.get? path.lexical = none ∨ ∃ body table, files.read path = .ok body ∧
    Fields.ofText? body.toList = some table ∧
    ∀ f ∈ table, f.2.Within Json.Number.IsWhole64 (Json.maxDepth - 1)

/-- The requests are for channels without slashes in their names and for tables that can be used,
and they fit what these tables hold. -/
structure Proper (root : Path) (files : FileTree) (requests : List Request) : Prop where
  channel : ∀ r ∈ requests, ∀ kind channel, r.target? = some (kind, channel) → '/' ∉ channel.toList
  table : ∀ r ∈ requests, ∀ kind channel, r.target? = some (kind, channel) →
    IsUsable files (tablePath root kind (tableName channel))
  fit : (Tables.ofFiles root files).Fit requests

/-- A table that may be touched stands in its file and shows among what the files hold. -/
lemma IsUsable.stands {root : Path} {files : FileTree} {kind : TableKind} {name : String}
    (h : IsUsable files (tablePath root kind name)) :
    ∃ table, Stands files (tablePath root kind name) table ∧
      (∀ key, Fields.get? table key = Tables.ofFiles root files kind name key) ∧
      Storable table := by
  rcases h with hnone | ⟨body, table, hread, htable, hvalues⟩
  · have hstands : Stands files (tablePath root kind name) [] := .inr ⟨rfl, by simp [hnone]⟩
    refine ⟨[], hstands, fun key => ?_, Storable.nil⟩
    rcases hstands.readTable_eq with heq | heq <;> simp [Tables.ofFiles, heq, Fields.get?]
  · have heq : readTable files (tablePath root kind name) = .ok table := by
      simp only [readTable, hread, htable]
    exact ⟨table, .inl ⟨body, hread, htable⟩, fun key => by simp only [Tables.ofFiles, heq],
      Storable.of_ofText? htable hvalues⟩

/-- The tables that requests touch. -/
def Touched (requests : List Request) (kind : TableKind) (name : String) : Prop :=
  ∃ r ∈ requests, ∃ channel, r.target? = some (kind, channel) ∧ name = tableName channel

lemma Proper.slash_not_mem {root : Path} {files : FileTree} {requests : List Request}
    (h : Proper root files requests) (kind : TableKind) (name : String)
    (ht : Touched requests kind name) : '/' ∉ name.toList := by
  obtain ⟨r, hr, channel, htarget, rfl⟩ := ht
  exact slash_not_mem_tableName (h.channel r hr kind channel htarget)

/-- A fresh store mirrors what the files hold. -/
lemma Proper.mirrors {root : Path} {files : FileTree} {requests : List Request}
    (h : Proper root files requests) :
    Mirrors (Touched requests) ⟨root, files, []⟩ (Tables.ofFiles root files) where
  table kind name ht := by
    obtain ⟨r, hr, channel, htarget, rfl⟩ := ht
    exact (h.table r hr kind channel htarget).stands
  kept := by simp

/-- The requests of a run mirror the tables up to each of its steps. -/
lemma Proper.answers {root : Path} {files : FileTree} {past rest : List Event}
    (h : Proper root files ((past ++ rest).filterMap Event.request?))
    (hfiles : .error .unusableFile ∉ Store.answers ⟨root, files, []⟩ (past ++ rest)) :
    Store.answers ⟨root, files, []⟩ past =
        ((Tables.ofFiles root files).answers (past.filterMap Event.request?)).map .ok ∧
      ∃ t, Mirrors (Touched ((past ++ rest).filterMap Event.request?))
        (Store.after ⟨root, files, []⟩ past) t := by
  have hfit := h.fit
  rw [List.filterMap_append] at hfit
  rw [Store.answers_append, List.mem_append, not_or] at hfiles
  refine h.mirrors.answers h.slash_not_mem ?_ hfit.of_append hfiles.1
  intro r hr kind channel htarget
  rw [List.filterMap_append]
  exact ⟨r, List.mem_append_left _ hr, channel, htarget, rfl⟩

/-- **Refinement**: from a fresh store on, every run of requests has the answers of a map that
starts with what the files hold, as long as the files can be used. After each step a table that is
kept is the one in its file. Wherever the store is opened anew, the answers are the same. -/
theorem answers_eq_tables (root : Path) (files : FileTree) (events : List Event)
    (h : Proper root files (events.filterMap Event.request?))
    (hfiles : .error .unusableFile ∉ Store.answers ⟨root, files, []⟩ events) :
    Store.answers ⟨root, files, []⟩ events =
        ((Tables.ofFiles root files).answers (events.filterMap Event.request?)).map .ok ∧
      (∀ past, past <+: events → ∀ entry ∈ (Store.after ⟨root, files, []⟩ past).kept,
        readTable (Store.after ⟨root, files, []⟩ past).files entry.1 = .ok entry.2 ∨
          readTable (Store.after ⟨root, files, []⟩ past).files entry.1 = .error .unusableFile) ∧
      ∀ others, others.filterMap Event.request? = events.filterMap Event.request? →
        .error .unusableFile ∉ Store.answers ⟨root, files, []⟩ others →
        Store.answers ⟨root, files, []⟩ others = Store.answers ⟨root, files, []⟩ events := by
  have hanswers : ∀ run : List Event,
      run.filterMap Event.request? = events.filterMap Event.request? →
        .error .unusableFile ∉ Store.answers ⟨root, files, []⟩ run →
          Store.answers ⟨root, files, []⟩ run =
            ((Tables.ofFiles root files).answers (events.filterMap Event.request?)).map .ok := by
    intro run hrun hfiles
    rw [← hrun] at h ⊢
    rw [← List.append_nil run] at h hfiles
    exact (h.answers hfiles).1
  refine ⟨hanswers events rfl hfiles, ?_, fun others hothers hfiles' => ?_⟩
  · rintro past ⟨rest, rfl⟩ entry hentry
    obtain ⟨-, t, hmirrors⟩ := h.answers hfiles
    exact (hmirrors.kept entry hentry).1.readTable_eq
  · rw [hanswers others hothers hfiles', hanswers events rfl hfiles]

/-- A variable that is 41 in its file is counted up by one, and is 42 for a store that is opened
anew. -/
theorem answers_eq_tables_of_count :
    let root : Path := ⟨false, ["data"]⟩
    let table : Table := [("uses", .number (.integer 41))]
    let files := FileTree.ofFiles [("data/variables/foo.json", tableText table)]
    let events : List Event := [.ask .prepare, .ask (.increment "#Foo" "uses"), .reopen,
      .ask (.valueOf "foo" "uses")]
    Proper root files (events.filterMap Event.request?) ∧
      .error .unusableFile ∉ Store.answers ⟨root, files, []⟩ events ∧
      Store.answers ⟨root, files, []⟩ events =
        ((Tables.ofFiles root files).answers (events.filterMap Event.request?)).map .ok := by
  intro root table files events
  have hstorable : Storable table :=
    Storable.nil.insert "uses" (isStorableValue_integer (by decide) (by decide))
  have husable : IsUsable files (tablePath root .variables (tableName "foo")) := by
    refine .inr ⟨tableText table, table, by decide +kernel, hstorable.ofText?_tableText, ?_⟩
    exact fun f hf => (hstorable.value f hf).1
  have hsame : tableName "#Foo" = tableName "foo" := by decide +kernel
  have htargets : ∀ r ∈ events.filterMap Event.request?, ∀ kind channel,
      r.target? = some (kind, channel) →
      kind = .variables ∧ (channel = "#Foo" ∨ channel = "foo") := by
    intro r hr kind channel htarget
    have hcases : r = .prepare ∨ r = .increment "#Foo" "uses" ∨ .valueOf "foo" "uses" = r := by
      simpa [events, Event.request?] using hr
    rcases hcases with rfl | rfl | rfl
    · simp [Request.target?] at htarget
    · obtain ⟨rfl, rfl⟩ : TableKind.variables = kind ∧ "#Foo" = channel := by
        simpa [Request.target?] using htarget
      exact ⟨rfl, .inl rfl⟩
    · obtain ⟨rfl, rfl⟩ : TableKind.variables = kind ∧ "foo" = channel := by
        simpa [Request.target?] using htarget
      exact ⟨rfl, .inr rfl⟩
  have hproper : Proper root files (events.filterMap Event.request?) := by
    refine ⟨fun r hr kind channel htarget => ?_, fun r hr kind channel htarget => ?_, ?_⟩
    · obtain ⟨rfl, rfl | rfl⟩ := htargets r hr kind channel htarget <;> decide
    · obtain ⟨rfl, rfl | rfl⟩ := htargets r hr kind channel htarget
      · rw [hsame]
        exact husable
      · exact husable
    · have hcount : (Tables.ofFiles root files).nextCount "#Foo" "uses" ≤ Binary64.int64Max := by
        decide +kernel
      exact ⟨trivial, hcount, trivial, trivial⟩
  have hall : (Store.answers ⟨root, files, []⟩ events).all (fun answer =>
      match answer with
      | .error .unusableFile => false
      | _ => true) = true := by decide +kernel
  have hfiles : .error .unusableFile ∉ Store.answers ⟨root, files, []⟩ events :=
    fun hmem => by simpa using List.all_eq_true.mp hall _ hmem
  exact ⟨hproper, hfiles, (answers_eq_tables root files events hproper hfiles).1⟩

end ChatBot.Storage
