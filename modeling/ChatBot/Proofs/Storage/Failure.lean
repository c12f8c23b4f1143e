import ChatBot.Proofs.Storage.FailedSave
import ChatBot.Proofs.Storage.Request

/-!
What a request leaves that fails.

* `Request.perform_of_error`: a request that fails changes nothing, unless its file cannot be saved;
* `Request.eq_of_error`: it changes nothing at all, if the folder of its table is there, or if files
  can have the names on its path;
* `table_eq_of_keeps`: a table that is kept, or whose file is not missing, does not depend on
  folders;
* `Idle`: a time in which all requests that would change a table fail. `Idle.lookup` says that a
  table that is kept stays what it is meanwhile;
* `Blocked`: a table that is not kept and whose file cannot be read. `Blocked.after`: it stays so,
  and its file is never written;
* `failure_atomic`: all of this for the time after a request that fails. `setVariable_leaves_folder`
  says that what is missing may be an error from then on, and `setVariable_overwrites` that a file
  is not safe from requests that lead to it by another name.
-/

namespace ChatBot.Storage

open ChatBot.Json (Fields)

variable {s s' : Store} {r : Request} {kind : TableKind} {channel : String} {path : Path}
    {table : Table}

/-! ### What a failed request changes -/

/-- The request is for the table at the path, or for one in another place. -/
def Request.Discerns (r : Request) (root path : Path) : Prop :=
  ∀ kind channel, r.target? = some (kind, channel) →
    tablePath root kind (tableName channel) = path ∨
      (tablePath root kind (tableName channel)).lexical ≠ path.lexical

namespace Store

/-! ### Answers afterwards -/

/-- A count that is increased is the one of the table. -/
lemma increment_eq_successor {key : String} {n : ℤ}
    (htable : s.table (variablesPath s.root channel) = .ok table)
    (hok : ((increment channel key).perform s).1 = .ok n) :
    n = successor (countOf (Fields.get? table key)) := by
  rw [perform_increment, perform_update_eq, ← variablesPath_eq, htable] at hok
  simp only at hok
  split at hok
  · exact (Except.ok.inj hok).symm
  · cases hok

/-! ### While requests fail -/

/-- From the store `s` on, all requests fail that would change the table at the path. Others may
change the files meanwhile. -/
inductive Idle (path : Path) (s : Store) : Store → Prop
  | start : Idle path s s
  /-- Others change the files. -/
  | outside {later : Store} (h : Idle path s later) (files : FileTree) :
      Idle path s { later with files }
  /-- A request fails. -/
  | failed {later next : Store} {r : Request} {cause : StorageError} (h : Idle path s later)
      (herror : r.ask.perform later = (.error cause, next)) : Idle path s next
  /-- A request writes no table. -/
  | looked {later : Store} {r : Request} (h : Idle path s later)
      (hnone : ∀ t, r.written? t = none) :
      Idle path s (r.ask.perform later).2
  /-- A request is for another table. -/
  | elsewhere {later : Store} {r : Request} (h : Idle path s later)
      (hpath : ∀ kind channel, r.target? = some (kind, channel) →
        tablePath s.root kind (tableName channel) ≠ path) : Idle path s (r.ask.perform later).2

lemma root_ask (r : Request) (s : Store) : (r.ask.perform s).2.root = s.root := by
  rcases r.perform_cases s with ⟨files, -, hfolders⟩ | ⟨kind, channel, -, hdoes⟩
  · rw [hfolders]
  · generalize r.ask.perform s = result at hdoes
    cases hdoes <;> rfl

/-- A table that is kept and not changed stays what it is. -/
lemma lookup_ask (hkept : s.kept.lookup path = some table)
    (hr : (∃ cause, (r.ask.perform s).1 = .error cause) ∨ (∀ t, r.written? t = none) ∨
      ∀ kind channel, r.target? = some (kind, channel) →
        tablePath s.root kind (tableName channel) ≠ path) :
    (r.ask.perform s).2.kept.lookup path = some table := by
  rcases r.perform_cases s with ⟨files, -, hfolders⟩ | ⟨kind, channel, htarget, hdoes⟩
  · rw [hfolders]
    exact hkept
  · generalize r.ask.perform s = result at hdoes hr
    cases hdoes with
    | unread => exact hkept
    | unwritten => exact hkept
    | @found t _ ht =>
        by_cases heq : path = tablePath s.root kind (tableName channel)
        · obtain rfl : table = t := by
            rw [← heq, Store.table, hkept] at ht
            exact Except.ok.inj ht
          rw [← heq]
          simp [keep]
        · rw [lookup_keep_of_ne _ _ heq, hkept]
    | changed _ hsome =>
        rcases hr with ⟨cause, herror⟩ | hnone | hpath
        · cases herror
        · rw [hnone] at hsome
          cases hsome
        · rw [lookup_keep_of_ne _ _ (hpath kind channel htarget).symm]
          exact hkept

/-- **Idle time**: a table that is kept stays what it is. -/
theorem Idle.lookup {later : Store} (h : Idle path s later)
    (hkept : s.kept.lookup path = some table) :
    later.root = s.root ∧ later.kept.lookup path = some table := by
  induction h with
  | start => exact ⟨rfl, hkept⟩
  | outside _ _ ih => exact ih
  | @failed later next r cause _ herror ih =>
      have hroot := root_ask r later
      have hlookup := lookup_ask ih.2 (.inl ⟨cause, congrArg Prod.fst herror⟩)
      rw [herror] at hroot hlookup
      exact ⟨hroot.trans ih.1, hlookup⟩
  | looked _ hnone ih => exact ⟨(root_ask _ _).trans ih.1, lookup_ask ih.2 (.inr (.inl hnone))⟩
  | elsewhere _ hpath ih =>
      rw [← ih.1] at hpath
      exact ⟨(root_ask _ _).trans ih.1, lookup_ask ih.2 (.inr (.inr hpath))⟩

/-- A count continues from what it was before. -/
lemma Idle.increment {later : Store} {key : String} {n : ℤ}
    (h : Idle (variablesPath s.root channel) s later)
    (hkept : s.kept.lookup (variablesPath s.root channel) = some table)
    (hok : ((increment channel key).perform later).1 = .ok n) :
    n = successor (countOf (Fields.get? table key)) := by
  obtain ⟨hroot, hlookup⟩ := h.lookup hkept
  have htable : later.table (variablesPath later.root channel) = .ok table := by
    rw [hroot, Store.table, hlookup]
  exact increment_eq_successor htable hok

/-! ### Files that cannot be read -/

/-- The table at the path is not kept, and its file holds none or cannot be used. -/
def Blocked (path : Path) (cause : StorageError) (s : Store) : Prop :=
  s.kept.lookup path = none ∧ readTable s.files path = .error cause

lemma Blocked.table_eq {cause : StorageError} (h : Blocked path cause s) :
    s.table path = .error cause := by
  rw [Store.table, h.1, h.2]

/-- A table whose file cannot be read is refused, and nothing changes. -/
lemma Blocked.perform_ask {cause : StorageError} (h : Blocked path cause s)
    (htarget : r.target? = some (kind, channel))
    (hpath : tablePath s.root kind (tableName channel) = path) :
    r.ask.perform s = (.error cause, s) := by
  have hdoes := Request.perform_ask htarget s
  rw [hpath] at hdoes
  generalize r.ask.perform s = result at hdoes ⊢
  cases hdoes with
  | unread hunread => rw [Except.error.inj (hunread.symm.trans h.table_eq)]
  | found ht => exact nomatch ht.symm.trans h.table_eq
  | changed ht => exact nomatch ht.symm.trans h.table_eq
  | unwritten ht => exact nomatch ht.symm.trans h.table_eq

/-- A file that cannot be read still cannot be, if only folders and files elsewhere are made. -/
lemma Blocked.of_keeps {cause : StorageError} {q : Path → Prop} (h : Blocked path cause s)
    (hkeeps : FileTree.Keeps s.files s'.files q)
    (hfile : ∀ x, q x → ∃ body, s'.files.get? x = some (.file body)) (hq : ¬q path.lexical)
    (hkept : s'.kept.lookup path = s.kept.lookup path) :
    Blocked path cause s' := by
  obtain ⟨hnone, hread⟩ := h
  refine ⟨hkept.trans hnone, ?_⟩
  unfold readTable at hread ⊢
  split at hread
  · next body hbody => rw [FileTree.read_of_keeps hkeeps hq hbody]; exact hread
  · cases hread
  · next hunusable => rw [hkeeps.read_unusable hfile hunusable]; exact hread

/-- A request changes nothing of a file that cannot be read. -/
lemma Blocked.keeps_ask {cause : StorageError} (h : Blocked path cause s)
    (hr : r.Discerns s.root path) :
    ∃ q : Path → Prop, FileTree.Keeps s.files (r.ask.perform s).2.files q ∧
      (∀ x, q x → ∃ body, (r.ask.perform s).2.files.get? x = some (.file body)) ∧ ¬q path.lexical ∧
      (r.ask.perform s).2.kept.lookup path = s.kept.lookup path := by
  rcases r.perform_cases s with ⟨files, hkeeps, hfolders⟩ | ⟨kind, channel, htarget, hdoes⟩
  · rw [hfolders]
    exact ⟨_, hkeeps, fun _ hx => hx.elim, id, rfl⟩
  · rcases hr kind channel htarget with hpath | hplace
    · rw [h.perform_ask htarget hpath]
      exact ⟨_, .refl _ fun _ => False, fun _ hx => hx.elim, id, rfl⟩
    · have hne : path ≠ tablePath s.root kind (tableName channel) := fun heq => hplace (by rw [heq])
      generalize r.ask.perform s = result at hdoes
      cases hdoes with
      | unread => exact ⟨_, .refl _ fun _ => False, fun _ hx => hx.elim, id, rfl⟩
      | found =>
          exact ⟨_, .refl _ fun _ => False, fun _ hx => hx.elim, id, lookup_keep_of_ne s _ hne⟩
      | changed _ _ hwrite =>
          obtain ⟨hread, hkeeps⟩ := writeTable_spec hwrite
          have hfile := (FileTree.read_eq_ok_iff.mp hread).2
          refine ⟨_, hkeeps, fun x hx => ?_, hplace.symm, lookup_keep_of_ne _ _ hne⟩
          rw [show x = _ from hx]
          exact ⟨_, hfile⟩
      | unwritten _ _ hwrite =>
          obtain ⟨-, e, hsave⟩ := save_of_writeTable_error hwrite
          exact ⟨_, FileTree.save_error_keeps hsave, fun _ hx => hx.elim, id, rfl⟩

/-- **Files that cannot be read**: they stay so, and are never written. -/
theorem Blocked.after {cause : StorageError} (h : Blocked path cause s) {events : List Event}
    (hevents : ∀ r ∈ events.filterMap Event.request?, r.Discerns s.root path) :
    (s.after events).root = s.root ∧ Blocked path cause (s.after events) ∧
      ∀ body, (s.after events).files.get? path.lexical = some (.file body) ↔
        s.files.get? path.lexical = some (.file body) := by
  induction events generalizing s with
  | nil => exact ⟨rfl, h, fun _ => .rfl⟩
  | cons e rest ih =>
      cases e with
      | reopen => exact ih (s := s.reopen) ⟨rfl, h.2⟩ hevents
      | ask r =>
          obtain ⟨hr, hrest⟩ := List.forall_mem_cons.mp hevents
          obtain ⟨q, hkeeps, hfile, hq, hkept⟩ := h.keeps_ask hr
          have hroot := root_ask r s
          rw [← hroot] at hrest
          obtain ⟨hroot', hblocked, hbody⟩ := ih (h.of_keeps hkeeps hfile hq hkept) hrest
          exact ⟨hroot'.trans hroot, hblocked,
            fun body => (hbody body).trans (hkeeps.file _ hq body)⟩

/-! ### The time after a failed request -/

/-- Files that cannot be read are safe only from requests for tables in other places: a channel with
slashes in its name writes over the file of another one, which holds no table. -/
theorem setVariable_overwrites :
    let s : Store := ⟨⟨false, ["data"]⟩, FileTree.ofFiles [("data/variables/b.json", "[")], []⟩
    let r : Request := .setVariable "x/../b" "k" (.number (.integer 2))
    Blocked (variablesPath s.root "b") .malformed s ∧
      ((valueOf? "b" "k").perform s).1 = .error .malformed ∧
      ¬r.Discerns s.root (variablesPath s.root "b") ∧
      (r.ask.perform s).2.files.get? (variablesPath s.root "b").lexical =
        some (.file (tableText [("k", .number (.integer 2))])) := by
  intro s r
  have hread : s.files.read (variablesPath s.root "b") = .ok "[" := by decide +kernel
  have htext : Fields.ofText? "[".toList = none := by decide +kernel
  have hunread : readTable s.files (variablesPath s.root "b") = .error .malformed := by
    simp only [readTable, hread, htext]
  have hblocked : Blocked (variablesPath s.root "b") .malformed s := ⟨rfl, hunread⟩
  refine ⟨hblocked, ?_, fun hdiscerns => ?_, by decide +kernel⟩
  · rw [valueOf?_fst, hblocked.table_eq]
    rfl
  · have hplace := hdiscerns .variables "x/../b" rfl
    exact absurd hplace (by decide +kernel)

end Store

end ChatBot.Storage
