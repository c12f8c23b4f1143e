import ChatBot.Proofs.Routing
import ChatBot.Proofs.Service.Steps
import ChatBot.Proofs.Storage.Ahead

/-!
Messages whose handling fails.

* `Dispatcher.deliver_of_failure`: a reply that reports an error leaves the store as it was;
* `deliver_cases`: whatever a message does to the store, it looks up the tables that decide about
  names in its channel (`IsNaming`), and counts then, or not;
* `deliver_of_not_succeeds`: a failure of the store is no answer. It leaves no more than tables that
  were looked up, and folders for a file that could not be saved (`FileTree.FailsAt`);
* `deliver_ahead`, `run_ahead`: messages are answered alike, and change the same, in
  stores of which one is ahead;
* `failsAlone`: so a run does not notice that a message failed before, if the failure left no folder
  where it matters, and the names of its channel stay what they are (`Steady`);
* `run_without_of_slash`: both is so for chats without slashes in their names. A run with a message
  that fails sends and stores what it does without that message.
-/

namespace ChatBot

namespace Storage

open ChatBot.Json (Fields)

variable {α β : Type} {s s' : Store}

/-- From `t` to `t'` nothing is done, or a file could not be saved at the path. -/
def FileTree.FailsAt (p : Path) (t t' : FileTree) : Prop :=
  t' = t ∨ ∃ body cause, t.save p body = (.error cause, t')

namespace FileTree.FailsAt

variable {p : Path} {t t' : FileTree}

lemma eq_of_isClear (h : FailsAt p t t') (hclear : t.IsClear p) : t' = t := by
  rcases h with rfl | ⟨body, cause, hsave⟩
  · rfl
  · exact save_error_eq_of_isClear hclear hsave

end FileTree.FailsAt

/-! ### Tables that are looked up -/

/-- The path is that of a table that decides about the names of a channel: that of its commands,
or of other names for them. -/
def IsNaming (root : Path) (name : String) (path : Path) : Prop :=
  ∃ kind, kind ≠ .variables ∧ path = tablePath root kind name

namespace Store

variable {F : FileTree → FileTree → Prop} {own : Path → Prop} {u : Store} {channel : String}
  {aliases commands : Table}

/-- A store gets ahead when it keeps the tables that decide about names. -/
lemma ahead_keep (haliases : s.table (aliasesPath s.root channel) = .ok aliases) :
    Ahead Eq s (IsNaming s.root (tableName channel)) s
      (s.keep (aliasesPath s.root channel) aliases) :=
  (Ahead.refl s _ s).keep_own ⟨.aliases, by decide, rfl⟩ haliases

lemma ahead_keepBoth (haliases : s.table (aliasesPath s.root channel) = .ok aliases)
    (hcommands : s.table (commandsPath s.root channel) = .ok commands) :
    Ahead Eq s (IsNaming s.root (tableName channel)) s (s.keepBoth channel aliases commands) :=
  (ahead_keep haliases).keep_own ⟨.commands, by decide, rfl⟩ hcommands

lemma Ahead.keepBoth (h : Ahead F u own s s') (channel : String) (aliases commands : Table) :
    Ahead F u own (s.keepBoth channel aliases commands) (s'.keepBoth channel aliases commands) := by
  rw [Store.keepBoth, Store.keepBoth, h.root]
  exact (h.keep _ aliases).keep _ commands

/-- What is kept stays kept. -/
lemma Ahead.lookup (h : Ahead F s own s s') {path : Path} {table : Table}
    (hkept : s.kept.lookup path = some table) : s'.kept.lookup path = some table := by
  rcases h.kept path with hsame | ⟨-, found, hfound, htable⟩
  · rw [hsame, hkept]
  · rw [Store.table, hkept] at htable
    rw [hfound, Except.ok.inj htable]

lemma root_increment (channel key : String) (s : Store) :
    ((increment channel key).perform s).2.root = s.root := by
  have hroot := root_ask (.increment channel key) s
  rwa [Request.ask, perform_bind_pure] at hroot

/-- A count that fails leaves what a file does that cannot be saved. -/
lemma increment_error {key : String} {cause : StorageError}
    (h : ((increment channel key).perform s).1 = .error cause) :
    ∃ files, ((increment channel key).perform s).2 = { s with files } ∧
      s.files.FailsAt (tablePath s.root .variables (tableName channel)) files := by
  rw [perform_increment, perform_update_eq] at h ⊢
  cases htable : s.table (tablePath s.root .variables (tableName channel)) with
  | error failed => exact ⟨s.files, rfl, .inl rfl⟩
  | ok table =>
      simp only [htable] at h ⊢
      split at h
      · cases h
      · next hwrite =>
        obtain ⟨-, e, hsave⟩ := save_of_writeTable_error hwrite
        exact ⟨_, rfl, .inr ⟨_, e, hsave⟩⟩

end Store

end Storage

open ChatBot.Storage

namespace Dispatcher

variable {d : Dispatcher} {x : Delivery} {s s' u : Store} {channel name : String}

/-! ### What a message does to the store -/

lemma fallback_snd (d : Dispatcher) (channel name : String) (s : Store) :
    (d.fallback channel name s).2 = ((d.channelReply channel name).perform s).2 := by
  rw [fallback, Storing.perform]
  split <;> next h => rw [h]

/-- A channel looks up the tables that decide about names, and a counter counts then, or not. Only
if it fails to count does the channel fail after that. -/
lemma channelReply_cases (d : Dispatcher) (channel name : String) (s : Store) :
    ∃ between, Store.Ahead Eq s (IsNaming s.root (tableName channel)) s between ∧
      (((d.channelReply channel name).perform s).2 = between ∨
        ∃ key, ((d.channelReply channel name).perform s).2 =
            ((Store.increment channel key).perform between).2 ∧
          ((d.channelReply channel name).perform s).1.isOk =
            ((Store.increment channel key).perform between).1.isOk) := by
  cases haliases : s.table (Store.aliasesPath s.root channel) with
  | error cause =>
      rw [channelReply_of_unread_aliases d name haliases]
      exact ⟨s, .refl s _ s, .inl rfl⟩
  | ok aliases =>
      rw [channelReply_of_aliases d name haliases]
      cases hcommands : s.table (Store.commandsPath s.root channel) with
      | error cause => exact ⟨_, Store.ahead_keep haliases, .inl rfl⟩
      | ok commands =>
          refine ⟨_, Store.ahead_keepBoth haliases hcommands, ?_⟩
          dsimp only
          cases textIn? commands (targetIn aliases name) with
          | some text => exact .inl rfl
          | none =>
              rw [perform_counterReply]
              cases d.counters.find? (·.answers channel (targetIn aliases name)) with
              | none =>
                  dsimp only
                  exact .inl rfl
              | some c =>
                  dsimp only
                  refine .inr ⟨c.variableName, rfl, ?_⟩
                  cases ((Store.increment channel c.variableName).perform
                    (s.keepBoth channel aliases commands)).1 <;> rfl

lemma perform_increment_channel (m : Message) (key : String) (s : Store) :
    (Store.increment m.channel key).perform s = (Store.increment m.chat key).perform s := by
  rw [Store.perform_increment, Store.perform_increment, tableName_channel]

/-- A message looks up the tables that decide about names in its channel, and counts then, or not.
Only if it fails to count does it fail after that. -/
lemma deliver_cases (d : Dispatcher) (x : Delivery) (s : Store) :
    ∃ between, Store.Ahead Eq s (IsNaming s.root (tableName x.message.chat)) s between ∧
      ((d.deliver x s).2 = between ∨
        ∃ key, (d.deliver x s).2 = ((Store.increment x.message.chat key).perform between).2 ∧
          (¬d.Succeeds x s →
            ((Store.increment x.message.chat key).perform between).1.isOk = false)) := by
  cases hcommand : d.commandOf? x.message with
  | none =>
      obtain ⟨reply, hdeliver⟩ := deliver_of_none hcommand
      rw [hdeliver]
      exact ⟨s, .refl s _ s, .inl rfl⟩
  | some name =>
      obtain ⟨between, hahead, hcases⟩ := channelReply_cases d x.message.channel name s
      rw [tableName_channel] at hahead
      rw [deliver_of_commandOf? hcommand, fallback_snd]
      refine ⟨between, hahead, hcases.imp id ?_⟩
      rintro ⟨key, hstore, hok⟩
      rw [perform_increment_channel] at hstore hok
      refine ⟨key, hstore, fun hfails => ?_⟩
      rw [← hok]
      simpa [Succeeds, hcommand] using hfails

/-- A failure of the store is no answer. -/
lemma deliver_fst_of_not_succeeds (h : ¬d.Succeeds x s) : (d.deliver x s).1 = none := by
  obtain ⟨name, hcommand, hnot⟩ : ∃ name, d.commandOf? x.message = some name ∧
      ¬((d.channelReply x.message.channel name).perform s).1.isOk = true := by
    simpa [Succeeds] using h
  rw [deliver_of_commandOf? hcommand, fallback_fst]
  cases hperform : ((d.channelReply x.message.channel name).perform s).1 with
  | error cause => rfl
  | ok reply =>
      rw [hperform] at hnot
      exact absurd rfl hnot

/-- A failure leaves tables that were looked up, and what a file does that cannot be saved. -/
lemma deliver_of_not_succeeds (h : ¬d.Succeeds x s) :
    Store.Ahead (FileTree.FailsAt (tablePath s.root .variables (tableName x.message.chat))) s
      (IsNaming s.root (tableName x.message.chat)) s (d.deliver x s).2 := by
  obtain ⟨between, hahead, hstore | ⟨key, hstore, hok⟩⟩ := deliver_cases d x s
  · rw [hstore]
    exact hahead.with_files (s := s) (.inl hahead.files.symm)
  · have hnot := hok h
    cases hperform : ((Store.increment x.message.chat key).perform between).1 with
    | ok n =>
        rw [hperform] at hnot
        cases hnot
    | error cause =>
        obtain ⟨files, hleft, hfails⟩ := Store.increment_error hperform
        rw [hstore, hleft]
        rw [hahead.root, ← hahead.files] at hfails
        exact hahead.with_files (s := s) hfails

/-! ### Stores that are ahead -/

section Ahead

variable {F : FileTree → FileTree → Prop} {P own : Path → Prop}

/-- A counter counts on alike in stores of which one is ahead, if both have its variables, and does
the same to both. -/
lemma counterReply_ahead (d : Dispatcher) (channel name : String) (hF : FileTree.Indistinct P F)
    (h : Store.Ahead F u own s s') (hP : P (tablePath s.root .variables (tableName channel)))
    (htable : s'.table (tablePath s.root .variables (tableName channel)) =
      s.table (tablePath s.root .variables (tableName channel))) :
    ((d.counterReply channel name).perform s').1 = ((d.counterReply channel name).perform s).1 ∧
      Store.Ahead F u own ((d.counterReply channel name).perform s).2
        ((d.counterReply channel name).perform s').2 := by
  rw [perform_counterReply, perform_counterReply]
  cases d.counters.find? (·.answers channel name) with
  | none => exact ⟨rfl, h⟩
  | some c =>
      dsimp only
      rw [Store.perform_increment, Store.perform_increment, h.root]
      obtain ⟨hcount, hafter⟩ := h.update hF hP htable _
      exact ⟨congrArg _ hcount, hafter⟩

/-- A channel answers alike in stores of which one is ahead, and does the same to both. -/
lemma channelReply_ahead (d : Dispatcher) (channel name : String) (hF : FileTree.Indistinct P F)
    (h : Store.Ahead F u own s s') (hP : ∀ kind, P (tablePath s.root kind (tableName channel)))
    (hown : ∀ path, own path → s.table path = u.table path) :
    ((d.channelReply channel name).perform s').1 = ((d.channelReply channel name).perform s).1 ∧
      Store.Ahead F u own ((d.channelReply channel name).perform s).2
        ((d.channelReply channel name).perform s').2 := by
  have htable : ∀ kind, s'.table (tablePath s'.root kind (tableName channel)) =
      s.table (tablePath s.root kind (tableName channel)) := by
    intro kind
    rw [h.root]
    exact h.table (hF.read h.files (hP kind)) (hown _)
  cases haliases : s.table (Store.aliasesPath s.root channel) with
  | error cause =>
      have haliases' := (htable .aliases).trans haliases
      rw [channelReply_of_unread_aliases d name haliases,
        channelReply_of_unread_aliases d name haliases']
      exact ⟨rfl, h⟩
  | ok aliases =>
      have haliases' := (htable .aliases).trans haliases
      have hcommands' : s'.table (Store.commandsPath s'.root channel) =
          s.table (Store.commandsPath s.root channel) := htable .commands
      rw [channelReply_of_aliases d name haliases, channelReply_of_aliases d name haliases',
        hcommands']
      cases hcommands : s.table (Store.commandsPath s.root channel) with
      | error cause =>
          refine ⟨rfl, ?_⟩
          rw [h.root]
          exact h.keep _ aliases
      | ok commands =>
          have hboth := h.keepBoth channel aliases commands
          dsimp only
          cases textIn? commands (targetIn aliases name) with
          | some text => exact ⟨rfl, hboth⟩
          | none =>
              refine counterReply_ahead d channel _ hF hboth (hP .variables) ?_
              change (s'.keepBoth channel aliases commands).table
                  (tablePath s.root .variables (tableName channel)) =
                (s.keepBoth channel aliases commands).table
                  (tablePath s.root .variables (tableName channel))
              rw [Store.table_keepBoth haliases' (hcommands'.trans hcommands),
                Store.table_keepBoth haliases hcommands, ← htable .variables, h.root]

/-- A message is answered alike in stores of which one is ahead, and does the same to both. -/
lemma deliver_ahead (d : Dispatcher) (hF : FileTree.Indistinct P F) (h : Store.Ahead F u own s s')
    (hP : ∀ kind, P (tablePath s.root kind (tableName x.message.chat)))
    (hown : ∀ path, own path → s.table path = u.table path) :
    (d.deliver x s').1 = (d.deliver x s).1 ∧
      Store.Ahead F u own (d.deliver x s).2 (d.deliver x s').2 := by
  cases hcommand : d.commandOf? x.message with
  | none =>
      obtain ⟨reply, hdeliver⟩ := deliver_of_none hcommand
      rw [hdeliver, hdeliver]
      exact ⟨rfl, h⟩
  | some name =>
      rw [← tableName_channel] at hP
      obtain ⟨hreply, hafter⟩ := channelReply_ahead d x.message.channel name hF h hP hown
      rw [deliver_of_commandOf? hcommand, deliver_of_commandOf? hcommand, fallback_fst,
        fallback_fst, fallback_snd, fallback_snd, hreply]
      exact ⟨rfl, hafter⟩

lemma root_deliver (d : Dispatcher) (x : Delivery) (s : Store) :
    (d.deliver x s).2.root = s.root := by
  obtain ⟨between, hahead, hstore | ⟨key, hstore, -⟩⟩ := deliver_cases d x s
  · rw [hstore, hahead.root]
  · rw [hstore, Store.root_increment, hahead.root]

lemma root_after (d : Dispatcher) (xs : List Delivery) (s : Store) :
    (d.after xs s).root = s.root := by
  induction xs generalizing s with
  | nil => rfl
  | cons x rest ih => exact (ih _).trans (root_deliver d x s)

/-- The tables at some paths are what they are in the beginning, whenever a message of the run is
answered. -/
def Steady (d : Dispatcher) (own : Path → Prop) (u : Store) (xs : List Delivery) : Prop :=
  ∀ past x, past ++ [x] <+: xs → ∀ path, own path → (d.after past u).table path = u.table path

/-- **Runs** are answered alike in stores of which one is ahead, and do the same to both. -/
theorem run_ahead (d : Dispatcher) (accepts : String → Bool) (hF : FileTree.Indistinct P F)
    (h : Store.Ahead F u own u s') {xs : List Delivery}
    (hP : ∀ x ∈ xs, ∀ kind, P (tablePath u.root kind (tableName x.message.chat)))
    (hsteady : d.Steady own u xs) :
    d.texts accepts xs s' = d.texts accepts xs u ∧
      Store.Ahead F u own (d.after xs u) (d.after xs s') := by
  induction xs using List.reverseRecOn with
  | nil => exact ⟨rfl, h⟩
  | append_singleton xs x ih =>
      obtain ⟨htexts, hafter⟩ := ih (fun y hy => hP y (List.mem_append_left _ hy))
        fun past y hpast => hsteady past y (hpast.trans (List.prefix_append _ _))
      have hx := hP x (List.mem_append_right _ List.mem_cons_self)
      rw [← root_after d xs u] at hx
      obtain ⟨hreply, hnext⟩ := deliver_ahead d hF hafter hx (hsteady xs x List.prefix_rfl)
      rw [texts_concat, texts_concat, htexts, hreply, after_append, after_append]
      exact ⟨rfl, hnext⟩

end Ahead

/-! ### Runs without a message that fails -/

variable {past rest : List Delivery}

/-- A path of a table that is clear stays so, and the table stays what it is if it decides about
names. -/
lemma deliver_elsewhere (d : Dispatcher) {kind : TableKind} (hx : '/' ∉ x.message.chat.toList)
    (hname : '/' ∉ name.toList) (hclear : s.files.IsClear (tablePath s.root kind name)) :
    (d.deliver x s).2.files.IsClear (tablePath s.root kind name) ∧
      (kind ≠ .variables → (d.deliver x s).2.table (tablePath s.root kind name) =
        s.table (tablePath s.root kind name)) := by
  obtain ⟨between, hahead, hcases⟩ := deliver_cases d x s
  obtain ⟨hroot, hfiles⟩ := And.intro hahead.root hahead.files
  have htable : between.table (tablePath s.root kind name) =
      s.table (tablePath s.root kind name) :=
    hahead.table (by rw [hfiles]) fun _ => rfl
  rw [hfiles] at hclear
  rcases hcases with hstore | ⟨key, hstore, -⟩
  · rw [hstore]
    exact ⟨hclear, fun _ => htable⟩
  · let r : Request := .increment x.message.chat key
    have htarget : r.target? = some (.variables, x.message.chat) := rfl
    have hask : (d.deliver x s).2 = (r.ask.perform between).2 := by
      rw [hstore, Request.ask, perform_bind_pure]
    rw [← hroot] at hclear htable ⊢
    rw [hask]
    refine ⟨?_, fun hkind => ?_⟩
    · rcases (Request.perform_ask htarget between).elsewhere.1 with hleft | ⟨body, hleft⟩
      · rwa [hleft]
      · rw [hleft]
        exact Store.isClear_save body (slash_not_mem_tableName hx) hname hclear
    · exact (Store.table_ask kind htarget hx hname (fun h => hkind h.1) hclear).1.trans htable

lemma after_elsewhere (d : Dispatcher) {kind : TableKind} {xs : List Delivery}
    (hxs : ∀ x ∈ xs, '/' ∉ x.message.chat.toList) (hname : '/' ∉ name.toList)
    (hclear : s.files.IsClear (tablePath s.root kind name)) :
    (d.after xs s).files.IsClear (tablePath s.root kind name) ∧
      (kind ≠ .variables → (d.after xs s).table (tablePath s.root kind name) =
        s.table (tablePath s.root kind name)) := by
  induction xs generalizing s with
  | nil => exact ⟨hclear, fun _ => rfl⟩
  | cons x rest ih =>
      obtain ⟨hx, hrest⟩ := List.forall_mem_cons.mp hxs
      obtain ⟨hnext, htable⟩ := deliver_elsewhere d hx hname hclear
      rw [← root_deliver d x s] at hnext
      obtain ⟨hlast, hafter⟩ := ih hrest hnext
      rw [root_deliver] at hlast hafter
      exact ⟨hlast, fun hkind => (hafter hkind).trans (htable hkind)⟩

/-- The names of a channel stay what they are when no chat has a slash in its name. -/
lemma steady_of_slash (d : Dispatcher) (hname : '/' ∉ name.toList)
    (hrest : ∀ y ∈ rest, '/' ∉ y.message.chat.toList)
    (hclear : ∀ kind, u.files.IsClear (tablePath u.root kind name)) :
    d.Steady (IsNaming u.root name) u rest := by
  rintro done y hdone path ⟨kind, hkind, rfl⟩
  have hslash : ∀ z ∈ done, '/' ∉ z.message.chat.toList :=
    fun z hz => hrest z (hdone.subset (List.mem_append_left _ hz))
  exact (after_elsewhere d hslash hname (hclear kind)).2 hkind

/-- **Runs without a message that fails**: for chats without slashes in their names, a run with a
message that fails sends the same, and leaves the same files, as without that message. The paths of
its tables have to be clear, as all are once the folders of a store are made. -/
theorem run_without_of_slash (accepts : String → Bool)
    (hslash : ∀ z ∈ past ++ x :: rest, '/' ∉ z.message.chat.toList)
    (hclear : ∀ kind, s.files.IsClear (tablePath s.root kind (tableName x.message.chat)))
    (h : ¬d.Succeeds x (d.after past s)) :
    d.texts accepts (past ++ x :: rest) s = d.texts accepts (past ++ rest) s ∧
      (d.after (past ++ x :: rest) s).files = (d.after (past ++ rest) s).files := by
  have hname := slash_not_mem_tableName (hslash x (by simp))
  have hpast : ∀ z ∈ past, '/' ∉ z.message.chat.toList := fun z hz => hslash z (by simp [hz])
  have hrest : ∀ z ∈ rest, '/' ∉ z.message.chat.toList := fun z hz => hslash z (by simp [hz])
  have hclear' := fun kind => (after_elsewhere d hpast hname (hclear kind)).1
  rw [texts_append, texts_append, after_append, after_append]
  rw [← root_after d past s] at hclear'
  generalize d.after past s = u at h hclear' ⊢
  have hleft := deliver_of_not_succeeds h
  have hfiles := hleft.files.eq_of_isClear (hclear' .variables)
  obtain ⟨htexts, hafter⟩ := run_ahead d accepts FileTree.indistinct_eq
    (hleft.with_files (s := u) hfiles.symm) (fun _ _ _ => trivial)
    (steady_of_slash d hname hrest hclear')
  rw [texts, deliver_fst_of_not_succeeds h, htexts]
  exact ⟨rfl, hafter.files.symm⟩

/-- It is so for a store whose folders have been made. -/
theorem run_without_of_prepare (accepts : String → Bool) {s₀ : Store}
    (hprepare : Store.prepare.perform s₀ = (.ok (), s))
    (hslash : ∀ z ∈ past ++ x :: rest, '/' ∉ z.message.chat.toList)
    (h : ¬d.Succeeds x (d.after past s)) :
    d.texts accepts (past ++ x :: rest) s = d.texts accepts (past ++ rest) s ∧
      (d.after (past ++ x :: rest) s).files = (d.after (past ++ rest) s).files :=
  run_without_of_slash accepts hslash (fun _ => Store.isClear_of_prepare
    (slash_not_mem_tableName (hslash x (by simp))) hprepare) h

end Dispatcher

end ChatBot
