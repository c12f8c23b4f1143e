import ChatBot.Proofs.Dispatch
import ChatBot.Proofs.Storage.Request

/-!
Who answers a message.

* `Registry.of_find?`, `Registry.find?_eq_none_iff`: a name is looked up in any case of letters;
* `Dispatcher.answerBy`: what a channel answers, as a function of its tables and counters alone;
* `Store.keepBoth`: a store that keeps the tables which decide about names. `table_keepBoth` says
  that it has no other table than before;
* `Dispatcher.channelReply_fst`: what a channel answers is what its tables and counters say;
* `Dispatcher.dispatch_routes`: a command of the bot answers without regard to any
  channel, and else the channel does.
-/

namespace ChatBot

open ChatBot.Storage
open ChatBot.Json (Fields)

/-! ### Names of commands -/

namespace Registry

variable {r : Registry} {command : Command} {name : String}

/-- A command that is found is one of the registry that has the name in lower case, or has it or an
alias in any case of letters. -/
lemma of_find? (h : r.find? name = some command) :
    command ∈ r.commands ∧ (command.name = name.lowercase ∨ command.matches name = true) := by
  rw [find?] at h
  cases hget : r.get? name.lowercase with
  | some named =>
      rw [hget] at h
      obtain rfl : named = command := Option.some.inj h
      exact ⟨List.mem_of_find?_eq_some hget, .inl (by simpa using List.find?_some hget)⟩
  | none =>
      rw [hget] at h
      have hfind : r.commands.find? (·.matches name) = some command := h
      exact ⟨List.mem_of_find?_eq_some hfind, .inr (by simpa using List.find?_some hfind)⟩

/-- A name that no command has in any case of letters is not found, and no other. -/
lemma find?_eq_none_iff : r.find? name = none ↔
    ∀ command ∈ r.commands, command.name ≠ name.lowercase ∧ command.matches name = false := by
  have hget : r.get? name.lowercase = none ↔
      ∀ command ∈ r.commands, command.name ≠ name.lowercase := by
    rw [get?, List.find?_eq_none]
    simp
  have hmatches : r.commands.find? (·.matches name) = none ↔
      ∀ command ∈ r.commands, command.matches name = false := by
    rw [List.find?_eq_none]
    simp
  have hboth : r.find? name = none ↔
      r.get? name.lowercase = none ∧ r.commands.find? (·.matches name) = none := by
    rw [find?]
    cases r.get? name.lowercase <;> simp
  rw [hboth, hget, hmatches]
  exact forall₂_and.symm

end Registry

/-! ### Answers of channels -/

namespace Dispatcher

/-- What a name stands for, by a table of other names for commands. -/
def targetIn (aliases : Table) (name : String) : String :=
  ((Fields.get? aliases name).bind Json.string?).getD name

/-- The text of a command in a table. -/
def textIn? (commands : Table) (name : String) : Option String :=
  (Fields.get? commands name).bind Json.string?

/-- What a channel answers to a name, by the other names that it has for commands, the texts of its
commands, what comes of counting a variable, and the counters. -/
def answerBy (d : Dispatcher) (channel name : String) (aliases commands : Except StorageError Table)
    (count : String → Except StorageError ℤ) : Except StorageError (Option Reply) := do
  let target := targetIn (← aliases) name
  match textIn? (← commands) target with
  | some text => return some (.text text)
  | none =>
    match d.counters.find? (·.answers channel target) with
    | some counter => return some (.text (counter.text (← count counter.variableName)))
    | none => return none

end Dispatcher

namespace Storage.Store

open ChatBot.Dispatcher

variable {s : Store}

lemma perform_aliasOf?_eq (channel name : String) (s : Store) :
    (aliasOf? channel name).perform s =
      match s.table (aliasesPath s.root channel) with
      | .ok table => (.ok ((Fields.get? table name).bind Json.string?),
          s.keep (aliasesPath s.root channel) table)
      | .error cause => (.error cause, s) := by
  have hpath : tablePath s.root .aliases (tableName channel) = aliasesPath s.root channel := rfl
  rw [perform_aliasOf?, perform_lookUp_eq, hpath]
  cases s.table (aliasesPath s.root channel) <;> rfl

lemma perform_commandText?_eq (channel name : String) (s : Store) :
    (commandText? channel name).perform s =
      match s.table (commandsPath s.root channel) with
      | .ok table => (.ok (textIn? table name), s.keep (commandsPath s.root channel) table)
      | .error cause => (.error cause, s) := by
  have hpath : tablePath s.root .commands (tableName channel) = commandsPath s.root channel := rfl
  rw [perform_commandText?, perform_lookUp_eq, hpath]
  cases s.table (commandsPath s.root channel) <;> rfl

/-- What comes of counting depends on the table of the variables and on the files. -/
lemma increment_fst_congr {s' : Store} {channel : String}
    (htable : s'.table (variablesPath s.root channel) = s.table (variablesPath s.root channel))
    (hroot : s'.root = s.root) (hfiles : s'.files = s.files) (key : String) :
    ((increment channel key).perform s').1 = ((increment channel key).perform s).1 := by
  rw [perform_increment, perform_increment, perform_update_eq, perform_update_eq,
    ← variablesPath_eq, ← variablesPath_eq, hroot, htable, hfiles]
  cases s.table (variablesPath s.root channel) with
  | error cause => rfl
  | ok table =>
      dsimp only
      split <;> rfl

/-- The store once it keeps the tables that decide about the names of a channel. -/
def keepBoth (s : Store) (channel : String) (aliases commands : Table) : Store :=
  (s.keep (aliasesPath s.root channel) aliases).keep (commandsPath s.root channel) commands

/-- If it had these tables anyway, it has no other table than before. -/
lemma table_keepBoth {channel : String} {aliases commands : Table}
    (haliases : s.table (aliasesPath s.root channel) = .ok aliases)
    (hcommands : s.table (commandsPath s.root channel) = .ok commands) (path : Path) :
    (s.keepBoth channel aliases commands).table path = s.table path := by
  have hkept : (s.keep (aliasesPath s.root channel) aliases).table (commandsPath s.root channel) =
      .ok commands := by
    rw [table_keep haliases, hcommands]
  rw [keepBoth, table_keep hkept, table_keep haliases]

end Storage.Store

namespace Dispatcher

variable {d : Dispatcher} {s : Store} {channel name : String} {aliases commands : Table}

/-- The counter of a name counts and replies. -/
lemma perform_counterReply (d : Dispatcher) (channel target : String) (s : Store) :
    (d.counterReply channel target).perform s =
      match d.counters.find? (·.answers channel target) with
      | some counter =>
        (((Store.increment channel counter.variableName).perform s).1.map fun n =>
            some (.text (counter.text n)),
          ((Store.increment channel counter.variableName).perform s).2)
      | none => (.ok none, s) := by
  rw [counterReply]
  cases d.counters.find? (·.answers channel target) with
  | none => rfl
  | some counter => exact perform_bind_pure _ _ s

/-- Without a table of other names a channel has no answer. -/
lemma channelReply_of_unread_aliases {cause : StorageError} (d : Dispatcher) (name : String)
    (haliases : s.table (Store.aliasesPath s.root channel) = .error cause) :
    (d.channelReply channel name).perform s = (.error cause, s) := by
  have hfirst := Store.perform_aliasOf?_eq channel name s
  rw [haliases] at hfirst
  rw [channelReply, perform_bind_of_error hfirst]

/-- What is looked up in the table of commands is what the name stands for. -/
lemma perform_commandText?_of_aliases (name : String)
    (haliases : s.table (Store.aliasesPath s.root channel) = .ok aliases) :
    (Store.commandText? channel name).perform (s.keep (Store.aliasesPath s.root channel) aliases) =
      match s.table (Store.commandsPath s.root channel) with
      | .ok table => (.ok (textIn? table name), s.keepBoth channel aliases table)
      | .error cause => (.error cause, s.keep (Store.aliasesPath s.root channel) aliases) := by
  have hroot : (s.keep (Store.aliasesPath s.root channel) aliases).root = s.root := rfl
  rw [Store.perform_commandText?_eq, hroot, Store.table_keep haliases]
  rfl

/-- Once the table of other names is kept, the table of commands decides, before any counter. -/
lemma channelReply_of_aliases (d : Dispatcher) (name : String)
    (haliases : s.table (Store.aliasesPath s.root channel) = .ok aliases) :
    (d.channelReply channel name).perform s =
      match s.table (Store.commandsPath s.root channel) with
      | .error cause => (.error cause, s.keep (Store.aliasesPath s.root channel) aliases)
      | .ok commands =>
        match textIn? commands (targetIn aliases name) with
        | some text => (.ok (some (.text text)), s.keepBoth channel aliases commands)
        | none => (d.counterReply channel (targetIn aliases name)).perform
            (s.keepBoth channel aliases commands) := by
  have hfirst := Store.perform_aliasOf?_eq channel name s
  rw [haliases] at hfirst
  have hsecond := perform_commandText?_of_aliases (targetIn aliases name) haliases
  rw [channelReply, perform_bind_of_ok hfirst]
  cases hcommands : s.table (Store.commandsPath s.root channel) with
  | error cause =>
      rw [hcommands] at hsecond
      exact perform_bind_of_error hsecond
  | ok commands =>
      rw [hcommands] at hsecond
      refine (perform_bind_of_ok hsecond).trans ?_
      dsimp only
      cases textIn? commands (targetIn aliases name) <;> rfl

/-- Without a table of commands a channel has no answer. -/
lemma channelReply_of_unread_commands {cause : StorageError} (d : Dispatcher) (name : String)
    (haliases : s.table (Store.aliasesPath s.root channel) = .ok aliases)
    (hcommands : s.table (Store.commandsPath s.root channel) = .error cause) :
    (d.channelReply channel name).perform s =
      (.error cause, s.keep (Store.aliasesPath s.root channel) aliases) := by
  rw [channelReply_of_aliases d name haliases, hcommands]

/-- Where both tables can be had, they are kept, and decide about the name before any counter. -/
lemma channelReply_of_tables (d : Dispatcher) (name : String)
    (haliases : s.table (Store.aliasesPath s.root channel) = .ok aliases)
    (hcommands : s.table (Store.commandsPath s.root channel) = .ok commands) :
    (d.channelReply channel name).perform s =
      match textIn? commands (targetIn aliases name) with
      | some text => (.ok (some (.text text)), s.keepBoth channel aliases commands)
      | none => (d.counterReply channel (targetIn aliases name)).perform
          (s.keepBoth channel aliases commands) := by
  rw [channelReply_of_aliases d name haliases, hcommands]

/-- **Answers of channels**: what a channel answers is what its tables and counters say. -/
theorem channelReply_fst (d : Dispatcher) (channel name : String) (s : Store) :
    ((d.channelReply channel name).perform s).1 =
      d.answerBy channel name (s.table (Store.aliasesPath s.root channel))
        (s.table (Store.commandsPath s.root channel))
        fun key => ((Store.increment channel key).perform s).1 := by
  cases haliases : s.table (Store.aliasesPath s.root channel) with
  | error cause =>
      rw [channelReply_of_unread_aliases d name haliases]
      rfl
  | ok aliases =>
      cases hcommands : s.table (Store.commandsPath s.root channel) with
      | error cause =>
          rw [channelReply_of_unread_commands d name haliases hcommands]
          rfl
      | ok commands =>
          -- the tables that are kept by then do not matter to a count
          have hcount := Store.increment_fst_congr
            (Store.table_keepBoth haliases hcommands (Store.variablesPath s.root channel)) rfl rfl
          rw [channelReply_of_tables d name haliases hcommands]
          simp only [answerBy, bind, Except.bind]
          cases textIn? commands (targetIn aliases name) with
          | some text => rfl
          | none =>
              simp only [perform_counterReply]
              cases d.counters.find? (·.answers channel (targetIn aliases name)) with
              | none => rfl
              | some counter =>
                  simp only [hcount]
                  cases ((Store.increment channel counter.variableName).perform s).1 <;> rfl

/-! ### Routes -/

variable {m : Message} {command : Command} {rest : String} {args : List String}

lemma fallback_fst (d : Dispatcher) (channel name : String) (s : Store) :
    (d.fallback channel name s).1 = ((d.channelReply channel name).perform s).1.toOption.join := by
  have hrun : (d.channelReply channel name).run.run s = (d.channelReply channel name).perform s :=
    rfl
  rw [fallback, hrun]
  rcases (d.channelReply channel name).perform s with ⟨cause | reply, s'⟩
  · rfl
  · rfl

/-- **Routes**: if the name of a command is that of the help or of a command with a handler,
then the help or the handler replies, where an error becomes a reply in its own words. Neither
what is stored nor the counters matter to that, and nothing changes. Names and aliases of
commands count in any case of letters.

Any other command is answered by the channel from its data alone: from its other names for commands,
the texts of its commands and its counters, in this order. A failure of the store is no answer.
Whatever is no command has no answer and changes nothing. -/
theorem dispatch_routes (d : Dispatcher) (m : Message) (c : Circumstances) :
    (∀ name args rest, (d.reread m).content = .command name args rest →
      (∀ command, d.commands.registry.find? name = some command →
        (command.name = CommandSet.helpName → ∀ counters s,
          { d with counters }.dispatch m c s =
            .done (some (.text (d.commands.help args.head?)), s)) ∧
        ∀ handler, command.name ≠ CommandSet.helpName → command.handler = some handler →
          ∀ counters s, { d with counters }.dispatch m c s =
            (handler (d.reread m) c).run.bind fun result => .done (some (.ofResult result), s)) ∧
      ((∀ command, d.commands.registry.find? name = some command →
          command.name ≠ CommandSet.helpName ∧ command.handler = none) →
        ∀ s, ∃ s', d.dispatch m c s =
          .done ((d.answerBy m.channel name (s.table (Store.aliasesPath s.root m.channel))
            (s.table (Store.commandsPath s.root m.channel))
            fun key => ((Store.increment m.channel key).perform s).1).toOption.join, s'))) ∧
    ((∀ name args rest, (d.reread m).content ≠ .command name args rest) →
      ∀ s, d.dispatch m c s = .done (none, s)) ∧
    ∀ name,
      (d.commands.registry.find? name = none ↔ ∀ command ∈ d.commands.registry.commands,
        command.name ≠ name.lowercase ∧ command.matches name = false) ∧
      ∀ command, d.commands.registry.find? name = some command →
        command ∈ d.commands.registry.commands ∧
          (command.name = name.lowercase ∨ command.matches name = true) := by
  refine ⟨fun name args rest hcontent => ⟨fun command hfind => ⟨fun hhelp counters s => ?_,
    fun handler hhelp hhandler counters s => ?_⟩, fun hnone s => ?_⟩, fun hcontent s => ?_,
    fun name => ⟨Registry.find?_eq_none_iff, fun command => Registry.of_find?⟩⟩
  · exact dispatch_of_help (d := { d with counters }) hcontent hfind hhelp c s
  · exact dispatch_of_handler (d := { d with counters }) hcontent hfind hhelp hhandler c s
  · have hanswers : d.commands.answersTo name = false := by
      unfold CommandSet.answersTo
      split
      · next command hfind =>
        obtain ⟨hhelp, hhandler⟩ := hnone command hfind
        simp [hhelp, hhandler]
      · rfl
    refine ⟨(d.fallback m.channel name s).2, ?_⟩
    rw [dispatch_of_not_answersTo hcontent hanswers c s, ← channelReply_fst, ← fallback_fst]
  · exact dispatch_of_not_command hcontent c s

/-- A channel has a text for the name of a command of the bot, and another name for it. Only the
other name leads to the text. -/
theorem dispatch_routes_of_alias :
    let d : Dispatcher := ⟨⟨"!", .discord⟩, CommandSet.registerAll ⟨"!", {}⟩
      [{ name := "version", handler := Handler.ofText fun _ => "0.1.0" }], []⟩
    let s : Store := ⟨⟨false, ["data"]⟩, FileTree.ofFiles
      [("data/commands/a.json", "\x7b\"version\": \"ours\"\x7d"),
        ("data/commands/aliases/a.json", "\x7b\"v\": \"version\"\x7d")], []⟩
    d.dispatch ⟨"#A", .text "!Version", none, .discord⟩ default s =
      .done (some (.text "0.1.0"), s) ∧
      ∃ s', d.dispatch ⟨"#A", .text "!v", none, .discord⟩ default s =
          .done (some (.text "ours"), s') := by
  intro d s
  let x : Message := ⟨"#A", .text "!Version", none, .discord⟩
  let y : Message := ⟨"#A", .text "!v", none, .discord⟩
  have hcontent : (d.reread x).content = .command "Version" [] "" := by decide +kernel
  have hcontent' : (d.reread y).content = .command "v" [] "" := by decide +kernel
  have hanswer : (d.answerBy y.channel "v" (s.table (Store.aliasesPath s.root y.channel))
      (s.table (Store.commandsPath s.root y.channel))
      fun key => ((Store.increment y.channel key).perform s).1).toOption.join =
          some (.text "ours") := by
    decide +kernel
  refine ⟨?_, ?_⟩
  · exact (((dispatch_routes d x default).1 _ _ _ hcontent).1 _ rfl).2 _ (by decide) rfl [] s
  · have hnone : d.commands.registry.find? "v" = none := rfl
    obtain ⟨s', hs'⟩ := ((dispatch_routes d y default).1 _ _ _ hcontent').2
      (fun command hfind => nomatch hnone.symm.trans hfind) s
    rw [hanswer] at hs'
    exact ⟨s', hs'⟩

end Dispatcher

end ChatBot
