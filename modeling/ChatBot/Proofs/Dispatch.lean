import Mathlib.Tactic
import ChatBot.Dispatch

/-!
From a message to its reply.

* `Web.Exchange.bind_assoc`, `Web.Exchange.result_run_bind`: one computation
  after another, and its result;
* `CommandSet.answersTo`: a command of the bot answers to a name;
* `Reply.ofResult`: the result of a command as a reply;
* `Dispatcher.dispatch_of_help`, `dispatch_of_handler`, `dispatch_of_not_answersTo`,
  `dispatch_of_not_command`: the ways that a message can go;
* `Delivery`: a message, and all that its reply may depend on besides the store;
* `Dispatcher.commandOf?`: the name that the channel decides about, as no
  command of the bot answers it;
* `deliver_of_commandOf?`, `deliver_of_none`: only then the store matters to a message.
-/

namespace ChatBot

open ChatBot.Storage

/-! ### Answers of services -/

namespace Web.Exchange

variable {α β γ : Type} (last : Answer)

/-- Computations are done one after another, however they are put together. -/
lemma bind_assoc (x : Exchange α) (f : α → Exchange β) (g : β → Exchange γ) :
    (x.bind f).bind g = x.bind fun a => (f a).bind g := by
  induction x with
  | done a => rfl
  | ask request next ih => exact congrArg (Exchange.ask request) (funext ih)

/-- What is done with a result needs the answers that are left. -/
lemma result_run_bind (x : Exchange α) (f : α → Exchange β) (answers : List Answer) :
    ((x.bind f).run last answers).result =
      ((f (x.run last answers).result).run last (x.run last answers).unused).result := by
  induction x generalizing answers with
  | done a => cases answers <;> rfl
  | ask request next ih =>
      cases answers with
      | nil => exact ih last []
      | cons answer rest => exact ih answer rest

lemma result_run_done (a : α) (answers : List Answer) :
    ((Exchange.done a).run last answers).result = a := by
  cases answers <;> rfl

end Web.Exchange

/-! ### Commands of the bot -/

/-- The result of a command as a reply, where an error speaks for itself. -/
def Reply.ofResult : Except CommandError Reply → Reply
  | .ok reply => reply
  | .error cause => .failure cause.message

namespace CommandSet

/-- A command of the bot answers to the name: it is the help or has a handler. -/
def answersTo (s : CommandSet) (name : String) : Bool :=
  match s.registry.find? name with
  | some c => c.name == helpName || c.handler.isSome
  | none => false

variable {s : CommandSet} {m : Message} {command : Command} {name rest : String}
    {args : List String}

/-- The help answers if the name is its own. -/
lemma handle_help (hm : m.content = .command name args rest)
    (hfind : s.registry.find? name = some command) (hhelp : command.name = helpName)
    (c : Circumstances) :
    (s.handle m c).run = .done (.ok (some (.text (s.help args.head?)))) := by
  unfold handle
  rw [hm]
  simp only [hfind, hhelp, beq_self_eq_true, if_true]
  rfl

/-- A handler answers if the name is that of its command. -/
lemma handle_handler (hm : m.content = .command name args rest)
    (hfind : s.registry.find? name = some command) (hhelp : command.name ≠ helpName)
    {handler : Handler} (hhandler : command.handler = some handler) (c : Circumstances) :
    s.handle m c = some <$> handler m c := by
  unfold handle
  rw [hm]
  simp only [hfind, hhandler, beq_eq_false_iff_ne.2 hhelp, Bool.false_eq_true, if_false]

lemma handle_of_not_answersTo (hm : m.content = .command name args rest)
    (h : s.answersTo name = false) (c : Circumstances) : s.handle m c = pure none := by
  unfold answersTo at h
  unfold handle
  rw [hm]
  cases hfind : s.registry.find? name with
  | none => simp only [hfind]
  | some command =>
      rw [hfind] at h
      obtain ⟨hhelp, hnone⟩ := Bool.or_eq_false_iff.mp h
      have hnone : command.handler = none := by simpa using hnone
      simp only [hfind, hhelp, hnone, Bool.false_eq_true, if_false]

/-- What answers to a name is the help or a command with a handler. -/
lemma of_answersTo (h : s.answersTo name = true) :
    ∃ command, s.registry.find? name = some command ∧ (command.name = helpName ∨
      command.name ≠ helpName ∧ ∃ handler, command.handler = some handler) := by
  unfold answersTo at h
  cases hfind : s.registry.find? name with
  | none => simp [hfind] at h
  | some command =>
      rw [hfind] at h
      by_cases hhelp : command.name = helpName
      · exact ⟨command, rfl, .inl hhelp⟩
      · exact ⟨command, rfl, .inr ⟨hhelp, Option.isSome_iff_exists.mp (by simpa [hhelp] using h)⟩⟩

end CommandSet

/-! ### Ways of a message -/

namespace Dispatcher

lemma chat_reread (d : Dispatcher) (m : Message) : (d.reread m).chat = m.chat := by
  unfold reread
  cases m.content <;> rfl

variable {d : Dispatcher} {m : Message} {command : Command} {name rest : String}
    {args : List String}

/-- The help replies. -/
lemma dispatch_of_help (hcontent : (d.reread m).content = .command name args rest)
    (hfind : d.commands.registry.find? name = some command)
    (hhelp : command.name = CommandSet.helpName) (c : Circumstances) (s : Store) :
    d.dispatch m c s = .done (some (.text (d.commands.help args.head?)), s) := by
  simp only [dispatch, hcontent]
  rw [CommandSet.handle_help hcontent hfind hhelp c]
  rfl

/-- The handler of a command replies. -/
lemma dispatch_of_handler (hcontent : (d.reread m).content = .command name args rest)
    (hfind : d.commands.registry.find? name = some command)
    (hhelp : command.name ≠ CommandSet.helpName) {handler : Handler}
    (hhandler : command.handler = some handler) (c : Circumstances) (s : Store) : d.dispatch m c s =
      (handler (d.reread m) c).run.bind fun result => .done (some (.ofResult result), s) := by
  simp only [dispatch, hcontent]
  rw [CommandSet.handle_handler hcontent hfind hhelp hhandler c]
  refine (Web.Exchange.bind_assoc _ _ _).trans (congrArg _ (funext fun result => ?_))
  cases result <;> rfl

/-- The channel decides, where a failure is no answer. -/
lemma dispatch_of_not_answersTo (hcontent : (d.reread m).content = .command name args rest)
    (hnone : d.commands.answersTo name = false) (c : Circumstances) (s : Store) :
    d.dispatch m c s = .done (d.fallback m.channel name s) := by
  have hchannel : (d.reread m).channel = m.channel := congrArg channelName (d.chat_reread m)
  simp only [dispatch, hcontent]
  rw [CommandSet.handle_of_not_answersTo hcontent hnone c, hchannel]
  rfl

/-- Nothing replies to what is no command. -/
lemma dispatch_of_not_command
    (hcontent : ∀ name args rest, (d.reread m).content ≠ .command name args rest)
    (c : Circumstances) (s : Store) : d.dispatch m c s = .done (none, s) := by
  simp only [dispatch]
  cases h : (d.reread m).content with
  | command name args rest => exact absurd h (hcontent name args rest)
  | text body => rfl
  | empty => rfl

end Dispatcher

/-! ### Deliveries -/

/-- A message, and all that its reply may depend on besides the store. Services give the `answers`
in order, and then the `last` one over and over. -/
structure Delivery where
  message : Message
  circumstances : Circumstances
  answers : List Web.Answer
  last : Web.Answer

namespace Dispatcher

variable (d : Dispatcher)

/-- The reply to a message, and the store afterwards. -/
def deliver (x : Delivery) (s : Store) : Option Reply × Store :=
  ((d.dispatch x.message x.circumstances s).run x.last x.answers).result

/-- The name of a command that no command of the bot answers. -/
def commandOf? (m : Message) : Option String :=
  match (d.reread m).content with
  | .command name _ _ => if d.commands.answersTo name then none else some name
  | _ => none

variable {d} {x : Delivery} {name : String}

/-- The channel decides about a name that no command of the bot answers. -/
lemma deliver_of_commandOf? (h : d.commandOf? x.message = some name) (s : Store) :
    d.deliver x s = d.fallback x.message.channel name s := by
  unfold commandOf? at h
  split at h
  · next called args rest hcontent =>
    split at h
    · simp at h
    · next hanswers =>
      obtain rfl := Option.some.inj h
      rw [deliver, dispatch_of_not_answersTo hcontent (by simpa using hanswers)]
      exact Web.Exchange.result_run_done x.last _ x.answers
  · simp at h

/-- The store does not matter to a message that names no command, or one that a command of the bot
answers. -/
lemma deliver_of_none (h : d.commandOf? x.message = none) :
    ∃ reply, ∀ s, d.deliver x s = (reply, s) := by
  unfold commandOf? at h
  split at h
  · next called args rest hcontent =>
    split at h
    · next hanswers =>
      obtain ⟨command, hfind, hhelp | ⟨hhelp, handler, hhandler⟩⟩ :=
        CommandSet.of_answersTo hanswers
      · refine ⟨some (.text (d.commands.help args.head?)), fun s => ?_⟩
        rw [deliver, dispatch_of_help hcontent hfind hhelp]
        exact Web.Exchange.result_run_done x.last _ x.answers
      · refine ⟨some (.ofResult ((handler (d.reread x.message) x.circumstances).run.run x.last
          x.answers).result), fun s => ?_⟩
        rw [deliver, dispatch_of_handler hcontent hfind hhelp hhandler,
          Web.Exchange.result_run_bind]
        exact Web.Exchange.result_run_done x.last _ _
    · simp at h
  · next hcontent =>
    refine ⟨none, fun s => ?_⟩
    rw [deliver, dispatch_of_not_command hcontent]
    exact Web.Exchange.result_run_done x.last _ x.answers

end Dispatcher

end ChatBot
