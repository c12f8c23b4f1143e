import ChatBot.Proofs.Command.Asking
import ChatBot.Proofs.Routing

/-!
Requests that a message causes.

* `Registry.mem_registerAll`: the commands of a registry are those that were added;
* `Dispatcher.called?`: the command of the bot that a message names;
* `run_of_handler`, `done_of_no_handler`: what is asked for a message is what its command asks;
* `Command.Asks.run`: a command that asks makes one request, or takes no arguments like these;
* `dispatch_cases`: no command may ask, or the one that may does not take the
  arguments, or there is one request;
* `Dispatcher.dispatch_requests`: a message causes at most one request, and only if a command
  that asks takes its arguments.
-/

namespace ChatBot

open ChatBot.Storage

/-! ### Commands that were added -/

namespace Registry

variable {c command : Command}

lemma mem_replace {cs : List Command} (h : c ∈ replace command cs) : c = command ∨ c ∈ cs := by
  induction cs with
  | nil => exact .inl (List.mem_singleton.mp h)
  | cons other cs ih =>
      unfold replace at h
      split at h
      · exact (List.mem_cons.mp h).imp id (List.mem_cons_of_mem other)
      · rcases List.mem_cons.mp h with rfl | h
        · exact .inr List.mem_cons_self
        · exact (ih h).imp id (List.mem_cons_of_mem other)

/-- The commands of a registry are those that were there and those that were added. -/
lemma mem_registerAll {r : Registry} {cs : List Command} (h : c ∈ (r.registerAll cs).commands) :
    c ∈ r.commands ∨ c ∈ cs := by
  induction cs generalizing r with
  | nil => exact .inl h
  | cons other cs ih =>
      rcases ih (r := r.register other) h with h | h
      · exact (mem_replace h).elim (fun heq => .inr (heq ▸ List.mem_cons_self)) .inl
      · exact .inr (List.mem_cons_of_mem other h)

end Registry

/-- A command that is found is one of the platform. -/
lemma BuiltIn.mem_commands_of_find? {b : BuiltIn} {shown : String} {platform : Platform}
    {name : String} {command : Command}
    (h : (b.commandSet shown platform).registry.find? name = some command) :
    command ∈ b.commands platform :=
  (Registry.mem_registerAll (Registry.of_find? h).1).resolve_left List.not_mem_nil

/-! ### What is asked for a message -/

namespace Command

variable {command : Command} {handler : Handler} (last : Web.Answer) (answers : List Web.Answer)

/-- What a command does that asks: it does not take the arguments, or makes one request. -/
lemma Asks.run (h : command.Asks) (hhandler : command.handler = some handler) (m : Message)
    (c : Circumstances) :
    let out := (handler m c).run.run last answers
    (∃ detail, out.result = .error (.invalidArgs detail) ∧ out.requests = []) ∨
      out.requests.length = 1 ∧ (∀ detail, out.result ≠ .error (.invalidArgs detail)) ∧
        ∀ detail, answers.headD last = .error detail →
        out.result = .error (.api (.transport detail)) := by
  obtain ⟨_, hsome, hasks⟩ := h
  obtain rfl := Option.some.inj (hsome.symm.trans hhandler)
  dsimp only
  rcases hasks m c with ⟨detail, hrun⟩ | ⟨request, result, hrun, htransport, htakes⟩
  · rw [hrun, Web.Exchange.run_done]
    exact .inl ⟨detail, rfl, rfl⟩
  · rw [hrun, Web.Exchange.run_single]
    exact .inr ⟨rfl, htakes _, fun detail hanswer => by rw [hanswer, htransport]⟩

/-- A command that answers on its own makes no request. -/
lemma IsQuiet.requests (h : command.IsQuiet) (hhandler : command.handler = some handler)
    (m : Message) (c : Circumstances) : ((handler m c).run.run last answers).requests = [] := by
  obtain ⟨result, hrun⟩ := h handler hhandler m c
  rw [hrun, Web.Exchange.run_done]

end Command

namespace Dispatcher

/-- The command of the bot that a message names. -/
def called? (d : Dispatcher) (m : Message) : Option Command :=
  match (d.reread m).content with
  | .command name _ _ => d.commands.registry.find? name
  | _ => none

/-- What comes of a message with the commands of the bot alone. -/
def handled (d : Dispatcher) (m : Message) (c : Circumstances) :
    Web.Exchange (Except CommandError (Option Reply)) :=
  (d.commands.handle (d.reread m) c).run

variable {d : Dispatcher} {m : Message} {command : Command} {handler : Handler} {name : String}

/-- A message that names a command is one. -/
lemma content_of_called? (h : d.called? m = some command) : ∃ name args rest,
    (d.reread m).content = .command name args rest ∧
    d.commands.registry.find? name = some command := by
  unfold called? at h
  split at h
  · next hcontent => exact ⟨_, _, _, hcontent, h⟩
  · exact nomatch h

/-- The reply is what the handler of the command gives, and nothing else is asked. -/
lemma run_of_handler (hcalled : d.called? m = some command)
    (hhelp : command.name ≠ CommandSet.helpName) (hhandler : command.handler = some handler)
    (c : Circumstances) (s : Store) (last : Web.Answer) (answers : List Web.Answer) :
    let out := (handler (d.reread m) c).run.run last answers
    (d.dispatch m c s).run last answers =
      ⟨(some (.ofResult out.result), s), out.requests, out.unused⟩ ∧
      ((d.handled m c).run last answers).result = out.result.map some := by
  obtain ⟨name, args, rest, hcontent, hfind⟩ := content_of_called? hcalled
  have hmap : d.handled m c =
      (handler (d.reread m) c).run.bind fun result => .done (result.map some) := by
    rw [handled, CommandSet.handle_handler hcontent hfind hhelp hhandler]
    exact congrArg (Web.Exchange.bind _) (funext fun result => by cases result <;> rfl)
  refine ⟨?_, ?_⟩
  · rw [dispatch_of_handler hcontent hfind hhelp hhandler, Web.Exchange.run_bind_done]
  · rw [hmap, Web.Exchange.run_bind_done]

/-- Without a handler nothing is asked, and no command fails. -/
lemma done_of_no_handler (h : ∀ command, d.called? m = some command →
      command.name = CommandSet.helpName ∨ command.handler = none) (c : Circumstances) (s : Store) :
    (∃ result, d.dispatch m c s = .done result) ∧ ∃ reply, d.handled m c = .done (.ok reply) := by
  unfold handled
  cases hcontent : (d.reread m).content with
  | command name args rest =>
      have hcalled : d.called? m = d.commands.registry.find? name := by rw [called?, hcontent]
      cases hanswers : d.commands.answersTo name with
      | true =>
          obtain ⟨command, hfind, hcommand⟩ := CommandSet.of_answersTo hanswers
          have hhelp : command.name = CommandSet.helpName := by
            rcases h command (hcalled.trans hfind) with hhelp | hnone
            · exact hhelp
            · rcases hcommand with hhelp | ⟨-, handler, hsome⟩
              · exact hhelp
              · exact nomatch hnone.symm.trans hsome
          exact ⟨⟨_, dispatch_of_help hcontent hfind hhelp c s⟩,
            _, CommandSet.handle_help hcontent hfind hhelp c⟩
      | false =>
          refine ⟨⟨_, dispatch_of_not_answersTo hcontent hanswers c s⟩, none, ?_⟩
          rw [CommandSet.handle_of_not_answersTo hcontent hanswers]
          rfl
  | text | empty =>
      refine ⟨⟨_, dispatch_of_not_command (by simp [hcontent]) c s⟩, none, ?_⟩
      unfold CommandSet.handle
      rw [hcontent]
      rfl

lemma eq_error_of_map_some {result : Except CommandError Reply} {cause : CommandError}
    (h : result.map some = .error cause) : result = .error cause := by
  cases result with
  | error other => exact congrArg Except.error (Except.error.inj h)
  | ok reply => exact nomatch h

/-- A message names a command with a handler that is run, or no handler is run. -/
lemma exists_handler_or (d : Dispatcher) (m : Message) :
    (∃ command handler, d.called? m = some command ∧ command.name ≠ CommandSet.helpName ∧
        command.handler = some handler) ∨
      ∀ command, d.called? m = some command →
        command.name = CommandSet.helpName ∨ command.handler = none := by
  refine or_iff_not_imp_right.mpr fun h => ?_
  push Not at h
  obtain ⟨command, hcalled, hhelp, hsome⟩ := h
  obtain ⟨handler, hhandler⟩ := Option.ne_none_iff_exists'.mp hsome
  exact ⟨command, handler, hcalled, hhelp, hhandler⟩

/-- If the command fails, then the reply says why. -/
lemma result_of_error {c : Circumstances} {last : Web.Answer} {answers : List Web.Answer}
    {cause : CommandError} (h : ((d.handled m c).run last answers).result = .error cause)
    (s : Store) :
    ((d.dispatch m c s).run last answers).result = (some (.ofResult (.error cause)), s) := by
  rcases d.exists_handler_or m with ⟨command, handler, hcalled, hhelp, hhandler⟩ | hnone
  · obtain ⟨hrun, hhandled⟩ := run_of_handler hcalled hhelp hhandler c s last answers
    rw [hhandled] at h
    rw [hrun, eq_error_of_map_some h]
  · obtain ⟨-, reply, hhandled⟩ := done_of_no_handler hnone c s
    rw [hhandled, Web.Exchange.run_done] at h
    exact nomatch h

/-- With all commands of a platform, nobody is asked because no command may, or because the command
that may does not take the arguments, and else there is one request. -/
lemma dispatch_cases (b : BuiltIn) (platform : Platform) (mark : CommandMark) (shown : String)
    (counters : List Counter) (m : Message) (c : Circumstances) (s : Store) (last : Web.Answer)
    (answers : List Web.Answer) :
    let d : Dispatcher := ⟨mark, b.commandSet shown platform, counters⟩
    let mayAsk := ∃ command, d.called? m = some command ∧ command.MayAsk b.ratesKey
    let out := (d.dispatch m c s).run last answers
    let handled := ((d.handled m c).run last answers).result
    (¬mayAsk ∧ out.requests = []) ∨
      (mayAsk ∧ out.requests = [] ∧ ∃ detail, handled = .error (.invalidArgs detail)) ∨
      (mayAsk ∧ out.requests.length = 1 ∧ (∀ detail, handled ≠ .error (.invalidArgs detail)) ∧
        out.result.1 ≠ none ∧
          ∀ detail, answers.headD last = .error detail →
          handled = .error (.api (.transport detail))) := by
  intro d
  have hbehaves (command : Command) (hcalled : d.called? m = some command) :
      command.Behaves b.ratesKey := by
    obtain ⟨name, args, rest, -, hfind⟩ := content_of_called? hcalled
    exact b.commands_behave platform command (BuiltIn.mem_commands_of_find? hfind)
  rcases d.exists_handler_or m with ⟨command, handler, hcalled, hnothelp, hhandler⟩ | hnone
  · obtain ⟨hrun, hhandled⟩ := run_of_handler hcalled hnothelp hhandler c s last answers
    rw [hrun, hhandled]
    rcases hbehaves command hcalled with ⟨hmay, hasks⟩ | ⟨hmay, hquiet⟩
    · rcases hasks.run last answers hhandler (d.reread m) c with ⟨detail, hresult, hrequests⟩ |
        ⟨hrequests, htakes, htransport⟩
      · exact .inr (.inl ⟨⟨command, hcalled, hmay⟩, hrequests, detail, by rw [hresult]; rfl⟩)
      · exact .inr (.inr ⟨⟨command, hcalled, hmay⟩, hrequests,
          fun detail h => htakes detail (eq_error_of_map_some h), nofun,
          fun detail hanswer => by rw [htransport detail hanswer]; rfl⟩)
    · refine .inl ⟨?_, hquiet.requests last answers hhandler _ c⟩
      rintro ⟨other, hother, hmay'⟩
      obtain rfl := Option.some.inj (hcalled.symm.trans hother)
      exact hmay hmay'
  · obtain ⟨⟨result, hdone⟩, -⟩ := done_of_no_handler hnone c s
    rw [hdone, Web.Exchange.run_done]
    refine .inl ⟨?_, rfl⟩
    rintro ⟨command, hcalled, hmay⟩
    -- a command that may ask is not the one for help, and has a handler
    have hhelp : CommandSet.helpName ∉ askingNames := by decide
    rcases hbehaves command hcalled with ⟨-, handler, hhandler, -⟩ | ⟨hnot, -⟩
    · rcases hnone command hcalled with h | h
      · exact hhelp (h ▸ hmay.1)
      · exact nomatch h.symm.trans hhandler
    · exact hnot hmay

/-- **Requests**: with all commands of a platform, whatever is stored and whatever services answer,
a message causes at most one request. It causes one exactly if it names a command that asks, there
is a key if that is the command for exchange rates, and the command takes the arguments. So there is
no request if the reply reports invalid arguments, and neither if there is no reply. If the request
gets no response, then the reply is an error that says so. -/
theorem dispatch_requests (b : BuiltIn) (platform : Platform) (mark : CommandMark) (shown : String)
    (counters : List Counter) (m : Message) (c : Circumstances) (s : Store) (last : Web.Answer)
    (answers : List Web.Answer) :
    let d : Dispatcher := ⟨mark, b.commandSet shown platform, counters⟩
    let out := (d.dispatch m c s).run last answers
    let handled := ((d.handled m c).run last answers).result
    out.requests.length ≤ 1 ∧
      (out.requests ≠ [] ↔ ∃ command, d.called? m = some command ∧ command.name ∈ askingNames ∧
        (command.name = "currency" → b.ratesKey.isSome = true) ∧
        ∀ detail, handled ≠ .error (.invalidArgs detail)) ∧
      (∀ detail, handled = .error (.invalidArgs detail) →
        out.requests = [] ∧ out.result = (some (.failure ("Invalid arguments: " ++ detail)), s)) ∧
      (out.result.1 = none → out.requests = []) ∧
      ∀ detail, out.requests ≠ [] → answers.headD last = .error detail →
        out.result = (some (.failure ("Request failed: " ++ detail)), s) := by
  intro d out handled
  have hinvalid (detail : String) (h : handled = .error (.invalidArgs detail)) :
      out.result = (some (.failure ("Invalid arguments: " ++ detail)), s) := result_of_error h s
  have hcases := dispatch_cases b platform mark shown counters m c s last answers
  by_cases hrequests : out.requests = []
  · refine ⟨(List.length_eq_zero_iff.mpr hrequests).trans_le (Nat.zero_le 1),
      ⟨fun h => absurd hrequests h, ?_⟩, fun detail h => ⟨hrequests, hinvalid detail h⟩,
      fun _ => hrequests,
      fun _ h => absurd hrequests h⟩
    rintro ⟨command, hcalled, hname, hkey, htakes⟩
    rcases hcases with ⟨hmay, -⟩ | ⟨-, -, detail, hrefused⟩ | ⟨-, hone, -⟩
    · exact absurd ⟨command, hcalled, hname, hkey⟩ hmay
    · exact absurd hrefused (htakes detail)
    · exact absurd (List.length_eq_zero_iff.mpr hrequests) (by rw [hone]; decide)
  · -- a command was asked for that may ask, and that takes the arguments
    obtain ⟨⟨command, hcalled, hname, hkey⟩, hone, htakes, hreply, htransport⟩ :=
      (hcases.resolve_left fun h => hrequests h.2).resolve_left fun h => hrequests h.2.1
    exact ⟨hone.le, ⟨fun _ => ⟨command, hcalled, hname, hkey, htakes⟩, fun _ => hrequests⟩,
      fun detail h => absurd h (htakes detail), fun hnone => absurd hnone hreply,
      fun detail _ hanswer => result_of_error (htransport detail hanswer) s⟩

/-- A price that is asked for while there is no network, and the data of a stock that is not
named. -/
theorem dispatch_requests_of_bitcoin :
    let b : BuiltIn := { botName := "harmonbot" }
    let d : Dispatcher := ⟨⟨"!", .discord⟩, b.commandSet "!" .discord, []⟩
    let s : Store := ⟨⟨true, []⟩, .ofFiles [], []⟩
    let x : Message := ⟨"#a", .text "!BitCoin past 2018-04-20", none, .discord⟩
    let y : Message := ⟨"#a", .text "!Stocks quote", none, .discord⟩
    ((d.dispatch x default s).run (.error "lost") []).requests ≠ [] ∧
      ((d.dispatch x default s).run (.error "lost") []).result =
        (some (.failure "Request failed: lost"), s) ∧
      ((d.handled y default).run (.error "lost") []).result =
        .error (.invalidArgs "missing symbol") ∧
      ((d.dispatch y default s).run (.error "lost") []).requests = [] := by
  intro b d s x y
  have hasks : ((d.dispatch x default s).run (.error "lost") []).requests ≠ [] := by decide +kernel
  have hinvalid : ((d.handled y default).run (.error "lost") []).result =
      .error (.invalidArgs "missing symbol") := by decide +kernel
  have hx := dispatch_requests b .discord d.mark "!" [] x default s (.error "lost") []
  have hy := dispatch_requests b .discord d.mark "!" [] y default s (.error "lost") []
  exact ⟨hasks, hx.2.2.2.2 "lost" hasks rfl, hinvalid, (hy.2.2.1 _ hinvalid).1⟩

end Dispatcher

end ChatBot
