import ChatBot.Command.BuiltIn
import ChatBot.Proofs.Failing
import ChatBot.Proofs.Service.Steps

/-!
What comes of serving a connection.

* `exists_deliveries`: messages that are answered one after another, each with the
  answers of services that it takes;
* `Serving.run_serve`: the program serves a connection along one of the runs;
* `service_answers_all`: a connection that closes has got all that is due, whatever fails meanwhile;
* `service_failure_iff`: a connection that fails has got all that is due only if no handler was left
  with a text to send. `service_failure_drops` is a run where one was.
-/

namespace ChatBot

open ChatBot.Storage
open scoped List

namespace Dispatcher

variable {d : Dispatcher} {s : Store}

/-! ### The program -/

/-- Messages that are answered one after another get the answers of services one after another. -/
lemma exists_deliveries (d : Dispatcher) (accepts : String → Bool) (c : Circumstances)
    (last : Web.Answer) (ms : List Message) (s : Store) (answers : List Web.Answer) :
    ∃ ys : List Delivery, ys.map (·.message) = ms ∧
      ((d.answerAll accepts c ms s).run last answers).result =
        (d.texts accepts ys s, d.after ys s) := by
  induction ms generalizing s answers with
  | nil => exact ⟨[], rfl, Web.Exchange.result_run_done last _ answers⟩
  | cons m rest ih =>
      have hall : d.answerAll accepts c (m :: rest) s =
          (d.dispatch m c s).bind fun answer =>
              (d.answerAll accepts c rest answer.2).bind fun others =>
            .done (m.texts accepts answer.1 ++ others.1, others.2) :=
        Web.Exchange.bind_assoc (d.dispatch m c s) _ _
      obtain ⟨ys, hys, hrun⟩ := ih (d.deliver ⟨m, c, answers, last⟩ s).2
        ((d.dispatch m c s).run last answers).unused
      refine ⟨⟨m, c, answers, last⟩ :: ys, congrArg (m :: ·) hys, ?_⟩
      rw [hall, Web.Exchange.result_run_bind, Web.Exchange.result_run_bind,
        Web.Exchange.result_run_done]
      exact congrArg (fun others : List (String × String) × Store =>
        (m.texts accepts (d.deliver ⟨m, c, answers, last⟩ s).1 ++ others.1, others.2)) hrun

section Serve

variable {connection : Connection} {t : Schedule} {c : Circumstances} {last : Web.Answer}
  {answers : List Web.Answer}

/-- Without a connection nothing is done. -/
lemma result_serve_of_refused {cause : BotError} (hstart : connection.startFailure = some cause) :
    ((d.serve connection t c s).run last answers).result = ⟨some cause, [], s⟩ := by
  rw [serve, hstart]
  exact Web.Exchange.result_run_done last _ answers

/-- With a connection, messages are answered until it closes or fails. -/
lemma result_serve (hstart : connection.startFailure = none) {sent : List (String × String)}
    {now : Store}
    (hanswered : ((d.answerAll connection.accepts c (t.answered connection.events) s).run last
      answers).result = (sent, now)) :
    ((d.serve connection t c s).run last answers).result =
      ⟨Connection.failure? connection.events, sent, now⟩ := by
  have hserve : d.serve connection t c s =
      (d.answerAll connection.accepts c (t.answered connection.events) s).bind fun done =>
        .done ⟨Connection.failure? connection.events, done.1, done.2⟩ := by
    rw [serve, hstart]
    rfl
  rw [hserve, Web.Exchange.result_run_bind, Web.Exchange.result_run_done, hanswered]

end Serve

end Dispatcher

namespace Serving

open Dispatcher

variable {d : Dispatcher} {c : Source} {s : Store}

/-- **The program** serves a connection along one of the runs, if its schedule
gives every message its turn. -/
theorem run_serve (d : Dispatcher) (connection : Connection) {t : Schedule}
    (horder : ∀ ms, (t.order ms).Perm ms) (circumstances : Circumstances) (s : Store)
    (last : Web.Answer) (answers : List Web.Answer) :
    ∃ c : Source, c.startFailure = connection.startFailure ∧
      c.messages.map (·.message) = Connection.messages connection.events ∧
      c.failure = Connection.failure? connection.events ∧ c.accepts = connection.accepts ∧
      Run d c (.starting s)
        (.stopped ((d.serve connection t circumstances s).run last answers).result) := by
  obtain ⟨ys, hys, hanswered⟩ := exists_deliveries d connection.accepts circumstances last
    (t.answered connection.events) s answers
  -- The messages that are not answered may be delivered with any answers.
  obtain ⟨rest, hperm⟩ : ∃ rest : List Delivery,
      Connection.messages connection.events ~ (ys ++ rest).map (·.message) ∧
        (Connection.failure? connection.events = none → rest = []) := by
    cases hfailure : Connection.failure? connection.events with
    | none =>
        refine ⟨[], ?_, fun _ => rfl⟩
        rw [List.append_nil, hys, Schedule.answered, hfailure]
        exact (horder _).symm
    | some cause =>
        refine ⟨((t.order (Connection.messages connection.events)).drop t.progress).map
          fun m => ⟨m, circumstances, [], last⟩, ?_, nofun⟩
        rw [List.map_append, hys, Schedule.answered, hfailure, List.map_map]
        simpa [Function.comp_def] using (horder _).symm
  obtain ⟨hperm, hrest⟩ := hperm
  obtain ⟨messages, hmessages, hsame⟩ : ∃ messages : List Delivery,
      Connection.messages connection.events = messages.map (·.message) ∧ messages ~ ys ++ rest := by
    have hcomp := congrFun₂ (List.eq_map_comp_perm Delivery.message)
    exact (hcomp _ _).mpr hperm
  refine ⟨⟨connection.startFailure, messages, Connection.failure? connection.events,
    connection.accepts⟩, rfl, hmessages.symm, rfl, rfl, ?_⟩
  cases hstart : connection.startFailure with
  | some cause =>
      rw [result_serve_of_refused hstart]
      exact .single (.refuse s rfl)
  | none =>
      rw [result_serve hstart hanswered]
      cases hfailure : Connection.failure? connection.events with
      | none =>
          obtain rfl := hrest hfailure
          rw [List.append_nil] at hsame
          exact run_stopped_of_close rfl rfl hsame.symm
      | some cause => exact run_stopped_of_failure rfl rfl hsame.symm

/-! ### A connection that closes -/

/-- A part has all of a list and more only if nothing is left out, and there is no more. -/
lemma perm_append_iff {α : Type} {part left all : List α} (h : part ++ left ~ all) (more : List α) :
    part ~ all ++ more ↔ left = [] ∧ more = [] := by
  refine ⟨fun hpart => ?_, ?_⟩
  · have hall := h.length_eq
    have hmore := hpart.length_eq
    rw [List.length_append] at hall hmore
    exact ⟨List.length_eq_zero_iff.mp (by omega), List.length_eq_zero_iff.mp (by omega)⟩
  · rintro ⟨rfl, rfl⟩
    rw [List.append_nil] at h ⊢
    exact h

/-- A connection that fails stops the bot at once, with what its handlers have done by then. -/
lemma run_stopped_iff (hstart : c.startFailure = none) {cause : BotError}
    (hfailure : c.failure = some cause) {r : Served} : Run d c (.starting s) (.stopped r) ↔
      ∃ w, Run d c (.starting s) (.receiving [] w) ∧ r = ⟨some cause, w.sent, w.store⟩ := by
  refine ⟨fun hrun => ?_, ?_⟩
  · obtain ⟨u, hbefore, hlast⟩ := (Relation.ReflTransGen.cases_tail hrun).resolve_left nofun
    have hkept : Kept d c s u := kept_of_run hbefore
    cases hlast with
    | refuse _ hrefused => exact nomatch hstart.symm.trans hrefused
    | fail w hfailed =>
        obtain rfl := Option.some.inj (hfailure.symm.trans hfailed)
        exact ⟨w, hbefore, rfl⟩
    | finish sent now =>
        obtain ⟨-, hnone, -⟩ := hkept
        exact nomatch hfailure.symm.trans hnone
  · rintro ⟨w, hrun, rfl⟩
    exact hrun.tail (.fail w hfailure)

/-- **A connection that fails**: the bot stops with the failure, whichever handler gets its turn
next, and leaves what the handlers have done until then. The messages that a handler has answered
have got all that is due for them only if no handler is left with a text to send, although their
counters have counted. All messages have got what is due, the others in whatever order, only if
furthermore nothing is due for the messages that are not yet answered. -/
theorem service_failure_iff (d : Dispatcher) (c : Source) (s : Store) {cause : BotError}
    (hstart : c.startFailure = none) (hfailure : c.failure = some cause) :
    Ends d c (fun r => r.failure = some cause) (.starting s) ∧
    (∀ r, Run d c (.starting s) (.stopped r) ↔
      ∃ w, Run d c (.starting s) (.receiving [] w) ∧ r = ⟨some cause, w.sent, w.store⟩) ∧
    ∀ w, Run d c (.starting s) (.receiving [] w) →
      ∃ ys : List Delivery, (ys ++ w.waiting).Perm c.messages ∧ w.store = d.after ys s ∧
        (w.sent ++ w.unsent c.accepts).Perm (d.texts c.accepts ys s) ∧
        (w.sent.Perm (d.texts c.accepts ys s) ↔ w.unsent c.accepts = []) ∧
        ∀ zs : List Delivery, zs.Perm w.waiting →
          (w.sent.Perm (d.texts c.accepts (ys ++ zs) s) ↔
            w.unsent c.accepts = [] ∧ d.texts c.accepts zs w.store = []) := by
  refine ⟨?_, fun r => run_stopped_iff hstart hfailure, fun w hrun => ?_⟩
  · refine (ends_starting d c s).mono fun r hr => ?_
    rw [Result, hstart] at hr
    exact hr.1.trans hfailure
  · obtain ⟨-, ys, hmessages, hstore, hsent⟩ : Kept d c s (.receiving [] w) := kept_of_run hrun
    rw [List.append_nil] at hmessages
    refine ⟨ys, hmessages, hstore, hsent, ?_, fun zs _ => ?_⟩
    · have hall := perm_append_iff hsent []
      rwa [List.append_nil, and_iff_left rfl] at hall
    · rw [d.texts_append, ← hstore]
      exact perm_append_iff hsent _

/-- A message that counts, on a connection that fails once the count has
gone up: its text is lost. -/
theorem service_failure_iff_of_tick :
    let d := Ticks.dispatcher
    let x := Ticks.message "#mikki" "!tick"
    let c : Source := { messages := [x], failure := some (.internal "lost") }
    let s := Ticks.store
    c.startFailure = none ∧ c.failure = some (.internal "lost") ∧
      Ends d c (fun r => r.failure = some (.internal "lost")) (.starting s) ∧
      Run d c (.starting s) (.stopped ⟨some (.internal "lost"), [], d.after [x] s⟩) ∧
      d.texts c.accepts [x] s = [("#mikki", "Mikki has wasted 42 ticks.")] ∧
      countIn (d.after [x] s) "mikki" "ticks" = 42 := by
  intro d x c s
  obtain ⟨hends, hstops, -⟩ := service_failure_iff d c s rfl rfl
  have hrun : Run d c (.starting s) (.receiving []
      ⟨[.ofReply x.message (d.deliver x s).1], [], (d.deliver x s).2⟩) :=
    .head (.start s rfl) (.head (.receive x [] _) (.single (.handle [] (.answer [] [] x [] s))))
  exact ⟨rfl, rfl, hends, (hstops _).mpr ⟨_, hrun, rfl⟩, by decide +kernel, by decide +kernel⟩

/-- A calculation that is under way when the connection fails is given up, though its failure to
come to an end would be told on a connection that closes. -/
theorem service_failure_drops :
    let b : BuiltIn := { botName := "harmonbot", worker := .hanging }
    let d : Dispatcher := ⟨⟨"!", .twitch⟩, b.commandSet "!" .twitch, []⟩
    let x := Ticks.message "#mikki" "!calc 1+1"
    let c : Source := { messages := [x], failure := some (.internal "lost") }
    let s : Store := ⟨⟨false, ["data"]⟩, FileTree.ofFiles [], []⟩
    d.texts c.accepts c.messages s = [("#mikki", "⛔ Execution exceeded time limit")] ∧
      Run d c (.starting s) (.stopped ⟨some (.internal "lost"), [], s⟩) ∧
      ¬∀ r, Run d c (.starting s) (.stopped r) → r.sent.Perm (d.texts c.accepts c.messages s) := by
  intro b d x c s
  have htexts : d.texts c.accepts c.messages s =
      [("#mikki", "⛔ Execution exceeded time limit")] := by
    decide +kernel
  have hrun : Run d c (.starting s) (.stopped ⟨some (.internal "lost"), [], s⟩) :=
    .head (.start s rfl) (.head (.receive x [] _) (.single (.fail _ rfl)))
  refine ⟨htexts, hrun, fun hall => ?_⟩
  have hnone := hall _ hrun
  rw [htexts] at hnone
  exact absurd hnone.length_eq (by decide)

end Serving

end ChatBot
