import ChatBot.Proofs.Requests

/-!
What becomes of a response whose status is not one of success.

* `Response.isSuccess_eq_false_iff`: the statuses that are meant;
* `Finance.ShowsRates`: the bodies that exchange rates are read from, whatever the status
  (`Finance.ofResponse_eq_ok_iff`);
* `BuiltIn.checksStatus_of_mem`: of the commands that ask, all check the status
  but the one for exchange rates;
* `Dispatcher.dispatch_unsuccessful`: so the reply to such a response is an error, exactly if it
  does not show exchange rates. `dispatch_unsuccessful_currency` is a reply that does.
-/

namespace ChatBot

open ChatBot.Storage

lemma Web.Response.isSuccess_eq_false_iff {r : Web.Response} :
    r.isSuccess = false ↔ r.status < 200 ∨ 299 < r.status := by
  simp only [isSuccess, Bool.and_eq_false_iff, decide_eq_false_iff_not]
  omega

/-! ### Exchange rates -/

namespace Finance

open ChatBot.Json (Node)

/-- Exchange rates stand in a text: it is JSON that has no error, does not deny
success and gives the rates. -/
def ShowsRates (body : String) (rates : ExchangeRates) : Prop :=
  ∃ value, (Node.ofText? body.toList).bind (Node.value? Json.maxDepth) = some value ∧
    field? value "error" = none ∧ field? value "success" ≠ some (.bool false) ∧
    ExchangeRates.ofNode? (Node.ofValue value) = some rates

lemma reportedFailure?_eq_none_iff {value : Json} : reportedFailure? value = none ↔
    field? value "error" = none ∧ field? value "success" ≠ some (.bool false) := by
  unfold reportedFailure?
  cases field? value "error" with
  | some failure => simp
  | none =>
      simp only [true_and]
      split
      · next hsuccess => simp [hsuccess]
      · next hsuccess => simpa using hsuccess

lemma ofBody_eq_ok_iff {value : Json} {rates : ExchangeRates} :
    ExchangeRates.ofBody value = .ok rates ↔
    reportedFailure? value = none ∧ ExchangeRates.ofNode? (Node.ofValue value) = some rates := by
  unfold ExchangeRates.ofBody
  cases reportedFailure? value with
  | some detail => simp
  | none => cases ExchangeRates.ofNode? (Node.ofValue value) <;> simp

/-- Rates are read from every body that shows them, whatever the status. -/
lemma ofResponse_eq_ok_iff {r : Web.Response} {rates : ExchangeRates} :
    ExchangeRates.ofResponse r = .ok rates ↔ ShowsRates r.body rates := by
  unfold ExchangeRates.ofResponse Web.Response.decodeBody ShowsRates
  cases (Node.ofText? r.body.toList).bind (Node.value? Json.maxDepth) with
  | none => exact iff_of_false nofun (by simp)
  | some value =>
      have hbody : ExchangeRates.ofBody value = .ok rates ↔ _ := ofBody_eq_ok_iff
      rw [reportedFailure?_eq_none_iff, and_assoc] at hbody
      show ExchangeRates.ofBody value = .ok rates ↔ _
      simpa using hbody

/-- The reply to a response shows the rates that are in its body. -/
lemma ratesResult_of_showsRates {r : Web.Response} {rates : ExchangeRates}
    (h : ShowsRates r.body rates) : ratesResult (.ok r) = .ok (.text rates.text) := by
  have hdata : (Except.ok r : Except Web.ApiError Web.Response).bind ExchangeRates.ofResponse =
      .ok rates :=
    ofResponse_eq_ok_iff.mpr h
  rw [ratesResult, Except.mapError, hdata]
  rfl

lemma ratesResult_of_not_showsRates {r : Web.Response} (h : ∀ rates, ¬ShowsRates r.body rates) :
    ∃ cause, ratesResult (.ok r) = .error cause := by
  cases hdata : ExchangeRates.ofResponse r with
  | ok rates => exact absurd (ofResponse_eq_ok_iff.mp hdata) (h rates)
  | error cause =>
      have hdata' : (Except.ok r : Except Web.ApiError Web.Response).bind ExchangeRates.ofResponse =
          .error cause := hdata
      rw [ratesResult, Except.mapError, hdata']
      exact ⟨_, rfl⟩

/-- What comes of a response to the question for rates: the rates that its body shows, or an
error. -/
lemma ratesReply_result (key : Option String) (m : Message) (last : Web.Answer)
    (answers : List Web.Answer) {response : Web.Response}
    (hanswer : answers.headD last = .ok response) :
    let out := (ratesReply key m).run.run last answers
    (∀ rates, out.requests ≠ [] → ShowsRates response.body rates →
      out.result = .ok (.text rates.text)) ∧
      ((∀ rates, out.requests ≠ [] → ¬ShowsRates response.body rates) →
          ∃ cause, out.result = .error cause) := by
  intro out
  have hdone {cause : CommandError} (hrun : (ratesReply key m).run = .done (.error cause)) :
      out = ⟨.error cause, [], answers⟩ :=
    (congrArg (·.run last answers) hrun).trans (Web.Exchange.run_done last answers _)
  cases key with
  | none =>
      obtain ⟨cause, hrun⟩ := ratesReply_none m
      rw [hdone hrun]
      exact ⟨fun _ hne => absurd rfl hne, fun _ => ⟨cause, rfl⟩⟩
  | some key =>
      rcases ratesReply_some_run key m with ⟨detail, hrun⟩ | ⟨request, hrun⟩
      · rw [hdone hrun]
        exact ⟨fun _ hne => absurd rfl hne, fun _ => ⟨_, rfl⟩⟩
      · have hout : out = ⟨ratesResult (.ok response), [request], answers.tail⟩ :=
          hanswer ▸ (congrArg (·.run last answers) hrun).trans
            (Web.Exchange.run_single last answers request ratesResult)
        rw [hout]
        exact ⟨fun _ _ hshows => ratesResult_of_showsRates hshows,
          fun hnot => ratesResult_of_not_showsRates fun rates => hnot rates (List.cons_ne_nil _ _)⟩

end Finance

/-! ### Commands that ask -/

namespace BuiltIn

variable {b : BuiltIn} {platform : Platform} {command : Command}

/-- The commands of these names are for money, about space or about a game. -/
lemma mem_of_askingNames (h : command ∈ b.commands platform) (hname : command.name ∈ askingNames) :
    command ∈ Finance.commands b.ratesKey ∨ command ∈ Astronomy.commands ∨
    command ∈ Overwatch.commands := by
  have hnot {cs : List Command} (hnames : (cs.map (·.name)).all (· ∉ askingNames) = true) :
      command ∉ cs := by
    intro hmem
    have hname' := List.all_eq_true.mp hnames _ (List.mem_map_of_mem hmem)
    exact absurd hname (by simpa using hname')
  have hothers : command ∉ defaults ++ Arithmetic.commands b.worker := hnot rfl
  have htwitch : command ∉ b.special .twitch := hnot rfl
  have hspecial := (List.mem_append.mp h).resolve_left hothers
  cases platform with
  | twitch => exact absurd hspecial htwitch
  | discord =>
      rw [BuiltIn.special, List.mem_append, List.mem_append, or_assoc] at hspecial
      exact hspecial

/-- All of them but the one for exchange rates check the status of a response. -/
lemma checksStatus_of_mem (h : command ∈ b.commands platform) (hname : command.name ∈ askingNames)
    (hkey : command.name ≠ "currency") : command.ChecksStatus := by
  rcases mem_of_askingNames h hname with h | h | h
  · exact Finance.commands_checkStatus b.ratesKey command h hkey
  · exact Astronomy.commands_checkStatus command h
  · exact Overwatch.commands_checkStatus command h

lemma handler_of_currency (h : command ∈ b.commands platform) (hname : command.name = "currency") :
    command.handler = some fun m _ => Finance.ratesReply b.ratesKey m := by
  have hasking : command.name ∈ askingNames := by simp [hname, askingNames]
  rcases mem_of_askingNames h hasking with h | h | h
  · simp only [Finance.commands, List.mem_cons, List.not_mem_nil, or_false] at h
    rcases h with rfl | rfl | rfl
    · exact absurd hname (by decide)
    · rfl
    · exact absurd hname (by decide)
  · exact absurd (List.mem_map_of_mem (f := Command.name) h) (by rw [hname]; decide)
  · exact absurd (List.mem_map_of_mem (f := Command.name) h) (by rw [hname]; decide)

end BuiltIn

/-! ### Replies -/

namespace Command.ChecksStatus

variable {command : Command} {handler : Handler} {response : Web.Response}

/-- What comes of such a response: an error with the words of its body, or
one that needed no request. -/
lemma result (h : command.ChecksStatus) (hhandler : command.handler = some handler) (m : Message)
    (c : Circumstances) (last : Web.Answer) (answers : List Web.Answer)
    (hanswer : answers.headD last = .ok response) (hstatus : response.isSuccess = false) :
    let out := (handler m c).run.run last answers
    (∃ cause, out.result = .error cause) ∧
      (out.requests ≠ [] → out.result = .error (.api response.serviceError)) := by
  obtain ⟨_, hsome, hchecks⟩ := h
  obtain rfl := Option.some.inj (hsome.symm.trans hhandler)
  intro out
  rcases hchecks m c with ⟨detail, hrun⟩ | ⟨request, result, hrun, -, -, hfails⟩
  · have hout : out = _ :=
      (congrArg (·.run last answers) hrun).trans (Web.Exchange.run_done last answers _)
    rw [hout]
    exact ⟨⟨_, rfl⟩, fun hne => absurd rfl hne⟩
  · have hout : out = _ :=
      (congrArg (·.run last answers) hrun).trans
        (Web.Exchange.run_single last answers request result)
    rw [hout, hanswer, hfails response hstatus]
    exact ⟨⟨_, rfl⟩, fun _ => rfl⟩

end Command.ChecksStatus

namespace Dispatcher

/-- The reply is made of what the handler of a command that asks gives, and the requests
are those of the handler. -/
lemma dispatch_of_asking {d : Dispatcher} {m : Message} {command : Command} {handler : Handler}
    (hcalled : d.called? m = some command) (hname : command.name ∈ askingNames)
    (hhandler : command.handler = some handler) (c : Circumstances) (s : Store) (last : Web.Answer)
    (answers : List Web.Answer) :
    let told := (handler (d.reread m) c).run.run last answers
    let out := (d.dispatch m c s).run last answers
    out.result = (some (.ofResult told.result), s) ∧ out.requests = told.requests := by
  have hhelp : command.name ≠ CommandSet.helpName := by
    rintro heq
    exact absurd (heq ▸ hname) (by decide)
  intro told out
  have hout : out = _ := (run_of_handler hcalled hhelp hhandler c s last answers).1
  rw [hout]
  exact ⟨rfl, rfl⟩

/-- **Responses that are no success**: if a message names a command that asks, and the response has
no status from 200 to 299, then the reply is an error, unless the command is the one for exchange
rates, it makes its request, and the body shows rates. In that case the reply shows them. All other
commands reply with the words of the body to such a response. -/
theorem dispatch_unsuccessful (b : BuiltIn) (platform : Platform) (mark : CommandMark)
    (shown : String)
    (counters : List Counter) (m : Message) (c : Circumstances) (s : Store) (last : Web.Answer)
    (answers : List Web.Answer) {command : Command} {response : Web.Response}
    (hcalled : (⟨mark, b.commandSet shown platform, counters⟩ : Dispatcher).called? m =
      some command)
    (hname : command.name ∈ askingNames) (hanswer : answers.headD last = .ok response)
    (hstatus : response.status < 200 ∨ 299 < response.status) :
    let d : Dispatcher := ⟨mark, b.commandSet shown platform, counters⟩
    let out := (d.dispatch m c s).run last answers
    let shows := fun rates =>
      command.name = "currency" ∧ out.requests ≠ [] ∧ Finance.ShowsRates response.body rates
    ((∃ detail, out.result = (some (.failure detail), s)) ↔ ∀ rates, ¬shows rates) ∧
      (∀ rates, shows rates → out.result = (some (.text rates.text), s)) ∧
      (command.name ≠ "currency" → out.requests ≠ [] →
        out.result = (some (.failure ("Error: " ++ response.trimmedBody)), s)) := by
  intro d out shows
  obtain ⟨name, args, rest, -, hfind⟩ := content_of_called? hcalled
  have hmem := BuiltIn.mem_commands_of_find? hfind
  have hunsuccessful := Web.Response.isSuccess_eq_false_iff.mpr hstatus
  by_cases hkey : command.name = "currency"
  · have hhandler := BuiltIn.handler_of_currency hmem hkey
    obtain ⟨hresult, hrequests⟩ := dispatch_of_asking hcalled hname hhandler c s last answers
    obtain ⟨hrates, hfailed⟩ :=
      Finance.ratesReply_result b.ratesKey (d.reread m) last answers hanswer
    rw [← hrequests] at hrates hfailed
    have hshows (rates : Finance.ExchangeRates) (h : shows rates) :
        out.result = (some (.text rates.text), s) := by
      rw [hresult, hrates rates h.2.1 h.2.2]
      rfl
    refine ⟨⟨fun ⟨detail, hfailure⟩ rates h => ?_, fun hnot => ?_⟩, hshows,
      fun hne => absurd hkey hne⟩
    · exact nomatch (hshows rates h).symm.trans hfailure
    · obtain ⟨cause, hcause⟩ := hfailed fun rates hne hbody => hnot rates ⟨hkey, hne, hbody⟩
      exact ⟨cause.message, by rw [hresult, hcause]; rfl⟩
  · have hchecks := BuiltIn.checksStatus_of_mem hmem hname hkey
    obtain ⟨handler, hhandler, -⟩ := id hchecks
    obtain ⟨hresult, hrequests⟩ := dispatch_of_asking hcalled hname hhandler c s last answers
    obtain ⟨⟨cause, hcause⟩, hbody⟩ :=
      hchecks.result hhandler (d.reread m) c last answers hanswer hunsuccessful
    rw [← hrequests] at hbody
    refine ⟨iff_of_true ⟨cause.message, by rw [hresult, hcause]; rfl⟩ fun _ h => hkey h.1,
      fun _ h => absurd h.1 hkey, fun _ hne => ?_⟩
    rw [hresult, hbody hne]
    rfl

/-- A stock that is not known. -/
theorem dispatch_unsuccessful_of_unknown :
    let b : BuiltIn := { botName := "harmonbot", ratesKey := some "key" }
    let d : Dispatcher := ⟨⟨"!", .discord⟩, b.commandSet "!" .discord, []⟩
    let s : Store := ⟨⟨true, []⟩, .ofFiles [], []⟩
    let m : Message := ⟨"#a", .text "!stock XYZ", none, .discord⟩
    let response : Web.Response := ⟨404, "Unknown symbol\n"⟩
    (∃ command, d.called? m = some command ∧ command.name ∈ askingNames) ∧
      (response.status < 200 ∨ 299 < response.status) ∧
      ((d.dispatch m default s).run (.error "lost") [.ok response]).result =
        (some (.failure "Error: Unknown symbol"), s) := by
  intro b d s m response
  have hname : (d.called? m).map (·.name) = some "stock" := by decide +kernel
  obtain ⟨command, hcalled, hname⟩ := Option.map_eq_some_iff.mp hname
  have hasking : command.name ∈ askingNames := by simp [hname, askingNames]
  have hstatus : response.status < 200 ∨ 299 < response.status := .inr (by decide)
  obtain ⟨-, -, hreply⟩ :=
    dispatch_unsuccessful b .discord ⟨"!", .discord⟩ "!" [] m default s (.error "lost")
    [.ok response] hcalled hasking rfl hstatus
  have hbody : response.trimmedBody = "Unknown symbol" := by decide +kernel
  refine ⟨⟨command, hcalled, hasking⟩, hstatus, ?_⟩
  rw [hreply (by rw [hname]; decide) (by decide +kernel), hbody]
  rfl

/-- Not every response that is no success is replied to with an error: rates are shown, although
their status says that there is no service. -/
theorem dispatch_unsuccessful_currency :
    ¬∀ (b : BuiltIn) (m : Message) (s : Store) (command : Command) (response : Web.Response),
      let d : Dispatcher := ⟨⟨"!", .discord⟩, b.commandSet "!" .discord, []⟩
      d.called? m = some command → command.name ∈ askingNames →
        (response.status < 200 ∨ 299 < response.status) →
          ∃ detail, ((d.dispatch m default s).run (.error "lost") [.ok response]).result =
            (some (.failure detail), s) := by
  intro hall
  let b : BuiltIn := { botName := "harmonbot", ratesKey := some "key" }
  let d : Dispatcher := ⟨⟨"!", .discord⟩, b.commandSet "!" .discord, []⟩
  let s : Store := ⟨⟨true, []⟩, .ofFiles [], []⟩
  let m : Message := ⟨"#a", .text "!currency", none, .discord⟩
  let response : Web.Response :=
    ⟨503, "\x7b\"base\": \"EUR\", \"date\": \"2018-04-20\", \"rates\": \x7b\"USD\": 2\x7d\x7d"⟩
  have hname : (d.called? m).map (·.name) = some "currency" := by decide +kernel
  have hshown : ((d.dispatch m default s).run (.error "lost") [.ok response]).result.1 =
      some (.text "Against EUR\nUSD: 2\nDate: 2018-04-20") := by
    decide +kernel
  obtain ⟨command, hcalled, hname⟩ := Option.map_eq_some_iff.mp hname
  have hasking : command.name ∈ askingNames := by simp [hname, askingNames]
  obtain ⟨detail, hfailure⟩ := hall b m s command response hcalled hasking (.inr (by decide))
  rw [hfailure] at hshown
  exact absurd (Option.some.inj hshown) (by simp)

end Dispatcher

end ChatBot
