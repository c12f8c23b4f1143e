import Mathlib.Tactic
import ChatBot.Command.BuiltIn

/-!
What commands ask services.

* `Exchange.single`: one request, and a result whatever comes back. `run_done`, `run_single` and
  `run_bind_done` say how such computations run;
* `Action.AsksOnce`: one request and no more, and an error if the transport fails;
* `Query.ChecksStatus`, `Action.ChecksStatus`: besides, an error if the
  response has no status of success;
* `Action.Refuses`: the arguments are no good, and nobody is asked;
* `Command.IsQuiet`, `Command.Asks`, `Command.ChecksStatus`: what a command does with any message;
* `Command.MayAsk`: the commands that ask services, of which one needs a key.
  `BuiltIn.commands_behave` says that these ask and no others.
-/

namespace ChatBot

/-! ### Requests -/

namespace Web.Exchange

variable {α β : Type} (last : Answer) (answers : List Answer)

/-- One request, and a result whatever comes back. -/
def single (request : Request) (result : Answer → α) : Exchange α :=
  .ask request fun answer => .done (result answer)

lemma run_done (a : α) : (Exchange.done a).run last answers = ⟨a, [], answers⟩ := by
  cases answers <;> rfl

lemma run_single (request : Request) (result : Answer → α) :
    (single request result).run last answers =
      ⟨result (answers.headD last), [request], answers.tail⟩ := by
  cases answers <;> rfl

/-- What is made of a result takes no requests. -/
lemma run_bind_done (x : Exchange α) (f : α → β) :
    (x.bind fun a => .done (f a)).run last answers =
      ⟨f (x.run last answers).result, (x.run last answers).requests,
        (x.run last answers).unused⟩ := by
  induction x generalizing answers with
  | done a => cases answers <;> rfl
  | ask request next ih =>
      cases answers with
      | nil => simp only [bind, run, ih last []]
      | cons answer rest => simp only [bind, run, ih answer rest]

end Web.Exchange

/-- The query makes one request, and fails if the transport does or the
status is not one of success. -/
def Web.Query.ChecksStatus {α : Type} (q : Web.Query α) : Prop :=
  ∃ request result, q.run = .single request result ∧
    (∀ detail, result (.error detail) = .error (.transport detail)) ∧
    ∀ response : Web.Response,
      response.isSuccess = false → result (.ok response) = .error response.serviceError

namespace Action

/-- The action does not take the arguments, and asks nobody. -/
def Refuses (x : Action) : Prop := ∃ detail, x.run = .done (.error (.invalidArgs detail))

/-- The action makes one request. It fails if the transport does, and it takes the arguments. -/
def AsksOnce (x : Action) : Prop :=
  ∃ request result, x.run = .single request result ∧
    (∀ detail, result (.error detail) = .error (.api (.transport detail))) ∧
    ∀ answer detail, result answer ≠ .error (.invalidArgs detail)

/-- The action makes one request. It fails if the transport does or the status is not one of
success, and it takes the arguments. -/
def ChecksStatus (x : Action) : Prop :=
  ∃ request result, x.run = .single request result ∧
    (∀ detail, result (.error detail) = .error (.api (.transport detail))) ∧
    (∀ answer detail, result answer ≠ .error (.invalidArgs detail)) ∧
    ∀ response : Web.Response, response.isSuccess = false →
      result (.ok response) = .error (.api response.serviceError)

lemma ChecksStatus.asksOnce {x : Action} (h : x.ChecksStatus) : x.AsksOnce := by
  obtain ⟨request, result, hrun, htransport, htakes, -⟩ := h
  exact ⟨request, result, hrun, htransport, htakes⟩

lemma refuses_ofExcept (detail : String) : (ofExcept (.error (.invalidArgs detail))).Refuses :=
  ⟨detail, rfl⟩

end Action

namespace Web

variable {α : Type} {q : Query α}

/-- A request with what is made of its response. -/
lemma run_get_bind (url : String) (query : List (String × String))
    (f : Response → Except ApiError α) :
    (get url query >>= fun response => ExceptT.mk (.done (f response)) : Query α).run =
      .single ⟨url, query⟩ fun answer => (answer.mapError .transport).bind f :=
  congrArg (Exchange.ask _) (funext fun answer => by cases answer <;> rfl)

lemma checksStatus_get (url : String) (query : List (String × String))
    {f : Response → Except ApiError α}
    (hf : ∀ response, response.isSuccess = false → f response = .error response.serviceError) :
    Query.ChecksStatus (get url query >>= fun response => ExceptT.mk (.done (f response))) :=
  ⟨_, _, run_get_bind url query f, fun _ => rfl, hf⟩

lemma checksStatus_fetch (url : String) (query : List (String × String))
    (value? : Json.Node → Option α) : (fetch url query value?).ChecksStatus :=
  checksStatus_get url query fun response hstatus => by
    rw [Response.decode, hstatus, if_neg Bool.false_ne_true]

/-- A request with the reply that is made of the data. -/
lemma Query.run_answer {request : Request} {result : Answer → Except ApiError α}
    (hrun : q.run = .single request result) (f : α → Except CommandError Reply) :
    (q.lift >>= fun a => ExceptT.mk (.done (f a)) : Action).run =
      .single request fun answer => ((result answer).mapError .api).bind f := by
  have hlift : (q.lift).run = .single request fun answer => (result answer).mapError .api := by
    rw [Query.lift, hrun]
    rfl
  have hstep (answer : Answer) : (Exchange.done ((result answer).mapError CommandError.api)).bind
      (ExceptT.bindCont fun a => ExceptT.mk (.done (f a))) =
        .done (((result answer).mapError .api).bind f) := by
    cases result answer <;> rfl
  show q.lift.run.bind _ = _
  rw [hlift]
  exact congrArg (Exchange.ask request) (funext hstep)

/-- An action that makes a reply of the data fails where the query does. -/
lemma Query.ChecksStatus.answer (hq : q.ChecksStatus) {f : α → Except CommandError Reply}
    (hf : ∀ a detail, f a ≠ .error (.invalidArgs detail)) :
    Action.ChecksStatus (q.lift >>= fun a => ExceptT.mk (.done (f a))) := by
  obtain ⟨request, result, hrun, htransport, hstatus⟩ := hq
  refine ⟨request, _, Query.run_answer hrun f, fun detail => ?_, fun answer detail => ?_,
    fun response hunsuccessful => ?_⟩
  · rw [htransport]
    rfl
  · show ((result answer).mapError CommandError.api).bind f ≠ _
    cases result answer with
    | error cause => exact nofun
    | ok a => exact hf a detail
  · rw [hstatus response hunsuccessful]
    rfl

end Web

/-! ### Commands -/

/-- The names of the commands that ask services. -/
def askingNames : List String := ["bitcoin", "currency", "stock", "iss", "people", "overwatch"]

namespace Command

/-- The command answers on its own. -/
def IsQuiet (c : Command) : Prop :=
  ∀ handler, c.handler = some handler →
    ∀ m circumstances, ∃ result, (handler m circumstances).run = .done result

/-- The command asks a service about every message whose arguments it takes. -/
def Asks (c : Command) : Prop :=
  ∃ handler, c.handler = some handler ∧
    ∀ m circumstances, (handler m circumstances).Refuses ∨ (handler m circumstances).AsksOnce

/-- The command asks a service about every message whose arguments it
takes, and checks the status. -/
def ChecksStatus (c : Command) : Prop :=
  ∃ handler, c.handler = some handler ∧
    ∀ m circumstances, (handler m circumstances).Refuses ∨ (handler m circumstances).ChecksStatus

/-- The name of the command is one of those that ask. Without a key nobody is
asked for exchange rates. -/
def MayAsk (key : Option String) (c : Command) : Prop :=
  c.name ∈ askingNames ∧ (c.name = "currency" → key.isSome = true)

/-- The command asks if it may, and answers on its own otherwise. -/
def Behaves (key : Option String) (c : Command) : Prop :=
  c.MayAsk key ∧ c.Asks ∨ ¬c.MayAsk key ∧ c.IsQuiet

lemma isQuiet_of_none {c : Command} (h : c.handler = none) : c.IsQuiet := by
  intro handler hhandler
  exact nomatch h.symm.trans hhandler

lemma isQuiet_of_result {c : Command} {f : Message → Circumstances → Except CommandError Reply}
    (h : c.handler = some fun m circumstances => .ofExcept (f m circumstances)) : c.IsQuiet := by
  intro handler hhandler m circumstances
  obtain rfl := Option.some.inj (h.symm.trans hhandler)
  exact ⟨f m circumstances, rfl⟩

lemma isQuiet_of_text {c : Command} {f : Message → Circumstances → String}
    (h : c.handler = some fun m circumstances => .say (f m circumstances)) : c.IsQuiet :=
  isQuiet_of_result (f := fun m circumstances => .ok (.text (f m circumstances))) h

variable {key : Option String} {c : Command}

lemma ChecksStatus.asks (h : c.ChecksStatus) : c.Asks := by
  obtain ⟨handler, hhandler, hchecks⟩ := h
  exact ⟨handler, hhandler, fun m circumstances =>
    (hchecks m circumstances).imp_right Action.ChecksStatus.asksOnce⟩

lemma behaves_of_checksStatus (hname : c.name ∈ askingNames) (hkey : c.name ≠ "currency")
    (h : c.ChecksStatus) : c.Behaves key :=
  .inl ⟨⟨hname, fun hcurrency => absurd hcurrency hkey⟩, h.asks⟩

lemma behaves_of_isQuiet (hname : c.name ∉ askingNames) (h : c.IsQuiet) : c.Behaves key :=
  .inr ⟨fun hmay => hname hmay.1, h⟩

end Command

open Command

variable {key : Option String}

/-! ### Commands for money -/

namespace Finance

lemma replyOf_ne_invalidArgs (text : Except Web.ApiError String) (detail : String) :
    (text.map Reply.text).mapError CommandError.api ≠ .error (.invalidArgs detail) := by
  cases text <;> exact nofun

lemma replyWith_checksStatus {α : Type} {q : Web.Query α} (hq : q.ChecksStatus)
    (text : α → Except Web.ApiError String) : (replyWith q text).ChecksStatus :=
  hq.answer fun a => replyOf_ne_invalidArgs (text a)

/-- An argument that must be there is, or the action that wants it refuses. -/
lemma requiredArg_cases (m : Message) (index : ℕ) (what : String) :
    (∃ arg, m.requiredArg index what = .ok arg) ∨
      ∃ detail, m.requiredArg index what = .error (.invalidArgs detail) := by
  unfold Message.requiredArg
  split
  · exact .inl ⟨_, rfl⟩
  · exact .inr ⟨_, rfl⟩

lemma dayArg_cases (day : String) :
    dayArg day = .ok day ∨ ∃ detail, dayArg day = .error (.invalidArgs detail) := by
  unfold dayArg
  split
  · exact .inl rfl
  · exact .inr ⟨_, rfl⟩

/-- A day that may be missing is given or missing, or it is refused. -/
lemma mapM_dayArg_cases (day : Option String) :
    (∃ day', day.mapM dayArg = .ok day') ∨
    ∃ detail, day.mapM dayArg = .error (.invalidArgs detail) := by
  cases day with
  | none => exact .inl ⟨none, rfl⟩
  | some day =>
      rcases dayArg_cases day with hday | ⟨detail, hday⟩
      · exact .inl ⟨some day, by rw [Option.mapM_some, hday]; rfl⟩
      · exact .inr ⟨detail, by rw [Option.mapM_some, hday]; rfl⟩

lemma bitcoinReply_cases (m : Message) :
    (bitcoinReply m).Refuses ∨ (bitcoinReply m).ChecksStatus := by
  unfold bitcoinReply
  split
  · exact .inr (replyWith_checksStatus (Web.checksStatus_fetch _ _ _) _)
  · next word others _ =>
    split_ifs
    · exact .inr (replyWith_checksStatus (Web.checksStatus_fetch _ _ _) _)
    · rcases mapM_dayArg_cases others.head? with ⟨day, hday⟩ | ⟨detail, hday⟩
      · rw [hday]
        exact .inr (replyWith_checksStatus (Web.checksStatus_fetch _ _ _) _)
      · rw [hday]
        exact .inl (Action.refuses_ofExcept detail)
    · exact .inr (replyWith_checksStatus (Web.checksStatus_fetch _ _ _) _)

/-- The day that rates are asked for is given, or refused. -/
lemma rateDay_cases (m : Message) : (∃ day, m.requiredArg 1 "date" >>= dayArg = .ok day) ∨
    ∃ detail, m.requiredArg 1 "date" >>= dayArg = .error (.invalidArgs detail) := by
  rcases requiredArg_cases m 1 "date" with ⟨arg, harg⟩ | ⟨detail, harg⟩
  · rw [harg]
    exact (dayArg_cases arg).imp (fun h => ⟨arg, h⟩) id
  · exact .inr ⟨detail, by rw [harg]; rfl⟩

/-- The reply that is made of an answer to the question for rates. The status of
a response does not count. -/
def ratesResult (answer : Web.Answer) : Except CommandError Reply :=
  (((answer.mapError .transport).bind ExchangeRates.ofResponse).map fun r =>
    Reply.text r.text).mapError .api

/-- What is asked for rates. -/
def ratesRequest (key : String) (day : Option String) (base symbols : String) : Web.Request :=
  ⟨ratesUrl ++ "/" ++ day.getD "latest",
    ("access_key", key) :: upperParameter "base" base ++ upperParameter "symbols" symbols⟩

/-- With a key, rates are asked for. -/
lemma run_replyWith_exchangeRates (key : String) (day : Option String) (base symbols : String) :
    (replyWith (exchangeRates (some key) day base symbols) fun r => .ok r.text).run =
      .single (ratesRequest key day base symbols) ratesResult := by
  refine (Web.Query.run_answer (Web.run_get_bind _ _ ExchangeRates.ofResponse) _).trans
    (congrArg _ (funext fun answer => ?_))
  unfold ratesResult
  cases (answer.mapError .transport).bind ExchangeRates.ofResponse <;> rfl

/-- With a key, the day is refused or rates are asked for. -/
lemma ratesReply_some_run (key : String) (m : Message) :
    (ratesReply (some key) m).Refuses ∨
    ∃ request, (ratesReply (some key) m).run = .single request ratesResult := by
  unfold ratesReply
  split_ifs
  · rcases rateDay_cases m with ⟨day, hday⟩ | ⟨detail, hday⟩
    · rw [hday]
      exact .inr ⟨_, run_replyWith_exchangeRates _ _ _ _⟩
    · rw [hday]
      exact .inl (Action.refuses_ofExcept detail)
  · exact .inr ⟨_, run_replyWith_exchangeRates _ _ _ _⟩

lemma ratesReply_some_cases (key : String) (m : Message) :
    (ratesReply (some key) m).Refuses ∨ (ratesReply (some key) m).AsksOnce := by
  refine (ratesReply_some_run key m).imp_right fun ⟨request, hrun⟩ =>
    ⟨request, ratesResult, hrun, fun _ => rfl, fun answer detail => ?_⟩
  unfold ratesResult
  cases (answer.mapError .transport).bind ExchangeRates.ofResponse <;> exact nofun

/-- Without a key, the reply is an error that needs no request. -/
lemma ratesReply_none (m : Message) : ∃ cause, (ratesReply none m).run = .done (.error cause) := by
  unfold ratesReply
  split_ifs
  · rcases rateDay_cases m with ⟨day, hday⟩ | ⟨detail, hday⟩
    · rw [hday]
      exact ⟨_, rfl⟩
    · rw [hday]
      exact ⟨_, rfl⟩
  · exact ⟨_, rfl⟩

lemma stockPrice_checksStatus (symbol : String) : (stockPrice symbol).ChecksStatus :=
  Web.checksStatus_get _ [] fun response hstatus => by rw [hstatus, if_neg Bool.false_ne_true]

lemma stockReply_cases (m : Message) : (stockReply m).Refuses ∨ (stockReply m).ChecksStatus := by
  unfold stockReply
  rcases requiredArg_cases m 0 "symbol" with ⟨first, hfirst⟩ | ⟨detail, hfirst⟩
  · rw [hfirst]
    dsimp only
    -- the four kinds of data are asked for in the same way, once there is a symbol
    rcases requiredArg_cases m 1 "symbol" with ⟨symbol, hsymbol⟩ | ⟨detail, hsymbol⟩
    · rw [hsymbol]
      right
      split
      · exact replyWith_checksStatus (Web.checksStatus_fetch _ _ _) _
      · exact replyWith_checksStatus (Web.checksStatus_fetch _ _ _) _
      · exact replyWith_checksStatus (Web.checksStatus_fetch _ _ _) _
      · exact replyWith_checksStatus (Web.checksStatus_fetch _ _ _) _
      · exact replyWith_checksStatus (stockPrice_checksStatus _) _
    · rw [hsymbol]
      split
      · exact .inl (Action.refuses_ofExcept detail)
      · exact .inl (Action.refuses_ofExcept detail)
      · exact .inl (Action.refuses_ofExcept detail)
      · exact .inl (Action.refuses_ofExcept detail)
      · exact .inr (replyWith_checksStatus (stockPrice_checksStatus _) _)
  · rw [hfirst]
    exact .inl (Action.refuses_ofExcept detail)

lemma commands_checkStatus (key : Option String) :
    ∀ c ∈ commands key, c.name ≠ "currency" → c.ChecksStatus := by
  simp only [commands, List.forall_mem_cons, List.not_mem_nil, false_implies, implies_true,
    and_true]
  exact ⟨fun _ => ⟨_, rfl, fun m _ => bitcoinReply_cases m⟩, fun h => absurd rfl h,
    fun _ => ⟨_, rfl, fun m _ => stockReply_cases m⟩⟩

lemma commands_behave (key : Option String) : ∀ c ∈ commands key, c.Behaves key := by
  have hchecks := commands_checkStatus key
  simp only [commands, List.forall_mem_cons, List.not_mem_nil, false_implies, implies_true,
    and_true]
    at hchecks ⊢
  refine ⟨behaves_of_checksStatus (by simp [askingNames]) (by simp) (hchecks.1 (by simp)), ?_,
    behaves_of_checksStatus (by simp [askingNames]) (by simp) (hchecks.2.2 (by simp))⟩
  cases key with
  | none =>
      refine .inr ⟨fun hmay => absurd (hmay.2 rfl) (by decide), fun handler hhandler m _ => ?_⟩
      obtain rfl := Option.some.inj hhandler
      obtain ⟨cause, hrun⟩ := ratesReply_none m
      exact ⟨_, hrun⟩
  | some key =>
      exact .inl ⟨⟨by simp [askingNames], fun _ => rfl⟩, _, rfl,
        fun m _ => ratesReply_some_cases key m⟩

end Finance

/-! ### Commands about space and games -/

namespace Astronomy

lemma commands_checkStatus : ∀ c ∈ commands, c.ChecksStatus := by
  have hstation : Action.ChecksStatus (do return .text (← stationPosition.lift).text) :=
    Web.Query.ChecksStatus.answer (Web.checksStatus_fetch _ _ _) fun _ _ => nofun
  have hpeople : Action.ChecksStatus (do return .text (← peopleInSpace.lift).text) :=
    Web.Query.ChecksStatus.answer (Web.checksStatus_fetch _ _ _) fun _ _ => nofun
  simp only [commands, List.forall_mem_cons, List.not_mem_nil, false_implies, implies_true,
    and_true]
  exact ⟨⟨_, rfl, fun _ _ => .inr hstation⟩, _, rfl, fun _ _ => .inr hpeople⟩

lemma commands_behave : ∀ c ∈ commands, c.Behaves key := by
  have hnames : ∀ c ∈ commands, c.name ∈ askingNames ∧ c.name ≠ "currency" := by
    simp [commands, askingNames]
  exact fun c hc => behaves_of_checksStatus (hnames c hc).1 (hnames c hc).2
    (commands_checkStatus c hc)

end Astronomy

namespace Overwatch

lemma lookUp_checksStatus {α : Type} (list : String) (item? : Json.Node → Option α)
    (nameOf text : α → String) (what name : String) :
    (lookUp list item? nameOf text what name).ChecksStatus := by
  refine Web.Query.ChecksStatus.answer (Web.checksStatus_fetch _ _ _) fun items detail => ?_
  split <;> exact nofun

lemma reply_cases (m : Message) : (reply m).Refuses ∨ (reply m).ChecksStatus := by
  unfold reply
  split
  · exact .inl (Action.refuses_ofExcept _)
  · split
    · exact .inr (lookUp_checksStatus _ _ _ _ _ _)
    · exact .inr (lookUp_checksStatus _ _ _ _ _ _)
    · exact .inr (lookUp_checksStatus _ _ _ _ _ _)
    · exact .inr (lookUp_checksStatus _ _ _ _ _ _)
    · exact .inl (Action.refuses_ofExcept _)

lemma commands_checkStatus : ∀ c ∈ commands, c.ChecksStatus := by
  simp only [commands, List.forall_mem_cons, List.not_mem_nil, false_implies, implies_true,
    and_true]
  exact ⟨_, rfl, fun m _ => reply_cases m⟩

lemma commands_behave : ∀ c ∈ commands, c.Behaves key := by
  have hnames : ∀ c ∈ commands, c.name ∈ askingNames ∧ c.name ≠ "currency" := by
    simp [commands, askingNames]
  exact fun c hc => behaves_of_checksStatus (hnames c hc).1 (hnames c hc).2
    (commands_checkStatus c hc)

end Overwatch

/-! ### Other commands -/

lemma defaults_behave : ∀ c ∈ defaults, c.Behaves key := by
  simp only [defaults, List.forall_mem_cons, List.not_mem_nil, false_implies, implies_true,
    and_true]
  exact ⟨behaves_of_isQuiet (by decide) (isQuiet_of_none rfl),
    behaves_of_isQuiet (by decide) (isQuiet_of_text rfl)⟩

lemma Arithmetic.commands_behave (worker : Calculator.Worker) :
    ∀ c ∈ Arithmetic.commands worker, c.Behaves key := by
  have hnames : ∀ f ∈ functions, f.name ∉ askingNames := by simp [functions, askingNames]
  simp only [commands, List.forall_mem_append, List.forall_mem_cons, List.forall_mem_map,
    List.not_mem_nil, false_implies, implies_true, and_true]
  refine ⟨⟨?_, ?_, ?_, ?_⟩,
    fun f hf => behaves_of_isQuiet (hnames f hf) (isQuiet_of_result rfl)⟩ <;>
    exact behaves_of_isQuiet (by simp [askingNames]) (isQuiet_of_result rfl)

lemma Greeting.commands_behave (botName : String) :
    ∀ c ∈ Greeting.commands botName, c.Behaves key := by
  simp only [commands, command, dieCommand, List.forall_mem_cons, List.not_mem_nil, false_implies,
    implies_true, and_true]
  refine ⟨?_, ?_, ?_, ?_, ?_, ?_⟩ <;>
    exact behaves_of_isQuiet (by simp [askingNames]) (isQuiet_of_text rfl)

lemma Links.commands_behave : ∀ c ∈ Links.commands, c.Behaves key := by
  have hnames : ∀ site ∈ sites, site.name ∉ askingNames := by simp [sites, askingNames]
  simp only [commands, List.forall_mem_map]
  exact fun site hsite => behaves_of_isQuiet (hnames site hsite) (isQuiet_of_text rfl)

lemma Countdown.commands_behave : ∀ c ∈ Countdown.commands, c.Behaves key := by
  have hnames : ∀ timer ∈ timers, timer.name ∉ askingNames := by simp [timers, askingNames]
  simp only [commands, List.forall_mem_append, List.forall_mem_cons, List.forall_mem_map,
    List.not_mem_nil, false_implies, implies_true, and_true]
  exact ⟨⟨behaves_of_isQuiet (by simp [holidayCommand, askingNames]) (isQuiet_of_text rfl),
    behaves_of_isQuiet (by simp [holidayCommand, askingNames]) (isQuiet_of_text rfl)⟩,
    fun timer htimer => behaves_of_isQuiet (hnames timer htimer) (isQuiet_of_text rfl)⟩

lemma RuneScape.commands_behave : ∀ c ∈ RuneScape.commands, c.Behaves key := by
  simp only [commands, List.forall_mem_cons, List.not_mem_nil, false_implies, implies_true,
    and_true]
  exact ⟨behaves_of_isQuiet (by decide) (isQuiet_of_text rfl),
    behaves_of_isQuiet (by decide) (isQuiet_of_text rfl),
    behaves_of_isQuiet (by decide) (isQuiet_of_text rfl)⟩

lemma Units.commands_behave : ∀ c ∈ Units.commands, c.Behaves key := by
  have hnames : ∀ conversion ∈ conversions, conversion.name ∉ askingNames := by
    simp [conversions, askingNames]
  simp only [commands, List.forall_mem_append, List.forall_mem_cons, List.forall_mem_map,
    List.not_mem_nil, false_implies, implies_true, and_true]
  exact ⟨⟨behaves_of_isQuiet (by decide) (isQuiet_of_text rfl),
    behaves_of_isQuiet (by decide) (isQuiet_of_text rfl)⟩, fun conversion hconversion =>
    behaves_of_isQuiet (hnames conversion hconversion) (isQuiet_of_text rfl)⟩

/-- Every command of a platform asks if it may, and answers on its own otherwise. -/
lemma BuiltIn.commands_behave (b : BuiltIn) (platform : Platform) :
    ∀ c ∈ b.commands platform, c.Behaves b.ratesKey := by
  rw [BuiltIn.commands, List.forall_mem_append, List.forall_mem_append]
  refine ⟨⟨defaults_behave, Arithmetic.commands_behave b.worker⟩, ?_⟩
  cases platform with
  | discord =>
      rw [BuiltIn.special, List.forall_mem_append, List.forall_mem_append]
      exact ⟨⟨Finance.commands_behave b.ratesKey, Astronomy.commands_behave⟩,
        Overwatch.commands_behave⟩
  | twitch =>
      simp only [BuiltIn.special, List.forall_mem_append]
      exact ⟨⟨⟨⟨Greeting.commands_behave b.botName, Links.commands_behave⟩,
        Countdown.commands_behave⟩, RuneScape.commands_behave⟩, Units.commands_behave⟩

end ChatBot
