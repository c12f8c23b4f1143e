import ChatBot.Proofs.Calendar.DayText
import ChatBot.Proofs.Command.Asking

/-!
The days of which past data is asked for.

* `TakesDay`, `RefusesDay`: the two ways in which the commands for money deal with an
  argument that is to be a day;
* `takesDay_of_isReadable`, `refusesDay_of_not_isReadable`: they take what can be read
  as a day, and refuse the rest;
* `takesDay_iff`: so they take more than the days in plain form, of which their error speaks.
-/

namespace ChatBot.Finance

/-- What is asked for the price of a day. -/
def closingRequest (day : String) (currency : Option String) : Web.Request :=
  ⟨indexUrl ++ "/historical/close.json", closingQuery (some day) currency⟩

/-- The price of a day takes one request. -/
lemma exists_run_replyWith_closingPrice (day : String) (currency : Option String)
    (text : ClosingPrices → Except Web.ApiError String) :
    ∃ result, (replyWith (closingPrice (some day) currency) text).run =
      .single (closingRequest day currency) result :=
  ⟨_, Web.Query.run_answer (Web.run_get_bind _ _ _) _⟩

/-- The day is taken: prices and rates of it are asked for, and it is passed on as it was typed.
Without a key, rates are not to be had. -/
structure TakesDay (key : Option String) (m : Message) (day : String) (others : List String) :
    Prop where
  price : bitcoinReply m = replyWith (closingPrice (some day) others[0]?) fun p =>
    .ok (p.text (some day))
  price_request : ∃ result, (bitcoinReply m).run = .single (closingRequest day others[0]?) result
  rates : ratesReply key m =
    replyWith (exchangeRates key (some day) (others[0]?.getD "") (others[1]?.getD "")) fun r =>
      .ok r.text
  rates_request : ∀ k ∈ key, (ratesReply key m).run =
    .single (ratesRequest k (some day) (others[0]?.getD "") (others[1]?.getD "")) ratesResult

/-- The day is refused: the arguments are said to be no good, and nobody is asked. -/
structure RefusesDay (key : Option String) (m : Message) : Prop where
  price : (bitcoinReply m).run = .done (.error (.invalidArgs "date must be in YYYY-MM-DD format"))
  rates : (ratesReply key m).run = .done (.error (.invalidArgs "date must be in YYYY-MM-DD format"))

lemma TakesDay.not_refusesDay {key : Option String} {m : Message} {day : String}
    {others : List String} (h : TakesDay key m day others) : ¬RefusesDay key m := by
  intro hrefuses
  obtain ⟨result, hrun⟩ := h.price_request
  exact nomatch hrun.symm.trans hrefuses.price

/-- An argument is taken for a day if it can be read as one. -/
lemma dayArg_of_isReadable {day : String} (h : Date.IsReadable day.toList) :
    dayArg day = .ok day := by
  obtain ⟨d, hd⟩ := Option.isSome_iff_exists.mp (Date.isSome_ofText?_iff.mpr h)
  rw [dayArg, hd]

lemma dayArg_of_not_isReadable {day : String} (h : ¬Date.IsReadable day.toList) :
    dayArg day = .error (.invalidArgs "date must be in YYYY-MM-DD format") := by
  rw [← Date.isSome_ofText?_iff, Bool.not_eq_true, Option.isSome_eq_false_iff,
    Option.isNone_iff_eq_none] at h
  rw [dayArg, h]

/-- A word that asks for the past does not ask for the currencies. -/
lemma ne_currencies_of_asksForPast {word : String} (h : asksForPast word = true) :
    ¬word.equalsIgnoringAsciiCase "currencies" = true := by
  intro hcurrencies
  obtain ⟨past, hmem, hpast⟩ := List.any_eq_true.mp h
  rw [String.equalsIgnoringAsciiCase, beq_iff_eq] at hcurrencies hpast
  have hfold := hpast.trans hcurrencies
  simp only [pastWords, List.mem_cons, List.not_mem_nil, or_false] at hmem
  rcases hmem with rfl | rfl | rfl | rfl | rfl | rfl <;> exact absurd hfold (by decide)

section Argument

variable (key : Option String) (m : Message) {word day : String} {others : List String}
  (hargs : m.content.args = word :: day :: others) (hword : asksForPast word = true)
include hargs hword

/-- The reply with a price depends on the day as it is taken or refused. -/
lemma bitcoinReply_of_asksForPast : bitcoinReply m = match dayArg day with
    | .error cause => .ofExcept (.error cause)
    | .ok day =>
        replyWith (closingPrice (some day) others[0]?) fun p => .ok (p.text (some day)) := by
  rw [bitcoinReply, hargs]
  dsimp only
  rw [if_neg (ne_currencies_of_asksForPast hword), if_pos hword, List.head?_cons, Option.mapM_some]
  cases dayArg day <;> rfl

lemma ratesReply_of_asksForPast : ratesReply key m = match dayArg day with
    | .error cause => .ofExcept (.error cause)
    | .ok day =>
      replyWith (exchangeRates key (some day) (others[0]?.getD "") (others[1]?.getD "")) fun r =>
          .ok r.text := by
  have hfirst : optionalArg m 0 = word := by rw [optionalArg, hargs]; rfl
  have hday : m.requiredArg 1 "date" = .ok day := by rw [Message.requiredArg, hargs]; rfl
  rw [ratesReply, hfirst, if_pos hword, hday, optionalArg, optionalArg, hargs]
  show (match dayArg day with | .error cause => _ | .ok day => _) = _
  cases dayArg day <;> rfl

lemma takesDay_of_isReadable (h : Date.IsReadable day.toList) : TakesDay key m day others := by
  have hprice := bitcoinReply_of_asksForPast m hargs hword
  have hrates := ratesReply_of_asksForPast key m hargs hword
  rw [dayArg_of_isReadable h] at hprice hrates
  refine ⟨hprice, ?_, hrates, fun k hk => ?_⟩
  · rw [hprice]
    exact exists_run_replyWith_closingPrice day others[0]? _
  · rw [hrates, Option.mem_def.mp hk]
    exact run_replyWith_exchangeRates k (some day) _ _

lemma refusesDay_of_not_isReadable (h : ¬Date.IsReadable day.toList) : RefusesDay key m := by
  have hprice := bitcoinReply_of_asksForPast m hargs hword
  have hrates := ratesReply_of_asksForPast key m hargs hword
  rw [dayArg_of_not_isReadable h] at hprice hrates
  exact ⟨congrArg ExceptT.run hprice, congrArg ExceptT.run hrates⟩

lemma takesDay_iff_isReadable : TakesDay key m day others ↔ Date.IsReadable day.toList :=
  ⟨fun h => by_contra fun hnot =>
    h.not_refusesDay (refusesDay_of_not_isReadable key m hargs hword hnot),
    takesDay_of_isReadable key m hargs hword⟩

/-- **Days that are past**: an argument is taken for a day exactly if a day that exists is written
in it, with or without blanks and zeros in front of its numbers and a sign in front of its year.
Everything else is refused, and nobody is asked. So only the days in plain form are taken and all
else is refused, as the error says, unless the argument is a day that is written in another way. -/
theorem takesDay_iff :
    (TakesDay key m day others ↔ Date.IsReadable day.toList) ∧
      (RefusesDay key m ↔ ¬Date.IsReadable day.toList) ∧
      ((TakesDay key m day others ↔ Date.HasPlainForm day.toList) ∧
          (¬Date.HasPlainForm day.toList → RefusesDay key m) ↔
        ∀ w : Date.WrittenDay, w.text = day.toList → w.HasDay → w.IsPlain) := by
  have htakes := takesDay_iff_isReadable key m hargs hword
  have hrefuses : RefusesDay key m ↔ ¬Date.IsReadable day.toList :=
    ⟨fun h hreadable => (htakes.mpr hreadable).not_refusesDay h,
      refusesDay_of_not_isReadable key m hargs hword⟩
  refine ⟨htakes, hrefuses, ?_⟩
  rw [htakes, hrefuses, ← Date.isReadable_iff_hasPlainForm_iff]
  exact ⟨And.left, fun h => ⟨h, fun hnot => mt h.mp hnot⟩⟩

end Argument

/-- A day in plain form, and a message that asks for its price in a currency. -/
theorem takesDay_iff_of_plain :
    let m : Message := .ofCommand "#a" "bitcoin" ["historical", "2018-04-19", "eur"]
    m.content.args = ["historical", "2018-04-19", "eur"] ∧ asksForPast "historical" = true ∧
      TakesDay (some "key") m "2018-04-19" ["eur"] := by
  intro m
  have hword : asksForPast "historical" = true := by decide
  have hreadable : Date.IsReadable "2018-04-19".toList :=
    Date.isSome_ofText?_iff.mp (by decide +kernel)
  exact ⟨rfl, hword, (takesDay_iff (some "key") m rfl hword).1.mpr hreadable⟩

/-- Not only days in plain form are taken: the month and the day of the
month may be single digits. -/
theorem takesDay_single_digits :
    ¬∀ (m : Message) (day : String), m.content.args = ["historical", day] →
      ((TakesDay none m day [] ↔ Date.HasPlainForm day.toList) ∧
        (¬Date.HasPlainForm day.toList → RefusesDay none m)) := by
  intro hall
  let m : Message := .ofCommand "#a" "bitcoin" ["historical", "2018-4-9"]
  have hreadable : Date.IsReadable "2018-4-9".toList :=
    Date.isSome_ofText?_iff.mp (by decide +kernel)
  have htakes : TakesDay none m "2018-4-9" [] :=
    takesDay_of_isReadable none m rfl (by decide) hreadable
  have hplain : Date.HasPlainForm "2018-4-9".toList := (hall m "2018-4-9" rfl).1.mp htakes
  exact absurd hplain.length (by decide)

end ChatBot.Finance
