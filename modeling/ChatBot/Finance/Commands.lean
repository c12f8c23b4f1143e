import ChatBot.Calendar.Date
import ChatBot.Command.Basic
import ChatBot.Finance.Bitcoin
import ChatBot.Finance.Rates
import ChatBot.Finance.Stock

/-!
The commands for money.

* `asksForPast`: words that ask for the data of a day that is past;
* `dayArg`: an argument that is a day;
* `bitcoinReply`, `ratesReply`, `stockReply`: the replies;
* `commands`: the commands, given the key for exchange rates.
-/

namespace ChatBot.Finance

/-- Words that ask for the data of a day that is past. -/
def pastWords : List String := ["historical", "history", "past", "previous", "day", "date"]

/-- The word asks for the data of a day that is past. -/
def asksForPast (word : String) : Bool := pastWords.any (·.equalsIgnoringAsciiCase word)

/-- An argument that is a day. It is passed on as it was typed. -/
def dayArg (day : String) : Except CommandError String :=
  match Date.ofText? day.toList with
  | some _ => .ok day
  | none => .error (.invalidArgs "date must be in YYYY-MM-DD format")

/-- An argument that may be missing, which counts as an empty one. -/
def optionalArg (m : Message) (index : Nat) : String := m.content.args[index]?.getD ""

/-- A text made from the data of a query. -/
def replyWith {α : Type} (q : Web.Query α) (text : α → Except Web.ApiError String) : Action := do
  let data ← q.lift
  Action.ofExcept (((text data).map Reply.text).mapError .api)

/-- Prices of Bitcoin: of a day that is past, in one currency or in the usual ones, or the
currencies there are. -/
def bitcoinReply (m : Message) : Action :=
  match m.content.args with
  | [] => replyWith currentPrice fun p => .ok p.text
  | word :: others =>
    if word.equalsIgnoringAsciiCase "currencies" then
      replyWith currencies fun cs => .ok (currenciesText cs)
    else if asksForPast word then
      match others.head?.mapM dayArg with
      | .error cause => .ofExcept (.error cause)
      | .ok day => replyWith (closingPrice day others[1]?) fun p => .ok (p.text day)
    else replyWith (currentPriceIn word) (·.textIn word)

/-- Exchange rates of today or of a day that is past. -/
def ratesReply (key : Option String) (m : Message) : Action :=
  let shown := fun (r : ExchangeRates) => Except.ok r.text
  if asksForPast (optionalArg m 0) then
    match m.requiredArg 1 "date" >>= dayArg with
    | .error cause => .ofExcept (.error cause)
    | .ok day => replyWith (exchangeRates key day (optionalArg m 2) (optionalArg m 3)) shown
  else replyWith (exchangeRates key none (optionalArg m 0) (optionalArg m 1)) shown

/-- What is known of a stock; its price, if nothing else is asked for. -/
def stockReply (m : Message) : Action :=
  match m.requiredArg 0 "symbol" with
  | .error cause => .ofExcept (.error cause)
  | .ok first =>
    let about := fun (answer : String → Action) =>
      match m.requiredArg 1 "symbol" with
      | .error cause => .ofExcept (.error cause)
      | .ok symbol => answer symbol
    match first.lowercase with
    | "quote" => about fun symbol => replyWith (stockQuote symbol) fun q => .ok q.text
    | "company" => about fun symbol => replyWith (company symbol) fun c => .ok c.text
    | "earnings" => about fun symbol => replyWith (reports earnings symbol) (·.text earnings)
    | "financials" => about fun symbol => replyWith (reports financials symbol) (·.text financials)
    | _ => replyWith (stockPrice first) fun price => .ok (price ++ "\n" ++ stockCredit)

/-- The commands for money. -/
def commands (key : Option String) : List Command :=
  [{ name := "bitcoin", description := "Bitcoin Price Index (BPI)",
     usage := "bitcoin [currency|currencies|historical [YYYY-MM-DD] [currency]]",
     handler := some fun m _ => bitcoinReply m },
   { name := "currency", description := "Foreign exchange rates", aliases := ["exchange", "rates"],
     usage := "currency [historical <YYYY-MM-DD>] [base] [symbols,...]",
     handler := some fun m _ => ratesReply key m },
   { name := "stock", description := "Stock prices and company data", aliases := ["stocks"],
     usage := "stock [quote|company|earnings|financials] <symbol>",
     handler := some fun m _ => stockReply m }]

end ChatBot.Finance
