import ChatBot.Binary64.Layout
import ChatBot.Text.Entity
import ChatBot.Text.LetterCase
import ChatBot.Web.Exchange

/-!
The Bitcoin Price Index.

* `PriceIndex`: the current price in some currencies;
* `ClosingPrices`: prices of days that are past;
* `Currency`: a currency that prices are known in;
* `PriceIndex.text`, `PriceIndex.textIn`, `ClosingPrices.text`, `currenciesText`: what replies show;
* `currentPrice`, `currentPriceIn`, `closingPrice`, `currencies`: the queries.
-/

namespace ChatBot.Finance

open ChatBot.Json (Node Record)
open ChatBot.Web (ApiError Query)

/-- The price in one currency, with its code and its name. In the symbol, entities stand for
characters. -/
structure BitcoinRate where
  code : String
  symbol : Option String
  rate : String
  description : String
  deriving DecidableEq, Repr

/-- The current prices, in the order of the keys of their currencies: when they were computed, where
they come from, and what is priced. -/
structure PriceIndex where
  updated : String
  disclaimer : String
  chartName : Option String
  rates : List (String × BitcoinRate)
  deriving DecidableEq, Repr

/-- Prices at the end of days, in the order of the days: when they were computed, and where they
come from. -/
structure ClosingPrices where
  updated : String
  disclaimer : String
  prices : List (String × Float)
  deriving DecidableEq

/-- The code of a currency that prices are known in, and its name, which starts with a country. -/
structure Currency where
  code : String
  country : String
  deriving DecidableEq, Repr

/-! ### Decoding -/

/-- The time of an update. -/
def updated? (node : Node) : Option String := do
  (← Record.ofNode? ["updated"] node).required? "updated" Node.text?

/-- The price in one currency. -/
def BitcoinRate.ofNode? (node : Node) : Option BitcoinRate := do
  let r ← Record.ofNode? ["code", "symbol", "rate", "description"] node
  return {
    code := ← r.required? "code" Node.text?
    symbol := ← r.optional? "symbol" Node.text?
    rate := ← r.required? "rate" Node.text?
    description := ← r.required? "description" Node.text? }

/-- The current price. -/
def PriceIndex.ofNode? (node : Node) : Option PriceIndex := do
  let r ← Record.ofNode? ["time", "disclaimer", "chartName", "bpi"] node
  return {
    updated := ← r.required? "time" updated?
    disclaimer := ← r.required? "disclaimer" Node.text?
    chartName := ← r.optional? "chartName" Node.text?
    rates := ← r.required? "bpi" (Node.map? BitcoinRate.ofNode?) }

/-- Prices at the end of days. -/
def ClosingPrices.ofNode? (node : Node) : Option ClosingPrices := do
  let r ← Record.ofNode? ["time", "disclaimer", "bpi"] node
  return {
    updated := ← r.required? "time" updated?
    disclaimer := ← r.required? "disclaimer" Node.text?
    prices := ← r.defaulted? "bpi" [] (Node.map? Node.float?) }

/-- A currency. -/
def Currency.ofNode? (node : Node) : Option Currency := do
  let r ← Record.ofNode? ["currency", "country"] node
  return {
    code := ← r.required? "currency" Node.text?
    country := ← r.required? "country" Node.text? }

/-! ### Text -/

/-- Who provides the prices. -/
def credit : String := "Powered by CoinDesk (https://www.coindesk.com/price/)"

/-- A text without the full stops at its end. -/
def withoutStops (s : String) : String :=
  String.ofList (s.toList.reverse.dropWhile (· == '.')).reverse

/-- A character where a symbol has an entity. -/
def symbolText (symbol : Option String) : String :=
  match symbol with
  | some s => String.ofList (Text.unescape s.toList)
  | none => ""

/-- The line of a price among others. -/
def BitcoinRate.line (r : BitcoinRate) : String :=
  s!"{r.description}: {r.code} {symbolText r.symbol}{r.rate}"

namespace PriceIndex

/-- The line that tells where the price comes from and how old it is. -/
def footer (p : PriceIndex) : String := s!"{withoutStops p.disclaimer}. Updated {p.updated}"

/-- All prices. -/
def text (p : PriceIndex) : String :=
  "\n".intercalate
    ([p.chartName.getD "Bitcoin"] ++ p.rates.map (·.2.line) ++ [credit, p.footer])

/-- The price in the currency of a code in any case of letters. -/
def textIn (p : PriceIndex) (currency : String) : Except ApiError String :=
  match p.rates.lookup currency.uppercase with
  | some r => .ok ("\n".intercalate [r.description, s!"{r.code} {r.rate}", credit, p.footer])
  | none => .error (.notFound ("Currency " ++ currency.uppercase))

end PriceIndex

namespace ClosingPrices

/-- The price of a day, or the first one if no day is given. -/
def price? (p : ClosingPrices) : Option String → Option Float
  | some day => p.prices.lookup day
  | none => p.prices.head?.map (·.2)

/-- The price of a day. -/
def text (p : ClosingPrices) (day : Option String) : String :=
  let price := match p.price? day with
    | some x => Binary64.text x
    | none => "N/A"
  "\n".intercalate [price, credit, s!"{p.disclaimer} Updated {p.updated}"]

end ClosingPrices

/-- The currencies in one line. -/
def currenciesText (currencies : List Currency) : String :=
  ", ".intercalate (currencies.map fun c => s!"{c.code} ({c.country})")

/-! ### Queries -/

/-- Where the index is served. -/
def indexUrl : String := "https://api.coindesk.com/v1/bpi"

/-- The current price in the usual currencies. -/
def currentPrice : Query PriceIndex :=
  Web.fetch (indexUrl ++ "/currentprice.json") [] PriceIndex.ofNode?

/-- The current price in one currency. -/
def currentPriceIn (currency : String) : Query PriceIndex :=
  Web.fetch s!"{indexUrl}/currentprice/{currency.uppercase}.json" [] PriceIndex.ofNode?

/-- The currencies that prices are known in. -/
def currencies : Query (List Currency) :=
  Web.fetch (indexUrl ++ "/supported-currencies.json") [] (Node.list? Currency.ofNode?)

/-- What is asked for the price of a day: the day and the currency, or yesterday in the usual
currency if no day is given. -/
def closingQuery (day currency : Option String) : List (String × String) :=
  match day with
  | some day =>
    [("start", day), ("end", day)] ++ currency.toList.map fun c => ("currency", c.uppercase)
  | none => [("for", "yesterday")]

/-- The price at the end of a day. -/
def closingPrice (day currency : Option String) : Query ClosingPrices :=
  Web.fetch (indexUrl ++ "/historical/close.json") (closingQuery day currency)
    ClosingPrices.ofNode?

end ChatBot.Finance
