import ChatBot.Json.Reading
import ChatBot.Text.Capital
import ChatBot.Text.Grouping
import ChatBot.Web.Exchange

/-!
Stock prices, and what companies report.

* `StockQuote`, `Company`: a price with its company, and the company itself;
* `Reports`: the reports of a company, the latest first. Which fields a report has is not fixed;
* `ReportForm`: what a kind of report is called, and how it is laid out;
* `Reports.text`: the latest report;
* `stockPrice`, `stockQuote`, `company`, `reports`: the queries.
-/

namespace ChatBot.Finance

open ChatBot.Json (Node Record)
open ChatBot.Web (ApiError Query)

/-- A stock with its company and where it is traded, and with its price if that is known. -/
structure StockQuote where
  symbol : String
  companyName : String
  exchange : String
  price : Option Float
  deriving DecidableEq

/-- A company: the symbol of its stock and where it is traded, what the company does, and who leads
it. -/
structure Company where
  symbol : String
  name : String
  exchange : String
  industry : String
  website : String
  description : String
  leader : String
  deriving DecidableEq, Repr

/-- The fields of the reports of a company, the latest first. -/
structure Reports where
  symbol : String
  reports : List Json.Fields

/-! ### Decoding -/

/-- A price with its company. -/
def StockQuote.ofNode? (node : Node) : Option StockQuote := do
  let r ← Record.ofNode? ["symbol", "companyName", "primaryExchange", "iexRealtimePrice"] node
  return {
    symbol := ← r.required? "symbol" Node.text?
    companyName := ← r.required? "companyName" Node.text?
    exchange := ← r.required? "primaryExchange" Node.text?
    price := ← r.optional? "iexRealtimePrice" Node.float? }

/-- A company. -/
def Company.ofNode? (node : Node) : Option Company := do
  let r ← Record.ofNode?
    ["symbol", "companyName", "exchange", "industry", "website", "description", "CEO"] node
  return {
    symbol := ← r.required? "symbol" Node.text?
    name := ← r.required? "companyName" Node.text?
    exchange := ← r.defaulted? "exchange" "" Node.text?
    industry := ← r.defaulted? "industry" "" Node.text?
    website := ← r.defaulted? "website" "" Node.text?
    description := ← r.defaulted? "description" "" Node.text?
    leader := ← r.defaulted? "CEO" "" Node.text? }

/-- The fields of a report, which stands in an array in an object. -/
def reportFields? (node : Node) : Option Json.Fields :=
  match node.value? (Json.maxDepth - 2) with
  | some (.object fields) => some fields
  | _ => none

/-- Reports that stand in the field of a name. -/
def Reports.ofNode? (key : String) (node : Node) : Option Reports := do
  let r ← Record.ofNode? ["symbol", key] node
  return {
    symbol := ← r.required? "symbol" Node.text?
    reports := ← r.required? key (Node.list? reportFields?) }

/-! ### Text -/

/-- Who provides the data. -/
def stockCredit : String := "Data provided for free by IEX (https://iextrading.com/developer)."

/-- A price with its company, each in a line. -/
def StockQuote.text (q : StockQuote) : String :=
  let price := q.price.toList.map fun x => "IEX Real-Time Price: " ++ Binary64.text x
  "\n".intercalate ([q.symbol, q.companyName] ++ price ++ [q.exchange, stockCredit])

/-- What is known of a company, each in a line. -/
def Company.text (c : Company) : String :=
  "\n".intercalate
    [s!"{c.name} ({c.symbol})", c.description, "Website: " ++ c.website,
      "Exchange: " ++ c.exchange, "Industry: " ++ c.industry, "CEO: " ++ c.leader, stockCredit]

/-- A kind of report. Its name is the `key` in addresses and data and the `title` in replies. The
day of a report is in the field `dateKey` and gets a heading of its own, and integers may have
commas. -/
structure ReportForm where
  key : String
  title : String
  dateKey : String
  dateTitle : String
  commas : Bool
  deriving DecidableEq, Repr

/-- What a company earned in a quarter. -/
def earnings : ReportForm :=
  ⟨"earnings", "Earnings report", "EPSReportDate", "EPS Report Date", false⟩

/-- What a company owns and owes. -/
def financials : ReportForm := ⟨"financials", "Financial report", "reportDate", "Report Date", true⟩

/-- The value of a field. -/
def valueText (commas : Bool) (value : Json) : String :=
  match value with
  | .string s => s
  | .null => "N/A"
  | value =>
    match if commas then value.int64? else none with
    | some n => String.ofList (Text.withCommas n)
    | none => String.ofList value.compact

/-- The line of a field. -/
def fieldLine (title : String) (commas : Bool) (value : Json) : String :=
  title ++ ": " ++ valueText commas value

/-- A report: its fields under headings, and the day at the end. -/
def ReportForm.text (form : ReportForm) (symbol : String) (report : Json.Fields) : String :=
  let fields := report.filter (·.1 != form.dateKey)
  let date := (Json.Fields.get? report form.dateKey).toList
  "\n".intercalate
    ([symbol] ++
      fields.map (fun (key, value) =>
        fieldLine (String.ofList (Text.fieldTitle key.toList)) form.commas value) ++
      date.map (fieldLine form.dateTitle false))

/-- The latest report. -/
def Reports.text (r : Reports) (form : ReportForm) : Except ApiError String :=
  match r.reports with
  | report :: _ => .ok (form.text r.symbol report)
  | [] => .error (.notFound s!"{form.title} for {r.symbol}")

/-! ### Queries -/

/-- Where stock data is served. -/
def stockUrl : String := "https://api.iextrading.com/1.0/stock"

/-- The address of what is known of a stock. -/
def addressOf (symbol what : String) : String := s!"{stockUrl}/{symbol}/{what}"

/-- The price of a stock, in the words of the service. -/
def stockPrice (symbol : String) : Query String := do
  let response ← Web.get (addressOf symbol "price")
  ExceptT.mk (.done
    (if response.isSuccess then .ok response.trimmedBody else .error response.serviceError))

/-- The price of a stock with its company. -/
def stockQuote (symbol : String) : Query StockQuote :=
  Web.fetch (addressOf symbol "quote") [] StockQuote.ofNode?

/-- The company of a stock. -/
def company (symbol : String) : Query Company :=
  Web.fetch (addressOf symbol "company") [] Company.ofNode?

/-- The reports of the company of a stock. -/
def reports (form : ReportForm) (symbol : String) : Query Reports :=
  Web.fetch (addressOf symbol form.key) [] (Reports.ofNode? form.key)

end ChatBot.Finance
