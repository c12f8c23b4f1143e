import ChatBot.Main
import ChatBot.Proofs.Text.LetterCase
import ChatBot.Proofs.Grammar
import ChatBot.Proofs.Binary64.Parts
import ChatBot.Proofs.Binary64.Shortest
import ChatBot.Proofs.Binary64.Range
import ChatBot.Proofs.Binary64.Remainder
import ChatBot.Proofs.Binary64.Canonical
import ChatBot.Proofs.Binary64.Exact
import ChatBot.Proofs.Binary64.Decimal
import ChatBot.Proofs.Json.Numeral
import ChatBot.Proofs.Json.Quoted
import ChatBot.Proofs.Json.Value
import ChatBot.Proofs.Json.Text
import ChatBot.Proofs.Json.Real
import ChatBot.Proofs.Json.Reread
import ChatBot.Proofs.Json.Layout
import ChatBot.Proofs.Json.Record
import ChatBot.Proofs.Calculator.Wire
import ChatBot.Proofs.Calculator.Finite
import ChatBot.Proofs.Calculator.Reply
import ChatBot.Proofs.Calculator.Alphabet
import ChatBot.Proofs.Calculator.Layout
import ChatBot.Proofs.Calculator.Spelling
import ChatBot.Proofs.Storage.FileTree
import ChatBot.Proofs.Storage.Channel
import ChatBot.Proofs.Storage.Table
import ChatBot.Proofs.Storage.Refinement
import ChatBot.Proofs.Storage.Content
import ChatBot.Proofs.Storage.Request
import ChatBot.Proofs.Storage.Durability
import ChatBot.Proofs.Storage.FailedSave
import ChatBot.Proofs.Storage.Failure
import ChatBot.Proofs.Storage.Elsewhere
import ChatBot.Proofs.Storage.Isolation
import ChatBot.Proofs.Storage.Ready
import ChatBot.Proofs.Storage.Increment
import ChatBot.Proofs.Dispatch
import ChatBot.Proofs.Counting
import ChatBot.Proofs.Routing
import ChatBot.Proofs.Config
import ChatBot.Proofs.Reordering
import ChatBot.Proofs.Failing
import ChatBot.Proofs.Service.Steps
import ChatBot.Proofs.Service.Outcome
import ChatBot.Proofs.CommandMark
import ChatBot.Proofs.Calculator.Runs
import ChatBot.Proofs.Command.Asking
import ChatBot.Proofs.Requests
import ChatBot.Proofs.Command.Status
import ChatBot.Proofs.Command.Lookup
import ChatBot.Proofs.Text.Grouping
import ChatBot.Proofs.Text.CamelCase
import ChatBot.Proofs.Text.Heading
import ChatBot.Proofs.Text.Entity
import ChatBot.Proofs.RuneScape.Experience
import ChatBot.Proofs.RuneScape.Levels
import ChatBot.Proofs.RuneScape.Between
import ChatBot.Proofs.Calendar.Easter
import ChatBot.Proofs.Calendar.Holiday
import ChatBot.Proofs.Calendar.Duration
import ChatBot.Proofs.Calendar.DayText
import ChatBot.Proofs.Finance.PastDay
import ChatBot.Proofs.Text.Integer
import ChatBot.Proofs.Arithmetic.Factorial
import ChatBot.Proofs.Arithmetic.Limit
