import TurnLedger.Text.Blank
import TurnLedger.Text.Letter
import TurnLedger.Text.Lowercase
import TurnLedger.Text.Quoted
import TurnLedger.Decimal.Shortest
import TurnLedger.Decimal.Read
import TurnLedger.Decimal.Layout
import TurnLedger.Schema.Mismatch
import TurnLedger.Json.Value
import TurnLedger.Json.Error
import TurnLedger.Json.Cursor
import TurnLedger.Json.Reader
import TurnLedger.Json.Writer
import TurnLedger.Json.Decode
import TurnLedger.Time.Civil
import TurnLedger.Time.Instant
import TurnLedger.Time.Parse
import TurnLedger.Activity.Record
import TurnLedger.Activity.Decode
import TurnLedger.Classify.Keyword
import TurnLedger.Classify.RuleSet
import TurnLedger.Classify.Classifier
import TurnLedger.Classify.JsonSpec
import TurnLedger.Activity.Filter
import TurnLedger.Activity.Summary
import TurnLedger.Activity.Ingest
import TurnLedger.Files.Path
import TurnLedger.Files.Volume
import TurnLedger.Net.SocketAddr
import TurnLedger.Server.Settings
import TurnLedger.Queue.Document
import TurnLedger.Toml.Failure
import TurnLedger.Toml.Error
import TurnLedger.Toml.Document
import TurnLedger.Toml.Lexeme
import TurnLedger.Toml.Number
import TurnLedger.Toml.Parser
import TurnLedger.Toml.Decode
import TurnLedger.Classify.TomlSpec
import TurnLedger.Classify.Load
import TurnLedger.Store.Failure
import TurnLedger.Store.Stamps
import TurnLedger.Store.Memory
import TurnLedger.Store.Database
import TurnLedger.Store.Host
import TurnLedger.Queue.Failure
import TurnLedger.Queue.Pass
import TurnLedger.Text.Utf8
import TurnLedger.Http.Message
import TurnLedger.Http.Form
import TurnLedger.Http.MediaType
import TurnLedger.Http.Api
import TurnLedger.Session.Step
import TurnLedger.Session.Run
import TurnLedger.Text.Similarity
import TurnLedger.Command.Spec
import TurnLedger.Command.Failure
import TurnLedger.Command.Parse
import TurnLedger.Program.Process
import TurnLedger.Program.Run
import TurnLedger.Program.Ledger
import TurnLedger.Program.Server
import TurnLedger.Main
import TurnLedger.Proofs.Classification
import TurnLedger.Proofs.FileEffects
import TurnLedger.Proofs.ReplayPass
import TurnLedger.Proofs.InstantText
import TurnLedger.Proofs.JsonText
import TurnLedger.Proofs.JsonNumber
import TurnLedger.Proofs.JsonValue
import TurnLedger.Proofs.JsonObject
import TurnLedger.Proofs.RecordText
import TurnLedger.Proofs.QueueDocument
import TurnLedger.Proofs.Rerun
import TurnLedger.Proofs.QueueAppend
import TurnLedger.Proofs.CalendarOrder
import TurnLedger.Proofs.MicrosText
import TurnLedger.Proofs.StoreRefinement
import TurnLedger.Proofs.DayFilter
import TurnLedger.Proofs.SummaryTotals
import TurnLedger.Proofs.LowercaseNormal
import TurnLedger.Proofs.KeywordMatch
import TurnLedger.Proofs.IngestNormalForm
import TurnLedger.Proofs.CaseBlind
import TurnLedger.Proofs.RuleNormalForm
import TurnLedger.Proofs.ExplicitOverride
import TurnLedger.Proofs.QueueWrites
import TurnLedger.Proofs.Interleaving
import TurnLedger.Proofs.BinaryRounding
import TurnLedger.Proofs.DecimalScale
import TurnLedger.Proofs.ShortestDigits
import TurnLedger.Proofs.DoubleReread
import TurnLedger.Proofs.AcknowledgedKept
import TurnLedger.Proofs.QueueListing
import TurnLedger.Proofs.Delivery
