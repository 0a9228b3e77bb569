import ResultBoards.Calendar.Date
import ResultBoards.Calendar.Reader
import ResultBoards.Calendar.Timestamp
import ResultBoards.Csv.Quotes
import ResultBoards.Csv.Reader
import ResultBoards.Csv.Result
import ResultBoards.Dashboard
import ResultBoards.Event
import ResultBoards.Event.Filter
import ResultBoards.Event.Line
import ResultBoards.Event.Pattern
import ResultBoards.Execution
import ResultBoards.Http.Client
import ResultBoards.Http.Handler
import ResultBoards.Http.MediaType
import ResultBoards.Http.Message
import ResultBoards.Http.Status
import ResultBoards.Http.Url
import ResultBoards.Hydration
import ResultBoards.Ini.Document
import ResultBoards.Json.Decoder
import ResultBoards.Json.Failure
import ResultBoards.Json.Input
import ResultBoards.Json.Lexical
import ResultBoards.Json.Members
import ResultBoards.Json.Printer
import ResultBoards.Json.Reader
import ResultBoards.Json.Value
import ResultBoards.Json5.Document
import ResultBoards.Json5.Text
import ResultBoards.Main
import ResultBoards.Metadata
import ResultBoards.Number.Binary32
import ResultBoards.Number.Binary64
import ResultBoards.Number.Numeral
import ResultBoards.Number.Shortest
import ResultBoards.Proofs.Calendar.RoundTrip
import ResultBoards.Proofs.Csv.FirstProblem
import ResultBoards.Proofs.Csv.Quotes
import ResultBoards.Proofs.Csv.Reading
import ResultBoards.Proofs.Csv.Refusals
import ResultBoards.Proofs.Csv.Result
import ResultBoards.Proofs.Csv.Tables
import ResultBoards.Proofs.Csv.Unquoted
import ResultBoards.Proofs.Csv.Written
import ResultBoards.Proofs.Execution.RoundTrip
import ResultBoards.Proofs.Http.Addressing
import ResultBoards.Proofs.Http.Answers
import ResultBoards.Proofs.Http.HydratedRead
import ResultBoards.Proofs.Http.Lookups
import ResultBoards.Proofs.Http.PlainPaths
import ResultBoards.Proofs.Http.Refinement
import ResultBoards.Proofs.Http.SavedBack
import ResultBoards.Proofs.Http.Unwritten
import ResultBoards.Proofs.Hydration.Concurrent
import ResultBoards.Proofs.Hydration.InPlace
import ResultBoards.Proofs.Json.Decoding
import ResultBoards.Proofs.Json.Gathering
import ResultBoards.Proofs.Json.Input
import ResultBoards.Proofs.Json.Lexical
import ResultBoards.Proofs.Json.Numerals
import ResultBoards.Proofs.Json.Rules
import ResultBoards.Proofs.Json.SameMembers
import ResultBoards.Proofs.Json.Written
import ResultBoards.Proofs.Settings.Documents
import ResultBoards.Proofs.Settings.Layers
import ResultBoards.Proofs.Settings.Reading
import ResultBoards.Proofs.Store.Canonical
import ResultBoards.Proofs.Store.Collection
import ResultBoards.Proofs.Store.Commuting
import ResultBoards.Proofs.Store.CutWrites
import ResultBoards.Proofs.Store.Entries
import ResultBoards.Proofs.Store.FailedWrites
import ResultBoards.Proofs.Store.Failures
import ResultBoards.Proofs.Store.Files
import ResultBoards.Proofs.Store.Interleaving
import ResultBoards.Proofs.Store.Laws
import ResultBoards.Proofs.Store.Outcomes
import ResultBoards.Proofs.Store.Paths
import ResultBoards.Proofs.Store.Refinement
import ResultBoards.Proofs.Store.Sharing
import ResultBoards.Proofs.Store.Twins
import ResultBoards.Proofs.Store.Writable
import ResultBoards.Proofs.Table.Columns
import ResultBoards.Proofs.Table.Keyed
import ResultBoards.Proofs.Table.RoundTrip
import ResultBoards.Proofs.Text.Bytes
import ResultBoards.Proofs.Widget.Detaching
import ResultBoards.Proofs.Widget.Grammar
import ResultBoards.Proofs.Widget.RoundTrip
import ResultBoards.Ron.Document
import ResultBoards.Ron.Number
import ResultBoards.Ron.Text
import ResultBoards.Service
import ResultBoards.Settings.Basic
import ResultBoards.Settings.Conversion
import ResultBoards.Settings.File
import ResultBoards.Settings.Setting
import ResultBoards.Settings.Sources
import ResultBoards.SocketAddress
import ResultBoards.Startup
import ResultBoards.Store.Collection
import ResultBoards.Store.Entries
import ResultBoards.Store.Failure
import ResultBoards.Store.FileStore
import ResultBoards.Store.FileSystem
import ResultBoards.Store.KeyValue
import ResultBoards.Store.Operation
import ResultBoards.Table.Basic
import ResultBoards.Table.Record
import ResultBoards.Text.Alphanumeric
import ResultBoards.Text.Blank
import ResultBoards.Text.Digits
import ResultBoards.Text.Hex
import ResultBoards.Text.Identifier
import ResultBoards.Text.Percent
import ResultBoards.Text.Quoted
import ResultBoards.Text.Ranges
import ResultBoards.Text.Unprintable
import ResultBoards.Toml.Document
import ResultBoards.Toml.Scalar
import ResultBoards.Toml.Text
import ResultBoards.Widget.Basic
import ResultBoards.Widget.Codec
import ResultBoards.Yaml.Cursor
import ResultBoards.Yaml.Document
import ResultBoards.Yaml.Node
import ResultBoards.Yaml.Node.Reader
import ResultBoards.Yaml.Scalar.Block
import ResultBoards.Yaml.Scalar.Folding
import ResultBoards.Yaml.Scalar.Plain
import ResultBoards.Yaml.Scalar.Quoted
import ResultBoards.Yaml.Tag
import ResultBoards.Yaml.Token
import ResultBoards.Yaml.Token.Reader
