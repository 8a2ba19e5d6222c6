import RecordSearch.Address
import RecordSearch.Attributes
import RecordSearch.CommandLine
import RecordSearch.Files
import RecordSearch.Filter.Encoding
import RecordSearch.Filter.Evaluation
import RecordSearch.Filter.Lexer
import RecordSearch.Filter.Parser
import RecordSearch.Filter.Rendering
import RecordSearch.Filter.Token
import RecordSearch.Filter.Tree
import RecordSearch.Filter.Word
import RecordSearch.Json.Distinct
import RecordSearch.Json.Outline
import RecordSearch.Json.Reader
import RecordSearch.Json.Value
import RecordSearch.Json.Writer
import RecordSearch.Main
import RecordSearch.Number.Decimal
import RecordSearch.Number.Double
import RecordSearch.Number.Numeral
import RecordSearch.Projection
import RecordSearch.Proofs.Filter.Grammar
import RecordSearch.Query.Cache
import RecordSearch.Query.Collection
import RecordSearch.Query.Execution
import RecordSearch.Record
import RecordSearch.Service.Body
import RecordSearch.Service.MediaType
import RecordSearch.Service.Router
import RecordSearch.Service.Wire
import RecordSearch.Settings
import RecordSearch.Startup
import RecordSearch.Store.Basic
import RecordSearch.Store.Dataset
import RecordSearch.Store.Disturbance
import RecordSearch.Text.Blank
import RecordSearch.Text.Described
import RecordSearch.Text.Digits
import RecordSearch.Text.Letters
import RecordSearch.Text.Printable
import RecordSearch.Text.Utf8
import RecordSearch.Toml.Quoted
import RecordSearch.Toml.Reader
import RecordSearch.Toml.Scalar
import RecordSearch.Toml.Table
import RecordSearch.Toml.Value
import RecordSearch.Proofs.Filter.Numerals
import RecordSearch.Proofs.Filter.Lexing
import RecordSearch.Proofs.Filter.Written
import RecordSearch.Proofs.Filter.RoundTrip
import RecordSearch.Proofs.Query.Answers
import RecordSearch.Proofs.Record.Lookup
import RecordSearch.Proofs.Record.Chains
import RecordSearch.Proofs.Record.Leaves
import RecordSearch.Proofs.Record.Unambiguous
import RecordSearch.Proofs.Record.Projected
import RecordSearch.Proofs.Query.Attributes
import RecordSearch.Proofs.Query.CacheRuns
import RecordSearch.Proofs.Filter.Comparisons
import RecordSearch.Proofs.Query.Listed
import RecordSearch.Proofs.Query.Hangs
import RecordSearch.Proofs.Service.Permits
import RecordSearch.Proofs.Service.Starting
import RecordSearch.Proofs.Json.Strings
import RecordSearch.Proofs.Json.Numerals
import RecordSearch.Proofs.Json.Rereading
import RecordSearch.Proofs.Filter.Encoded
import RecordSearch.Proofs.Filter.Segments
import RecordSearch.Proofs.Filter.Separated
import RecordSearch.Proofs.Filter.Composed
import RecordSearch.Proofs.Filter.Offending
import RecordSearch.Proofs.Filter.Height
import RecordSearch.Proofs.Filter.LateChanges
import RecordSearch.Proofs.Filter.ShortCircuit
import RecordSearch.Proofs.Filter.BinaryReading
import RecordSearch.Proofs.Query.Summary
import RecordSearch.Proofs.Query.TypeErrors
import RecordSearch.Proofs.Filter.Operators
import RecordSearch.Proofs.Filter.Decoding
import RecordSearch.Proofs.Filter.Layout
import RecordSearch.Proofs.Filter.WordLiterals
import RecordSearch.Proofs.Query.Cancellation
import RecordSearch.Proofs.Query.Dependence
