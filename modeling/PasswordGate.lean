import PasswordGate.Bytes
import PasswordGate.Bytes.Base64
import PasswordGate.Bytes.Erase
import PasswordGate.Bytes.Hex
import PasswordGate.Bytes.Sha256
import PasswordGate.Codec.Envelope
import PasswordGate.Codec.Error
import PasswordGate.Codec.Field
import PasswordGate.Codec.Kind
import PasswordGate.Codec.Status
import PasswordGate.Codec.Word
import PasswordGate.Store.Basic
import PasswordGate.Store.Message
import PasswordGate.Store.Workspace
import PasswordGate.Text.Blank
import PasswordGate.Text.Digit
import PasswordGate.Text.Integer
import PasswordGate.Text.Printable
import PasswordGate.Text.Quoted
import PasswordGate.Number.Double
import PasswordGate.Number.Fixed
import PasswordGate.Number.Reading
import PasswordGate.Number.Shortest
import PasswordGate.Value
import PasswordGate.Value.Hash
import PasswordGate.Value.Literal
import PasswordGate.Json.OfValue
import PasswordGate.Json.Text
import PasswordGate.Log.Calendar
import PasswordGate.Log.Instant
import PasswordGate.Log.Level
import PasswordGate.Log.Note
import PasswordGate.Log.Record
import PasswordGate.Log.Routing
import PasswordGate.Log.Template
import PasswordGate.Settings
import PasswordGate.Settings.Coercion
import PasswordGate.Settings.Loading
import PasswordGate.Settings.Schema
import PasswordGate.Toml.Document
import PasswordGate.Toml.Lexeme
import PasswordGate.Toml.Scalar
import PasswordGate.Toml.Table
import PasswordGate.Counters
import PasswordGate.Counters.Exposition
import PasswordGate.Device
import PasswordGate.Device.Authenticator
import PasswordGate.Device.Visit
import PasswordGate.Inspect.Arguments
import PasswordGate.Inspect.Command
import PasswordGate.Inspect.HexText
import PasswordGate.Inspect.Snapshot
import PasswordGate.Version
import PasswordGate.Main
import PasswordGate.Proofs.Codec.Field
import PasswordGate.Proofs.Codec.Payload
import PasswordGate.Proofs.Codec.Envelope
import PasswordGate.Proofs.Store.Lookup
import PasswordGate.Proofs.Store.Ownership
import PasswordGate.Proofs.Store.Operations
import PasswordGate.Proofs.Store.Contents
import PasswordGate.Proofs.Store.Decoding
import PasswordGate.Proofs.Store.Workspace
import PasswordGate.Proofs.Store.Erasure
import PasswordGate.Proofs.Store.RoundTrip
import PasswordGate.Proofs.Device.Calls
import PasswordGate.Proofs.Store.Construction
import PasswordGate.Proofs.Device.Edits
import PasswordGate.Proofs.Device.Verdict
import PasswordGate.Proofs.Device.Visits
import PasswordGate.Proofs.Device.Agreement
import PasswordGate.Proofs.Codec.Decoding
import PasswordGate.Proofs.Store.Failure
import PasswordGate.Proofs.Store.Forgetting
import PasswordGate.Proofs.Device.Gate
import PasswordGate.Proofs.Device.Invocations
import PasswordGate.Proofs.Bytes.Hex
import PasswordGate.Proofs.Text.Escape
import PasswordGate.Proofs.Log.Exposure
import PasswordGate.Proofs.Inspect.Arguments
import PasswordGate.Proofs.Inspect.HexText
import PasswordGate.Proofs.Inspect.Disclosure
import PasswordGate.Proofs.Store.Confinement
import PasswordGate.Proofs.Device.Wiping
import PasswordGate.Proofs.Counters
import PasswordGate.Proofs.Device.Accounting
import PasswordGate.Proofs.Log.Veil
import PasswordGate.Proofs.Codec.Layout
import PasswordGate.Proofs.Device.Replies
import PasswordGate.Proofs.Device.Secrecy
import PasswordGate.Proofs.Inspect.Redaction
import PasswordGate.Proofs.Store.Moves
import PasswordGate.Proofs.Store.Serialization
import PasswordGate.Proofs.Json.Numbers
import PasswordGate.Proofs.Json.RoundTrip
import PasswordGate.Proofs.Log.Recovery
import PasswordGate.Proofs.Store.Refusal
import PasswordGate.Proofs.Settings.Making
import PasswordGate.Proofs.Value.Hash
import PasswordGate.Proofs.Settings.Schema
import PasswordGate.Proofs.Codec.Window
import PasswordGate.Proofs.Codec.Truncation
import PasswordGate.Proofs.Store.Window
import PasswordGate.Proofs.Store.Truncation
import PasswordGate.Proofs.Store.Extension
import PasswordGate.Proofs.Value.Distinct
import PasswordGate.Proofs.Settings.Complaints
import PasswordGate.Proofs.Toml.Distinct
import PasswordGate.Proofs.Settings.Loading
import PasswordGate.Proofs.Log.Calendar
import PasswordGate.Proofs.Log.Stamp
import PasswordGate.Proofs.Inspect.Comparison
import PasswordGate.Proofs.Inspect.Reports
import PasswordGate.Proofs.Bytes.Erase
import PasswordGate.Proofs.Store.Fields
