import AuthBroker.Text.Utf8
import AuthBroker.Text.Quoted
import AuthBroker.Decimal.Digits
import AuthBroker.Decimal.Shortest
import AuthBroker.Frame.Outgoing
import AuthBroker.Frame.Incoming
import AuthBroker.Json.Lexeme
import AuthBroker.Json.Reader
import AuthBroker.Json.Skip
import AuthBroker.Json.Printer
import AuthBroker.Request.Encode
import AuthBroker.Request.Decode
import AuthBroker.Reply.Payload
import AuthBroker.ExitCodes
import AuthBroker.Duration
import AuthBroker.FilePath
import AuthBroker.Verdict
import AuthBroker.Config.Basic
import AuthBroker.Toml.Document
import AuthBroker.Config.File
import AuthBroker.Launch
import AuthBroker.Attempt.Basic
import AuthBroker.Broker
import AuthBroker.Proofs.Text.Utf8
import AuthBroker.Proofs.Json.Numeral
import AuthBroker.Proofs.Json.Grammar
import AuthBroker.Proofs.Json.Reading
import AuthBroker.Proofs.Reply.FailClosed
import AuthBroker.Proofs.Environment
import AuthBroker.Proofs.Json.Writing
import AuthBroker.Proofs.Text.ByteOrder
import AuthBroker.Proofs.Request.Wire
import AuthBroker.Proofs.Request.RoundTrip
import AuthBroker.Proofs.Stream.Channel
import AuthBroker.Proofs.Frame.Incoming
import AuthBroker.Proofs.Frame.Delivery
import AuthBroker.Proofs.Attempt.Service
import AuthBroker.Proofs.Attempt.ProbeVerdict
import AuthBroker.Proofs.Decimal.Rounding
import AuthBroker.Proofs.Json.Range
import AuthBroker.Proofs.Frame.Torn
import AuthBroker.Proofs.Frame.Reading
import AuthBroker.Proofs.Reply.Delivery
import AuthBroker.Proofs.Attempt.History
import AuthBroker.Proofs.Attempt.Sending
import AuthBroker.Proofs.Exchange
import AuthBroker.Proofs.Request.Delivery
import AuthBroker.Proofs.Attempt.Cleanup
import AuthBroker.Credentials
import AuthBroker.Proofs.Attempt.Secrecy
import AuthBroker.Proofs.Cancellation
import AuthBroker.Proofs.Race
import AuthBroker.Proofs.Backpressure
import AuthBroker.Proofs.Json.Skipping
import AuthBroker.Proofs.Request.Grammar
import AuthBroker.Proofs.Request.Acceptance
import AuthBroker.Proofs.Toml.Number
import AuthBroker.Proofs.Toml.Spelling
import AuthBroker.Proofs.Toml.Terms
import AuthBroker.Proofs.Toml.Lines
import AuthBroker.Proofs.Config.RoundTrip
import AuthBroker.Proofs.Frame.Writing
import AuthBroker.Proofs.Request.Meaning
import AuthBroker.Proofs.Request.Reencoding
import AuthBroker.Proofs.Request.Respelling
import AuthBroker.Proofs.Json.Twins
import AuthBroker.Proofs.Json.Passing
import AuthBroker.Proofs.Request.Discretion
import AuthBroker.Proofs.Decimal.Digits
import AuthBroker.Proofs.Json.Integer
import AuthBroker.Proofs.Request.Canonical
import AuthBroker.Proofs.Reply.ExecutionText
import AuthBroker.Proofs.Reply.BareNumber
import AuthBroker.Proofs.Toml.Distinct
import AuthBroker.Proofs.Config.Entry
import AuthBroker.Proofs.Config.Resolving
import AuthBroker.Proofs.Config.Acceptance
import AuthBroker.Proofs.FilePath
import AuthBroker.Proofs.Launch.Confinement
import AuthBroker.Proofs.Launch.Inheritance
import AuthBroker.Proofs.Attempt.Crashing
import AuthBroker.Proofs.WaitStatus
import AuthBroker.Proofs.Attempt.Fate
import AuthBroker.Proofs.Request.Storage
import AuthBroker.Proofs.Text.Quoted
import AuthBroker.Proofs.Failure
import AuthBroker.Proofs.Completion
