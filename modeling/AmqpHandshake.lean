import AmqpHandshake.Cbs.Claim
import AmqpHandshake.Cbs.Outcome
import AmqpHandshake.Cbs.Session
import AmqpHandshake.Cli.Arguments
import AmqpHandshake.Cli.Run
import AmqpHandshake.Cli.Usage
import AmqpHandshake.Config.Connection
import AmqpHandshake.Config.Credentials
import AmqpHandshake.Config.Protocol
import AmqpHandshake.Config.Proxy
import AmqpHandshake.Controller.Attempt
import AmqpHandshake.Controller.State
import AmqpHandshake.Credential
import AmqpHandshake.Decimal.Binary64
import AmqpHandshake.Decimal.Ratio
import AmqpHandshake.Decimal.Shortest
import AmqpHandshake.Engine.Answering
import AmqpHandshake.Engine.Basic
import AmqpHandshake.Engine.Event
import AmqpHandshake.Error.FileFault
import AmqpHandshake.Error.Handshake
import AmqpHandshake.Establish.Queue
import AmqpHandshake.Establish.Run
import AmqpHandshake.Files.Tree
import AmqpHandshake.Json.Decode
import AmqpHandshake.Json.Numeral
import AmqpHandshake.Json.Print
import AmqpHandshake.Json.Value
import AmqpHandshake.Link.Service
import AmqpHandshake.Link.Spec
import AmqpHandshake.Main
import AmqpHandshake.Nonce
import AmqpHandshake.Plan.Overrides
import AmqpHandshake.Plan.Report
import AmqpHandshake.Proofs.Authority
import AmqpHandshake.Proofs.Base64
import AmqpHandshake.Proofs.Calls
import AmqpHandshake.Proofs.Confirmations
import AmqpHandshake.Proofs.Construction
import AmqpHandshake.Proofs.Cooperation
import AmqpHandshake.Proofs.Course
import AmqpHandshake.Proofs.CutOff
import AmqpHandshake.Proofs.Destination
import AmqpHandshake.Proofs.Dialogue
import AmqpHandshake.Proofs.Echo
import AmqpHandshake.Proofs.Enactment
import AmqpHandshake.Proofs.Exchange
import AmqpHandshake.Proofs.Expiry
import AmqpHandshake.Proofs.Files
import AmqpHandshake.Proofs.Findings
import AmqpHandshake.Proofs.FirstDecision
import AmqpHandshake.Proofs.FirstFailure
import AmqpHandshake.Proofs.History
import AmqpHandshake.Proofs.Layers
import AmqpHandshake.Proofs.Ledger
import AmqpHandshake.Proofs.Merging
import AmqpHandshake.Proofs.Numeral
import AmqpHandshake.Proofs.Presentation
import AmqpHandshake.Proofs.Progress
import AmqpHandshake.Proofs.Reaction
import AmqpHandshake.Proofs.Redaction
import AmqpHandshake.Proofs.Redelivery
import AmqpHandshake.Proofs.Representation
import AmqpHandshake.Proofs.Secrecy
import AmqpHandshake.Proofs.ServiceLink
import AmqpHandshake.Proofs.SettingsFile
import AmqpHandshake.Proofs.Settling
import AmqpHandshake.Proofs.StandAlone
import AmqpHandshake.Proofs.Supply
import AmqpHandshake.Proofs.Termination
import AmqpHandshake.Proofs.TomlDocument
import AmqpHandshake.Proofs.TomlText
import AmqpHandshake.Proofs.Tunnel
import AmqpHandshake.Proofs.Verdict
import AmqpHandshake.Proofs.WriteOnce
import AmqpHandshake.Settings.Basic
import AmqpHandshake.Settings.File
import AmqpHandshake.Settings.Read
import AmqpHandshake.Settings.Write
import AmqpHandshake.Shape
import AmqpHandshake.Text.Base64
import AmqpHandshake.Text.Blank
import AmqpHandshake.Text.CodePointSet
import AmqpHandshake.Text.ControlSequence
import AmqpHandshake.Text.Cut
import AmqpHandshake.Text.GraphemeExtend
import AmqpHandshake.Text.Inspect
import AmqpHandshake.Text.Numeral
import AmqpHandshake.Text.Printable
import AmqpHandshake.Text.Utf8
import AmqpHandshake.Time.UtcTime
import AmqpHandshake.Tls.Certificate
import AmqpHandshake.Tls.Der
import AmqpHandshake.Tls.Pem
import AmqpHandshake.Tls.Source
import AmqpHandshake.Toml.Document
import AmqpHandshake.Toml.Node
import AmqpHandshake.Toml.Number
import AmqpHandshake.Toml.Text
import AmqpHandshake.Toml.Value
import AmqpHandshake.Transport.Endpoint
import AmqpHandshake.Transport.LayerPlan
import AmqpHandshake.Transport.Tunnel
import AmqpHandshake.Transport.WebSocket
import AmqpHandshake.Uri.Authority
import AmqpHandshake.Uri.Basic
