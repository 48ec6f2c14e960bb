import TelemetrySidecar.Address
import TelemetrySidecar.Binary64.Basic
import TelemetrySidecar.Binary64.DecimalText
import TelemetrySidecar.BuildInfo
import TelemetrySidecar.CommandLine
import TelemetrySidecar.Configuration.Basic
import TelemetrySidecar.Configuration.Document
import TelemetrySidecar.Configuration.KeyPath
import TelemetrySidecar.Configuration.Queues
import TelemetrySidecar.Configuration.Reading
import TelemetrySidecar.Configuration.Reference
import TelemetrySidecar.Configuration.Spread
import TelemetrySidecar.Environment
import TelemetrySidecar.Extension.Client
import TelemetrySidecar.Extension.Event
import TelemetrySidecar.Extension.Registration
import TelemetrySidecar.Extension.Run.Basic
import TelemetrySidecar.Extension.Run.Course
import TelemetrySidecar.Extension.Run.Error
import TelemetrySidecar.Files
import TelemetrySidecar.Http.Client
import TelemetrySidecar.Http.Exchange
import TelemetrySidecar.Http.Status
import TelemetrySidecar.Http.Url
import TelemetrySidecar.Json.Decode
import TelemetrySidecar.Json.Number
import TelemetrySidecar.Json.Tree
import TelemetrySidecar.Json.Value
import TelemetrySidecar.Main
import TelemetrySidecar.Node.Basic
import TelemetrySidecar.Receiver.Channel
import TelemetrySidecar.Receiver.Intake
import TelemetrySidecar.Receiver.Service
import TelemetrySidecar.Receiver.Settings
import TelemetrySidecar.Resolution.Bucket
import TelemetrySidecar.Resolution.Converter
import TelemetrySidecar.Resolution.Error
import TelemetrySidecar.Resolution.Provider
import TelemetrySidecar.Resolution.Resolver
import TelemetrySidecar.Resolution.Uri
import TelemetrySidecar.Service.Coordinator
import TelemetrySidecar.Service.Course
import TelemetrySidecar.Service.Kind
import TelemetrySidecar.Service.Rehearsal
import TelemetrySidecar.Service.State
import TelemetrySidecar.Settings.Basic
import TelemetrySidecar.Settings.Complaint
import TelemetrySidecar.Settings.Error
import TelemetrySidecar.Settings.Inline
import TelemetrySidecar.Settings.Layer
import TelemetrySidecar.Settings.Reading
import TelemetrySidecar.Settings.Value
import TelemetrySidecar.Telemetry.Buffering
import TelemetrySidecar.Telemetry.Client
import TelemetrySidecar.Telemetry.Event
import TelemetrySidecar.Telemetry.Subscription
import TelemetrySidecar.Text.Blank
import TelemetrySidecar.Text.Cut
import TelemetrySidecar.Text.Digit
import TelemetrySidecar.Text.Millis
import TelemetrySidecar.Text.Quoted
import TelemetrySidecar.Text.Unseen
import TelemetrySidecar.Text.Utf8
import TelemetrySidecar.Toml.Document
import TelemetrySidecar.Toml.Item
import TelemetrySidecar.Toml.Scalar
import TelemetrySidecar.Word
import TelemetrySidecar.Yaml.Cursor
import TelemetrySidecar.Yaml.Document
import TelemetrySidecar.Yaml.Event
import TelemetrySidecar.Yaml.Plain
import TelemetrySidecar.Yaml.Token.Basic
import TelemetrySidecar.Yaml.Token.Property
import TelemetrySidecar.Yaml.Token.Scalar
import TelemetrySidecar.Yaml.Token.Stream
import TelemetrySidecar.Proofs.Node.Same
import TelemetrySidecar.Proofs.Node.Mapping
import TelemetrySidecar.Proofs.Node.Order
import TelemetrySidecar.Proofs.Configuration.Merge
import TelemetrySidecar.Proofs.Yaml.Document
import TelemetrySidecar.Proofs.Configuration.KeyPath
import TelemetrySidecar.Proofs.Configuration.Spread
import TelemetrySidecar.Proofs.Configuration.Precedence
import TelemetrySidecar.Proofs.Configuration.Put
import TelemetrySidecar.Proofs.Configuration.Queues
import TelemetrySidecar.Proofs.Configuration.Expansion
import TelemetrySidecar.Proofs.Resolution.Sources
import TelemetrySidecar.Proofs.Resolution.Standard
import TelemetrySidecar.Proofs.Service.Move
import TelemetrySidecar.Proofs.Service.Phase
import TelemetrySidecar.Proofs.Service.History
import TelemetrySidecar.Proofs.Service.Report
import TelemetrySidecar.Proofs.Service.Shutdown
import TelemetrySidecar.Proofs.Service.Start
import TelemetrySidecar.Proofs.Trace
import TelemetrySidecar.Proofs.Receiver.Acceptance
import TelemetrySidecar.Proofs.Extension.Move
import TelemetrySidecar.Proofs.Extension.Standing
import TelemetrySidecar.Proofs.Extension.Service
import TelemetrySidecar.Proofs.Extension.Agenda
import TelemetrySidecar.Proofs.Resolution.Retrieval
import TelemetrySidecar.Proofs.Extension.Gate
import TelemetrySidecar.Proofs.Extension.Cleanup
import TelemetrySidecar.Proofs.Extension.Delivery
import TelemetrySidecar.Proofs.Receiver.Answer
import TelemetrySidecar.Proofs.Service.Abandoned
import TelemetrySidecar.Proofs.Service.Failure
import TelemetrySidecar.Proofs.Resolution.FailFast
import TelemetrySidecar.Proofs.Text.Utf8
import TelemetrySidecar.Proofs.Text.Cut
import TelemetrySidecar.Proofs.Http.Exchange
import TelemetrySidecar.Proofs.Extension.Identity
import TelemetrySidecar.Proofs.Json.Whole
import TelemetrySidecar.Proofs.Json.Written
import TelemetrySidecar.Proofs.Json.Record
import TelemetrySidecar.Proofs.Extension.Event
import TelemetrySidecar.Proofs.Json.Revision
import TelemetrySidecar.Proofs.Telemetry.Subscription
import TelemetrySidecar.Proofs.Settings.Table
import TelemetrySidecar.Proofs.Settings.Layer
import TelemetrySidecar.Proofs.Settings.Reading
import TelemetrySidecar.Proofs.Settings.Precedence
import TelemetrySidecar.Proofs.Configuration.Assignment
import TelemetrySidecar.Proofs.Configuration.NormalForm
import TelemetrySidecar.Proofs.Configuration.FlatForm
import TelemetrySidecar.Proofs.Configuration.Algebra
import TelemetrySidecar.Proofs.Configuration.Commutation
import TelemetrySidecar.Proofs.Configuration.KeyOrder
import TelemetrySidecar.Proofs.Configuration.Reference
import TelemetrySidecar.Proofs.Configuration.Variables
import TelemetrySidecar.Proofs.Configuration.Interchange
import TelemetrySidecar.Proofs.Configuration.QuietFrame
import TelemetrySidecar.Proofs.Receiver.Order
import TelemetrySidecar.Proofs.Receiver.Recorded
import TelemetrySidecar.Proofs.Extension.Reachable
import TelemetrySidecar.Proofs.Extension.Loop
import TelemetrySidecar.Proofs.Http.Redirection
import TelemetrySidecar.Proofs.Receiver.Readiness
import TelemetrySidecar.Proofs.Telemetry.Client
import TelemetrySidecar.Proofs.Resolution.Bucket
import TelemetrySidecar.Proofs.Resolution.Uri
import TelemetrySidecar.Proofs.Service.Record
import TelemetrySidecar.Proofs.Address
