import Promotion.Access
import Promotion.Action
import Promotion.Artifact
import Promotion.Audit.Chain
import Promotion.Audit.Entry
import Promotion.Audit.Error
import Promotion.Audit.FileStore
import Promotion.Audit.MemoryStore
import Promotion.Audit.Query
import Promotion.Audit.Storage
import Promotion.Audit.Store
import Promotion.Controller
import Promotion.Controller.Builder
import Promotion.Controller.Standing
import Promotion.Digest
import Promotion.Environment
import Promotion.Error
import Promotion.Format
import Promotion.Format.Record
import Promotion.Gate
import Promotion.Gate.Run
import Promotion.Http.Header
import Promotion.Http.Url
import Promotion.Json
import Promotion.Json.Printer
import Promotion.Json.Reader
import Promotion.Json.Walk
import Promotion.Log
import Promotion.Log.Filter
import Promotion.Log.Options
import Promotion.Operator
import Promotion.Pipeline
import Promotion.PromotionId
import Promotion.Proofs.Access
import Promotion.Proofs.Action
import Promotion.Proofs.Agree
import Promotion.Proofs.Artifact
import Promotion.Proofs.Audit.Alike
import Promotion.Proofs.Audit.Answer
import Promotion.Proofs.Audit.Chain
import Promotion.Proofs.Audit.Commitment
import Promotion.Proofs.Audit.Entry
import Promotion.Proofs.Audit.FileStore
import Promotion.Proofs.Audit.Lines
import Promotion.Proofs.Audit.MemoryStore
import Promotion.Proofs.Audit.Numbers
import Promotion.Proofs.Audit.Order
import Promotion.Proofs.Audit.Prefix
import Promotion.Proofs.Audit.Query
import Promotion.Proofs.Audit.Restart
import Promotion.Proofs.Audit.Seal
import Promotion.Proofs.Audit.Store
import Promotion.Proofs.Controller.Afresh
import Promotion.Proofs.Controller.Agree
import Promotion.Proofs.Controller.Aside
import Promotion.Proofs.Controller.Assessment
import Promotion.Proofs.Controller.Conclusion
import Promotion.Proofs.Controller.DryRun
import Promotion.Proofs.Controller.Duties
import Promotion.Proofs.Controller.Enforcement
import Promotion.Proofs.Controller.Forward
import Promotion.Proofs.Controller.Gates
import Promotion.Proofs.Controller.Isolation
import Promotion.Proofs.Controller.Landing
import Promotion.Proofs.Controller.Ledger
import Promotion.Proofs.Controller.Look
import Promotion.Proofs.Controller.Mirror
import Promotion.Proofs.Controller.Once
import Promotion.Proofs.Controller.Outage
import Promotion.Proofs.Controller.Policy
import Promotion.Proofs.Controller.Posting
import Promotion.Proofs.Controller.Promises
import Promotion.Proofs.Controller.Replay
import Promotion.Proofs.Controller.Run
import Promotion.Proofs.Controller.Rungs
import Promotion.Proofs.Controller.Shown
import Promotion.Proofs.Controller.Signature
import Promotion.Proofs.Controller.Standing
import Promotion.Proofs.Controller.Undo
import Promotion.Proofs.Controller.Watch
import Promotion.Proofs.DataModel
import Promotion.Proofs.Defaults
import Promotion.Proofs.Format
import Promotion.Proofs.Format.Shape
import Promotion.Proofs.Gate
import Promotion.Proofs.Gate.Calls
import Promotion.Proofs.Http.Header
import Promotion.Proofs.Json.Extension
import Promotion.Proofs.Json.RoundTrip
import Promotion.Proofs.Json.Without
import Promotion.Proofs.Mirror
import Promotion.Proofs.Pipeline
import Promotion.Proofs.Pipeline.Faults
import Promotion.Proofs.Pipeline.Moves
import Promotion.Proofs.Sha256
import Promotion.Proofs.Text.Decimal
import Promotion.Proofs.Text.Utf8
import Promotion.Proofs.Timestamp
import Promotion.Proofs.Uuid
import Promotion.Proofs.Webhook.Attempts
import Promotion.Proofs.Webhook.Carried
import Promotion.Proofs.Webhook.Tasks
import Promotion.Proofs.World
import Promotion.Proofs.World.Alike
import Promotion.Record
import Promotion.Registry
import Promotion.Rehearsal
import Promotion.Rehearsal.Desk
import Promotion.Rehearsal.Endpoint
import Promotion.Rehearsal.Fault
import Promotion.Rehearsal.Mask
import Promotion.Rehearsal.Script
import Promotion.Rehearsal.Session
import Promotion.Rehearsal.Turnstile
import Promotion.Report
import Promotion.Setting
import Promotion.Settings
import Promotion.Settings.File
import Promotion.Settings.Layer
import Promotion.Settings.Load
import Promotion.Settings.Path
import Promotion.Sha256
import Promotion.Signature
import Promotion.Signature.Cache
import Promotion.Signature.Verifier
import Promotion.SortedMap
import Promotion.Table
import Promotion.Text.Blank
import Promotion.Text.Decimal
import Promotion.Text.Hex
import Promotion.Text.Number
import Promotion.Text.Printable
import Promotion.Text.Shortest
import Promotion.Timestamp
import Promotion.Timestamp.Format
import Promotion.Timestamp.Rfc3339
import Promotion.Toml.Reader
import Promotion.Toml.Scalar
import Promotion.Toml.Tree
import Promotion.Uuid
import Promotion.Webhook
import Promotion.Webhook.Delivery
import Promotion.Webhook.Notifier
import Promotion.Webhook.Schedule
import Promotion.World
import Promotion.Yaml.Reader
import Promotion.Yaml.Scalar
