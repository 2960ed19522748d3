import Cascade.Alert.Publisher
import Cascade.Alert.Record
import Cascade.Alert.Telegram
import Cascade.Decimal.Binary64
import Cascade.Decimal.Read
import Cascade.Decimal.Shortest
import Cascade.Decimal.Written
import Cascade.Deployment.Basic
import Cascade.Deployment.Schedule
import Cascade.Evaluation.Announced
import Cascade.Evaluation.Pass
import Cascade.Graph.Basic
import Cascade.Graph.Closure
import Cascade.Graph.Order
import Cascade.Graph.Topology
import Cascade.Hash.Sha1
import Cascade.Health.Check
import Cascade.Health.Streak
import Cascade.Http.MediaType
import Cascade.Http.Message
import Cascade.Http.Service
import Cascade.IdMap
import Cascade.Incident.Basic
import Cascade.Incident.Detection
import Cascade.Ingestion
import Cascade.Json.Printer
import Cascade.Json.Reader
import Cascade.Json.Rounded
import Cascade.Json.Value
import Cascade.Main
import Cascade.NameMap
import Cascade.Path
import Cascade.Proofs.Alert.Delivery
import Cascade.Proofs.Deployment.Closure
import Cascade.Proofs.Deployment.Moves
import Cascade.Proofs.Evaluation.Announcements
import Cascade.Proofs.Evaluation.Attempt
import Cascade.Proofs.Evaluation.Coalescing
import Cascade.Proofs.Evaluation.Consistency
import Cascade.Proofs.Evaluation.Evidence
import Cascade.Proofs.Evaluation.Interchange
import Cascade.Proofs.Evaluation.Lifecycle
import Cascade.Proofs.Evaluation.Locality
import Cascade.Proofs.Evaluation.Look
import Cascade.Proofs.Evaluation.Publishing
import Cascade.Proofs.Evaluation.Repetition
import Cascade.Proofs.Evaluation.Retry
import Cascade.Proofs.Evaluation.RootCauses
import Cascade.Proofs.Evaluation.Session
import Cascade.Proofs.Evaluation.Tracking
import Cascade.Proofs.Except
import Cascade.Proofs.Graph.Closure
import Cascade.Proofs.Graph.Construction
import Cascade.Proofs.Graph.Distance
import Cascade.Proofs.Graph.Order
import Cascade.Proofs.Graph.Ways
import Cascade.Proofs.Health.Streak
import Cascade.Proofs.Http.Service
import Cascade.Proofs.IdMap
import Cascade.Proofs.Incident.Book
import Cascade.Proofs.Incident.Course
import Cascade.Proofs.Incident.Detection
import Cascade.Proofs.Incident.Filing
import Cascade.Proofs.Incident.Renaming
import Cascade.Proofs.Ingestion.Answers
import Cascade.Proofs.Ingestion.Coverage
import Cascade.Proofs.Ingestion.Interleaving
import Cascade.Proofs.Ingestion.Once
import Cascade.Proofs.NameMap
import Cascade.Proofs.Settings.Duration
import Cascade.Proofs.Settings.Reach
import Cascade.Proofs.Settings.Resolution
import Cascade.Proofs.Settings.SmallNames
import Cascade.Proofs.Since
import Cascade.Proofs.Site
import Cascade.Proofs.State.Evaluation
import Cascade.Proofs.State.Propagation
import Cascade.Proofs.State.Relevance
import Cascade.Proofs.State.Ways
import Cascade.Proofs.Store.Entries
import Cascade.Proofs.Store.Keeping
import Cascade.Proofs.Store.Mirror
import Cascade.Proofs.Store.Rows
import Cascade.Proofs.Store.Signals
import Cascade.Proofs.Store.Transaction
import Cascade.Proofs.Store.Upkeep
import Cascade.Proofs.Text.Case
import Cascade.Proofs.Text.Digits
import Cascade.Proofs.Text.Word
import Cascade.Proofs.Time.Instant
import Cascade.Proofs.Time.Timeline
import Cascade.Proofs.Uuid
import Cascade.Proofs.Uuid.Order
import Cascade.Proofs.Worker.Burst
import Cascade.Proofs.Worker.Custody
import Cascade.Proofs.Worker.Cut
import Cascade.Proofs.Worker.Loop
import Cascade.Proofs.Worker.Owner
import Cascade.Proofs.Worker.Retention
import Cascade.Proofs.Worker.Step
import Cascade.Settings.Basic
import Cascade.Settings.Checks
import Cascade.Settings.Document
import Cascade.Settings.Duration
import Cascade.Settings.Error
import Cascade.Settings.Layers
import Cascade.Settings.Topology
import Cascade.Settings.Yaml
import Cascade.Signal.Basic
import Cascade.Signal.Severity
import Cascade.Site
import Cascade.State.Basic
import Cascade.State.Evaluation
import Cascade.State.Propagation
import Cascade.State.Threshold
import Cascade.Store.Access
import Cascade.Store.Address
import Cascade.Store.Backend
import Cascade.Store.Directory
import Cascade.Store.Error
import Cascade.Store.Marks
import Cascade.Store.Memory
import Cascade.Store.Opening
import Cascade.Store.Table
import Cascade.Text.Blank
import Cascade.Text.Cased
import Cascade.Text.Digits
import Cascade.Text.LetterCase
import Cascade.Text.Numeral
import Cascade.Text.Percent
import Cascade.Text.Word
import Cascade.Time.Backoff
import Cascade.Time.Calendar
import Cascade.Time.Clock
import Cascade.Time.Instant
import Cascade.Time.Rfc3339
import Cascade.Time.Span
import Cascade.Time.Timeline
import Cascade.Time.Written
import Cascade.Uuid
import Cascade.Worker.Basic
import Cascade.Worker.Error
import Cascade.Worker.Queue
import Cascade.Worker.Schedule
import Cascade.Yaml.Folding
import Cascade.Yaml.Layout
import Cascade.Yaml.Node
import Cascade.Yaml.Quoted
import Cascade.Yaml.Source
import Cascade.Yaml.Token
import Cascade.Yaml.V11
import Cascade.Yaml.V12
