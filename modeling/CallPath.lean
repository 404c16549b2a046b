import CallPath.Agent.Json
import CallPath.Application.News
import CallPath.Config.File
import CallPath.Config.Json
import CallPath.Forest.Report
import CallPath.Json.Print
import CallPath.Json.Text
import CallPath.LogFilter
import CallPath.Metrics.Export
import CallPath.Proofs.Accounting
import CallPath.Proofs.Accounts
import CallPath.Proofs.Actions
import CallPath.Proofs.AgentNames
import CallPath.Proofs.Attributes
import CallPath.Proofs.Batches
import CallPath.Proofs.Blindness
import CallPath.Proofs.Bystanders
import CallPath.Proofs.Census
import CallPath.Proofs.Charges
import CallPath.Proofs.Commands
import CallPath.Proofs.Confinement
import CallPath.Proofs.Conservation
import CallPath.Proofs.Constructors
import CallPath.Proofs.Conversation
import CallPath.Proofs.Correlation
import CallPath.Proofs.DetailsCodec
import CallPath.Proofs.Effects
import CallPath.Proofs.Epochs
import CallPath.Proofs.Fields
import CallPath.Proofs.Frames
import CallPath.Proofs.Holding
import CallPath.Proofs.InPlace
import CallPath.Proofs.Increments
import CallPath.Proofs.Independence
import CallPath.Proofs.Inlets
import CallPath.Proofs.Isolation
import CallPath.Proofs.Lasting
import CallPath.Proofs.Leaks
import CallPath.Proofs.Links
import CallPath.Proofs.Monitor
import CallPath.Proofs.Nesting
import CallPath.Proofs.OnePass
import CallPath.Proofs.Operations
import CallPath.Proofs.Origins
import CallPath.Proofs.Overrides
import CallPath.Proofs.Passes
import CallPath.Proofs.Paths
import CallPath.Proofs.Portraits
import CallPath.Proofs.Protocol
import CallPath.Proofs.Quiet
import CallPath.Proofs.Receipts
import CallPath.Proofs.Refusals
import CallPath.Proofs.Replay
import CallPath.Proofs.Routines
import CallPath.Proofs.ScopeEnds
import CallPath.Proofs.Scopes
import CallPath.Proofs.SharedPaths
import CallPath.Proofs.Soundness
import CallPath.Proofs.Stages
import CallPath.Proofs.StartEnd
import CallPath.Proofs.Stranded
import CallPath.Proofs.TagCodec
import CallPath.Proofs.TagForms
import CallPath.Proofs.Texts
import CallPath.Proofs.ThreadViews
import CallPath.Proofs.Trimming
import CallPath.Proofs.Walks
import CallPath.Text.Utf8
