import GridPolicy.Capture
import GridPolicy.CommandLine
import GridPolicy.CommandLine.Arguments
import GridPolicy.Conditional
import GridPolicy.Config
import GridPolicy.Config.LogFilter
import GridPolicy.Decimal.Double
import GridPolicy.Decimal.Places
import GridPolicy.Decimal.Shortest
import GridPolicy.Dispatch
import GridPolicy.Document
import GridPolicy.Document.Decode
import GridPolicy.Document.Field
import GridPolicy.Document.Printer
import GridPolicy.Document.Reader
import GridPolicy.Event.Arguments
import GridPolicy.Event.Basic
import GridPolicy.Event.Classifier
import GridPolicy.Event.Record
import GridPolicy.Event.Session
import GridPolicy.Grid
import GridPolicy.Handler
import GridPolicy.LogicalPath
import GridPolicy.Main
import GridPolicy.Pattern
import GridPolicy.Pattern.Basic
import GridPolicy.Pattern.Bytes
import GridPolicy.Pattern.CharClass
import GridPolicy.Pattern.CharSet
import GridPolicy.Pattern.Expression
import GridPolicy.Pattern.LiteralTree
import GridPolicy.Pattern.Parser
import GridPolicy.Pattern.Resolve
import GridPolicy.Pattern.Shape
import GridPolicy.Pattern.Size
import GridPolicy.Pattern.Unicode.Age
import GridPolicy.Pattern.Unicode.Break
import GridPolicy.Pattern.Unicode.Category
import GridPolicy.Pattern.Unicode.DerivedProperty
import GridPolicy.Pattern.Unicode.Folding
import GridPolicy.Pattern.Unicode.NameCharacter
import GridPolicy.Pattern.Unicode.Property
import GridPolicy.Pattern.Unicode.Script
import GridPolicy.Pattern.Unicode.ScriptExtension
import GridPolicy.Policy.Basic
import GridPolicy.Policy.Builtin
import GridPolicy.Policy.Chain
import GridPolicy.Policy.Delegation
import GridPolicy.Policy.Error
import GridPolicy.Policy.Metadata
import GridPolicy.Policy.QueryProcessor
import GridPolicy.Policy.Replica
import GridPolicy.Policy.ResourcePairs
import GridPolicy.Proofs.Capture.Hierarchy
import GridPolicy.Proofs.Capture.Resource
import GridPolicy.Proofs.Conditional.Meaning
import GridPolicy.Proofs.Conditional.WholeField
import GridPolicy.Proofs.Config.Rewriting
import GridPolicy.Proofs.Dispatch.Attempts
import GridPolicy.Proofs.Dispatch.Routing
import GridPolicy.Proofs.Document.Fields
import GridPolicy.Proofs.Document.Finite
import GridPolicy.Proofs.Document.Quoted
import GridPolicy.Proofs.Document.Size
import GridPolicy.Proofs.Event.Names
import GridPolicy.Proofs.Event.PointNames
import GridPolicy.Proofs.Handler.Isolation
import GridPolicy.Proofs.LogicalPath.Parts
import GridPolicy.Proofs.LogicalPath.Segments
import GridPolicy.Proofs.LogicalPath.Walk
import GridPolicy.Proofs.Movement.Destination
import GridPolicy.Proofs.Movement.Order
import GridPolicy.Proofs.Movement.Removal
import GridPolicy.Proofs.Movement.Steps
import GridPolicy.Proofs.Pattern.Classes
import GridPolicy.Proofs.Pattern.Enclosed
import GridPolicy.Proofs.Pattern.Escapes
import GridPolicy.Proofs.Pattern.Groups
import GridPolicy.Proofs.Pattern.Reach
import GridPolicy.Proofs.Pattern.Reading
import GridPolicy.Proofs.Pattern.Signs
import GridPolicy.Proofs.Policy.AccessTimes
import GridPolicy.Proofs.Policy.Approximation
import GridPolicy.Proofs.Policy.ChainWeight
import GridPolicy.Proofs.Policy.ChecksumReplica
import GridPolicy.Proofs.Policy.Delegated
import GridPolicy.Proofs.Policy.Depth
import GridPolicy.Proofs.Policy.Descent
import GridPolicy.Proofs.Policy.Endless
import GridPolicy.Proofs.Policy.FilledMetadata
import GridPolicy.Proofs.Policy.Interrupted
import GridPolicy.Proofs.Policy.Invocation
import GridPolicy.Proofs.Policy.Leaves
import GridPolicy.Proofs.Policy.Nesting
import GridPolicy.Proofs.Policy.VisitedPairs
import GridPolicy.Proofs.Query.CleanFailure
import GridPolicy.Proofs.Query.FanOut
import GridPolicy.Proofs.Query.Loop
import GridPolicy.Proofs.Query.NamedTokens
import GridPolicy.Proofs.Query.NestedQuery
import GridPolicy.Proofs.Query.ObjectQueries
import GridPolicy.Proofs.Query.PositionTokens
import GridPolicy.Proofs.Query.Prepared
import GridPolicy.Proofs.Query.RowOrder
import GridPolicy.Proofs.Query.RowRuns
import GridPolicy.Proofs.Query.SlashedPaths
import GridPolicy.Proofs.Query.TakenTurns
import GridPolicy.Proofs.Query.Workers
import GridPolicy.Proofs.Retention.NamedSource
import GridPolicy.Proofs.Retention.Plan
import GridPolicy.Proofs.Retention.Removed
import GridPolicy.Proofs.Retention.Reordered
import GridPolicy.Proofs.Retention.RowObject
import GridPolicy.Proofs.Retention.Safety
import GridPolicy.Proofs.Retention.Trace
import GridPolicy.Proofs.Run.Additions
import GridPolicy.Proofs.Run.Answers
import GridPolicy.Proofs.Run.Errors
import GridPolicy.Proofs.Run.Paired
import GridPolicy.Proofs.Run.RunsOut
import GridPolicy.Proofs.Run.Sequence
import GridPolicy.Proofs.Run.Settled
import GridPolicy.Proofs.Session.BulkUpload
import GridPolicy.Proofs.Session.History
import GridPolicy.Proofs.Session.HostLead
import GridPolicy.Proofs.Session.Lifecycle
import GridPolicy.Proofs.Session.Records
import GridPolicy.Proofs.Session.ReportedEvents
import GridPolicy.Proofs.Session.Reports
import GridPolicy.Proofs.Text.Integer
import GridPolicy.Proofs.Text.Occurrence
import GridPolicy.Proofs.Text.Ordered
import GridPolicy.Proofs.Verification.Decision
import GridPolicy.Proofs.Verification.Looks
import GridPolicy.Proofs.Verification.Lookup
import GridPolicy.Query.Iteration
import GridPolicy.Query.Template
import GridPolicy.Retention
import GridPolicy.Run
import GridPolicy.Status
import GridPolicy.Text
import GridPolicy.Text.Integer
import GridPolicy.Text.Ordered
import GridPolicy.Toml
import GridPolicy.Toml.Scalar
import GridPolicy.Toml.Table
import GridPolicy.Verification
