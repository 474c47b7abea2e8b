import TagRules.Assoc
import TagRules.Calendar.Date
import TagRules.Calendar.Written
import TagRules.Condition
import TagRules.Decimal.Binary64
import TagRules.Decimal.Layout
import TagRules.Decimal.Numeral
import TagRules.Decimal.Shortest
import TagRules.Dependency.Basic
import TagRules.Dependency.Cycles
import TagRules.Dependency.Levels
import TagRules.Dependency.Search
import TagRules.Error
import TagRules.Json.Basic
import TagRules.Json.Numeral
import TagRules.Json.Reader
import TagRules.Json.Token
import TagRules.Json.Writer
import TagRules.Malformation
import TagRules.MatchReport
import TagRules.Operator.Comparator
import TagRules.Operator.Comparison
import TagRules.Operator.Transform
import TagRules.Pattern.Basic
import TagRules.Pattern.Bracket
import TagRules.Pattern.Compose
import TagRules.Pattern.Escape
import TagRules.Pattern.Flags
import TagRules.Pattern.Graph
import TagRules.Pattern.Match
import TagRules.Pattern.Named
import TagRules.Pattern.Reader
import TagRules.Pattern.Storage
import TagRules.Plan.Basic
import TagRules.Plan.Execute
import TagRules.Plan.Flatten
import TagRules.Plan.Node
import TagRules.Plan.Optimize
import TagRules.Plan.Options
import TagRules.Proofs.Calendar.Written
import TagRules.Proofs.Dependency.Chain
import TagRules.Proofs.Dependency.Congruence
import TagRules.Proofs.Dependency.Cycle
import TagRules.Proofs.Dependency.Declared
import TagRules.Proofs.Dependency.Detection
import TagRules.Proofs.Dependency.Enumeration
import TagRules.Proofs.Dependency.Extension
import TagRules.Proofs.Dependency.Level
import TagRules.Proofs.Dependency.Listing
import TagRules.Proofs.Dependency.Lost
import TagRules.Proofs.Dependency.Named
import TagRules.Proofs.Dependency.Part
import TagRules.Proofs.Dependency.Removal
import TagRules.Proofs.Dependency.Search
import TagRules.Proofs.Exact
import TagRules.Proofs.Joined
import TagRules.Proofs.MatchReport
import TagRules.Proofs.NeverMatched
import TagRules.Proofs.Operator.Comparison
import TagRules.Proofs.Outcome
import TagRules.Proofs.Plan.Built
import TagRules.Proofs.Plan.Columns
import TagRules.Proofs.Plan.Failure
import TagRules.Proofs.Plan.Flattened
import TagRules.Proofs.Plan.Layered
import TagRules.Proofs.Plan.Merged
import TagRules.Proofs.Plan.Optimized
import TagRules.Proofs.Plan.Passes
import TagRules.Proofs.Plan.Reported
import TagRules.Proofs.Plan.Shared
import TagRules.Proofs.Plan.Transforms
import TagRules.Proofs.Plan.Valuation
import TagRules.Proofs.Plan.WellFormed
import TagRules.Proofs.Rule.Evaluation
import TagRules.Proofs.Rule.Failure
import TagRules.Proofs.Rule.NormalForm
import TagRules.Proofs.Rule.Observation
import TagRules.Proofs.Rule.Preorder
import TagRules.Proofs.Rule.Size
import TagRules.Proofs.Rule.TagReference
import TagRules.Proofs.Rule.Trace
import TagRules.Proofs.Rule.Validation
import TagRules.Proofs.Stored.Alternative
import TagRules.Proofs.Stored.Format
import TagRules.Proofs.Stored.Group
import TagRules.Proofs.Stored.Key
import TagRules.Proofs.Stored.Literal
import TagRules.Proofs.Stored.Reading
import TagRules.Proofs.Stored.RoundTrip
import TagRules.Proofs.Tag.Built
import TagRules.Proofs.Tag.Edited
import TagRules.Proofs.Tag.Membership
import TagRules.Proofs.Tag.Reloaded
import TagRules.Proofs.Tagging.Added
import TagRules.Proofs.Tagging.Agreement
import TagRules.Proofs.Tagging.Columns
import TagRules.Proofs.Tagging.Concatenated
import TagRules.Proofs.Tagging.Course
import TagRules.Proofs.Tagging.Engine
import TagRules.Proofs.Tagging.Extended
import TagRules.Proofs.Tagging.Failure
import TagRules.Proofs.Tagging.Linear
import TagRules.Proofs.Tagging.Matched
import TagRules.Proofs.Tagging.Model
import TagRules.Proofs.Tagging.Observed
import TagRules.Proofs.Tagging.OneByOne
import TagRules.Proofs.Tagging.Output
import TagRules.Proofs.Tagging.Planned
import TagRules.Proofs.Tagging.Queried
import TagRules.Proofs.Tagging.Realized
import TagRules.Proofs.Tagging.Reloaded
import TagRules.Proofs.Tagging.Reordered
import TagRules.Proofs.Tagging.Repeated
import TagRules.Proofs.Tagging.Reports
import TagRules.Proofs.Tagging.Single
import TagRules.Proofs.Text.ByteOrder
import TagRules.Proofs.Value
import TagRules.Record
import TagRules.RecordSet
import TagRules.Registry
import TagRules.Resolved
import TagRules.Rule.Basic
import TagRules.Rule.NormalForm
import TagRules.Stored.Key
import TagRules.Stored.Literal
import TagRules.Stored.Rule
import TagRules.Tag
import TagRules.TagSet
import TagRules.Tagging.Linear
import TagRules.Tagging.Planned
import TagRules.Tagging.Query
import TagRules.Text.ByteRange
import TagRules.Text.Case
import TagRules.Text.CharSet
import TagRules.Text.Property
import TagRules.Text.Quoted
import TagRules.Unicode.Age
import TagRules.Unicode.Break
import TagRules.Unicode.CaseTable
import TagRules.Unicode.Category
import TagRules.Unicode.Folding
import TagRules.Unicode.Property
import TagRules.Unicode.Script
import TagRules.Unicode.ScriptExtension
import TagRules.Unicode.Usage
import TagRules.Value
