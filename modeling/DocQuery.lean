import DocQuery.Text.CodeSet
import DocQuery.Text.Property
import DocQuery.Text.Case
import DocQuery.Text.Blank
import DocQuery.Text.SnakeCase
import DocQuery.Number.Binary
import DocQuery.Number.Shortest
import DocQuery.Number.Text
import DocQuery.Number.Basic
import DocQuery.FieldMap
import DocQuery.Value.Basic
import DocQuery.Value.Order
import DocQuery.Value.Printer
import DocQuery.Value.Parser
import DocQuery.Path.Basic
import DocQuery.Path.Read
import DocQuery.Path.Write
import DocQuery.Regex.CharClass
import DocQuery.Regex.Syntax
import DocQuery.Regex.Matcher
import DocQuery.Regex.Parser
import DocQuery.Error
import DocQuery.Pattern
import DocQuery.Condition
import DocQuery.Projection
import DocQuery.Ordering
import DocQuery.Stage.Basic
import DocQuery.Stage.Reader
import DocQuery.Schema.Basic
import DocQuery.Schema.Registry
import DocQuery.Join
import DocQuery.Options
import DocQuery.Store.Error
import DocQuery.Expression.Operator
import DocQuery.Expression.Evaluate
import DocQuery.Filter.Comparison
import DocQuery.Filter.RegexEngine
import DocQuery.Filter.Evaluate
import DocQuery.Store.Basic
import DocQuery.Store.Project
import DocQuery.Store.Evaluate
import DocQuery.Page
import DocQuery.Query.Basic
import DocQuery.Query.Run
import DocQuery.Proofs.FieldMap
import DocQuery.Proofs.Number.Rounding
import DocQuery.Proofs.Path.Segments
import DocQuery.Proofs.Path.Readings
import DocQuery.Proofs.Outcome
import DocQuery.Proofs.Value.Order
import DocQuery.Proofs.Store.Documents
import DocQuery.Proofs.Store.Updates
import DocQuery.Proofs.Store.Flow
import DocQuery.Proofs.Query.Pages
import DocQuery.Proofs.Store.Projection
import DocQuery.Proofs.Store.IntegerEquality
import DocQuery.Proofs.Store.KeyEquality
import DocQuery.Proofs.Join.NestedLoop
import DocQuery.Proofs.Join.Stages
import DocQuery.Proofs.Expression.Evaluate
import DocQuery.Proofs.Join.Merge
import DocQuery.Proofs.Join.Rows
import DocQuery.Proofs.Join.Routes
import DocQuery.Proofs.Join.Blocks
import DocQuery.Proofs.Expression.Reads
import DocQuery.Proofs.Filter.Reads
import DocQuery.Proofs.Expression.Named
import DocQuery.Proofs.Filter.Conditions
import DocQuery.Proofs.Filter.Named
import DocQuery.Proofs.Join.FilterFirst
import DocQuery.Proofs.Join.Failure
import DocQuery.Proofs.Value.KeyOrder
import DocQuery.Proofs.Join.Commute
import DocQuery.Proofs.Query.Calls
import DocQuery.Proofs.Join.History
import DocQuery.Proofs.Join.Lookups
import DocQuery.Proofs.Query.Answers
import DocQuery.Proofs.Ordering
import DocQuery.Proofs.Query.Accumulated
import DocQuery.Proofs.Query.Aside
import DocQuery.Proofs.Query.Sorts
import DocQuery.Proofs.Store.Rowwise
import DocQuery.Proofs.Query.Unsorted
import DocQuery.Proofs.Store.Sorting
import DocQuery.Proofs.Join.SortFirst
import DocQuery.Proofs.Join.EmptyReferences
import DocQuery.Proofs.Stage.SentForm
import DocQuery.Proofs.Filter.Negation
import DocQuery.Proofs.Filter.Conjunction
import DocQuery.Proofs.Pattern
import DocQuery.Proofs.Filter.Equality
import DocQuery.Proofs.Filter.Ranges
import DocQuery.Proofs.Store.StableSorts
import DocQuery.Proofs.Value.WellFormed
import DocQuery.Proofs.Value.Objects
import DocQuery.Proofs.Value.Parts
import DocQuery.Proofs.Path.Removal
import DocQuery.Proofs.Store.Exclusion
import DocQuery.Proofs.Path.Copying
import DocQuery.Proofs.Store.Inclusion
import DocQuery.Proofs.Path.Writing
import DocQuery.Proofs.Store.ComputedFields
import DocQuery.Proofs.Store.Locality
import DocQuery.Proofs.Query.FieldSorts
import DocQuery.Proofs.Expression.Arithmetic
import DocQuery.Proofs.Path.Repetition
import DocQuery.Proofs.Store.Reprojection
import DocQuery.Proofs.Query.PageNumbers
import DocQuery.Proofs.Query.InputShapes
import DocQuery.Proofs.Expression.Constants
import DocQuery.Proofs.Query.ConstantFields
import DocQuery.Proofs.Store.Insertions
import DocQuery.Proofs.Path.Direct
import DocQuery.Proofs.Path.Lens
import DocQuery.Proofs.FieldMap.Laws
