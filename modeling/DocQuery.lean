import DocQuery.Calendar.Date
import DocQuery.Calendar.Instant
import DocQuery.Collection.Basic
import DocQuery.Collection.Program
import DocQuery.Connection.Address
import DocQuery.Connection.Basic
import DocQuery.Connection.Host
import DocQuery.Connection.Options
import DocQuery.Criteria.Basic
import DocQuery.Criteria.Comparison
import DocQuery.Criteria.Reader
import DocQuery.Error
import DocQuery.Json.Basic
import DocQuery.Json.Numeral
import DocQuery.Json.Shape
import DocQuery.Json.Text
import DocQuery.Keyed
import DocQuery.Number.Binary
import DocQuery.Number.Text
import DocQuery.Pattern.Basic
import DocQuery.Pattern.Meaning
import DocQuery.Pattern.Places
import DocQuery.Pattern.Property.Basic
import DocQuery.Pattern.Property.Binary
import DocQuery.Pattern.Property.Query
import DocQuery.Pattern.Reader.Class
import DocQuery.Pattern.Reader.Escape
import DocQuery.Pattern.Reader.Group
import DocQuery.Pattern.Reader.Space
import DocQuery.Pattern.Size
import DocQuery.Pattern.Tree
import DocQuery.Proofs.Calendar.Days
import DocQuery.Proofs.Calendar.Digits
import DocQuery.Proofs.Calendar.ReadBack
import DocQuery.Proofs.Calendar.Years
import DocQuery.Proofs.Collection.Columns
import DocQuery.Proofs.Collection.Conversation
import DocQuery.Proofs.Collection.Destroy
import DocQuery.Proofs.Collection.Grouping
import DocQuery.Proofs.Collection.History
import DocQuery.Proofs.Collection.Identifiers
import DocQuery.Proofs.Collection.Insert
import DocQuery.Proofs.Collection.ReadBack
import DocQuery.Proofs.Collection.Requests
import DocQuery.Proofs.Collection.RoundTrips
import DocQuery.Proofs.Collection.Runs
import DocQuery.Proofs.Collection.Sharing
import DocQuery.Proofs.Collection.Sinks
import DocQuery.Proofs.Collection.StoredForm
import DocQuery.Proofs.Collection.Streaming
import DocQuery.Proofs.Collection.Update
import DocQuery.Proofs.Connection.AddressText
import DocQuery.Proofs.Criteria.ClauseForm
import DocQuery.Proofs.Criteria.Fields
import DocQuery.Proofs.Criteria.Grammar
import DocQuery.Proofs.Criteria.SortOrders
import DocQuery.Proofs.Criteria.Written
import DocQuery.Proofs.Json.ReadBack
import DocQuery.Proofs.Json.Shape
import DocQuery.Proofs.Json.Text
import DocQuery.Proofs.Json.Written
import DocQuery.Proofs.Keyed
import DocQuery.Proofs.Number.Exact
import DocQuery.Proofs.Number.Whole
import DocQuery.Proofs.Number.Zero
import DocQuery.Proofs.Outcome
import DocQuery.Proofs.Pattern.Literal
import DocQuery.Proofs.Pattern.Places
import DocQuery.Proofs.Pattern.SetSize
import DocQuery.Proofs.Pattern.Size
import DocQuery.Proofs.Pattern.WholeText
import DocQuery.Proofs.Pattern.Widening
import DocQuery.Proofs.Pattern.Wildcards
import DocQuery.Proofs.Query.Caseless
import DocQuery.Proofs.Query.Compile
import DocQuery.Proofs.Query.LiteralTests
import DocQuery.Proofs.Query.Meaning
import DocQuery.Proofs.Query.Membership
import DocQuery.Proofs.Query.Outputs
import DocQuery.Proofs.Query.Recognized
import DocQuery.Proofs.Query.Refusals
import DocQuery.Proofs.Query.SortKeys
import DocQuery.Proofs.Query.Stored
import DocQuery.Proofs.Query.StoredNames
import DocQuery.Proofs.Query.TextTests
import DocQuery.Proofs.Query.Verdict
import DocQuery.Proofs.Registry.Indexes
import DocQuery.Proofs.Schema.RoundTrip
import DocQuery.Proofs.Schema.WriteBack
import DocQuery.Proofs.Store.Atomicity
import DocQuery.Proofs.Store.Change
import DocQuery.Proofs.Store.Cursor
import DocQuery.Proofs.Store.Extremes
import DocQuery.Proofs.Store.Grouping
import DocQuery.Proofs.Store.IndexKeys
import DocQuery.Proofs.Store.Interleaving
import DocQuery.Proofs.Store.Matching
import DocQuery.Proofs.Store.Names
import DocQuery.Proofs.Store.Nulls
import DocQuery.Proofs.Store.Pipelines
import DocQuery.Proofs.Store.Projection
import DocQuery.Proofs.Store.Ranges
import DocQuery.Proofs.Store.Sorting
import DocQuery.Proofs.Store.Sums
import DocQuery.Proofs.Store.Uniqueness
import DocQuery.Proofs.Text.CaseFolding
import DocQuery.Proofs.Text.Words
import DocQuery.Proofs.Value.Equivalence
import DocQuery.Proofs.Value.Order
import DocQuery.Proofs.Value.Sameness
import DocQuery.Proofs.Value.Shown
import DocQuery.Query.Compile
import DocQuery.Query.Native
import DocQuery.Registry
import DocQuery.Schema.Basic
import DocQuery.Schema.Conversion
import DocQuery.Schema.Written
import DocQuery.Store.Aggregation
import DocQuery.Store.Basic
import DocQuery.Store.Cursor
import DocQuery.Store.Index
import DocQuery.Store.Recorded
import DocQuery.Store.Selector
import DocQuery.Text.Break
import DocQuery.Text.Bytes
import DocQuery.Text.Case.Fold
import DocQuery.Text.Case.Lower
import DocQuery.Text.Category.Basic
import DocQuery.Text.Category.Letter
import DocQuery.Text.Category.Mark
import DocQuery.Text.Category.Punctuation
import DocQuery.Text.Category.Symbol
import DocQuery.Text.CharSet.Basic
import DocQuery.Text.CharSet.Ranges
import DocQuery.Text.Cut
import DocQuery.Text.Edition.Early
import DocQuery.Text.Edition.Later
import DocQuery.Text.Property.Accent
import DocQuery.Text.Property.CaseChange
import DocQuery.Text.Property.Control
import DocQuery.Text.Property.Emoji
import DocQuery.Text.Property.Letter
import DocQuery.Text.Property.Sign
import DocQuery.Text.Property.Word
import DocQuery.Text.Script.Basic
import DocQuery.Text.Script.East
import DocQuery.Text.Script.Extended
import DocQuery.Text.Script.India
import DocQuery.Text.Script.NearEast
import DocQuery.Text.Script.West
import DocQuery.Value.Basic
import DocQuery.Value.Canonical
import DocQuery.Value.Display
import DocQuery.Value.Identifier
