import TagQuery.Action
import TagQuery.Activity.Event
import TagQuery.Activity.Tally
import TagQuery.Catalog.Basic
import TagQuery.Catalog.Operations
import TagQuery.Data.Basic
import TagQuery.Data.Json.Reader
import TagQuery.Data.Json.Writer
import TagQuery.Data.Reader
import TagQuery.Data.Toml.Reader
import TagQuery.Data.Toml.Scalar
import TagQuery.Data.Toml.Table
import TagQuery.Data.Toml.Text
import TagQuery.Exchange.Fields
import TagQuery.Exchange.Records
import TagQuery.Executor.AnswerQueue
import TagQuery.Executor.Basic
import TagQuery.Executor.Fault
import TagQuery.Executor.Run
import TagQuery.Failure
import TagQuery.Filter.Basic
import TagQuery.Filter.Formula
import TagQuery.IdCache.Basic
import TagQuery.IdCache.Resident
import TagQuery.IdCache.Shared
import TagQuery.IdCache.Unreliable
import TagQuery.KeyValueStore.Basic
import TagQuery.KeyValueStore.Unreliable
import TagQuery.Listing.Changes
import TagQuery.Listing.Compiled
import TagQuery.Listing.Order
import TagQuery.Listing.Predicate
import TagQuery.Listing.Queries
import TagQuery.Number.Binary64
import TagQuery.Number.Decimal
import TagQuery.Number.Hexadecimal
import TagQuery.Number.Shortest
import TagQuery.OrderedMap
import TagQuery.Proofs.Action.Keeps
import TagQuery.Proofs.Action.Mirrors
import TagQuery.Proofs.Action.Outcome
import TagQuery.Proofs.Action.Run
import TagQuery.Proofs.Activity.Amount
import TagQuery.Proofs.Activity.Totals
import TagQuery.Proofs.Catalog.Accounts
import TagQuery.Proofs.Catalog.Attachment
import TagQuery.Proofs.Catalog.Batch
import TagQuery.Proofs.Catalog.Classified
import TagQuery.Proofs.Catalog.Cluster
import TagQuery.Proofs.Catalog.Command
import TagQuery.Proofs.Catalog.Effects
import TagQuery.Proofs.Catalog.Ledger
import TagQuery.Proofs.Catalog.Mirrored
import TagQuery.Proofs.Catalog.Outcomes
import TagQuery.Proofs.Catalog.Provenance
import TagQuery.Proofs.Catalog.Reachable
import TagQuery.Proofs.Catalog.Refinement
import TagQuery.Proofs.Catalog.Registry
import TagQuery.Proofs.Catalog.Removal
import TagQuery.Proofs.Catalog.ResidentTables
import TagQuery.Proofs.Catalog.Retry
import TagQuery.Proofs.Catalog.Run
import TagQuery.Proofs.Catalog.Sound
import TagQuery.Proofs.Catalog.TagStore
import TagQuery.Proofs.Catalog.Tracks
import TagQuery.Proofs.Catalog.Willing
import TagQuery.Proofs.Condition.Basic
import TagQuery.Proofs.Condition.Grammar
import TagQuery.Proofs.Condition.ReadBack
import TagQuery.Proofs.Condition.Reader
import TagQuery.Proofs.Condition.Search
import TagQuery.Proofs.Condition.Unambiguous
import TagQuery.Proofs.Condition.Written
import TagQuery.Proofs.Executor.Faulty
import TagQuery.Proofs.Executor.Observed
import TagQuery.Proofs.Executor.Promises
import TagQuery.Proofs.Failure
import TagQuery.Proofs.Filter.Formula
import TagQuery.Proofs.Filter.Leaves
import TagQuery.Proofs.Filter.Meaning
import TagQuery.Proofs.IdCache.Batches
import TagQuery.Proofs.IdCache.Bounded
import TagQuery.Proofs.IdCache.Entries
import TagQuery.Proofs.IdCache.Interchangeable
import TagQuery.Proofs.IdCache.Observed
import TagQuery.Proofs.IdCache.Refusals
import TagQuery.Proofs.IdCache.Reliable
import TagQuery.Proofs.IdCache.Selective
import TagQuery.Proofs.IdCache.Steady
import TagQuery.Proofs.IdCache.Stored
import TagQuery.Proofs.IdCache.Truthful
import TagQuery.Proofs.IdCache.WarmUp
import TagQuery.Proofs.KeyValueStore.Fickle
import TagQuery.Proofs.KeyValueStore.Texts
import TagQuery.Proofs.List.Distinct
import TagQuery.Proofs.List.First
import TagQuery.Proofs.List.Related
import TagQuery.Proofs.List.Runs
import TagQuery.Proofs.Listing.Agreement
import TagQuery.Proofs.Listing.Bound
import TagQuery.Proofs.Listing.Changes
import TagQuery.Proofs.Listing.Compiled
import TagQuery.Proofs.Listing.Complete
import TagQuery.Proofs.Listing.Counts
import TagQuery.Proofs.Listing.Creation
import TagQuery.Proofs.Listing.Decoded
import TagQuery.Proofs.Listing.Families
import TagQuery.Proofs.Listing.Framed
import TagQuery.Proofs.Listing.Identifiers
import TagQuery.Proofs.Listing.Meaning
import TagQuery.Proofs.Listing.Order
import TagQuery.Proofs.Listing.Outcome
import TagQuery.Proofs.Listing.Passes
import TagQuery.Proofs.Listing.Regrouped
import TagQuery.Proofs.Listing.Search
import TagQuery.Proofs.Listing.Slots
import TagQuery.Proofs.Listing.Totals
import TagQuery.Proofs.Listing.Walk
import TagQuery.Proofs.Number.Decimal
import TagQuery.Proofs.OrderedMap.Edits
import TagQuery.Proofs.OrderedMap.Lookup
import TagQuery.Proofs.OrderedMap.Renamed
import TagQuery.Proofs.OrderedMap.Written
import TagQuery.Proofs.Row.Envelope
import TagQuery.Proofs.Row.Page
import TagQuery.Proofs.Schema.Names
import TagQuery.Proofs.Schema.Requirements
import TagQuery.Proofs.Statement.Clauses
import TagQuery.Proofs.Statement.Fragment
import TagQuery.Proofs.Statement.Frame
import TagQuery.Proofs.Statement.Framed
import TagQuery.Proofs.Statement.Identifiers
import TagQuery.Proofs.Statement.Lexical
import TagQuery.Proofs.Statement.Ordering
import TagQuery.Proofs.Statement.Pattern
import TagQuery.Proofs.Statement.Positions
import TagQuery.Proofs.Statement.Rebinding
import TagQuery.Proofs.Statement.Rendered
import TagQuery.Proofs.Statement.Scan
import TagQuery.Proofs.Tag.Normal
import TagQuery.Proofs.Tag.Parse
import TagQuery.Proofs.Tag.Signature
import TagQuery.Proofs.Text.Blank
import TagQuery.Proofs.Text.Bytes
import TagQuery.Proofs.Text.Names
import TagQuery.Proofs.Text.Qualified
import TagQuery.Row.Basic
import TagQuery.Row.Page
import TagQuery.Schema.Basic
import TagQuery.Schema.Dialect
import TagQuery.Schema.Document
import TagQuery.Schema.Fault
import TagQuery.Schema.Validity
import TagQuery.Statement.Basic
import TagQuery.Statement.Binding
import TagQuery.Statement.Pattern
import TagQuery.Statement.Text
import TagQuery.Statement.Value
import TagQuery.Tag.Basic
import TagQuery.Tag.Validity
import TagQuery.Text.Blank
import TagQuery.Text.GraphemeExtend
import TagQuery.Text.Identifier
import TagQuery.Text.Quoted
import TagQuery.Text.Unprintable
