import PlainQuery.Number.Decimal
import PlainQuery.Text.CaseMap
import PlainQuery.Text.Escaped
import PlainQuery.Json.Reader
import PlainQuery.Json.Writer
import PlainQuery.Schema.Description
import PlainQuery.Intent.Basic
import PlainQuery.Sql.Query
import PlainQuery.Schema.Document
import PlainQuery.Intent.Document
import PlainQuery.Intent.Build
import PlainQuery.Intent.Validation
import PlainQuery.Result.Table
import PlainQuery.Result.Execution
import PlainQuery.Json.Shape
import PlainQuery.Model.Basic
import PlainQuery.Detection
import PlainQuery.Failure
import PlainQuery.Model.Endpoint
import PlainQuery.Catalog.Keys
import PlainQuery.Catalog.Discovery
import PlainQuery.Cache.Interleaving
import PlainQuery.Sql.Document
import PlainQuery.Settings.Document
import PlainQuery.Settings.Reading
import PlainQuery.Command.Run
import PlainQuery.Sql.Reader
import PlainQuery.Database.Connection
import PlainQuery.Database.Document
import PlainQuery.Database.Evaluation
import PlainQuery.Main
import PlainQuery.Proofs.Fields
import PlainQuery.Proofs.FirstOccurrences
import PlainQuery.Proofs.Text.CaseMap
import PlainQuery.Proofs.Sql.SlotName
import PlainQuery.Proofs.Sql.Plan
import PlainQuery.Proofs.Sql.Layout
import PlainQuery.Proofs.Sql.Binding
import PlainQuery.Proofs.Sql.Reading
import PlainQuery.Proofs.Sql.Grammar
import PlainQuery.Proofs.Sql.Listing
import PlainQuery.Proofs.Schema
import PlainQuery.Proofs.Intent.Validation
import PlainQuery.Proofs.Text.Blank
import PlainQuery.Proofs.Text.Pieces
import PlainQuery.Proofs.Text.Lines
import PlainQuery.Proofs.Number.Order
import PlainQuery.Proofs.Number.Value
import PlainQuery.Proofs.Json.Nesting
import PlainQuery.Proofs.Json.Equality
import PlainQuery.Proofs.Intent.BraceScan
import PlainQuery.Proofs.Intent.BraceBalance
import PlainQuery.Proofs.Intent.BraceBytes
import PlainQuery.Proofs.Intent.Reply
import PlainQuery.Proofs.Intent.NormalForm
import PlainQuery.Proofs.Intent.RoundTrip
import PlainQuery.Proofs.Sql.Inference
import PlainQuery.Proofs.Sql.Reachability
import PlainQuery.Proofs.Sql.ForeignKeys
import PlainQuery.Proofs.Sql.Tables
import PlainQuery.Proofs.Sql.Scope
import PlainQuery.Proofs.Sql.TableNames
import PlainQuery.Proofs.Sql.ValueIndependence
import PlainQuery.Proofs.Sql.Occurrence
import PlainQuery.Proofs.Sql.Positions
import PlainQuery.Proofs.Sql.QuotedNames
import PlainQuery.Proofs.Sql.DroppedEntries
import PlainQuery.Proofs.Sql.EmptyNames
import PlainQuery.Proofs.Sql.NullOperands
import PlainQuery.Proofs.Sql.Description
import PlainQuery.Proofs.Sql.Rewording
import PlainQuery.Proofs.Detection
import PlainQuery.Proofs.Result.Execution
import PlainQuery.Proofs.Result.Columns
import PlainQuery.Proofs.Result.Alignment
import PlainQuery.Proofs.Result.MarkdownRows
import PlainQuery.Proofs.Result.TableLines
import PlainQuery.Proofs.Result.Grouping
import PlainQuery.Proofs.Result.Integers
import PlainQuery.Proofs.Result.Numeral
import PlainQuery.Proofs.Result.Doubles
import PlainQuery.Proofs.Assistant.Confinement
import PlainQuery.Proofs.Cache.History
import PlainQuery.Proofs.Cache.Progress
import PlainQuery.Proofs.Cache.SingleFlight
import PlainQuery.Proofs.Cache.Freshness
import PlainQuery.Proofs.Cache.Invalidation
import PlainQuery.Proofs.Cache.Omission
import PlainQuery.Proofs.Cache.Isolation
import PlainQuery.Proofs.Catalog.Grouping
import PlainQuery.Proofs.Catalog.Snapshot
import PlainQuery.Proofs.Catalog.SharedCache
import PlainQuery.Proofs.Catalog.NameLists
import PlainQuery.Proofs.Catalog.KeyTexts
import PlainQuery.Proofs.Catalog.KeyIndex
