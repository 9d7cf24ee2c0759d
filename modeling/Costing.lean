import Costing.Catalog
import Costing.Command.Arguments
import Costing.Command.Run
import Costing.Cost.Document
import Costing.Cost.Offer
import Costing.Cost.Record
import Costing.Cost.Stage
import Costing.Cost.Walk
import Costing.Dict
import Costing.Formula.Builtin.Arguments
import Costing.Formula.Builtin.Basic
import Costing.Formula.Builtin.Collection
import Costing.Formula.Builtin.Numeric
import Costing.Formula.Builtin.Pattern
import Costing.Formula.Builtin.Price
import Costing.Formula.Cache
import Costing.Formula.Eval
import Costing.Formula.Expr
import Costing.Formula.Fault
import Costing.Formula.Parser
import Costing.Formula.Token
import Costing.Formula.Typing
import Costing.Formula.ValueType
import Costing.Issue
import Costing.Json.Basic
import Costing.Json.Codec
import Costing.Json.Decode
import Costing.Json.Reader
import Costing.Json.Writer
import Costing.Logic.Basic
import Costing.Logic.Document
import Costing.Main
import Costing.Native
import Costing.Number.Dyadic
import Costing.Number.Layout
import Costing.Number.Literal
import Costing.Number.Shortest
import Costing.Number.Total
import Costing.Path
import Costing.Platform
import Costing.Price.Sale
import Costing.Price.Tier
import Costing.Product.Basic
import Costing.Product.Document
import Costing.Product.Reach
import Costing.Proofs.Cost.Count
import Costing.Proofs.Cost.Coverage
import Costing.Proofs.Cost.Cycles
import Costing.Proofs.Cost.Decoded
import Costing.Proofs.Cost.Finite
import Costing.Proofs.Cost.Items
import Costing.Proofs.Cost.Order
import Costing.Proofs.Cost.Parts
import Costing.Proofs.Cost.Plain
import Costing.Proofs.Cost.RollUp
import Costing.Proofs.Cost.Runs
import Costing.Proofs.Cost.Shadow
import Costing.Proofs.Cost.Stops
import Costing.Proofs.Cost.Sums
import Costing.Proofs.Cost.Visits
import Costing.Proofs.Formula.Caching
import Costing.Proofs.Formula.Decimals
import Costing.Proofs.Formula.Depth
import Costing.Proofs.Formula.Extremes
import Costing.Proofs.Formula.Faults
import Costing.Proofs.Formula.Grammar
import Costing.Proofs.Formula.Height
import Costing.Proofs.Formula.Identifiers
import Costing.Proofs.Formula.Keywords
import Costing.Proofs.Formula.Local
import Costing.Proofs.Formula.Malformed
import Costing.Proofs.Formula.Missing
import Costing.Proofs.Formula.Parse
import Costing.Proofs.Formula.Pieces
import Costing.Proofs.Formula.Placeless
import Costing.Proofs.Formula.Reads
import Costing.Proofs.Formula.RoundTrip
import Costing.Proofs.Formula.Scan
import Costing.Proofs.Formula.Spans
import Costing.Proofs.Formula.Tower
import Costing.Proofs.Formula.Types
import Costing.Proofs.Formula.Unknown
import Costing.Proofs.Formula.Written
import Costing.Proofs.Json.Finite
import Costing.Proofs.Json.Native
import Costing.Proofs.Logic.Encodings
import Costing.Proofs.Number.Line
import Costing.Proofs.Number.Monotone
import Costing.Proofs.Number.NotANumber
import Costing.Proofs.Number.Packed
import Costing.Proofs.Number.Range
import Costing.Proofs.Number.ReadBack
import Costing.Proofs.Number.Rounding
import Costing.Proofs.Number.Scientific
import Costing.Proofs.Number.Shortest
import Costing.Proofs.Number.Total
import Costing.Proofs.Number.TotalOrder
import Costing.Proofs.Path.Grammar
import Costing.Proofs.Path.Layout
import Costing.Proofs.Path.RoundTrip
import Costing.Proofs.Price.Cheapest
import Costing.Proofs.Price.Quantity
import Costing.Proofs.Product.Cover
import Costing.Proofs.Product.Cycle
import Costing.Proofs.Product.Reach
import Costing.Proofs.Regex.Blanks
import Costing.Proofs.Regex.Room
import Costing.Proofs.Regex.Runs
import Costing.Proofs.Stage.Alias
import Costing.Proofs.Stage.Contents
import Costing.Proofs.Stage.Isolated
import Costing.Proofs.Stage.Mapped
import Costing.Proofs.Stage.OfferName
import Costing.Proofs.Stage.Outputs
import Costing.Proofs.Stage.Prior
import Costing.Proofs.Stage.Unread
import Costing.Proofs.Stage.Validated
import Costing.Proofs.Text.Ranges
import Costing.Proofs.Text.Split
import Costing.Proofs.Text.Trim
import Costing.Proofs.Text.Words
import Costing.Proofs.Validation.Canonical
import Costing.Proofs.Validation.Forbidden
import Costing.Proofs.Validation.IndexSpots
import Costing.Proofs.Validation.Indices
import Costing.Proofs.Validation.Literals
import Costing.Proofs.Validation.MalformedWirings
import Costing.Proofs.Validation.Names
import Costing.Proofs.Validation.PathIndices
import Costing.Proofs.Validation.PriorStages
import Costing.Proofs.Validation.Report
import Costing.Proofs.Validation.StageNames
import Costing.Proofs.Validation.StagePaths
import Costing.Proofs.Validation.SyntaxErrors
import Costing.Proofs.Validation.Visibility
import Costing.Proofs.Validation.Words
import Costing.Proofs.Value.Document
import Costing.Regex.Basic
import Costing.Regex.Bracket
import Costing.Regex.Engine
import Costing.Regex.Escape
import Costing.Regex.Flags
import Costing.Regex.Footprint
import Costing.Regex.Program
import Costing.Regex.Reader
import Costing.Regex.Replacement
import Costing.Regex.Search
import Costing.Stage.Alias
import Costing.Stage.Context
import Costing.Stage.Source
import Costing.Text.Age
import Costing.Text.Blank
import Costing.Text.Break
import Costing.Text.Case
import Costing.Text.Category
import Costing.Text.CharSet
import Costing.Text.Derived
import Costing.Text.Fold
import Costing.Text.Letter
import Costing.Text.Name
import Costing.Text.Named
import Costing.Text.Property
import Costing.Text.Ranges
import Costing.Text.Script
import Costing.Text.Search
import Costing.Text.Shift
import Costing.Text.Utf8
import Costing.Validation.Formula
import Costing.Validation.Logic
import Costing.Validation.Name
import Costing.Validation.Scan
import Costing.Value.Basic
import Costing.Value.Coercion
import Costing.Value.Document
import Costing.Value.Lookup
