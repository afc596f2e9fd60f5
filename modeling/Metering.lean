import Metering.Text.Blank
import Metering.Text.Letter
import Metering.Text.Lowercase
import Metering.Text.Quoted
import Metering.Number.Layout
import Metering.Number.Numeral
import Metering.Time.Timestamp
import Metering.Quantity
import Metering.Resolution
import Metering.Json.Writer
import Metering.Json.Number
import Metering.Json.Reader
import Metering.Function
import Metering.Comparator
import Metering.Expression
import Metering.Expression.Notation
import Metering.Expression.Parser
import Metering.Json.Fields
import Metering.Series
import Metering.Series.Document
import Metering.Formula
import Metering.Formula.Document
import Metering.Json.Height
import Metering.Formula.Build
import Metering.Store.FileTree
import Metering.Csv.Table
import Metering.Settings.Ini
import Metering.Settings.Fault
import Metering.Error
import Metering.Options
import Metering.Formula.Validation
import Metering.Formula.Acceptance
import Metering.Formula.Submission
import Metering.Number.Binary
import Metering.Evaluation
import Metering.Computation
import Metering.Calculation.Request
import Metering.Calculation.Record
import Metering.Series.Table
import Metering.Store.Documents
import Metering.Calculation.Run
import Metering.Settings.Validation
import Metering.Settings.Logging
import Metering.Text.Split
import Metering.Command.Arguments
import Metering.Command.Run
import Metering.Command.Usage
import Metering.Main
import Metering.Proofs.Evaluation.Validated
import Metering.Proofs.Number.Rounding
import Metering.Proofs.Number.Reading
import Metering.Proofs.Number.Shortest
import Metering.Proofs.Notation.Grammar
import Metering.Proofs.Notation.Tokens
import Metering.Proofs.Notation.Calls
import Metering.Proofs.Notation.Written
import Metering.Proofs.Quantity
import Metering.Proofs.Time.Timestamps
import Metering.Proofs.Json.Leaves
import Metering.Proofs.Json.Texts
import Metering.Proofs.Json.Fields
import Metering.Proofs.Series.Document
import Metering.Proofs.Csv.Table
import Metering.Proofs.Series.Table
import Metering.Proofs.Store.FileTree
import Metering.Proofs.Store.Documents
import Metering.Proofs.Calculation.Run
import Metering.Proofs.Formula.FreeValues
import Metering.Proofs.Formula.Documents
import Metering.Proofs.Formula.Texts
import Metering.Proofs.Store.Formulas
import Metering.Proofs.Calculation.Output
import Metering.Proofs.Number.Whole
import Metering.Proofs.Json.Whole
import Metering.Proofs.Json.Levels
import Metering.Proofs.Resolution.Reading
import Metering.Proofs.Resolution.Writing
import Metering.Proofs.Store.Directories
import Metering.Proofs.Store.Shelves
import Metering.Proofs.Store.Maps
import Metering.Proofs.Calculation.Formats
import Metering.Proofs.Formula.Submissions
import Metering.Proofs.Store.Batches
import Metering.Proofs.Command.Submission
import Metering.Proofs.Evaluation.Policies
import Metering.Proofs.Series.Written
import Metering.Proofs.Calculation.Inputs
import Metering.Proofs.Number.Products
import Metering.Proofs.Number.Short
import Metering.Proofs.Series.Values
import Metering.Proofs.Store.Again
import Metering.Proofs.Expression.Places
import Metering.Proofs.Formula.Rules
import Metering.Proofs.Formula.Faults
import Metering.Proofs.Computation
import Metering.Proofs.Text.Bytes
import Metering.Proofs.Evaluation.Alignment
import Metering.Proofs.Evaluation.Locality
import Metering.Proofs.Notation.Limits
import Metering.Proofs.Notation.Stops
import Metering.Proofs.Notation.Echo
import Metering.Proofs.Time.Timeline
import Metering.Proofs.Series.Tilings
import Metering.Proofs.Number.Order
import Metering.Proofs.Number.Fixed
import Metering.Proofs.Quantity.Exact
import Metering.Proofs.Quantity.Ordinary
import Metering.Proofs.Formula.Judgements
import Metering.Proofs.Command.Validation
import Metering.Proofs.Store.Tables
import Metering.Proofs.Settings.Lines
import Metering.Proofs.Settings.Options
import Metering.Proofs.Calculation.Records
import Metering.Proofs.Notation.Carets
import Metering.Proofs.Notation.Numerals
import Metering.Proofs.Evaluation.Extremes
