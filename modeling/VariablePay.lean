import VariablePay.Batch.Change
import VariablePay.Batch.Id
import VariablePay.Batch.Lifecycle
import VariablePay.Batch.Record
import VariablePay.Batch.Result
import VariablePay.Batch.Summary
import VariablePay.CommandLine.Arguments
import VariablePay.CommandLine.Bytes
import VariablePay.CommandLine.Command
import VariablePay.CommandLine.DatabaseName
import VariablePay.CommandLine.Fixture
import VariablePay.CommandLine.Folder
import VariablePay.CommandLine.Location
import VariablePay.CommandLine.Report
import VariablePay.Comparison
import VariablePay.Confidence.Codec
import VariablePay.Confidence.Consolidation
import VariablePay.Confidence.Density
import VariablePay.Confidence.Surface
import VariablePay.Config
import VariablePay.Decimal.Fixed
import VariablePay.Decimal.Layout
import VariablePay.Decimal.Numeral
import VariablePay.Decimal.Scaled
import VariablePay.Decimal.Shortest
import VariablePay.Digest
import VariablePay.Evaluation.Basic
import VariablePay.Evaluation.Codec
import VariablePay.Evaluation.Direct
import VariablePay.Failure
import VariablePay.Intent.Basic
import VariablePay.Intent.Codec
import VariablePay.Intent.Execution
import VariablePay.Journal
import VariablePay.Json.Basic
import VariablePay.Json.Codec
import VariablePay.Json.Normal
import VariablePay.Json.Parser
import VariablePay.Json.Quoted
import VariablePay.Json.Record
import VariablePay.Ledger.Archive
import VariablePay.Ledger.Basic
import VariablePay.Ledger.Batches
import VariablePay.Ledger.Column
import VariablePay.Ledger.Densities
import VariablePay.Ledger.Inputs
import VariablePay.Ledger.Maintenance
import VariablePay.Ledger.Run
import VariablePay.Main
import VariablePay.Metrics.Aggregation
import VariablePay.Metrics.Basic
import VariablePay.Metrics.Codec
import VariablePay.Payout
import VariablePay.Plan.Band
import VariablePay.Plan.Codec
import VariablePay.Plan.Component
import VariablePay.Plan.Fault
import VariablePay.Plan.RuleSet
import VariablePay.Plan.Signature
import VariablePay.Plan.Validation
import VariablePay.Run.Basic
import VariablePay.Run.Preparation
import VariablePay.Store.Activity
import VariablePay.Store.Basic
import VariablePay.Store.Memory
import VariablePay.Store.Paging
import VariablePay.StringMap
import VariablePay.Timestamp
import VariablePay.Proofs.Agreement
import VariablePay.Proofs.Batch.Latest
import VariablePay.Proofs.Batch.Result
import VariablePay.Proofs.Batch.Summary
import VariablePay.Proofs.Bookkeeping
import VariablePay.Proofs.Coding
import VariablePay.Proofs.Confidence.Account
import VariablePay.Proofs.Confidence.Blend
import VariablePay.Proofs.Confidence.Evolution
import VariablePay.Proofs.Confidence.Tallies
import VariablePay.Proofs.Decimal.ReadBack
import VariablePay.Proofs.Decimal.Scaled
import VariablePay.Proofs.Decimal.Text
import VariablePay.Proofs.Decimal.Value
import VariablePay.Proofs.Decimal.Whole
import VariablePay.Proofs.Digest
import VariablePay.Proofs.Double.Finite
import VariablePay.Proofs.Double.Form
import VariablePay.Proofs.Double.Greatest
import VariablePay.Proofs.Double.Nearest
import VariablePay.Proofs.Double.Order
import VariablePay.Proofs.Double.Scientific
import VariablePay.Proofs.Double.Score
import VariablePay.Proofs.Double.Share
import VariablePay.Proofs.Double.Unsigned
import VariablePay.Proofs.DualPath
import VariablePay.Proofs.Evaluation.Failing
import VariablePay.Proofs.Evaluation.Finite
import VariablePay.Proofs.Evaluation.Missing
import VariablePay.Proofs.Intent.Branch
import VariablePay.Proofs.Intent.Coding
import VariablePay.Proofs.Intent.Order
import VariablePay.Proofs.Json.Canonical
import VariablePay.Proofs.Json.Codec
import VariablePay.Proofs.Json.Faithful
import VariablePay.Proofs.Json.Identity
import VariablePay.Proofs.Json.Quoted
import VariablePay.Proofs.Json.Record
import VariablePay.Proofs.Json.Tagged
import VariablePay.Proofs.Json.Text
import VariablePay.Proofs.Ledger.Batches
import VariablePay.Proofs.Ledger.Calls
import VariablePay.Proofs.Ledger.Commits
import VariablePay.Proofs.Ledger.Densities
import VariablePay.Proofs.Ledger.Fixtures
import VariablePay.Proofs.Ledger.Imports
import VariablePay.Proofs.Ledger.Inputs
import VariablePay.Proofs.Ledger.Keys
import VariablePay.Proofs.Ledger.Learned
import VariablePay.Proofs.Ledger.Loads
import VariablePay.Proofs.Ledger.Results
import VariablePay.Proofs.Ledger.Rewriting
import VariablePay.Proofs.Ledger.Tables
import VariablePay.Proofs.Metrics.Contributions
import VariablePay.Proofs.Metrics.Fields
import VariablePay.Proofs.Metrics.FirstValues
import VariablePay.Proofs.Metrics.LocationKeys
import VariablePay.Proofs.Metrics.Sums
import VariablePay.Proofs.Outcome
import VariablePay.Proofs.Plan.Bands
import VariablePay.Proofs.Plan.Checked
import VariablePay.Proofs.Plan.Coding
import VariablePay.Proofs.Plan.NormalForm
import VariablePay.Proofs.Plan.Numeric
import VariablePay.Proofs.Plan.Refusal
import VariablePay.Proofs.Plan.Resolution
import VariablePay.Proofs.Plan.Signature
import VariablePay.Proofs.Run.Cases
import VariablePay.Proofs.Run.Containment
import VariablePay.Proofs.Run.FailureRecord
import VariablePay.Proofs.Run.Inputs
import VariablePay.Proofs.Run.Isolation
import VariablePay.Proofs.Run.Learning
import VariablePay.Proofs.Run.Leavings
import VariablePay.Proofs.Run.Population
import VariablePay.Proofs.Run.Protocol
import VariablePay.Proofs.Run.ReadBack
import VariablePay.Proofs.Run.Reimport
import VariablePay.Proofs.Run.Repetition
import VariablePay.Proofs.Run.Served
import VariablePay.Proofs.Run.Totals
import VariablePay.Proofs.Run.Workers
import VariablePay.Proofs.Store.Draining
import VariablePay.Proofs.Store.Keeping
import VariablePay.Proofs.Store.Logged
import VariablePay.Proofs.Store.Looking
import VariablePay.Proofs.Store.Memory
import VariablePay.Proofs.Store.Paging
import VariablePay.Proofs.Store.Refusing
import VariablePay.Proofs.Store.Steps
import VariablePay.Proofs.StringMap
