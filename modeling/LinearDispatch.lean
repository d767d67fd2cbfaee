import LinearDispatch.Text.Blank
import LinearDispatch.Text.Case
import LinearDispatch.Text.Digit
import LinearDispatch.Text.Quoted
import LinearDispatch.Number.Exact
import LinearDispatch.Number.Binary64
import LinearDispatch.Number.Rounded
import LinearDispatch.Relation
import LinearDispatch.Table
import LinearDispatch.Label
import LinearDispatch.Program.Inequality
import LinearDispatch.Program.Bounded
import LinearDispatch.Solution
import LinearDispatch.Model.Basic
import LinearDispatch.Event.Wording
import LinearDispatch.Outcome
import LinearDispatch.Model.Lowering
import LinearDispatch.Adapter.Solve
import LinearDispatch.Engine
import LinearDispatch.Registry
import LinearDispatch.Settings
import LinearDispatch.Comparison
import LinearDispatch.CommandLine.Arguments
import LinearDispatch.Main
import LinearDispatch.Model.Command
import LinearDispatch.Model.Indexed
import LinearDispatch.Proofs.Exact
import LinearDispatch.Proofs.Program.Meaning
import LinearDispatch.Proofs.Program.Inequality
import LinearDispatch.Proofs.Program.Bounded
import LinearDispatch.Proofs.Program.Resting
import LinearDispatch.Proofs.Program.Crossed
import LinearDispatch.Proofs.Program.Used
import LinearDispatch.Proofs.Model.Effect
import LinearDispatch.Proofs.Model.Reachable
import LinearDispatch.Proofs.Model.Lowering
import LinearDispatch.Proofs.Model.Check
import LinearDispatch.Proofs.Adapter.Attempt
import LinearDispatch.Proofs.Adapter.Validity
import LinearDispatch.Proofs.Adapter.Agreement
import LinearDispatch.Proofs.Model.DenseForm
import LinearDispatch.Proofs.Adapter.Exits
import LinearDispatch.Proofs.Adapter.Answer
import LinearDispatch.Proofs.Adapter.Verdict
import LinearDispatch.Proofs.Model.Built
import LinearDispatch.Proofs.Model.Interleaving
import LinearDispatch.Proofs.Model.Lookup
import LinearDispatch.Proofs.Model.Growth
import LinearDispatch.Proofs.Model.Indexed
import LinearDispatch.Proofs.Renaming
import LinearDispatch.Proofs.Model.Renaming
import LinearDispatch.Proofs.Adapter.Renaming
import LinearDispatch.Proofs.Registry.History
import LinearDispatch.Proofs.Text
import LinearDispatch.Proofs.Registry.Lookup
import LinearDispatch.Proofs.Selection.Policy
import LinearDispatch.Proofs.CommandLine.Backend
import LinearDispatch.Proofs.Selection.History
import LinearDispatch.Proofs.Model.Violations
import LinearDispatch.Proofs.Ordered
import LinearDispatch.Proofs.Model.Mentions
import LinearDispatch.Proofs.Model.Accepted
import LinearDispatch.Proofs.Adapter.Evaluation
import LinearDispatch.Proofs.Adapter.Completion
import LinearDispatch.Proofs.Model.Refused
import LinearDispatch.Proofs.Signed
import LinearDispatch.Proofs.Program.Transcription
import LinearDispatch.Proofs.Adapter.Trivial
import LinearDispatch.Proofs.Program.Layout
import LinearDispatch.Proofs.Definite
import LinearDispatch.Proofs.Program.Faults
import LinearDispatch.Proofs.Adapter.Guard
import LinearDispatch.Proofs.Adapter.Objective
import LinearDispatch.Proofs.Model.Tolerance
import LinearDispatch.Proofs.Settings
import LinearDispatch.Proofs.Model.Goal
import LinearDispatch.Proofs.Comparison
