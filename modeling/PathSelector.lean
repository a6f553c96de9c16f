import PathSelector.Main
import PathSelector.Proofs.Outcomes
import PathSelector.Proofs.Text.Trim
import PathSelector.Proofs.Text.Lower
import PathSelector.Proofs.Text.Ordered
import PathSelector.Proofs.Segment.Grammar
import PathSelector.Proofs.Segment.Unread
import PathSelector.Proofs.Index.Reading
import PathSelector.Proofs.Condition.Quotation
import PathSelector.Proofs.Condition.Reading
import PathSelector.Proofs.Condition.Grouping
import PathSelector.Proofs.Level.Fault
import PathSelector.Proofs.Level.Reading
import PathSelector.Proofs.Level.Assembly
import PathSelector.Proofs.Level.Writing
import PathSelector.Proofs.Chain.Compile
import PathSelector.Proofs.Chain.Concatenation
import PathSelector.Proofs.Chain.RoundTrip
import PathSelector.Proofs.Chain.Writable
import PathSelector.Proofs.Chain.MixedQuotes
import PathSelector.Proofs.Chain.Lowering
import PathSelector.Proofs.Chain.Invariant
import PathSelector.Proofs.Chain.SingleLevel
import PathSelector.Proofs.Index.Numeral
import PathSelector.Proofs.Index.Language
import PathSelector.Proofs.Chain.Refusal
import PathSelector.Proofs.Chain.Location
import PathSelector.Proofs.Chain.Normalisation
import PathSelector.Proofs.Chain.Shorthand
import PathSelector.Proofs.Condition.Spelling
import PathSelector.Proofs.Lint.Findings
import PathSelector.Proofs.Lint.Conflict
import PathSelector.Proofs.Lint.Concatenation
import PathSelector.Proofs.Lint.Repetition
import PathSelector.Proofs.Lint.IndexShape
import PathSelector.Proofs.Condition.Conjunction
import PathSelector.Proofs.Segment.Viability
import PathSelector.Proofs.Level.Location
import PathSelector.Proofs.CommandLine.Report
