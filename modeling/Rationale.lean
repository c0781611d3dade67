import Rationale.Check.Stock
import Rationale.Evaluation
import Rationale.Mapping.Stock
import Rationale.Proofs.Account
import Rationale.Proofs.Agreement
import Rationale.Proofs.Alignment
import Rationale.Proofs.Blame
import Rationale.Proofs.CaseTables
import Rationale.Proofs.Casing
import Rationale.Proofs.Chaining
import Rationale.Proofs.Clipping
import Rationale.Proofs.Codecs
import Rationale.Proofs.Columns
import Rationale.Proofs.Comparisons
import Rationale.Proofs.Coverage
import Rationale.Proofs.Deciding
import Rationale.Proofs.Derivation
import Rationale.Proofs.Details
import Rationale.Proofs.Difference
import Rationale.Proofs.Discipline
import Rationale.Proofs.Duality
import Rationale.Proofs.Explaining
import Rationale.Proofs.Extension
import Rationale.Proofs.Faults
import Rationale.Proofs.Following
import Rationale.Proofs.Forest
import Rationale.Proofs.Histories
import Rationale.Proofs.Independence
import Rationale.Proofs.Journal
import Rationale.Proofs.Lines
import Rationale.Proofs.Markers
import Rationale.Proofs.Meaning
import Rationale.Proofs.Mirrors
import Rationale.Proofs.Negation
import Rationale.Proofs.Neutrality
import Rationale.Proofs.Notation
import Rationale.Proofs.Numerals
import Rationale.Proofs.Origins
import Rationale.Proofs.Outline
import Rationale.Proofs.Places
import Rationale.Proofs.Preorder
import Rationale.Proofs.Recovery
import Rationale.Proofs.Remains
import Rationale.Proofs.Rounds
import Rationale.Proofs.Runs
import Rationale.Proofs.Searches
import Rationale.Proofs.Shape
import Rationale.Proofs.Shares
import Rationale.Proofs.Shortcuts
import Rationale.Proofs.Skipping
import Rationale.Proofs.Slots
import Rationale.Proofs.Staging
import Rationale.Proofs.Threading
import Rationale.Proofs.Typing
import Rationale.Proofs.Values
import Rationale.Proofs.Visible
import Rationale.Proofs.Widths
import Rationale.Report.Json
import Rationale.Settings.Json
import Rationale.Trace.Json
import Rationale.Tree.Describe
