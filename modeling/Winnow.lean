import Winnow.Number.Comparable
import Winnow.Number.Shortest
import Winnow.Text.Case
import Winnow.Text.CharClass
import Winnow.Text.Quoted
import Winnow.Pattern.CharTest
import Winnow.Pattern.Flaw
import Winnow.Pattern.Node
import Winnow.Pattern.Modes
import Winnow.Pattern.Scan
import Winnow.Pattern.SetReader
import Winnow.Pattern.Reader
import Winnow.Pattern.Cursor
import Winnow.Pattern.Matcher
import Winnow.Criterion.Basic
import Winnow.Criterion.Evaluation
import Winnow.Log.Channel
import Winnow.Log.Detail
import Winnow.Log.Journal
import Winnow.Filter.Basic
import Winnow.Log.Timestamp
import Winnow.Settings
import Winnow.Expr.Basic
import Winnow.Session.Basic
import Winnow.Session.Step
import Winnow.Proofs.Frame
import Winnow.Proofs.Grouping
import Winnow.Proofs.Registration
import Winnow.Proofs.Run
import Winnow.Proofs.Verdict
import Winnow.Proofs.Confidentiality
import Winnow.Proofs.Leniency
import Winnow.Proofs.Conjunction
import Winnow.Proofs.Number.Acceptance
import Winnow.Proofs.Number.Rounding
import Winnow.Proofs.Regex.Decision
import Winnow.Proofs.Regex.Combination
import Winnow.Proofs.Regex.Backreference
import Winnow.Proofs.Number.Exact
import Winnow.Proofs.Number.Nearest
import Winnow.Proofs.Number.Shortest
import Winnow.Proofs.Number.Rendering
import Winnow.Proofs.Comparison
import Winnow.Proofs.RoundTrip
import Winnow.Proofs.Visit
import Winnow.Proofs.Warning
import Winnow.Proofs.History
import Winnow.Proofs.Reordering
import Winnow.Proofs.Rewriting
import Winnow.Proofs.Session.Growth
import Winnow.Proofs.Session.Steps
import Winnow.Proofs.Sharing
import Winnow.Proofs.Replay
import Winnow.Proofs.Session.Lifetime
import Winnow.Proofs.Session.Configuration
import Winnow.Proofs.Batch
import Winnow.Proofs.Faults
import Winnow.Proofs.Session.Registration
import Winnow.Proofs.Session.Discards
import Winnow.Proofs.Session.Unobserved
import Winnow.Proofs.Session.Failures
import Winnow.Proofs.Account
import Winnow.Proofs.Meaning
import Winnow.Proofs.Text.Images
import Winnow.Proofs.Text.Recognition
import Winnow.Proofs.Environment
import Winnow.Proofs.Outline
import Winnow.Proofs.Policy
import Winnow.Proofs.Text.Quoting
import Winnow.Proofs.Time.Order
