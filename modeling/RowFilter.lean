import RowFilter.Column.Json
import RowFilter.Filter.Writer
import RowFilter.Settings
import RowFilter.Tree.Lemmas
import RowFilter.Calendar.Date.Lemmas
import RowFilter.Calendar.Zone.Lemmas
import RowFilter.Calendar.Instant.Lemmas
import RowFilter.Json.Embedded.Lemmas
import RowFilter.Text.Blank.Lemmas
import RowFilter.Proofs.Placeholders
import RowFilter.Proofs.SelfContained
import RowFilter.Proofs.Noninterference
import RowFilter.Proofs.DepthLimit
import RowFilter.Proofs.DialectAgreement
import RowFilter.Proofs.BooleanStructure
import RowFilter.Proofs.Complement
import RowFilter.Proofs.Composition
import RowFilter.Proofs.QueryRun
import RowFilter.Proofs.Refusal
import RowFilter.Proofs.Verdict
import RowFilter.Proofs.Interleaving
import RowFilter.Proofs.Spelling
import RowFilter.Proofs.Membership
import RowFilter.Proofs.TextOrder
import RowFilter.Proofs.RoundTrip
import RowFilter.Proofs.Pruning
import RowFilter.Proofs.Substitution
import RowFilter.Proofs.Presence
import RowFilter.Calendar.Date.Shift
import RowFilter.Calendar.Zone.Clock
import RowFilter.Proofs.Days
import RowFilter.Proofs.Trichotomy
import RowFilter.Proofs.DayStart
import RowFilter.Proofs.DisjointDays
import RowFilter.Proofs.SkippedDays
import RowFilter.Proofs.Windows
import RowFilter.Proofs.ExactDate
import RowFilter.Proofs.Typing
import RowFilter.Number.Binary64.Nearest
import RowFilter.Proofs.IntegerOperands
import RowFilter.Proofs.Layers
import RowFilter.Proofs.Accumulation
import RowFilter.Proofs.References
import RowFilter.Proofs.Bounds
