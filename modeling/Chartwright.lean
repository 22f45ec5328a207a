import Chartwright.Assistant.Planner
import Chartwright.Assistant.Prompt
import Chartwright.Assistant.Provider
import Chartwright.Assistant.Recovery
import Chartwright.Assistant.Reply
import Chartwright.Calendar.Basic
import Chartwright.Calendar.FreeForm
import Chartwright.Calendar.Lexicon
import Chartwright.Calendar.Parts
import Chartwright.Calendar.Reading
import Chartwright.Calendar.Token
import Chartwright.Chart.Encoding
import Chartwright.Chart.Mark
import Chartwright.Chart.State
import Chartwright.Chart.Transform
import Chartwright.Chart.Vocabulary
import Chartwright.Command.Phrase
import Chartwright.Command.Planner
import Chartwright.Edit.Apply
import Chartwright.Edit.Plan
import Chartwright.Edit.Updates
import Chartwright.Form.Basic
import Chartwright.Form.Fault
import Chartwright.Json.Basic
import Chartwright.Json.Printer
import Chartwright.Json.Reader
import Chartwright.Number.Binary64
import Chartwright.Number.Numeral
import Chartwright.Number.Shortest
import Chartwright.Proofs.Assistant.Block
import Chartwright.Proofs.Assistant.Commas
import Chartwright.Proofs.Assistant.Fence
import Chartwright.Proofs.Assistant.Mending
import Chartwright.Proofs.Assistant.Noise
import Chartwright.Proofs.Assistant.Planning
import Chartwright.Proofs.Assistant.Recovery
import Chartwright.Proofs.Assistant.Revision
import Chartwright.Proofs.Assistant.Trailing
import Chartwright.Proofs.Chart.State
import Chartwright.Proofs.Chart.Validity
import Chartwright.Proofs.Chart.Writing
import Chartwright.Proofs.Command.Coloring
import Chartwright.Proofs.Command.Expression
import Chartwright.Proofs.Command.Filter
import Chartwright.Proofs.Command.Listing
import Chartwright.Proofs.Command.Numeral
import Chartwright.Proofs.Command.Phrase
import Chartwright.Proofs.Command.Plan
import Chartwright.Proofs.Command.Series
import Chartwright.Proofs.Command.Title
import Chartwright.Proofs.Command.Word
import Chartwright.Proofs.Edit.Coloring
import Chartwright.Proofs.Edit.Effect
import Chartwright.Proofs.Edit.Footprint
import Chartwright.Proofs.Edit.Merging
import Chartwright.Proofs.Edit.Reference
import Chartwright.Proofs.Edit.Repetition
import Chartwright.Proofs.Edit.Skipping
import Chartwright.Proofs.Edit.Validity
import Chartwright.Proofs.Edit.Writing
import Chartwright.Proofs.Form.Acceptance
import Chartwright.Proofs.Form.Reading
import Chartwright.Proofs.Json.Equality
import Chartwright.Proofs.Json.Places
import Chartwright.Proofs.Json.Reading
import Chartwright.Proofs.Number.Order
import Chartwright.Proofs.Number.Range
import Chartwright.Proofs.Service.Isolation
import Chartwright.Proofs.Session.Control
import Chartwright.Proofs.Session.Flags
import Chartwright.Proofs.Session.Interruption
import Chartwright.Proofs.Session.Loading
import Chartwright.Proofs.Session.Lock
import Chartwright.Proofs.Session.Neighbours
import Chartwright.Proofs.Session.Outcome
import Chartwright.Proofs.Session.Provenance
import Chartwright.Proofs.Session.Refinement
import Chartwright.Proofs.Session.Run
import Chartwright.Proofs.Session.Snapshots
import Chartwright.Proofs.Session.Traffic
import Chartwright.Proofs.Session.Validity
import Chartwright.Proofs.Session.Work
import Chartwright.Proofs.Session.Zipper
import Chartwright.Proofs.Spec.Attributes
import Chartwright.Proofs.Spec.Binning
import Chartwright.Proofs.Spec.Channel
import Chartwright.Proofs.Spec.Custom
import Chartwright.Proofs.Spec.Mark
import Chartwright.Proofs.Spec.Normal
import Chartwright.Proofs.Spec.Recovery
import Chartwright.Proofs.Spec.Replacement
import Chartwright.Proofs.Spec.Retention
import Chartwright.Proofs.Spec.RoundTrip
import Chartwright.Proofs.Spec.Separation
import Chartwright.Proofs.Table.Extremes
import Chartwright.Proofs.Table.Frequency
import Chartwright.Proofs.Table.Inference
import Chartwright.Proofs.Table.Reference
import Chartwright.Proofs.Table.Reordering
import Chartwright.Proofs.Table.Statistics
import Chartwright.Proofs.Text.Case
import Chartwright.Proofs.Text.EditDistance
import Chartwright.Proofs.Text.Pattern
import Chartwright.Proofs.Text.Words
import Chartwright.Service.Basic
import Chartwright.Service.Body
import Chartwright.Session.Basic
import Chartwright.Session.Command
import Chartwright.Session.History
import Chartwright.Session.Work
import Chartwright.Settings
import Chartwright.Spec.Check
import Chartwright.Spec.Compile
import Chartwright.Spec.Recover
import Chartwright.Table.Cell
import Chartwright.Table.Field
import Chartwright.Table.Inference
import Chartwright.Table.Reference
import Chartwright.Text.Alphabet
import Chartwright.Text.CaseTable
import Chartwright.Text.EditDistance
import Chartwright.Text.Pattern
import Chartwright.Text.Words
