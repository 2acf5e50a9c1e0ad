import InventoryQuery.Main
import InventoryQuery.Shell.Completion
import InventoryQuery.Proofs.Distinct
import InventoryQuery.Proofs.Plan.Compile
import InventoryQuery.Proofs.Catalog.Coherence
import InventoryQuery.Proofs.Plan.Fields
import InventoryQuery.Proofs.Plan.Truth
import InventoryQuery.Proofs.Answer.Judgement
import InventoryQuery.Proofs.Answer.Cells
import InventoryQuery.Proofs.Answer.Run
import InventoryQuery.Proofs.Answer.Matched
import InventoryQuery.Proofs.Answer.Agreement
import InventoryQuery.Proofs.Query.Cuts
import InventoryQuery.Proofs.Query.FieldList
import InventoryQuery.Proofs.Query.Span
import InventoryQuery.Proofs.Query.Tiling
import InventoryQuery.Proofs.Query.EncodedSpaces
import InventoryQuery.Proofs.Query.Conditions
import InventoryQuery.Proofs.Query.Grammar
import InventoryQuery.Proofs.Query.Written
import InventoryQuery.Proofs.Query.RoundTrip
import InventoryQuery.Proofs.Answer.Single
import InventoryQuery.Proofs.Catalog.Hosts
import InventoryQuery.Proofs.Answer.Presence
import InventoryQuery.Proofs.Plan.Structure
import InventoryQuery.Proofs.Answer.Search
import InventoryQuery.Proofs.Answer.Difference
import InventoryQuery.Proofs.Answer.Widening
import InventoryQuery.Proofs.Answer.SharedRow
import InventoryQuery.Proofs.Answer.Alias
import InventoryQuery.Proofs.Number.Digits
import InventoryQuery.Proofs.Number.Rounding
import InventoryQuery.Proofs.Number.Nearest
import InventoryQuery.Proofs.Number.Shortest
import InventoryQuery.Proofs.Number.Positional
import InventoryQuery.Proofs.Calendar.Reading
import InventoryQuery.Proofs.Value.Order
import InventoryQuery.Proofs.Value.ReadBack
import InventoryQuery.Proofs.Answer.Shown
import InventoryQuery.Proofs.Inventory.Index
import InventoryQuery.Proofs.Inventory.Names
import InventoryQuery.Proofs.Report.Csv
import InventoryQuery.Proofs.Shell.Explanation
import InventoryQuery.Proofs.Shell.Sitting
import InventoryQuery.Proofs.Answer.Projection
import InventoryQuery.Proofs.Plan.Typed
import InventoryQuery.Proofs.Answer.Bounds
import InventoryQuery.Proofs.Calendar.Latest
import InventoryQuery.Proofs.Answer.OpenEnd
import InventoryQuery.Proofs.Text.Lowering
import InventoryQuery.Proofs.Answer.Verbatim
import InventoryQuery.Proofs.Catalog.Registration
import InventoryQuery.Proofs.Shell.Completion
import InventoryQuery.Proofs.Query.Places
import InventoryQuery.Proofs.Query.FaultPlaces
import InventoryQuery.Proofs.Diagnostic
import InventoryQuery.Proofs.Answer.Columns
