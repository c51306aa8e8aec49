import MutationViewer.Log
import MutationViewer.Screen.Printed
import MutationViewer.Source.Step
import MutationViewer.Report.OfJson
import MutationViewer.Tree.OfJson
import MutationViewer.Treemap.View
import MutationViewer.Proofs.Report.Coherence
import MutationViewer.Proofs.Source.Moves
import MutationViewer.Proofs.Source.Following
import MutationViewer.Proofs.Source.Runs
import MutationViewer.Proofs.Source.Link
import MutationViewer.Proofs.Source.Delivery
import MutationViewer.Proofs.Tree.Reading
import MutationViewer.Proofs.Treemap.Address
import MutationViewer.Proofs.Tree.LongestNames
import MutationViewer.Proofs.Source.Nearest
import MutationViewer.Proofs.Source.Picker
import MutationViewer.Proofs.Source.Review
import MutationViewer.Proofs.Source.Echo
import MutationViewer.Proofs.Source.Sharing
import MutationViewer.Proofs.Treemap.Stack
import MutationViewer.Proofs.Report.Records
import MutationViewer.Proofs.Source.Painting
import MutationViewer.Proofs.Source.Overrun
import MutationViewer.Proofs.Filters
import MutationViewer.Proofs.Source.Browsing
import MutationViewer.Proofs.Source.Switching
import MutationViewer.Proofs.Treemap.Drawing
import MutationViewer.Proofs.History.Fragment
import MutationViewer.Proofs.Tree.Separators
import MutationViewer.Proofs.Treemap.Drilling
import MutationViewer.Proofs.Source.Rounds
import MutationViewer.Proofs.Source.Ring
import MutationViewer.Proofs.Source.Announcing
import MutationViewer.Proofs.Source.Restoring
import MutationViewer.Proofs.Source.Keeping
import MutationViewer.Proofs.History.Timeline
import MutationViewer.Proofs.History.Entries
import MutationViewer.Proofs.Source.Revealing
import MutationViewer.Proofs.Treemap.Faults
import MutationViewer.Proofs.Report.Acceptance
import MutationViewer.Proofs.Report.Refusals
import MutationViewer.Proofs.Report.Writing
import MutationViewer.Proofs.Tree.Totals
import MutationViewer.Proofs.Treemap.Levels
