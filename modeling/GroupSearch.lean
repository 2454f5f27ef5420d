import GroupSearch.Log.Template
import GroupSearch.Main
import GroupSearch.Proofs.Agreement
import GroupSearch.Proofs.FirstFault
import GroupSearch.Proofs.Nodes
import GroupSearch.Proofs.RoundTrip
import GroupSearch.Proofs.Upgrade
import GroupSearch.Proofs.Composition
import GroupSearch.Proofs.Trace
import GroupSearch.Proofs.Provenance
import GroupSearch.Proofs.Availability
import GroupSearch.Proofs.Containment
import GroupSearch.Proofs.Layout
import GroupSearch.Proofs.Continuation
import GroupSearch.Proofs.Unreadable
import GroupSearch.Proofs.CaseIndependence
import GroupSearch.Proofs.Trimming
import GroupSearch.Proofs.Layering
import GroupSearch.Proofs.Limits
import GroupSearch.Proofs.Refusal
import GroupSearch.Proofs.Configuration
import GroupSearch.Proofs.Lossless
import GroupSearch.Proofs.PlainText
import GroupSearch.Proofs.Shortcut
import GroupSearch.Proofs.OperatorText
import GroupSearch.Proofs.Progress
import GroupSearch.Proofs.Usernames
import GroupSearch.Proofs.Logging
import GroupSearch.Proofs.Unrolling
import GroupSearch.Proofs.LimitBounds
