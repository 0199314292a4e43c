import Companions.CommandLine.Home
import Companions.Json.Render
import Companions.Main
import Companions.Proofs.FavoriteCount
import Companions.Proofs.Provenance
import Companions.Proofs.TabCounters
import Companions.Rehearsal
import Companions.Proofs.LateReplies
import Companions.Proofs.KeptPages
import Companions.Proofs.FailedToggle
import Companions.Proofs.CacheHistory
import Companions.Proofs.SessionChange
import Companions.Proofs.Visit
import Companions.Proofs.SessionPages
import Companions.Proofs.FollowerReloads
import Companions.Proofs.ForeignToggles
import Companions.Proofs.Loading
import Companions.Proofs.ShownFailure
import Companions.Proofs.DroppedFollowers
import Companions.Proofs.BeforeScene
import Companions.Proofs.SessionRuns
import Companions.Proofs.Deliveries
import Companions.Proofs.SessionPoints
import Companions.Proofs.LastHeard
import Companions.Proofs.Publications
import Companions.Proofs.Reordering
import Companions.Proofs.QuietWindow
import Companions.Proofs.RejectedToken
import Companions.Proofs.TokenOrder
import Companions.Proofs.ExactLength
import Companions.Proofs.Drawing
import Companions.Proofs.ListRows
import Companions.Proofs.SelectedRow
import Companions.Proofs.ToggledList
import Companions.Proofs.Reconciliation
import Companions.Proofs.ListWindow
import Companions.Proofs.GridWindow
import Companions.Proofs.Threshold
import Companions.Proofs.Reveal
import Companions.Proofs.Records
import Companions.Proofs.TextWidth
import Companions.Proofs.SearchBox
import Companions.Proofs.Selection
import Companions.Proofs.VisitGrammar
import Companions.Proofs.ServerWords
import Companions.Proofs.RootedRequests
import Companions.Proofs.LeastScroll
import Companions.Proofs.SearchLimit
import Companions.Proofs.RehearsedTraffic
import Companions.Proofs.RehearsedTerminal
import Companions.Proofs.RehearsedVisit
