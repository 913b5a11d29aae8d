import FleetPatch.Comparison.Parts
import FleetPatch.Json.Writer
import FleetPatch.Main
import FleetPatch.Proofs.AcceptedFilters
import FleetPatch.Proofs.Assignments
import FleetPatch.Proofs.CalendarDates
import FleetPatch.Proofs.Calls
import FleetPatch.Proofs.ClientErrors
import FleetPatch.Proofs.Clients
import FleetPatch.Proofs.Comparisons
import FleetPatch.Proofs.Completions
import FleetPatch.Proofs.Conservation
import FleetPatch.Proofs.Conversions
import FleetPatch.Proofs.Credentials
import FleetPatch.Proofs.Custody
import FleetPatch.Proofs.Decisions
import FleetPatch.Proofs.Dialects
import FleetPatch.Proofs.Ecosystems
import FleetPatch.Proofs.ErrorTexts
import FleetPatch.Proofs.FirstReports
import FleetPatch.Proofs.Invocations
import FleetPatch.Proofs.Listening
import FleetPatch.Proofs.Loading
import FleetPatch.Proofs.Observing
import FleetPatch.Proofs.PackageLines
import FleetPatch.Proofs.Reassembly
import FleetPatch.Proofs.RemoteRefusals
import FleetPatch.Proofs.Restart
import FleetPatch.Proofs.Searches
import FleetPatch.Proofs.ShellEscapes
import FleetPatch.Proofs.Shells
import FleetPatch.Proofs.Surfacing
import FleetPatch.Proofs.Upgrades
import FleetPatch.Proofs.Verdicts
import FleetPatch.Proofs.Watchdog
import FleetPatch.Proofs.WrappedRows
import FleetPatch.Rehearsal
import FleetPatch.Ssh.Connection
import FleetPatch.Web.Respond
import FleetPatch.WinRm.Connection
import FleetPatch.Workbench
import FleetPatch.Proofs.Sizes
