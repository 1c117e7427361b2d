import Muster.Config.Example
import Muster.Config.Load
import Muster.Run.Move
import Muster.RunLog
import Muster.Proofs.Pending
import Muster.Proofs.Record.Supply
import Muster.Proofs.Record.Station
import Muster.Proofs.Record.Moves
import Muster.Proofs.Record.Provenance
import Muster.Proofs.Record.Resolution
import Muster.Proofs.Record.OncePerCall
import Muster.Proofs.Record.HandoutOrder
import Muster.Proofs.Record.Accounts
import Muster.Proofs.Record.Endpoint
import Muster.Proofs.Token.SingleFlight
import Muster.Proofs.Token.Expiry
import Muster.Proofs.Token.OneFlight
import Muster.Proofs.Token.Renewal
import Muster.Proofs.Token.Failures
import Muster.Proofs.Token.Cache
import Muster.Proofs.Token.Lobby
import Muster.Proofs.Token.Issuance
import Muster.Proofs.Token.Moves
import Muster.Proofs.Token.Origin
import Muster.Proofs.Token.Resolution
import Muster.Proofs.Token.Provenance
import Muster.Proofs.Incarnations
import Muster.Proofs.Verdicts
import Muster.Proofs.Stats.Attribution
import Muster.Proofs.Run.Teardown
import Muster.Proofs.Run.Stragglers
import Muster.Proofs.Overrides
import Muster.Proofs.Run.Startup
import Muster.Proofs.Json
import Muster.Proofs.Stats.Encoding
import Muster.Proofs.Stats.Merging
import Muster.Proofs.Pending.Ends
import Muster.Proofs.Run.Payloads
import Muster.Proofs.Pending.Waits
import Muster.Proofs.Attendance
import Muster.Proofs.Traffic
import Muster.Proofs.Record.EndReports
import Muster.Proofs.Stats.Percentile
import Muster.Proofs.Stats.Grouping
import Muster.Proofs.Limits
import Muster.Proofs.Record.LineFiles
import Muster.Proofs.Record.Loading
import Muster.Proofs.RunLog
import Muster.Proofs.Run.Opening
import Muster.Proofs.Stats.Coherence
import Muster.Proofs.Handlers
