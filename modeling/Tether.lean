import Tether.Context.Text
import Tether.Environment.Level
import Tether.Main
import Tether.Script
import Tether.Session.Host
import Tether.TimeInfo.Json
import Tether.Proofs.Context.Bracket
import Tether.Proofs.Context.Conservation
import Tether.Proofs.Link.Lifecycle
import Tether.Proofs.Link.Counters
import Tether.Proofs.Holdings
import Tether.Proofs.Holdings.Balance
import Tether.Proofs.Script.Cues
import Tether.Proofs.Script.Handles
import Tether.Proofs.Script.Extents
import Tether.Proofs.Session.Balance
import Tether.Proofs.Link.Reply
import Tether.Proofs.Link.Retry
import Tether.Proofs.Environment.Selection
import Tether.Proofs.Environment.Precedence
import Tether.Proofs.Connector.List
import Tether.Proofs.Link.Detached
import Tether.Proofs.Connector.Aim
import Tether.Proofs.Context.Entry
import Tether.Proofs.Context.Gauge
import Tether.Proofs.Connector.Incidents
import Tether.Proofs.Context.Roster
import Tether.Proofs.Holdings.Ledger
import Tether.Proofs.Script.Gauge
import Tether.Proofs.Holdings.Gauge
import Tether.Proofs.Duration.Exact
import Tether.Proofs.TimeInfo.Sum
import Tether.Proofs.TimeInfo.Difference
import Tether.Proofs.Holdings.Established
import Tether.Proofs.Link.Wire
import Tether.Proofs.Link.Time
import Tether.Proofs.Link.Stream
import Tether.Proofs.Text.Numeral
import Tether.Proofs.Text.Blank
import Tether.Proofs.Environment.Level
import Tether.Proofs.Environment.Port
import Tether.Proofs.Environment.IpList
import Tether.Proofs.Json.Token
import Tether.Proofs.Json.Value
import Tether.Proofs.TimeInfo.Json
import Tether.Proofs.Duration.Text
import Tether.Proofs.TimeInfo.Text
import Tether.Proofs.Connector.Attempted
import Tether.Proofs.Environment.Process
import Tether.Proofs.Connector.Consulting
