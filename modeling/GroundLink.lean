import GroundLink.Decimal.Style
import GroundLink.Json.Parser
import GroundLink.Json.Printer
import GroundLink.Text.Base64
import GroundLink.Text.Blank
import GroundLink.Text.Integer
import GroundLink.Text.Quoted
import GroundLink.Time.Reading
import GroundLink.Time.Span
import GroundLink.Schema.Fields
import GroundLink.Model.Command
import GroundLink.Model.Event
import GroundLink.Model.Link
import GroundLink.Model.Parameter
import GroundLink.Model.ServerState
import GroundLink.Model.MissionTime
import GroundLink.Protocol.Topic
import GroundLink.Protocol.Ids
import GroundLink.Protocol.Request
import GroundLink.Protocol.Frame
import GroundLink.View.CommandLog
import GroundLink.View.EventLog
import GroundLink.View.ParameterTracker
import GroundLink.Traffic
import GroundLink.LogFilter
import GroundLink.Client.Error
import GroundLink.Url.Percent
import GroundLink.Url.Form
import GroundLink.Url.Address
import GroundLink.Url.Parser
import GroundLink.Client.Config
import GroundLink.Client.Archive
import GroundLink.Client.CommandLine
import GroundLink.Main
import GroundLink.Connection.Dispatcher
import GroundLink.Connection.Exchange
import GroundLink.Connection.Stream
import GroundLink.Connection.Operation
import GroundLink.Connection.System
import GroundLink.Simulation.Script
import GroundLink.Proofs.Connection.Attending
import GroundLink.Proofs.Connection.Cancelling
import GroundLink.Proofs.Connection.Counting
import GroundLink.Proofs.Connection.Fetching
import GroundLink.Proofs.Connection.Ignoring
import GroundLink.Proofs.Connection.Keeping
import GroundLink.Proofs.Connection.Learning
import GroundLink.Proofs.Connection.Outgoing
import GroundLink.Proofs.Connection.Releasing
import GroundLink.Proofs.Connection.Remembering
import GroundLink.Proofs.Connection.Repeating
import GroundLink.Proofs.Connection.Reusing
import GroundLink.Proofs.Connection.Tracking
import GroundLink.Proofs.Connection.Yielding
import GroundLink.Proofs.Simulation.Quiet
import GroundLink.Proofs.View.Arrival
import GroundLink.Proofs.View.Lookup
import GroundLink.Proofs.View.Reconciling
import GroundLink.Proofs.View.Slots
import GroundLink.Proofs.Time.Calendar
import GroundLink.Proofs.Text.Base64
import GroundLink.Proofs.Time.Reading
import GroundLink.Proofs.Json.Parsed
import GroundLink.Proofs.Schema.Recovery
import GroundLink.Proofs.Model.Value
import GroundLink.Proofs.Model.Integer
import GroundLink.Proofs.Model.Rewriting
import GroundLink.Proofs.Model.Recovery
import GroundLink.Proofs.Model.Parameter
import GroundLink.Proofs.Protocol.Frame
import GroundLink.Proofs.Protocol.Recovery
import GroundLink.Proofs.Model.Part
import GroundLink.Proofs.Protocol.Grammar
import GroundLink.Proofs.Client.Archive
import GroundLink.Proofs.View.EventLog
