import ProxyClient.Foundations.Machine
import ProxyClient.Foundations.Program
import ProxyClient.Foundations.Position
import ProxyClient.Foundations.Slots
import ProxyClient.Foundations.Ledger
import ProxyClient.Foundations.Checked
import ProxyClient.Foundations.Trace
import ProxyClient.Foundations.Segments
import ProxyClient.Foundations.Json
import ProxyClient.Foundations.Times
import ProxyClient.Memory.Budget
import ProxyClient.Memory.Conservation
import ProxyClient.Memory.Reservation
import ProxyClient.Protocol
import ProxyClient.Effects
import ProxyClient.Resource
import ProxyClient.Coverage
import ProxyClient.Network
import ProxyClient.Suspension
import ProxyClient.Traces
import ProxyClient.Fetching
import ProxyClient.Encoding.Json
import ProxyClient.Encoding.Form
import ProxyClient.Encoding.Bounded
import ProxyClient.Target.Url
import ProxyClient.Target.Plain
import ProxyClient.Target.Endpoints
import ProxyClient.Target.ResponseUrl
import ProxyClient.Encoding.Received
import ProxyClient.Config
import ProxyClient.Resolution
import ProxyClient.Worker.Delivery
import ProxyClient.Worker.Wire
import ProxyClient.Worker.Queueing
import ProxyClient.Worker.Scrape
import ProxyClient.Worker.Alone
import ProxyClient.Worker.BusyFallback
import ProxyClient.Worker.BusyActor
import ProxyClient.Worker.Connection
import ProxyClient.Worker.SessionSteps
import ProxyClient.Worker.Exchange
import ProxyClient.Worker.Accounts
import ProxyClient.Worker.Carrying
import ProxyClient.Worker.Provenance
import ProxyClient.Worker.Receiving
import ProxyClient.Worker.Serving
import ProxyClient.Worker.BusyPosts
import ProxyClient.Worker.Schedule
import ProxyClient.Worker.Answers
import ProxyClient.Worker.Completion
import ProxyClient.Worker.Handshake
import ProxyClient.Worker.OneScrape
import ProxyClient.Worker.Selection
import ProxyClient.Worker.Line
import ProxyClient.Worker.Reading
import ProxyClient.Worker.Clock
import ProxyClient.Worker.Heartbeat
import ProxyClient.Worker.Finishing
import ProxyClient.Worker.Progress
import ProxyClient.Worker.Buffers
import ProxyClient.Worker.Acquisitions
import ProxyClient.Worker.Client
import ProxyClient.Worker.Cleanup
import ProxyClient.Worker.Handing
import ProxyClient.Worker.Ordering
import ProxyClient.Worker.Wiring
import ProxyClient.Worker.Pacing
import ProxyClient.Worker.Shutdown
import ProxyClient.Worker.Conversation
import ProxyClient.Worker.Latency
