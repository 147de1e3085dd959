import Ngtcp2Rs.Lib.Map
import Ngtcp2Rs.Lib.Run
import Ngtcp2Rs.Lib.Bytes
import Ngtcp2Rs.Lib.Heap
import Ngtcp2Rs.Lib.Mailbox
import Ngtcp2Rs.Lib.TokenBucket
import Ngtcp2Rs.Types
import Ngtcp2Rs.Conn.Write
import Ngtcp2Rs.Streams.Pending
import Ngtcp2Rs.Streams.WritePackets
import Ngtcp2Rs.Streams.Conservation
import Ngtcp2Rs.Streams.Exchange
import Ngtcp2Rs.Streams.Isolation
import Ngtcp2Rs.Streams.Blocking
import Ngtcp2Rs.Streams.Timing
import Ngtcp2Rs.Streams.EarlyData
import Ngtcp2Rs.Streams.Termination
import Ngtcp2Rs.Conn.InFlight
import Ngtcp2Rs.Conn.Bookkeeping
import Ngtcp2Rs.Conn.Rejection
import Ngtcp2Rs.Conn.Atomicity
import Ngtcp2Rs.Conn.Sockaddr
import Ngtcp2Rs.Conn.Callbacks
import Ngtcp2Rs.Server.Routes
import Ngtcp2Rs.Server.Handlers
import Ngtcp2Rs.Server.System
import Ngtcp2Rs.Server.Edits
import Ngtcp2Rs.Server.Closure
import Ngtcp2Rs.Server.Ownership
import Ngtcp2Rs.Server.Initials
import Ngtcp2Rs.Server.Complete
import Ngtcp2Rs.Server.Takeover
import Ngtcp2Rs.Server.Resets
import Ngtcp2Rs.Server.Handoff
import Ngtcp2Rs.Server.Recorded
import Ngtcp2Rs.Server.Readers
import Ngtcp2Rs.Server.Dcids
import Ngtcp2Rs.Server.Tokens
import Ngtcp2Rs.Server.Limiter
import Ngtcp2Rs.Server.Taken
import Ngtcp2Rs.Server.Restart
import Ngtcp2Rs.Server.Inbound
import Ngtcp2Rs.Server.Lifecycle
import Ngtcp2Rs.Conn.Params
import Ngtcp2Rs.Server.Inputs
import Ngtcp2Rs.Server.Agreement
import Ngtcp2Rs.Packet.Varint
import Ngtcp2Rs.Packet.Split
import Ngtcp2Rs.Packet.VersionTwo
import Ngtcp2Rs.Tls.Alpn
import Ngtcp2Rs.Tls.Lifetimes
import Ngtcp2Rs.Tls.Memory
import Ngtcp2Rs.Tls.ServerName
import Ngtcp2Rs.Driver.EventLoop
import Ngtcp2Rs.Driver.Closing
import Ngtcp2Rs.Driver.Contract
import Ngtcp2Rs.Driver.Handshaking
import Ngtcp2Rs.Driver.Obligations
import Ngtcp2Rs.Driver.Accepted
import Ngtcp2Rs.Driver.Handles
import Ngtcp2Rs.Driver.Driven
import Ngtcp2Rs.Driver.Endpoint
import Ngtcp2Rs.Driver.Addresses
import Ngtcp2Rs.Driver.Refinement
import Ngtcp2Rs.Driver.Delivery
import Ngtcp2Rs.Driver.Connecting
