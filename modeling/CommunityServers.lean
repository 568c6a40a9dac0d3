import CommunityServers.Relay.Manager
import CommunityServers.Foundation.Machine
import CommunityServers.Relay.HostPool
import CommunityServers.Relay.Forwarding
import CommunityServers.Foundation.FormEncoding
import CommunityServers.Foundation.Whitespace
import CommunityServers.Accounts.Lookup
import CommunityServers.Accounts.Drift
import CommunityServers.Foundation.Base64
import CommunityServers.Foundation.Header
import CommunityServers.Foundation.HttpHop
import CommunityServers.Nasc.Handler
import CommunityServers.Nasc.Proxy
import CommunityServers.Nasc.Reply
import CommunityServers.Browse.Handler
import CommunityServers.Foundation.HttpMessage
import CommunityServers.Patcher.Register
import CommunityServers.Patcher.EndToEnd
import CommunityServers.Session.Endpoint
import CommunityServers.Session.Log
import CommunityServers.Session.Report
import CommunityServers.Foundation.FieldList
import CommunityServers.Station.StationURL
import CommunityServers.Relay.Handlers
import CommunityServers.Relay.HostLink
import CommunityServers.Patcher.Install
import CommunityServers.Patcher.MainLoop
import CommunityServers.Relay.Stranger
import CommunityServers.Relay.Interleaving
import CommunityServers.Session.Interference
import CommunityServers.Station.Moved
import CommunityServers.Relay.Rewrite
import CommunityServers.Browse.Canonical
import CommunityServers.Accounts.Atomic
import CommunityServers.Accounts.Ingestion
import CommunityServers.Relay.FailedLink
import CommunityServers.Dashboard.Geo
import CommunityServers.Dashboard.Stats
import CommunityServers.Nasc.Request
import CommunityServers.Relay.Pairs
import CommunityServers.Dashboard.Metrics
import CommunityServers.Dashboard.ProcFiles
import CommunityServers.Foundation.LittleEndian
import CommunityServers.Foundation.Reader
import CommunityServers.Nex.ByteStream
import CommunityServers.Nex.Types
import CommunityServers.Foundation.BitFields
import CommunityServers.Nex.RmcMessage
import CommunityServers.Nex.Packet
import CommunityServers.Nex.PacketV1
import CommunityServers.Foundation.StreamCipher
import CommunityServers.Nex.Encryption
import CommunityServers.Foundation.Resequence
import CommunityServers.Nex.Compression
import CommunityServers.Nex.Connection
import CommunityServers.Foundation.Pieces
import CommunityServers.Nex.Send
import CommunityServers.Nex.Dispatch
import CommunityServers.Nex.Receive
import CommunityServers.Nex.Isolation
import CommunityServers.Nex.Delivery
import CommunityServers.Nex.SessionKey
import CommunityServers.Nex.DateTime
import CommunityServers.Nex.Kerberos
import CommunityServers.Nex.Handshake
import CommunityServers.Nex.Retransmit
import CommunityServers.Nex.Pending
import CommunityServers.Nex.Outgoing
import CommunityServers.Nex.Link
import CommunityServers.Nex.Recovery
