import Outbound.Dialer
import Outbound.Json.Ranges
import Outbound.Options.FakePackets
import Outbound.Options.Turn
import Outbound.Pause
import Outbound.Proofs.Address.Text
import Outbound.Proofs.Dialer.Configuration
import Outbound.Proofs.Dialer.Tunnels
import Outbound.Proofs.Json.Reading
import Outbound.Proofs.Json.Record
import Outbound.Proofs.Options.RoundTrip
import Outbound.Proofs.Range.Text
import Outbound.Proofs.Relay.Closing
import Outbound.Proofs.Relay.Probing
import Outbound.Proofs.Socket.Making
import Outbound.Proofs.Tls.Bounds
import Outbound.Proofs.Tls.Confinement
import Outbound.Proofs.Tls.Connecting
import Outbound.Proofs.Tls.Division
import Outbound.Proofs.Tls.Failure
import Outbound.Proofs.Tls.HostName
import Outbound.Proofs.Tls.Integrity
import Outbound.Proofs.Tls.Padding
import Outbound.Proofs.Tls.Passthrough
import Outbound.Proofs.Tls.Punctual
import Outbound.Proofs.Tls.Shutdown
import Outbound.Proofs.Tracker.Abort
import Outbound.Proofs.WireGuard.Burst
import Outbound.Proofs.WireGuard.Disguise
import Outbound.Proofs.WireGuard.Filler
import Outbound.Proofs.WireGuard.Pausing
import Outbound.Proofs.WireGuard.Peer
import Outbound.Proofs.WireGuard.Reception
import Outbound.Proofs.WireGuard.Slot
import Outbound.Proofs.WireGuard.Spelling
import Outbound.Relay.Bridge
import Outbound.Relay.Port
import Outbound.Socket.Detached
import Outbound.Stream.Await
import Outbound.Stream.Script
import Outbound.Tls.Shaping
import Outbound.WireGuard.Bind
import Outbound.WireGuard.Peer
