import Outbound.Options.Tunnel
import Outbound.Tls.Policy
import Outbound.Address.Ip

/-!
# Settings of a dialer
-/
namespace Outbound

open Json (Codec Members)

/-- How sockets are made ready and connections dialed. -/
structure DialerOptions where
  /-- The interface that sockets are bound to. -/
  bindInterface : Option String := none
  /-- The local address of sockets of the fourth version. -/
  inet4BindAddress : Option Ipv4 := none
  /-- The local address of sockets of the sixth version. -/
  inet6BindAddress : Option Ipv6 := none
  /-- The routing mark; zero for none. -/
  routingMark : UInt32 := 0
  /-- Whether listening sockets share their address. -/
  reuseAddr : Bool := false
  /-- The path of a service that sockets are handed to before they connect. -/
  protectPath : Option String := none
  /-- The time allowed for connecting, in milliseconds. -/
  connectTimeoutMs : Option UInt64 := none
  /-- Whether data travels with the first segment of a connection. -/
  tcpFastOpen : Bool := false
  /-- Whether connections use several paths. -/
  tcpMultiPath : Bool := false
  /-- Whether datagrams may be fragmented. -/
  udpFragment : Option Bool := none
  /-- What holds when `udpFragment` is absent. -/
  udpFragmentDefault : Bool := false
  /-- The cutting of handshake messages. -/
  tlsFragment : Option TlsFragmentOptions := none
  /-- The tunnel that connections are led through. -/
  tunnel : TunnelOptions := {}
  /-- Whether listening sockets serve a WireGuard device. -/
  isWireguardListener : Bool := false
  deriving DecidableEq

namespace DialerOptions

/-- The fields in order. -/
def names : List String :=
  ["bind_interface", "inet4_bind_address", "inet6_bind_address", "routing_mark", "reuse_addr",
    "protect_path", "connect_timeout_ms", "tcp_fast_open", "tcp_multi_path", "udp_fragment",
    "udp_fragment_default", "tls_fragment", "tunnel", "is_wireguard_listener"]

/-- The members of the JSON form. -/
def members (options : DialerOptions) : Members :=
  Members.writeOptional "bind_interface" .text options.bindInterface ++
  Members.writeOptional "inet4_bind_address" (.spelled Ipv4.text Ipv4.parse)
    options.inet4BindAddress ++
  Members.writeOptional "inet6_bind_address" (.spelled Ipv6.text Ipv6.parse)
    options.inet6BindAddress ++
  Members.write "routing_mark" .word32 options.routingMark ++
  Members.write "reuse_addr" .bool options.reuseAddr ++
  Members.writeOptional "protect_path" .text options.protectPath ++
  Members.writeOptional "connect_timeout_ms" .word64 options.connectTimeoutMs ++
  Members.write "tcp_fast_open" .bool options.tcpFastOpen ++
  Members.write "tcp_multi_path" .bool options.tcpMultiPath ++
  Members.writeOptional "udp_fragment" .bool options.udpFragment ++
  Members.write "udp_fragment_default" .bool options.udpFragmentDefault ++
  Members.writeOptional "tls_fragment" TlsFragmentOptions.codec options.tlsFragment ++
  Members.write "tunnel" TunnelOptions.codec options.tunnel ++
  Members.write "is_wireguard_listener" .bool options.isWireguardListener

/-- The JSON form. -/
def codec : Codec DialerOptions where
  write options := .record options.members
  read value := do
    let members ← Members.of names value
    let bindInterface ← members.optional "bind_interface" .text
    let inet4BindAddress ←
      members.optional "inet4_bind_address" (.spelled Ipv4.text Ipv4.parse)
    let inet6BindAddress ←
      members.optional "inet6_bind_address" (.spelled Ipv6.text Ipv6.parse)
    let routingMark ← members.field "routing_mark" .word32 0
    let reuseAddr ← members.field "reuse_addr" .bool false
    let protectPath ← members.optional "protect_path" .text
    let connectTimeoutMs ← members.optional "connect_timeout_ms" .word64
    let tcpFastOpen ← members.field "tcp_fast_open" .bool false
    let tcpMultiPath ← members.field "tcp_multi_path" .bool false
    let udpFragment ← members.optional "udp_fragment" .bool
    let udpFragmentDefault ← members.field "udp_fragment_default" .bool false
    let tlsFragment ← members.optional "tls_fragment" TlsFragmentOptions.codec
    let tunnel ← members.field "tunnel" TunnelOptions.codec {}
    let isWireguardListener ← members.field "is_wireguard_listener" .bool false
    some
      { bindInterface, inet4BindAddress, inet6BindAddress, routingMark, reuseAddr, protectPath,
        connectTimeoutMs, tcpFastOpen, tcpMultiPath, udpFragment, udpFragmentDefault,
        tlsFragment, tunnel, isWireguardListener }

/-- The milliseconds allowed for connecting when none are given. -/
def defaultConnectTimeout : Nat := 5000

/-- The time allowed for connecting, in milliseconds. -/
def connectTimeout (options : DialerOptions) : Nat :=
  match options.connectTimeoutMs with
  | some milliseconds => if 0 < milliseconds then milliseconds.toNat else defaultConnectTimeout
  | none => defaultConnectTimeout

/-- Whether datagrams may be fragmented. -/
def udpFragmentAllowed (options : DialerOptions) : Bool :=
  options.udpFragment.getD options.udpFragmentDefault

/-- Whether handshake messages are cut. -/
def tlsFragmentEnabled (options : DialerOptions) : Bool :=
  options.tlsFragment.any (·.enabled)

/-- Refuse settings that contradict each other or cannot be read. -/
def validate (options : DialerOptions) : Except Error Unit := do
  if options.tlsFragmentEnabled && options.tcpFastOpen then
    .error (.configValue "tls_fragment" "TLS fragmentation is not compatible with TCP fast open")
  else do
    match options.tlsFragment with
    | some tls => tls.validate
    | none => .ok ()
    if options.tunnel.enabled then options.tunnel.validate else .ok ()

end DialerOptions

end Outbound
