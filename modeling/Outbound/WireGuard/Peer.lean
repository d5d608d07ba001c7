import Outbound.Options.Turn

/-!
# Where a peer is reached

A peer is reached at its own address, or through a relay if one is configured.
-/
namespace Outbound.WireGuard

/-- What finds the endpoints of a host name and port, or says why there are none. -/
abbrev Lookup := String → Except String (List Endpoint)

/-- The endpoint of an address: the one it spells, or the first one found for it. -/
def resolve (lookup : Lookup) (address : String) : Except Error Endpoint :=
  match Endpoint.parse address with
  | some endpoint => .ok endpoint
  | none =>
    match lookup address with
    | .error reason => .error (.invalidAddress address reason)
    | .ok (endpoint :: _) => .ok endpoint
    | .ok [] => .error (.invalidAddress address "no addresses found")

/-- A peer and where it is reached. -/
structure PeerEndpoint where
  /-- The server to talk to. -/
  server : ServerOptions
  /-- The server as configured. -/
  configured : ServerOptions
  /-- Whether a relay stands between. -/
  relayed : Bool
  deriving DecidableEq

/-- What puts a bridge to a relay in place for a target, and gives its local port. -/
abbrev Bridging := Endpoint → TurnOptions → Except Error UInt16

namespace PeerEndpoint

/-- A peer reached at its own address. -/
def direct (server : ServerOptions) : PeerEndpoint := ⟨server, server, false⟩

/-- The text of the local host. -/
def bridgeHost : String := "127.0.0.1"

/-- The peer of a server, through a relay if one is named. The target is resolved before the
settings of the relay are looked at. -/
def establish (lookup : Lookup) (bridging : Bridging) (server : ServerOptions)
    (relay : Option TurnOptions) : Except Error PeerEndpoint :=
  match relay.filter (·.server.isSet) with
  | none => .ok (direct server)
  | some relay => do
    let target ← resolve lookup server.address
    relay.validate
    let port ← bridging target relay
    .ok ⟨⟨bridgeHost, port⟩, server, true⟩

/-- The endpoint to talk to. -/
def resolved (lookup : Lookup) (peer : PeerEndpoint) : Except Error Endpoint :=
  resolve lookup peer.server.address

end PeerEndpoint

end Outbound.WireGuard
