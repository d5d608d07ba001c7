import Outbound.Proofs.Address.Endpoint
import Outbound.WireGuard.Peer

/-!
# Peers at their own addresses

The settings of a server name a host or spell an address. Where they spell an address, their text
spells the endpoint of this address and the port, though the address may be written in another way
there; so a peer without a relay is reached exactly there, and no name is looked up
(`server_located`).
-/
namespace Outbound.WireGuard

variable {options : ServerOptions}

/-- An address of the fourth version is copied, and one of the sixth is written in its customary
form between brackets. Either way the text spells the endpoint. -/
theorem parse_address {ip : Ip} (spells : Ip.parse options.server = some ip) :
    Endpoint.parse options.address = some ⟨ip, options.port, 0⟩ := by
  cases ip with
  | v4 address =>
    have inner : Ipv4.parse options.server = some address := by
      rw [Ip.parse] at spells
      split at spells
      case h_1 found =>
        cases spells
        exact found
      case h_2 =>
        obtain ⟨_, _, same⟩ := Option.map_eq_some_iff.mp spells
        cases same
    rw [ServerOptions.address, spells]
    exact Endpoint.parse_v4 inner options.port
  | v6 address =>
    rw [ServerOptions.address, spells]
    exact Endpoint.parse_v6 (Ipv6.parse_text address) options.port

/-- Without a relay that names a server, a peer is reached at its own address. -/
theorem establish_direct (lookup : Lookup) (bridging : Bridging) {relay : Option TurnOptions}
    (unnamed : ∀ turn ∈ relay, turn.server.server = "") :
    PeerEndpoint.establish lookup bridging options relay = .ok (.direct options) := by
  have unset : relay.filter (·.server.isSet) = none := by
    rw [Option.filter_eq_none_iff]
    intro turn mem
    rw [ServerOptions.isSet, unnamed turn mem]
    decide
  rw [PeerEndpoint.establish, unset]

/-- What it is for a server to be at an address. -/
structure Located (options : ServerOptions) (ip : Ip) : Prop where
  /-- Its text spells the endpoint of the address and the port. -/
  spelled : Endpoint.parse options.address = some ⟨ip, options.port, 0⟩
  /-- A peer there is reached directly, unless a relay names a server. The server to talk to is the
  one that was configured, and it resolves to this endpoint, whatever names stand for. -/
  direct : ∀ (lookup : Lookup) (bridging : Bridging) (relay : Option TurnOptions),
    (∀ turn ∈ relay, turn.server.server = "") →
    ∃ peer, PeerEndpoint.establish lookup bridging options relay = .ok peer ∧
      peer.server = options ∧ peer.configured = peer.server ∧ peer.relayed = false ∧
      peer.resolved lookup = .ok ⟨ip, options.port, 0⟩

/-- A server whose text spells an address is at this address. Every other text is followed by a
colon and the port. -/
theorem server_located (options : ServerOptions) :
    (∃ ip, Ip.parse options.server = some ip ∧ Located options ip) ∨
      Ip.parse options.server = none ∧
        options.address = options.server ++ ":" ++ Decimal.text options.port.toNat := by
  cases spells : Ip.parse options.server with
  | none =>
    refine .inr ⟨rfl, ?_⟩
    rw [ServerOptions.address, spells]
  | some ip =>
    have spelled := parse_address spells
    refine .inl ⟨ip, rfl, spelled, fun lookup bridging relay unnamed => ?_⟩
    refine ⟨.direct options, establish_direct lookup bridging unnamed, rfl, rfl, rfl, ?_⟩
    rw [PeerEndpoint.resolved, PeerEndpoint.direct, resolve, spelled]

end Outbound.WireGuard
