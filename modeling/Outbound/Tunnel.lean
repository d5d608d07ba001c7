import Outbound.Address.Endpoint
import Outbound.Entropy
import Outbound.Error
import Outbound.Options.Tunnel
import Outbound.Stream

/-!
# Tunnels

A tunnel's forwarder listens on a port of the local host that is drawn at random, and runs as
long as the connection that uses it. The guard stops it once, when the connection is shut down
or dropped, whichever comes first.
-/
namespace Outbound

/-- What starts forwarders: where to listen, where to forward to, and how. -/
structure Forwarder (σ : Type) where
  /-- Start a forwarder. -/
  start : Endpoint → Endpoint → TunnelOptions → σ → Except Error Unit × σ

namespace Tunnel

/-- A running or stopped forwarder. -/
structure Guard where
  /-- Where the forwarder listens. -/
  endpoint : Endpoint
  /-- Whether it runs. -/
  running : Bool := true
  /-- How often it was told to stop. -/
  stops : Nat := 0
  deriving DecidableEq

/-- Stop the forwarder, if it runs. -/
def Guard.stop (guard : Guard) : Guard :=
  if guard.running then { guard with running := false, stops := guard.stops + 1 } else guard

/-- The first port a forwarder may listen on. -/
def firstPort : Nat := 1024

/-- The last port a forwarder may listen on. -/
def lastPort : Nat := 65535

/-- The error of a dial whose forwarder could not be started. -/
def startError (endpoint : Endpoint) (error : Error) : Error :=
  let kind := match error with
    | .io inner => inner.kind
    | _ => .other
  .io ⟨kind, s!"failed to listen tunnel on {endpoint.text}: {error.message}"⟩

/-- Start a forwarder to a destination. -/
def start {σ : Type} (forwarder : Forwarder σ) (destination : Endpoint) (options : TunnelOptions)
    (entropy : Entropy) (state : σ) : Except Error Guard × Entropy × σ :=
  let (port, entropy) := entropy.between firstPort lastPort
  let endpoint : Endpoint := ⟨.v4 .localhost, UInt16.ofNat port, 0⟩
  match forwarder.start endpoint destination options state with
  | (.ok (), state) => (.ok { endpoint }, entropy, state)
  | (.error error, state) => (.error (startError endpoint error), entropy, state)

/-- A stream that leads through a forwarder: a shutdown that is answered stops it. -/
def stream {σ : Type} (inner : Stream σ) : Stream (Guard × σ) where
  read turn room state :=
    let (answer, inner) := inner.read turn room state.2
    (answer, state.1, inner)
  write turn buffer state :=
    let (answer, inner) := inner.write turn buffer state.2
    (answer, state.1, inner)
  flush turn state :=
    let (answer, inner) := inner.flush turn state.2
    (answer, state.1, inner)
  shutdown turn state :=
    match inner.shutdown turn state.2 with
    | (.pending, inner) => (.pending, state.1, inner)
    | (answer, inner) => (answer, state.1.stop, inner)

end Tunnel

end Outbound
