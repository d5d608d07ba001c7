import Outbound.Socket.Binder
import Outbound.Tls.Fragmenter
import Outbound.Tracker
import Outbound.Tunnel

/-!
# Dialing

A dialer makes a socket ready, connects it, and wraps the connection: cutting handshakes comes
first, then tracking, then the guard of the tunnel that it leads through. A connection whose
handshakes are cut is connected by its first use. Every fault of the configuration is refused
when the dialer is made, except that a tunnel is wanted and none can be started.
-/
namespace Outbound

open Socket (Binder Host)

/-- What a connection carries. -/
inductive Network where
  /-- A stream. -/
  | tcp
  /-- Datagrams. -/
  | udp
  deriving DecidableEq, Inhabited

/-- The name of a network. -/
def Network.text : Network → String
  | tcp => "tcp"
  | udp => "udp"

/-- What dials connections. -/
structure Dialer where
  /-- How sockets are made. -/
  binder : Binder
  /-- How handshakes are cut, if they are. -/
  fragment : Option Tls.Policy
  /-- The tunnel that connections lead through, if they do. -/
  tunnel : Option TunnelOptions

/-- A connection without the guard of its tunnel. -/
inductive Connection (κ : Type) where
  /-- A stream: its socket, its fragmenter and its registration. -/
  | stream (socket : κ) (fragmenter : Option Tls.Fragmenter) (registration : Option Nat)
  /-- Datagrams: their socket and their registration. -/
  | datagrams (socket : κ) (registration : Option Nat)

/-- What a dial leaves. -/
structure Dialed (κ σ : Type) where
  /-- The connection, or why there is none. -/
  result : Except Error (Connection κ)
  /-- The forwarder that was started for it, if one was. -/
  guard : Option Tunnel.Guard
  /-- The randomness left. -/
  entropy : Entropy
  /-- The tracker. -/
  tracker : Tracker
  /-- The state of the host. -/
  state : σ

namespace Dialer

variable {κ σ : Type}

/-- The dialer of some settings, and what the router was asked. -/
def ofOptions (options : DialerOptions) (router : Option Socket.Router) :
    Except HostError (Dialer × List Socket.Question) := do
  let (binder, asked) ← Binder.ofOptions options router
  let fragment ← (Tls.Policy.ofEnabled options.tlsFragment).mapError .general
  let tunnel := if options.tunnel.enabled then some options.tunnel else none
  .ok ({ binder, fragment, tunnel }, asked)

/-- The error of a dial that wants a tunnel where none can be started. -/
def noForwarderError : Error :=
  .configValue "tunnel" "tunnel enabled but no tunnel forwarder installed"

/-- The error of connecting, if it failed. -/
def connectFault (destination : Endpoint) (timeout : Nat) :
    Socket.Connected → Option HostError
  | .opened => none
  | .failed error => some (.io error)
  | .timedOut => some (.timeout destination timeout)

/-- Make a socket for one network ready, the protect service included. -/
def ready (dialer : Dialer) (host : Host κ σ) (network : Network) (destination : Endpoint)
    (state : σ) : Except HostError κ × σ :=
  let (made, state) := match network with
    | .tcp => dialer.binder.tcpSocket host destination state
    | .udp => dialer.binder.udpSocket host destination state
  match made with
  | .error error => (.error error, state)
  | .ok socket =>
    let (answer, state) := dialer.binder.protect host socket state
    (answer.map fun () => socket, state)

/-- The transport of a socket that is connected by its first use, and by the calls after it while
that is under way. -/
def transport (dialer : Dialer) (host : Host κ σ) (socket : κ) (destination : Endpoint) :
    Transport σ where
  toStream := host.stream socket
  connect turn state :=
    let timeout := dialer.binder.connectTimeout
    match host.pursue socket destination timeout turn state with
    | (none, state) => (.pending, state)
    | (some answer, state) =>
      match connectFault destination timeout answer with
      | none => (.done (), state)
      | some fault => (.failed fault.toError.toIo, state)

/-- Connect without a tunnel. The randomness is the fragmenter's own. -/
def connect (dialer : Dialer) (host : Host κ σ) (network : Network) (destination : Endpoint)
    (entropy : Entropy) (tracker : Tracker) (state : σ) :
    Except HostError (Connection κ) × Tracker × σ :=
  match dialer.ready host network destination state with
  | (.error error, state) => (.error error, tracker, state)
  | (.ok socket, state) =>
    match network with
    | .udp =>
      match host.watch socket state with
      | (.error error, state) => (.error (.io error), tracker, state)
      | (.ok (), state) =>
        match host.associate socket destination state with
        | (.error error, state) => (.error (.io error), tracker, state)
        | (.ok (), state) =>
          let (registration, tracker) := tracker.register
          (.ok (.datagrams socket registration), tracker, state)
    | .tcp =>
      match dialer.fragment with
      | some policy =>
        let (registration, tracker) := tracker.register
        (.ok (.stream socket (some (.connecting policy entropy)) registration), tracker, state)
      | none =>
        let timeout := dialer.binder.connectTimeout
        let (answer, state) := host.connect socket destination timeout state
        match connectFault destination timeout answer with
        | some fault => (.error fault, tracker, state)
        | none =>
          let (registration, tracker) := tracker.register
          (.ok (.stream socket none registration), tracker, state)

/-- Dial a destination. A forwarder that was started for a dial that fails is stopped. -/
def dial (dialer : Dialer) (host : Host κ σ) (forwarder : Option (Forwarder σ))
    (network : Network) (destination : Endpoint) (entropy : Entropy) (tracker : Tracker)
    (state : σ) : Dialed κ σ :=
  match dialer.tunnel, forwarder with
  | none, _ =>
    let (cuts, entropy) := entropy.split
    let (result, tracker, state) := dialer.connect host network destination cuts tracker state
    ⟨result.mapError HostError.toError, none, entropy, tracker, state⟩
  | some _, none => ⟨.error noForwarderError, none, entropy, tracker, state⟩
  | some options, some forwarder =>
    match Tunnel.start forwarder destination options entropy state with
    | (.error error, entropy, state) => ⟨.error error, none, entropy, tracker, state⟩
    | (.ok guard, entropy, state) =>
      let (cuts, entropy) := entropy.split
      match dialer.connect host network guard.endpoint cuts tracker state with
      | (.error error, tracker, state) =>
        ⟨.error error.toError, some guard.stop, entropy, tracker, state⟩
      | (.ok connection, tracker, state) =>
        ⟨.ok connection, some guard, entropy, tracker, state⟩

/-- A socket for sending datagrams anywhere, chosen for a destination. -/
def listen (dialer : Dialer) (host : Host κ σ) (destination : Endpoint) (state : σ) :
    Except Error κ × σ :=
  match dialer.binder.listenSocket host destination state with
  | (.error error, state) => (.error error.toError, state)
  | (.ok socket, state) =>
    match dialer.binder.protect host socket state with
    | (.error error, state) => (.error error.toError, state)
    | (.ok (), state) =>
      match host.watch socket state with
      | (.error error, state) => (.error (.io error), state)
      | (.ok (), state) => (.ok socket, state)

end Dialer

/-- What the calls on a dialed stream change. -/
structure Flow (σ : Type) where
  /-- The guard of the tunnel, if there is one. -/
  guard : Option Tunnel.Guard
  /-- The tracker. -/
  tracker : Tracker
  /-- The fragmenter, if handshakes are cut. -/
  fragmenter : Option Tls.Fragmenter
  /-- The state of the host. -/
  state : σ

/-- The endpoint that a connection leads to: its forwarder, if one was started. -/
def Dialed.target {κ σ : Type} (dialed : Dialed κ σ) (destination : Endpoint) : Endpoint :=
  (dialed.guard.map (·.endpoint)).getD destination

/-- The flow of a dialed stream with a fragmenter, before its first call. -/
def Dialed.flow {κ σ : Type} (dialed : Dialed κ σ) (fragmenter : Option Tls.Fragmenter) : Flow σ :=
  ⟨dialed.guard, dialed.tracker, fragmenter, dialed.state⟩

namespace Flow

variable {σ : Type}

/-- The time at which a pause between records ends. -/
def alarm (flow : Flow σ) : Option Nat := flow.fragmenter.bind (·.alarm)

/-- A stream whose handshakes are cut if there is a fragmenter. -/
def fragmented (transport : Transport σ) : Stream (Option Tls.Fragmenter × σ) :=
  let lift {α : Type} (plain : σ → Answer α × σ)
      (cut : Tls.Fragmenter × σ → Answer α × Tls.Fragmenter × σ) :
      Option Tls.Fragmenter × σ → Answer α × Option Tls.Fragmenter × σ
    | (none, state) =>
      let (answer, state) := plain state
      (answer, none, state)
    | (some fragmenter, state) =>
      let (answer, fragmenter, state) := cut (fragmenter, state)
      (answer, some fragmenter, state)
  let cut := Tls.Fragmenter.stream transport
  { write := fun turn buffer => lift (transport.write turn buffer) (cut.write turn buffer)
    read := fun turn room => lift (transport.read turn room) (cut.read turn room)
    flush := fun turn => lift (transport.flush turn) (cut.flush turn)
    shutdown := fun turn => lift (transport.shutdown turn) (cut.shutdown turn) }

/-- A stream that leads through a tunnel if there is a guard. -/
def tunnelled {τ : Type} (inner : Stream τ) : Stream (Option Tunnel.Guard × τ) :=
  let lift {α : Type} (plain : τ → Answer α × τ)
      (guarded : Tunnel.Guard × τ → Answer α × Tunnel.Guard × τ) :
      Option Tunnel.Guard × τ → Answer α × Option Tunnel.Guard × τ
    | (none, state) =>
      let (answer, state) := plain state
      (answer, none, state)
    | (some guard, state) =>
      let (answer, guard, state) := guarded (guard, state)
      (answer, some guard, state)
  let guarded := Tunnel.stream inner
  { write := fun turn buffer => lift (inner.write turn buffer) (guarded.write turn buffer)
    read := fun turn room => lift (inner.read turn room) (guarded.read turn room)
    flush := fun turn => lift (inner.flush turn) (guarded.flush turn)
    shutdown := fun turn => lift (inner.shutdown turn) (guarded.shutdown turn) }

/-- The layers of a dialed stream, the outermost first. -/
abbrev Layers (σ : Type) := Option Tunnel.Guard × Tracker × Option Tls.Fragmenter × σ

/-- The layers of a flow. -/
def layers (flow : Flow σ) : Layers σ :=
  (flow.guard, flow.tracker, flow.fragmenter, flow.state)

/-- The flow of some layers. -/
def ofLayers : Layers σ → Flow σ
  | (guard, tracker, fragmenter, state) => ⟨guard, tracker, fragmenter, state⟩

/-- A dialed stream with a registration, if it has one. -/
def stream (transport : Transport σ) (registration : Option Nat) : Stream (Flow σ) :=
  let inner := tunnelled (Tracker.stream registration (fragmented transport))
  let lift {α : Type} (call : Layers σ → Answer α × Layers σ) (flow : Flow σ) :
      Answer α × Flow σ :=
    let (answer, layers) := call flow.layers
    (answer, ofLayers layers)
  { write := fun turn buffer => lift (inner.write turn buffer)
    read := fun turn room => lift (inner.read turn room)
    flush := fun turn => lift (inner.flush turn)
    shutdown := fun turn => lift (inner.shutdown turn) }

/-- Drop a dialed connection: its registration goes, and its forwarder is stopped. -/
def drop (registration : Option Nat) (flow : Flow σ) : Flow σ :=
  { flow with
    guard := flow.guard.map Tunnel.Guard.stop
    tracker := match registration with
      | some id => flow.tracker.drop id
      | none => flow.tracker }

end Flow

end Outbound
