import Outbound.Channel
import Outbound.HostError

/-!
# The host

A host makes sockets and sets them up, one request at a time, and answers each. What a request
is called when it is refused is settled here, by `Setting.refused`.
-/
namespace Outbound.Socket

/-- The kind of addresses a socket speaks. -/
inductive Domain where
  | v4
  | v6
  deriving DecidableEq, Inhabited

/-- The domain that an address belongs to. -/
def Domain.of : Ip → Domain
  | .v4 _ => .v4
  | .v6 _ => .v6

/-- What a socket carries. -/
inductive Transport where
  /-- A connection, over several paths if asked for. -/
  | connection (multipath : Bool)
  /-- Datagrams. -/
  | datagrams
  deriving DecidableEq, Inhabited

/-- A request about a socket. -/
inductive Setting where
  /-- Use one interface only. -/
  | interface (name : String)
  /-- Mark the packets for routing. -/
  | mark (value : UInt32)
  /-- Probe an idle connection after so many seconds, and again after so many. -/
  | keepAlive (idle interval : Nat)
  /-- Send data with the first segment. -/
  | fastOpen
  /-- Share the local address. -/
  | reuseAddress
  /-- Never fragment datagrams of one kind of addresses. -/
  | dontFragment (domain : Domain)
  /-- Speak addresses of the fourth version too. -/
  | dualStack
  /-- Run one of the controls registered for WireGuard sockets. -/
  | control (index : Nat)
  /-- Use a local address, and a port that the host chooses. -/
  | bind (address : Ip)
  /-- Answer at once instead of waiting. -/
  | nonblocking
  deriving DecidableEq

namespace Setting

/-- The error of a refused request. -/
def refused (setting : Setting) (error : IoError) : HostError :=
  match setting with
  | interface _ => .socketOption "SO_BINDTODEVICE" error.text
  | mark _ => .socketOption "SO_MARK" error.text
  | keepAlive .. => .socketOption "SO_KEEPALIVE" error.text
  | fastOpen => .socketOption "TCP_FASTOPEN_CONNECT" error.text
  | reuseAddress => .socketOption "SO_REUSEADDR" error.text
  | dontFragment .v4 => .socketOption "IP_MTU_DISCOVER" error.text
  | dontFragment .v6 => .socketOption "IPV6_MTU_DISCOVER" error.text
  | control _ => .socketOption "wireguard control" error.text
  | bind address => .socketOption "bind" s!"{(Endpoint.mk address 0 0).text}: {error.text}"
  | dualStack | nonblocking => .io error

/-- Bytes that the name of an interface may have. -/
def maxInterfaceName : Nat := 15

/-- The error of a request that is refused without asking the host. -/
def fault? : Setting → Option HostError
  | interface name =>
    if maxInterfaceName < name.utf8ByteSize then
      some (.socketOption "SO_BINDTODEVICE" s!"interface name '{name}' longer than 15 bytes")
    else none
  | _ => none

end Setting

/-- What a protect service answers when a socket is handed to it. -/
inductive ProtectReply where
  /-- It could not be reached, or the exchange failed. -/
  | failed (reason : String)
  /-- It closed the exchange without an answer. -/
  | silent
  /-- It answered with a code. -/
  | code (value : UInt8)
  deriving DecidableEq

/-- How connecting ends. -/
inductive Connected where
  /-- The connection stands. -/
  | opened
  /-- Connecting failed. -/
  | failed (error : IoError)
  /-- The time allowed ran out. -/
  | timedOut
  deriving DecidableEq

/-- A host whose sockets are `κ` and whose state is `σ`. -/
structure Host (κ σ : Type) where
  /-- Make a socket. -/
  create : Domain → Transport → σ → Except IoError κ × σ
  /-- Set a socket up. -/
  set : κ → Setting → σ → Except IoError Unit × σ
  /-- How many controls are registered for WireGuard sockets. -/
  controls : Nat
  /-- Hand a socket to the protect service of a path. -/
  protect : κ → String → σ → ProtectReply × σ
  /-- Connect a socket within so many milliseconds, and wait for it. -/
  connect : κ → Endpoint → Nat → σ → Connected × σ
  /-- Go on connecting a socket within so many milliseconds of the first call; nothing while it is
  under way. -/
  pursue : κ → Endpoint → Nat → Turn → σ → Option Connected × σ
  /-- Have a datagram socket watched, so that tasks can wait for it. -/
  watch : κ → σ → Except IoError Unit × σ
  /-- Fix the peer of a datagram socket. -/
  associate : κ → Endpoint → σ → Except IoError Unit × σ
  /-- The stream of a connected socket. -/
  stream : κ → Stream σ
  /-- The channel of a datagram socket. -/
  channel : κ → Channel σ

namespace Host

variable {κ σ : Type}

/-- Set a socket up with one request. -/
def apply (host : Host κ σ) (socket : κ) (setting : Setting) (state : σ) :
    Except HostError Unit × σ :=
  match setting.fault? with
  | some fault => (.error fault, state)
  | none =>
    let (answer, state) := host.set socket setting state
    (answer.mapError setting.refused, state)

/-- Set a socket up with requests in order, up to the first that is refused. -/
def applyAll (host : Host κ σ) (socket : κ) : List Setting → σ → Except HostError Unit × σ
  | [], state => (.ok (), state)
  | setting :: settings, state =>
    match host.apply socket setting state with
    | (.error error, state) => (.error error, state)
    | (.ok (), state) => applyAll host socket settings state

end Host

end Outbound.Socket
