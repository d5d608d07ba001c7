import Outbound.Options.Dialer
import Outbound.Socket.Host

/-!
# Binding sockets

A binder derives from the settings, and from what the router suggests where they are silent,
how every socket is made. Settings that contradict each other are refused when the binder is
made, so no socket fails because of them. A `Preparation` lists the requests of one socket in
order; the local address in it is always of the socket's own kind.
-/
namespace Outbound.Socket

/-- What the surroundings suggest for sockets. -/
structure Router where
  /-- Whether the interface is to be found for each destination. -/
  autoDetect : Bool
  /-- The interface that leads to a destination. -/
  detected : Ip → Option String
  /-- The interface to use otherwise. -/
  defaultInterface : Option String
  /-- The mark to use; zero for none. -/
  defaultMark : UInt32

/-- A question put to the router. -/
inductive Question where
  | autoDetect
  | defaultInterface
  | defaultMark
  | detected
  deriving DecidableEq, Inhabited

/-- The name of a question. -/
def Question.name : Question → String
  | autoDetect => "auto_detect_interface"
  | defaultInterface => "default_interface"
  | defaultMark => "default_mark"
  | detected => "detected_interface"

/-- Which interface sockets use. -/
inductive InterfaceBinding where
  /-- Whichever the host chooses. -/
  | unbound
  /-- Always this one. -/
  | fixed (name : String)
  /-- The one that the router finds for the destination. -/
  | autoDetect
  deriving DecidableEq, Inhabited

/-- The interface to use, and what the router was asked: the setting comes first, then finding
one for each destination, then the router's own. Empty names do not count. -/
def selectInterface (explicit : Option String) (router : Option Router) :
    InterfaceBinding × List Question :=
  match explicit.filter (!·.isEmpty), router with
  | some name, _ => (.fixed name, [])
  | none, none => (.unbound, [])
  | none, some router =>
    if router.autoDetect then (.autoDetect, [.autoDetect])
    else
      match router.defaultInterface.filter (!·.isEmpty) with
      | some name => (.fixed name, [.autoDetect, .defaultInterface])
      | none => (.unbound, [.autoDetect, .defaultInterface])

/-- The mark to use, and what the router was asked: the setting comes first, unless it is
zero. -/
def selectMark (explicit : UInt32) (router : Option Router) : UInt32 × List Question :=
  if explicit ≠ 0 then (explicit, [])
  else
    match router with
    | none => (0, [])
    | some router => (router.defaultMark, [.defaultMark])

/-- Whose addresses a socket carries. -/
inductive Family where
  /-- Those of the fourth version. -/
  | v4
  /-- Those of the sixth version. -/
  | v6
  /-- Both. -/
  | dual
  deriving DecidableEq, Inhabited

namespace Family

/-- The domains whose datagrams a socket carries. -/
def domains : Family → List Domain
  | v4 => [.v4]
  | v6 => [.v6]
  | dual => [.v4, .v6]

/-- The domain of the socket itself. -/
def domain : Family → Domain
  | v4 => .v4
  | v6 | dual => .v6

/-- The address that stands for every local one. -/
def unspecified : Family → Ip
  | v4 => .v4 .unspecified
  | v6 | dual => .v6 .unspecified

end Family

/-- How sockets for dialing one family are made. -/
structure DialConfig where
  /-- The family. -/
  family : Family
  /-- The local address. -/
  localAddress : Option Ip
  /-- Whether connections use several paths. -/
  multipath : Bool
  /-- Whether data travels with the first segment. -/
  fastOpen : Bool
  deriving DecidableEq

/-- How listening sockets are made. -/
structure ListenConfig where
  /-- The local address of the fourth version. -/
  inet4 : Option Ipv4
  /-- The local address of the sixth version. -/
  inet6 : Option Ipv6
  /-- Whether the local address is shared. -/
  reuseAddress : Bool
  /-- Whether the controls for WireGuard sockets are run. -/
  wireguard : Bool
  deriving DecidableEq

/-- How every socket is made. -/
structure Binder where
  /-- The interface to use. -/
  interface : InterfaceBinding
  /-- The mark to use; zero for none. -/
  mark : UInt32
  /-- The service that sockets are handed to. -/
  protectPath : Option String
  /-- Whether datagrams may be fragmented. -/
  udpFragment : Bool
  /-- The time allowed for connecting, in milliseconds. -/
  connectTimeout : Nat
  /-- The router. -/
  router : Option Router
  /-- Dialing addresses of the fourth version. -/
  dial4 : DialConfig
  /-- Dialing addresses of the sixth version. -/
  dial6 : DialConfig
  /-- Listening. -/
  listen : ListenConfig

/-- The requests that make one socket. -/
structure Preparation where
  /-- The domain of the socket. -/
  domain : Domain
  /-- What it carries. -/
  transport : Transport
  /-- Requests about it, in order. -/
  settings : List Setting
  deriving DecidableEq

namespace Binder

/-- The binder of some settings, and what the router was asked. -/
def ofOptions (options : DialerOptions) (router : Option Router) :
    Except HostError (Binder × List Question) :=
  match options.validate with
  | .error error => .error (.general error)
  | .ok () =>
    let (interface, asked) := selectInterface options.bindInterface router
    let (mark, asked') := selectMark options.routingMark router
    let dial4 : DialConfig :=
      { family := .v4
        localAddress := options.inet4BindAddress.map .v4
        multipath := options.tcpMultiPath
        fastOpen := options.tcpFastOpen }
    .ok
      ({ interface
         mark
         protectPath := options.protectPath.filter (!·.isEmpty)
         udpFragment := options.udpFragmentAllowed
         connectTimeout := options.connectTimeout
         router
         dial4
         dial6 := { dial4 with
           family := .v6
           localAddress := options.inet6BindAddress.map .v6 }
         listen :=
           { inet4 := options.inet4BindAddress
             inet6 := options.inet6BindAddress
             reuseAddress := options.reuseAddr
             wireguard := options.isWireguardListener } },
        asked ++ asked')

/-- How sockets for dialing a destination are made. -/
def dialConfig (binder : Binder) (destination : Endpoint) : DialConfig :=
  if destination.ip.isV6 then binder.dial6 else binder.dial4

/-- The interface that a socket to a destination uses. -/
def interfaceFor (binder : Binder) (destination : Ip) : Option String :=
  match binder.interface with
  | .unbound => none
  | .fixed name => some name
  | .autoDetect => binder.router.bind (·.detected destination)

/-- What the router is asked while a socket is made. -/
def questions (binder : Binder) : List Question :=
  if binder.interface = .autoDetect && binder.router.isSome then [.detected] else []

/-- The requests that every socket starts with. -/
def common (binder : Binder) (destination : Ip) : List Setting :=
  ((binder.interfaceFor destination).map .interface).toList ++
    (if binder.mark = 0 then [] else [.mark binder.mark])

/-- The requests that keep datagrams whole, unless they may be fragmented. -/
def wholeDatagrams (binder : Binder) (family : Family) : List Setting :=
  if binder.udpFragment then [] else family.domains.map .dontFragment

/-- Seconds before an idle connection is probed. -/
def keepAliveIdle : Nat := 600

/-- Seconds between probes. -/
def keepAliveInterval : Nat := 75

/-- A socket for a connection to a destination. -/
def tcp (binder : Binder) (destination : Endpoint) : Preparation :=
  let config := binder.dialConfig destination
  { domain := .of destination.ip
    transport := .connection config.multipath
    settings :=
      binder.common destination.ip ++ [.keepAlive keepAliveIdle keepAliveInterval] ++
        (if config.fastOpen then [.fastOpen] else []) ++
        (config.localAddress.map .bind).toList ++ [.nonblocking] }

/-- A socket for datagrams to one destination. -/
def udp (binder : Binder) (destination : Endpoint) : Preparation :=
  let config := binder.dialConfig destination
  { domain := .of destination.ip
    transport := .datagrams
    settings :=
      binder.common destination.ip ++ binder.wholeDatagrams config.family ++
        [.bind (config.localAddress.getD config.family.unspecified), .nonblocking] }

/-- A socket for datagrams to anywhere, of a family and with a local address. -/
def listening (binder : Binder) (controls : Nat) (destination : Endpoint) (family : Family)
    (address : Ip) : Preparation :=
  { domain := family.domain
    transport := .datagrams
    settings :=
      (if family = .dual then [.dualStack] else []) ++ binder.common destination.ip ++
        (if binder.listen.reuseAddress then [.reuseAddress] else []) ++
        binder.wholeDatagrams family ++
        (if binder.listen.wireguard then (List.range controls).map .control else []) ++
        [.bind address, .nonblocking] }

/-- The family and local address of a listening socket for a destination: those of the
destination, but both families where it stands for every address and no local one is set. -/
def listenFamily (binder : Binder) (destination : Ip) : Family × Ip :=
  match destination with
  | .v6 _ => (.v6, .v6 (binder.listen.inet6.getD .unspecified))
  | .v4 address =>
    if address = .unspecified then
      match binder.listen.inet4 with
      | some bound => (.v4, .v4 bound)
      | none => (.dual, Family.dual.unspecified)
    else (.v4, .v4 (binder.listen.inet4.getD .unspecified))

variable {κ σ : Type}

/-- Make a socket. -/
def prepare (host : Host κ σ) (preparation : Preparation) (state : σ) :
    Except HostError κ × σ :=
  match host.create preparation.domain preparation.transport state with
  | (.error error, state) => (.error (.io error), state)
  | (.ok socket, state) =>
    match host.applyAll socket preparation.settings state with
    | (.error error, state) => (.error error, state)
    | (.ok (), state) => (.ok socket, state)

/-- A socket ready to connect to a destination. -/
def tcpSocket (binder : Binder) (host : Host κ σ) (destination : Endpoint) (state : σ) :
    Except HostError κ × σ :=
  prepare host (binder.tcp destination) state

/-- A socket ready to exchange datagrams with a destination. -/
def udpSocket (binder : Binder) (host : Host κ σ) (destination : Endpoint) (state : σ) :
    Except HostError κ × σ :=
  prepare host (binder.udp destination) state

/-- A socket ready to send datagrams anywhere, chosen for a destination. Where both families
are wanted and the host has but one, the socket is of the fourth version. -/
def listenSocket (binder : Binder) (host : Host κ σ) (destination : Endpoint) (state : σ) :
    Except HostError κ × σ :=
  let (family, address) := binder.listenFamily destination.ip
  let preparation := binder.listening host.controls destination family address
  let finish (preparation : Preparation) (socket : κ) (state : σ) :=
    match host.applyAll socket preparation.settings state with
    | (.error error, state) => (.error error, state)
    | (.ok (), state) => (.ok socket, state)
  match host.create preparation.domain preparation.transport state with
  | (.ok socket, state) => finish preparation socket state
  | (.error error, state) =>
    if family = .dual then
      let fallback :=
        binder.listening host.controls destination .v4 Family.v4.unspecified
      match host.create fallback.domain fallback.transport state with
      | (.ok socket, state) => finish fallback socket state
      | (.error error, state) => (.error (.io error), state)
    else (.error (.io error), state)

/-- The error of a protect service's answer, if it is one. -/
def protectFault (path : String) : ProtectReply → Option HostError
  | .failed reason => some (.protect path reason)
  | .silent => some (.protect path "failed to fill whole buffer")
  | .code value =>
    if value = 0 then none
    else some (.protect path s!"service refused with code {value}")

/-- Hand a socket to the protect service, if there is one. -/
def protect (binder : Binder) (host : Host κ σ) (socket : κ) (state : σ) :
    Except HostError Unit × σ :=
  match binder.protectPath with
  | none => (.ok (), state)
  | some path =>
    let (reply, state) := host.protect socket path state
    match protectFault path reply with
    | some fault => (.error fault, state)
    | none => (.ok (), state)

end Binder

end Outbound.Socket
