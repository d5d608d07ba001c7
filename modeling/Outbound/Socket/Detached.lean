import Outbound.Socket.Host
import Outbound.Tunnel

/-!
# A host without a network

On a detached host sockets can be made and set up, and keep what they were told. Its only
interface is the loopback, which is down, so nothing can be reached from it; a local address of
the fourth version is as good as any other, and of the sixth version there is none but those that
stand for it. Its forwarders listen nowhere; they note what they were started for.
-/
namespace Outbound.Socket

/-- What a socket was told. -/
structure Told where
  /-- The domain of the socket. -/
  domain : Domain
  /-- The requests granted, the last first. -/
  settings : List Setting := []

/-- What a forwarder was started for. -/
structure Forwarded where
  /-- Where it was to listen. -/
  endpoint : Endpoint
  /-- Where it was to forward to. -/
  destination : Endpoint
  /-- How. -/
  options : TunnelOptions

/-- What a detached host knows. -/
structure Detached where
  /-- Its sockets, by number. -/
  sockets : Array Told := #[]
  /-- How a control for WireGuard sockets fails, if it does. -/
  controlError : Option IoError := none
  /-- How often a control was run. -/
  controlRuns : Nat := 0
  /-- What the protect service answers. -/
  reply : ProtectReply := .failed "No such file or directory (os error 2)"
  /-- How a forwarder fails to start, if it does. -/
  forwarderError : Option Error := none
  /-- What forwarders were started for, the last first. -/
  forwarded : List Forwarded := []

namespace Detached

/-- The error of reaching anywhere. -/
def unreachable : IoError := ⟨.networkUnreachable, "Network is unreachable (os error 101)"⟩

/-- The error of an interface that does not exist. -/
def noInterface : IoError := ⟨.uncategorized, "No such device (os error 19)"⟩

/-- The error of an address that is not local. -/
def notLocal : IoError := ⟨.addrNotAvailable, "Cannot assign requested address (os error 99)"⟩

/-- The error of marking packets. -/
def notPermitted : IoError := ⟨.permissionDenied, "Operation not permitted (os error 1)"⟩

/-- Whether a local address can be used. -/
def isLocal : Ip → Bool
  | .v4 _ => true
  | .v6 address => address = .unspecified || address.mapped?.isSome

/-- The interface of the host. -/
def loopback : String := "lo"

/-- The name of an interface as the host reads it, up to the first zero character. -/
def readName (name : String) : String := String.ofList (name.toList.takeWhile (· ≠ '\x00'))

/-- Whether a socket can be tied to an interface. The empty name unties it. -/
def isInterface (name : String) : Bool := readName name = "" || readName name = loopback

/-- Make a socket. -/
def create (domain : Domain) (state : Detached) : Except IoError Nat × Detached :=
  (.ok state.sockets.size, { state with sockets := state.sockets.push { domain } })

/-- Whether a request is granted. -/
def grants (state : Detached) : Setting → Except IoError Unit
  | .interface name => if isInterface name then .ok () else .error noInterface
  | .mark _ => .error notPermitted
  | .bind address => if isLocal address then .ok () else .error notLocal
  | .control _ => match state.controlError with
    | some error => .error error
    | none => .ok ()
  | _ => .ok ()

/-- Set a socket up. -/
def set (socket : Nat) (setting : Setting) (state : Detached) : Except IoError Unit × Detached :=
  let runs := match setting with
    | .control _ => state.controlRuns + 1
    | _ => state.controlRuns
  let state := { state with controlRuns := runs }
  match state.grants setting with
  | .error error => (.error error, state)
  | .ok () =>
    (.ok (), { state with sockets := state.sockets.modify socket fun told =>
      { told with settings := setting :: told.settings } })

/-- The host. -/
def host (controls : Nat) : Host Nat Detached where
  create domain _ state := create domain state
  set := set
  controls := controls
  protect _ _ state := (state.reply, state)
  connect _ _ _ state := (.failed unreachable, state)
  pursue _ _ _ _ state := (some (.failed unreachable), state)
  watch _ state := (.ok (), state)
  associate _ _ state := (.error unreachable, state)
  stream _ :=
    { write := fun _ _ state => (.failed unreachable, state)
      read := fun _ _ state => (.failed unreachable, state)
      flush := fun _ state => (.done (), state)
      shutdown := fun _ state => (.done (), state) }
  channel _ :=
    { send := fun _ _ state => (.failed unreachable, state)
      receive := fun _ _ state => (.pending, state) }

/-- The forwarders. -/
def forwarder : Forwarder Detached where
  start endpoint destination options state :=
    (match state.forwarderError with
      | some error => .error error
      | none => .ok (),
      { state with forwarded := ⟨endpoint, destination, options⟩ :: state.forwarded })

end Detached

end Outbound.Socket
