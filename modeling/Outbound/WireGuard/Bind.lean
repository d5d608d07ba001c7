import Outbound.Arrival
import Outbound.WireGuard.Transmission

/-!
# The bind of a peer

A bind owns the socket that a device talks to its peer through. The first use opens it, a
rebind replaces it, and a close drops it. Opening and replacing wait for the listener, and other
calls may come in between; so each is given as the steps between its waits, and as a whole for a
caller that nothing interrupts.
-/
namespace Outbound.WireGuard

/-- What opens sockets: for which endpoint, and the socket or why there is none. -/
structure Listener (κ σ : Type) where
  /-- Open a socket. -/
  listen : Endpoint → σ → Except Error κ × σ

/-- The bind of one peer. -/
structure Bind (κ : Type) where
  /-- Where the peer is. -/
  endpoint : Endpoint
  /-- How packets are disguised. -/
  policy : Policy
  /-- The reserved octets of packets sent. -/
  reserved : Reserved
  /-- The socket, once one is open. -/
  slot : Option κ := none

/-- How far a rebind is. -/
inductive RebindCall where
  /-- It lets the network settle first. -/
  | settling (stop : Nat)
  /-- It waits for the listener. -/
  | listening
  /-- It lets the network settle after the change. -/
  | resting (stop : Nat)
  /-- It is over: whether the socket was replaced, or why it could not be. -/
  | over (result : Except Error Bool)

/-- A message received. -/
structure Received where
  /-- Its kind. -/
  type : MessageType
  /-- Its octets, restored. -/
  bytes : Bytes
  /-- Who sent it. -/
  source : Endpoint
  deriving DecidableEq

/-- The first message among arrivals, and what comes after it. A receive that fails ends the
search; every datagram that is no message is passed over, and nothing is found when no message
has arrived yet. -/
def Policy.receive (policy : Policy) (room : Nat) :
    List Arrival → Option (Except IoError Received) × List Arrival
  | [] => (none, [])
  | .failure error :: arrivals => (some (.error error), arrivals)
  | .datagram bytes source :: arrivals =>
    match policy.restore (bytes.take room) with
    | some (type, bytes) => (some (.ok ⟨type, bytes, source⟩), arrivals)
    | none => policy.receive room arrivals

namespace Bind

variable {κ σ : Type}

/-- Milliseconds that a rebind waits before and after it replaces the socket. -/
def settleTime : Nat := 50

/-- The socket of an open call that need not wait for the listener. -/
def opened? (bind : Bind κ) : Option κ := bind.slot

/-- Go on with an open call once the listener has answered. If a socket was put in place in the
meantime, it is the one to use. -/
def finishOpen (answer : Except Error κ) (bind : Bind κ) : Except Error κ × Bind κ :=
  match answer with
  | .error error => (.error error, bind)
  | .ok socket =>
    match bind.slot with
    | some existing => (.ok existing, bind)
    | none => (.ok socket, { bind with slot := some socket })

/-- The socket, opened if there is none. -/
def openSocket (listener : Listener κ σ) (bind : Bind κ) (state : σ) :
    Except Error κ × Bind κ × σ :=
  match bind.opened? with
  | some socket => (.ok socket, bind, state)
  | none =>
    let (answer, state) := listener.listen bind.endpoint state
    let (result, bind) := bind.finishOpen answer
    (result, bind, state)

/-- Start a rebind, which is over at once while the program is paused. -/
def beginRebind (paused : Bool) (now : Nat) : RebindCall :=
  if paused then .over (.ok false) else .settling (now + settleTime)

/-- Go on with a rebind that waits for the time. -/
def proceed (now : Nat) : RebindCall → RebindCall
  | .settling stop => if stop ≤ now then .listening else .settling stop
  | .resting stop => if stop ≤ now then .over (.ok true) else .resting stop
  | call => call

/-- Go on with a rebind once the listener has answered. -/
def finishRebind (now : Nat) (answer : Except Error κ) (bind : Bind κ) : RebindCall × Bind κ :=
  match answer with
  | .error error => (.over (.error error), bind)
  | .ok socket => (.resting (now + settleTime), { bind with slot := some socket })

/-- Replace the socket. Gives whether it was replaced, the time, the bind and the listener's
state. -/
def rebind (listener : Listener κ σ) (paused : Bool) (now : Nat) (bind : Bind κ) (state : σ) :
    Except Error Bool × Nat × Bind κ × σ :=
  match beginRebind paused now with
  | .over result => (result, now, bind, state)
  | _ =>
    let now := now + settleTime
    let (answer, state) := listener.listen bind.endpoint state
    match bind.finishRebind now answer with
    | (.over result, bind) => (result, now, bind, state)
    | (_, bind) => (.ok true, now + settleTime, bind, state)

/-- Drop the socket. -/
def close (bind : Bind κ) : Bind κ := { bind with slot := none }

/-- Send a message to the peer through an open socket, or one opened for it. -/
def send (listener : Listener κ σ) (outlet : κ → Outlet σ) (packet : Bytes) (now : Nat)
    (entropy : Entropy) (bind : Bind κ) (state : σ) : Sent (Bind κ × σ) :=
  match bind.openSocket listener state with
  | (.error error, bind, state) => ⟨.error error.toIo, now, entropy, bind, state⟩
  | (.ok socket, bind, state) =>
    let sent :=
      bind.policy.transmit bind.reserved (outlet socket) bind.endpoint packet now entropy state
    ⟨sent.result, sent.now, sent.entropy, bind, sent.state⟩

end Bind

end Outbound.WireGuard
