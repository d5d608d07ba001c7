import Outbound.Arrival

/-!
# The bridge to a relay

A bridge carries datagrams between a local socket and a relay. One direction hands what arrives
locally to the relay, for a fixed target; the other sends what the relay receives to whoever was
last heard on the local socket. A receive has room for 65535 octets, which no datagram exceeds.
Each direction is a task of its own that waits, sends, or rests after a failed receive. Both are
told to stop by a close, which releases the relay once they have ended, or are cut off when the
bridge is dropped.
-/
namespace Outbound.Relay

/-- What a direction is doing. -/
inductive Activity where
  /-- It waits for an arrival. -/
  | waiting
  /-- It waits until a datagram is sent. -/
  | sending
  /-- It rests after a failed receive. -/
  | resting (stop : Nat)
  /-- It has ended. -/
  | ended
  deriving DecidableEq, Inhabited

/-- A bridge. -/
structure Bridge where
  /-- Where datagrams go through the relay. -/
  target : Endpoint
  /-- Arrivals on the local socket that are not received yet. -/
  localArrivals : List Arrival := []
  /-- Arrivals on the relay that are not received yet. -/
  relayArrivals : List Arrival := []
  /-- Who was last heard on the local socket. -/
  sender : Option Endpoint := none
  /-- The direction to the relay. -/
  outward : Activity := .waiting
  /-- The direction from the relay. -/
  inward : Activity := .waiting
  /-- Whether the directions are told to stop. -/
  stopping : Bool := false
  /-- Whether a close was called. -/
  closed : Bool := false
  /-- Whether the first close waits for the directions to end. -/
  closing : Bool := false
  /-- How often the relay was released. -/
  releases : Nat := 0
  /-- What was handed to the relay, and for whom, in order. -/
  relayed : List (Endpoint × Bytes) := []
  /-- What was sent on the local socket, and to whom, in order. -/
  delivered : List (Endpoint × Bytes) := []
  deriving DecidableEq

namespace Bridge

/-- Milliseconds that a direction rests after a failed receive. -/
def restTime : Nat := 50

/-- Something arrives on the local socket. -/
def arriveLocally (arrival : Arrival) (bridge : Bridge) : Bridge :=
  { bridge with localArrivals := bridge.localArrivals ++ [arrival] }

/-- Something arrives on the relay. -/
def arriveOnRelay (arrival : Arrival) (bridge : Bridge) : Bridge :=
  { bridge with relayArrivals := bridge.relayArrivals ++ [arrival] }

/-- Let the direction to the relay go on. A stop is noticed before an arrival. -/
def runOutward (now : Nat) (bridge : Bridge) : Bridge :=
  match bridge.outward with
  | .resting stop => if stop ≤ now then { bridge with outward := .waiting } else bridge
  | .sending | .ended => bridge
  | .waiting =>
    if bridge.stopping then { bridge with outward := .ended }
    else
      match bridge.localArrivals with
      | [] => bridge
      | .failure _ :: arrivals =>
        { bridge with localArrivals := arrivals, outward := .resting (now + restTime) }
      | .datagram bytes source :: arrivals =>
        { bridge with
          localArrivals := arrivals
          sender := some source
          relayed := bridge.relayed ++ [(bridge.target, bytes)]
          outward := .sending }

/-- The relay has sent a datagram, or failed to, which is all the same to the bridge. -/
def finishOutward (_result : Except IoError Unit) (bridge : Bridge) : Bridge :=
  if bridge.outward = .sending then { bridge with outward := .waiting } else bridge

/-- Let the direction from the relay go on. A stop is noticed before an arrival, and what
arrives before anyone was heard is dropped. -/
def runInward (now : Nat) (bridge : Bridge) : Bridge :=
  match bridge.inward with
  | .resting stop => if stop ≤ now then { bridge with inward := .waiting } else bridge
  | .sending | .ended => bridge
  | .waiting =>
    if bridge.stopping then { bridge with inward := .ended }
    else
      match bridge.relayArrivals with
      | [] => bridge
      | .failure _ :: arrivals =>
        { bridge with relayArrivals := arrivals, inward := .resting (now + restTime) }
      | .datagram bytes _ :: arrivals =>
        match bridge.sender with
        | none => { bridge with relayArrivals := arrivals }
        | some sender =>
          { bridge with
            relayArrivals := arrivals
            delivered := bridge.delivered ++ [(sender, bytes)]
            inward := .sending }

/-- The local socket has sent a datagram, or failed to, which is all the same to the bridge. -/
def finishInward (_result : Except IoError Unit) (bridge : Bridge) : Bridge :=
  if bridge.inward = .sending then { bridge with inward := .waiting } else bridge

/-- Call close. Only the first call has an effect. -/
def close (bridge : Bridge) : Bridge :=
  if bridge.closed then bridge
  else { bridge with closed := true, stopping := true, closing := true }

/-- Release the relay if a close waits for the directions and both have ended. -/
def finishClose (bridge : Bridge) : Bridge :=
  if bridge.closing ∧ bridge.outward = .ended ∧ bridge.inward = .ended then
    { bridge with closing := false, releases := bridge.releases + 1 }
  else bridge

/-- Drop the bridge: both directions are cut off where they wait. -/
def drop (bridge : Bridge) : Bridge :=
  { bridge with stopping := true, closing := false, outward := .ended, inward := .ended }

/-- Something that happens to a bridge. -/
inductive Event where
  | arriveLocally (arrival : Arrival)
  | arriveOnRelay (arrival : Arrival)
  | runOutward (now : Nat)
  | finishOutward (result : Except IoError Unit)
  | runInward (now : Nat)
  | finishInward (result : Except IoError Unit)
  | close
  | finishClose
  | drop

/-- What an event makes of a bridge. -/
def step (bridge : Bridge) : Event → Bridge
  | .arriveLocally arrival => bridge.arriveLocally arrival
  | .arriveOnRelay arrival => bridge.arriveOnRelay arrival
  | .runOutward now => bridge.runOutward now
  | .finishOutward result => bridge.finishOutward result
  | .runInward now => bridge.runInward now
  | .finishInward result => bridge.finishInward result
  | .close => bridge.close
  | .finishClose => bridge.finishClose
  | .drop => bridge.drop

/-- What events in order make of a bridge. -/
def run (bridge : Bridge) (events : List Event) : Bridge := events.foldl step bridge

/-- One turn of everything that can go on by itself, where every datagram can be sent. -/
def turn (now : Nat) (bridge : Bridge) : Bridge :=
  bridge.run
    [.runOutward now, .finishOutward (.ok ()), .runInward now, .finishInward (.ok ()), .finishClose]

/-- The time at which a direction that rests goes on. -/
def Activity.alarm : Activity → Option Nat
  | .resting stop => some stop
  | _ => none

/-- Let a bridge go on by itself until nothing is left to do up to `stop`, in at most so many
turns. -/
def settle : (turns now stop : Nat) → Bridge → Bridge
  | 0, _, _, bridge => bridge
  | turns + 1, now, stop, bridge =>
    let next := bridge.turn now
    if next ≠ bridge then settle turns now stop next
    else
      let alarms := (Activity.alarm bridge.outward).toList ++ (Activity.alarm bridge.inward).toList
      match (alarms.filter (· ≤ stop)).min? with
      | some alarm => settle turns alarm stop bridge
      | none => bridge

end Bridge

end Outbound.Relay
