import Outbound.Address.Endpoint
import Outbound.WireGuard.Disguise

/-!
# Transmissions

A transmission sends a genuine packet, disguised, and a burst of fillers before it when it opens
a handshake. It stops at the first datagram that cannot be sent.
-/
namespace Outbound.WireGuard

/-- What datagrams are sent through: the time, the datagram and where it goes. -/
structure Outlet (σ : Type) where
  /-- Send one datagram. -/
  send : Nat → Bytes → Endpoint → σ → Except IoError Unit × σ

/-- What a transmission leaves. -/
structure Sent (σ : Type) where
  /-- Whether everything was sent, or the first error. -/
  result : Except IoError Unit
  /-- The time. -/
  now : Nat
  /-- The randomness left. -/
  entropy : Entropy
  /-- The state of the outlet. -/
  state : σ

namespace Policy

variable {σ : Type}

/-- Send so many fillers, with a drawn pause between each and the next. -/
def sendFillers (policy : Policy) (outlet : Outlet σ) (target : Endpoint) :
    Nat → (now : Nat) → Entropy → σ → Sent σ
  | 0, now, entropy, state => ⟨.ok (), now, entropy, state⟩
  | left + 1, now, entropy, state =>
    let (filler, entropy) := policy.filler entropy
    match outlet.send now filler target state with
    | (.error error, state) => ⟨.error error, now, entropy, state⟩
    | (.ok (), state) =>
      if 0 < left && !policy.delay.isZero then
        let (delay, entropy) := policy.delay.draw entropy
        sendFillers policy outlet target left (now + delay) entropy state
      else sendFillers policy outlet target left now entropy state

/-- Send the fillers that go before a packet. -/
def sendBurst (policy : Policy) (outlet : Outlet σ) (target : Endpoint) (packet : Bytes)
    (now : Nat) (entropy : Entropy) (state : σ) : Sent σ :=
  if policy.sendsFillers && classify packet == some .initiation then
    let (count, entropy) := policy.count.draw entropy
    policy.sendFillers outlet target count now entropy state
  else ⟨.ok (), now, entropy, state⟩

/-- Send a packet, disguised, after its fillers. -/
def transmit (policy : Policy) (reserved : Reserved) (outlet : Outlet σ) (target : Endpoint)
    (packet : Bytes) (now : Nat) (entropy : Entropy) (state : σ) : Sent σ :=
  let burst := policy.sendBurst outlet target packet now entropy state
  match burst.result with
  | .error _ => burst
  | .ok () =>
    let (disguised, entropy) := policy.disguise reserved packet burst.entropy
    let (result, state) := outlet.send burst.now disguised target burst.state
    ⟨result, burst.now, entropy, state⟩

end Policy

end Outbound.WireGuard
