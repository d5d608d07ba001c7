import Outbound.Address.Endpoint
import Outbound.Entropy
import Outbound.Error

/-!
# The port of a bridge

A port of a range is drawn and bound on the local host in one go, so nobody can take it in between.
The number of draws is bounded.
-/
namespace Outbound.Relay

/-- The first port a bridge is put on. -/
def firstPort : UInt16 := 10000

/-- The last port a bridge is put on. -/
def lastPort : UInt16 := 30000

/-- How many ports are tried. -/
def maxAttempts : Nat := 100

/-- Draw ports and bind them, until one is bound or the attempts are used up. -/
def probe {κ σ : Type} (bind : Endpoint → σ → Except IoError κ × σ) (first last : UInt16) :
    Nat → Entropy → σ → Option κ × Entropy × σ
  | 0, entropy, state => (none, entropy, state)
  | attempts + 1, entropy, state =>
    let (port, entropy) := entropy.between first.toNat last.toNat
    match bind ⟨.v4 .localhost, UInt16.ofNat port, 0⟩ state with
    | (.ok socket, state) => (some socket, entropy, state)
    | (.error _, state) => probe bind first last attempts entropy state

/-- A socket bound to a random port of a range. -/
def bindRandomPort {κ σ : Type} (bind : Endpoint → σ → Except IoError κ × σ)
    (first last : UInt16) (attempts : Nat) (entropy : Entropy) (state : σ) :
    Except Error κ × Entropy × σ :=
  if first = 0 ∨ last < first then
    (.error (.configValue "turn_relay.port_range" s!"invalid port range {first}-{last}"),
      entropy, state)
  else
    match probe bind first last attempts entropy state with
    | (some socket, entropy, state) => (.ok socket, entropy, state)
    | (none, entropy, state) => (.error (.noPortAvailable first last attempts), entropy, state)

end Outbound.Relay
