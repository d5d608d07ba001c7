import Outbound.Proofs.WireGuard.Disguise

/-!
# Restoration in place

A receiver restores a packet in the very buffer that holds it. There each octet is written to a
place that the buffer must have, and no length is looked at before: `restoreInPlace_eq` says that
the places are always there, since a packet that is taken for a message has the size of one.
-/
namespace Outbound

namespace Bytes

/-- Write an octet to a place of a buffer, which is a fault if the buffer ends before it. -/
def put (place : Nat) (octet : UInt8) (buffer : Bytes) : Option Bytes :=
  if place < buffer.length then some (buffer.set place octet) else none

/-- Write an octet to each place from `start` up to `stop`, which is a fault if the buffer ends
before `stop`. -/
def fill (start stop : Nat) (octet : UInt8) (buffer : Bytes) : Option Bytes :=
  if start ≤ stop ∧ stop ≤ buffer.length then
    some (buffer.take start ++ List.replicate (stop - start) octet ++ buffer.drop stop)
  else none

end Bytes

namespace WireGuard

/-- No message is shorter than transport data without a payload. -/
theorem MessageType.le_of_sizeMatches {type : MessageType} {size : Nat}
    (fits : type.sizeMatches size = true) : 32 ≤ size := by
  cases type with
  | initiation => rw [beq_iff_eq.mp fits]; decide
  | response => rw [beq_iff_eq.mp fits]; decide
  | cookieReply => rw [beq_iff_eq.mp fits]; decide
  | transport => exact of_decide_eq_true ((Bool.and_eq_true _ _).mp fits).1

namespace Policy

variable {policy : Policy} {packet restored : Bytes} {type : MessageType}

/-- Restore a packet in the buffer that holds it, and give its kind. Nothing is left by a write to
a place that the buffer does not have. -/
def restoreInPlace (policy : Policy) (buffer : Bytes) : Option (Option MessageType × Bytes) :=
  match policy.recognise buffer with
  | none => some (none, buffer)
  | some type => do
    let buffer ← buffer.put 0 type.byte
    let buffer ← buffer.fill 1 4 0
    some (some type, buffer)

/-- A packet that is restored is one of four octets and more that a receiver takes for a message;
its first four octets become those of the message. -/
theorem exists_cons_of_restore (found : policy.restore packet = some (type, restored)) :
    ∃ first a b c rest, packet = first :: a :: b :: c :: rest ∧
      restored = type.byte :: 0 :: 0 :: 0 :: rest ∧ type.sizeMatches (rest.length + 4) = true := by
  rw [restore] at found
  obtain ⟨type, recognised, made⟩ := Option.map_eq_some_iff.mp found
  cases made
  have fits := (recognise_eq_some_iff.mp recognised).1
  have long := MessageType.le_of_sizeMatches fits
  rcases packet with _ | ⟨first, _ | ⟨a, _ | ⟨b, _ | ⟨c, rest⟩⟩⟩⟩
  case cons.cons.cons.cons => exact ⟨first, a, b, c, rest, rfl, rfl, fits⟩
  all_goals simp at long

/-- The kind of a packet that is restored is what a receiver takes the packet for. -/
theorem map_restore (policy : Policy) (packet : Bytes) :
    (policy.restore packet).map Prod.fst = policy.recognise packet := by
  rw [restore, Option.map_map]
  exact Option.map_id'

/-- A receiver restores in place what is restored, and leaves any other packet as it is; no write is
a fault. -/
theorem restoreInPlace_eq (policy : Policy) (packet : Bytes) :
    policy.restoreInPlace packet = some ((policy.restore packet).map Prod.fst,
      ((policy.restore packet).map Prod.snd).getD packet) := by
  have taken := map_restore policy packet
  cases found : policy.restore packet with
  | none =>
    have unknown : policy.recognise packet = none := by rw [← taken, found, Option.map_none]
    rw [restoreInPlace, unknown]
    rfl
  | some pair =>
    obtain ⟨type, restored⟩ := pair
    have known : policy.recognise packet = some type := by rw [← taken, found, Option.map_some]
    obtain ⟨first, a, b, c, rest, rfl, rfl, -⟩ := exists_cons_of_restore found
    have typed : Bytes.put 0 type.byte (first :: a :: b :: c :: rest) =
        some (type.byte :: a :: b :: c :: rest) := if_pos (Nat.zero_lt_succ _)
    have cleared : Bytes.fill 1 4 0 (type.byte :: a :: b :: c :: rest) =
        some (type.byte :: 0 :: 0 :: 0 :: rest) :=
      if_pos ⟨by decide, Nat.le_add_left 4 rest.length⟩
    simp only [restoreInPlace, known, typed, cleared, Option.bind_eq_bind, Option.bind_some,
      Option.map_some, Option.getD_some]

/-- A packet that is not restored is left as it is. -/
theorem restoreInPlace_of_none (dropped : policy.restore packet = none) :
    policy.restoreInPlace packet = some (none, packet) := by
  rw [restoreInPlace_eq, dropped]
  rfl

/-- A packet that is restored is restored in place, without a fault. -/
theorem restoreInPlace_of_some (found : policy.restore packet = some (type, restored)) :
    policy.restoreInPlace packet = some (some type, restored) := by
  rw [restoreInPlace_eq, found]
  rfl

/-- What a restoration makes of a packet of some kind. -/
structure Restoration (packet : Bytes) (type : MessageType) (restored : Bytes) : Prop where
  /-- The packet has a size of the kind. -/
  fits : type.sizeMatches packet.length = true
  /-- It keeps its size. -/
  length : restored.length = packet.length
  /-- It keeps all octets but the first four. -/
  tail : restored.drop 4 = packet.drop 4
  /-- These become the octet of the kind and three zeros. -/
  head : restored.take 4 = [type.byte, 0, 0, 0]
  /-- The result is a genuine packet of the kind. -/
  genuine : classify restored = some type
  /-- Restoring the result again changes nothing, whatever the policy. -/
  stable : ∀ other : Policy, other.restore restored = some (type, restored) ∧
    other.restoreInPlace restored = some (some type, restored)

/-- What is restored is a restoration. -/
theorem restoration_of_restore (found : policy.restore packet = some (type, restored)) :
    Restoration packet type restored := by
  obtain ⟨first, a, b, c, rest, rfl, rfl, fits⟩ := exists_cons_of_restore found
  have again : ∀ other : Policy, other.restore (type.byte :: 0 :: 0 :: 0 :: rest) =
      some (type, type.byte :: 0 :: 0 :: 0 :: rest) :=
    fun other => restore_cons _ _ _ _ rest fits (.inr rfl)
  exact {
    fits := fits
    length := rfl
    tail := rfl
    head := rfl
    genuine := classify_eq_some_iff.mpr ⟨rfl, fits⟩
    stable := fun other => ⟨again other, restoreInPlace_of_some (again other)⟩ }

/-- Restoring is exact, local and done once and for all. A packet is restored just if it has a size
of some kind and starts with the octet of that kind, wherever this octet is not replaced. Any other
packet is left as it is. No packet, however short, makes a receiver write past the end of it. -/
theorem restore_exact (policy : Policy) (packet : Bytes) :
    (∀ type, (policy.restore packet).map Prod.fst = some type ↔
      type.sizeMatches packet.length = true ∧
        (policy.mode.modifies = true ∧ packet.length ≠ 64 ∨ packet.head? = some type.byte)) ∧
    (policy.restore packet = none → policy.restoreInPlace packet = some (none, packet)) ∧
    ∀ type restored, policy.restore packet = some (type, restored) →
      policy.restoreInPlace packet = some (some type, restored) ∧
        Restoration packet type restored := by
  refine ⟨fun type => ?_, restoreInPlace_of_none, fun type restored found => ?_⟩
  · rw [map_restore, recognise_eq_some_iff, replacesType_eq_true_iff]
    rfl
  · exact ⟨restoreInPlace_of_some found, restoration_of_restore found⟩

end Policy

end WireGuard

end Outbound
