import Outbound.Tls.Plan
import Outbound.Tls.Policy
import Outbound.Tls.ServerName

/-!
# Emissions

An emission holds the records that one buffer has become, how far they have been sent, and the
pause that is being kept, if any.
-/
namespace Outbound.Tls

/-- The records of one buffer on their way out. -/
structure Emission where
  /-- The fragments, and last what followed the cut record in the buffer, if anything did. -/
  records : Array Bytes
  /-- How many of the records are fragments. -/
  fragments : Nat
  /-- The record being sent. -/
  index : Nat := 0
  /-- How much of it has been sent. -/
  offset : Nat := 0
  /-- The time at which a pause ends. -/
  pause : Option Nat := none
  /-- The buffer. -/
  origin : Bytes
  deriving DecidableEq

namespace Emission

/-- The host name to cut: none when cuts are not to be aligned or none is found. -/
def name (policy : Policy) (body : Bytes) : Option Span :=
  if policy.sniSplit then (ServerName.locate body).toOption else none

/-- The emission of a buffer that holds a record with `header` and `body`, and `rest` after
it. -/
def start (policy : Policy) (header : RecordHeader) (body rest origin : Bytes)
    (entropy : Entropy) : Emission × Entropy :=
  let (chunks, entropy) := Plan.chunks body.length policy.size (name policy body) entropy
  let fragments := Plan.records header body chunks
  let records := if rest = [] then fragments else fragments.push rest
  ({ records, fragments := fragments.size, origin }, entropy)

/-- Whether a pause is being kept. -/
def isPaused (emission : Emission) (now : Nat) : Bool :=
  match emission.pause with
  | some stop => now < stop
  | none => false

/-- The emission without a pause. -/
def resume (emission : Emission) : Emission := { emission with pause := none }

/-- Take note of sent octets of the current record. Once it is out, a pause is drawn if a
fragment follows. -/
def advance (emission : Emission) (policy : Policy) (now count : Nat) (entropy : Entropy) :
    Emission × Entropy :=
  let sent := emission.offset + count
  if sent < (emission.records.getD emission.index []).length then
    ({ emission with offset := sent }, entropy)
  else
    let next := { emission with index := emission.index + 1, offset := 0 }
    if next.index < next.fragments && !policy.sleep.isZero then
      let (delay, entropy) := policy.sleep.draw entropy
      ({ next with pause := some (now + delay) }, entropy)
    else (next, entropy)

/-- What is left to send: records, and octets of the current one. -/
def left (emission : Emission) : Nat × Nat :=
  (emission.records.size - emission.index,
    (emission.records.getD emission.index []).length - emission.offset)

/-- An advance within the current record. -/
theorem advance_within {emission : Emission} {count : Nat}
    (h : emission.offset + count < (emission.records.getD emission.index []).length)
    (policy : Policy) (now : Nat) (entropy : Entropy) :
    emission.advance policy now count entropy =
      ({ emission with offset := emission.offset + count }, entropy) := by
  simp only [advance, if_pos h]

/-- An advance past the current record. -/
theorem advance_past {emission : Emission} {count : Nat}
    (h : ¬ emission.offset + count < (emission.records.getD emission.index []).length)
    (policy : Policy) (now : Nat) (entropy : Entropy) :
    (emission.advance policy now count entropy).1.records = emission.records ∧
      (emission.advance policy now count entropy).1.index = emission.index + 1 := by
  simp only [advance, if_neg h]
  split <;> exact ⟨rfl, rfl⟩

/-- An advance by at least one octet leaves less to send. -/
theorem left_advance (emission : Emission) (policy : Policy) (now count : Nat)
    (entropy : Entropy) (h : emission.index < emission.records.size) :
    Prod.Lex (· < ·) (· < ·) (emission.advance policy now (count + 1) entropy).1.left
      emission.left := by
  by_cases within : emission.offset + (count + 1) <
      (emission.records.getD emission.index []).length
  · rw [advance_within within]
    exact Prod.Lex.right _ (by simp only; omega)
  · have past := advance_past within policy now entropy
    exact Prod.Lex.left _ _ (by rw [past.1, past.2]; omega)

end Emission

end Outbound.Tls
