import Outbound.Range
import Outbound.Tls.Record
import Outbound.Tls.Span

/-!
# Plans of cuts

A plan divides a message into chunks, each of which becomes the payload of a record of its own.
Sizes are drawn from a range; a host name that spans at least two octets gets one cut inside
it, and its own two ends are cuts as well.
-/
namespace Outbound.Tls.Plan

/-- Divide the places from `start` up to `stop` into chunks of drawn sizes, and add them to
`chunks`. A drawn size of zero still advances by one. -/
def divide (size : Range) (start stop : Nat) (chunks : Array Span) (entropy : Entropy) :
    Array Span × Entropy :=
  if start < stop then
    let (drawn, entropy) := size.draw entropy
    let next := start + max 1 (min drawn (stop - start))
    divide size next stop (chunks.push ⟨start, next⟩) entropy
  else (chunks, entropy)
termination_by stop - start
decreasing_by omega

/-- The host name that a plan cuts: one that lies in the message and can be cut at all. -/
def cuttable (length : Nat) (name : Option Span) : Option Span :=
  name.filter fun name => decide (name.stop ≤ length ∧ 2 ≤ name.length)

/-- The chunks of a message of `length` octets. -/
def chunks (length : Nat) (size : Range) (name : Option Span) (entropy : Entropy) :
    Array Span × Entropy :=
  match cuttable length name with
  | none => divide size 0 length #[] entropy
  | some name =>
    let (cut, entropy) := entropy.between (name.start + 1) (name.stop - 1)
    let (before, entropy) := divide size 0 name.start #[] entropy
    let inside := (before.push ⟨name.start, cut⟩).push ⟨cut, name.stop⟩
    divide size name.stop length inside entropy

/-- The record of one payload. -/
def record (header : RecordHeader) (payload : Bytes) : Bytes :=
  (header.forPayload payload).encode ++ payload

/-- The records of the chunks of a message. -/
def records (header : RecordHeader) (body : Bytes) (chunks : Array Span) : Array Bytes :=
  let octets := body.toArray
  chunks.map fun chunk => record header (octets.extract chunk.start chunk.stop).toList

end Outbound.Tls.Plan
