import Outbound.Proofs.Stream.Run
import Outbound.Proofs.Tls.Fragmentation

/-!
# The ledger of a fragmented stream

A ledger says what the calls on a fragmented stream come to on the wire, without records,
offsets, pauses or partial writes: each buffer that is taken on has an image, and the images
stand on the wire one after another. A buffer that is looked at is cut exactly if it and every
buffer looked at before it open with a whole ClientHello record. Its image is sent whole before
anything else is, whether or not the caller comes back for it. Every other write has as its
image the front part that it is answered with.
-/
namespace Outbound.Tls

/-- A buffer that starts with a whole record that opens a ClientHello. -/
def Opens (buffer : Bytes) : Prop :=
  ∃ header body rest, inspect buffer = .clientHello header body rest

/-- The images of a buffer that is cut: the records of its chunks, wherever the draws start, and
then what followed the cut record. -/
def Fragmented (policy : Policy) (words : Nat → Nat) (buffer image : Bytes) : Prop :=
  ∃ header body rest used, inspect buffer = .clientHello header body rest ∧
    image = ((Emission.chunks policy body ⟨words, used⟩).map fun chunk =>
      Plan.record header (chunk.slice body)).flatten ++ rest

/-- A buffer that has been taken on and is not out yet. -/
structure Debt where
  /-- The buffer. -/
  buffer : Bytes
  /-- What is to be sent for it. -/
  image : Bytes

/-- What the calls on a fragmented stream have come to. -/
structure Ledger where
  /-- The images that are out, first to last. -/
  images : List Bytes := []
  /-- The image that is not out yet, if there is one. -/
  debt : Option Debt := none
  /-- The buffers that have been looked at, first to last. -/
  inspected : List Bytes := []
  /-- Whether the connection is over. -/
  isOver : Bool := false

namespace Ledger

/-- The next buffer is looked at: so far each one has been cut. -/
def Looking (ledger : Ledger) : Prop := ∀ buffer ∈ ledger.inspected, Opens buffer

/-- What a ledger says to be on the wire: the images that are out, and of the one that is not a
front part that lacks something. -/
inductive OnWire (ledger : Ledger) : Bytes → Prop where
  /-- Every image is out. -/
  | settled (none : ledger.debt = none) : OnWire ledger ledger.images.flatten
  /-- One image is not out yet. -/
  | owing (debt : Debt) (sent : Bytes) (owed : ledger.debt = some debt)
      (front : sent <+: debt.image) (short : sent ≠ debt.image) :
      OnWire ledger (ledger.images.flatten ++ sent)

/-- The image that was owed is out. -/
def settle (ledger : Ledger) (debt : Debt) : Ledger :=
  { ledger with images := ledger.images ++ [debt.image], debt := none }

/-- A buffer is looked at. -/
def inspect (ledger : Ledger) (buffer : Bytes) : Ledger :=
  { ledger with inspected := ledger.inspected ++ [buffer] }

/-- The next buffer is looked at just if this one was cut as well. -/
theorem looking_inspect {ledger : Ledger} {buffer : Bytes} :
    (ledger.inspect buffer).Looking ↔ ledger.Looking ∧ Opens buffer := by
  simp only [Looking, inspect, List.forall_mem_append, List.forall_mem_singleton]

/-- A buffer that is looked at is taken on. -/
def owe (ledger : Ledger) (buffer image : Bytes) : Ledger :=
  { ledger.inspect buffer with debt := some ⟨buffer, image⟩ }

/-- The connection is over. -/
def ended (ledger : Ledger) : Ledger := { ledger with isOver := true }

/-- The end of a connection leaves what is on the wire as it is. -/
theorem OnWire.ended {ledger : Ledger} {wire : Bytes} (onWire : ledger.OnWire wire) :
    ledger.ended.OnWire wire := by
  cases onWire with
  | settled none => exact .settled none
  | owing debt sent owed front short => exact .owing debt sent owed front short

/-- What a write on a connection that is not over comes to: its answer, and the ledger before
and after it. -/
inductive Write (policy : Policy) (words : Nat → Nat) (buffer : Bytes) :
    Answer Nat → Ledger → Ledger → Prop where
  /-- What is owed is not out yet. -/
  | wait {ledger : Ledger} (debt : Debt) (owed : ledger.debt = some debt) :
      Write policy words buffer .pending ledger ledger
  /-- What is owed cannot be sent. -/
  | fail {ledger : Ledger} (debt : Debt) (error : IoError) (owed : ledger.debt = some debt) :
      Write policy words buffer (.failed error) ledger ledger.ended
  /-- What is owed is out, and was owed for the same buffer. -/
  | finish {ledger : Ledger} (debt : Debt) (owed : ledger.debt = some debt)
      (same : debt.buffer = buffer) :
      Write policy words buffer (.done buffer.length) ledger (ledger.settle debt)
  /-- What is owed is out, and was owed for another buffer. -/
  | overtake {ledger later : Ledger} (debt : Debt) (answer : Answer Nat)
      (owed : ledger.debt = some debt) (other : debt.buffer ≠ buffer)
      (write : Write policy words buffer answer (ledger.settle debt) later) :
      Write policy words buffer answer ledger later
  /-- An empty buffer is not looked at. -/
  | nothing {ledger : Ledger} (settled : ledger.debt = none) (looking : ledger.Looking)
      (empty : buffer = []) :
      Write policy words buffer (.done 0) ledger ledger
  /-- A buffer that opens with a ClientHello is cut. -/
  | cut {ledger later : Ledger} (answer : Answer Nat) (image : Bytes) (settled : ledger.debt = none)
      (looking : ledger.Looking) (nonempty : buffer ≠ [])
      (fragmented : Fragmented policy words buffer image)
      (write : Write policy words buffer answer (ledger.owe buffer image) later) :
      Write policy words buffer answer ledger later
  /-- A buffer that does not open with one is let through, and no other is looked at. -/
  | turn {ledger later : Ledger} (answer : Answer Nat) (settled : ledger.debt = none)
      (looking : ledger.Looking) (nonempty : buffer ≠ []) (other : ¬ Opens buffer)
      (write : Write policy words buffer answer (ledger.inspect buffer) later) :
      Write policy words buffer answer ledger later
  /-- A buffer that is let through counts as far as the answer goes. -/
  | pass {ledger : Ledger} (count : Nat) (settled : ledger.debt = none)
      (through : ¬ ledger.Looking) :
      Write policy words buffer (.done count) ledger
        { ledger with images := ledger.images ++ [buffer.take count] }
  /-- A buffer that is let through has to wait. -/
  | hold {ledger : Ledger} (settled : ledger.debt = none) (through : ¬ ledger.Looking) :
      Write policy words buffer .pending ledger ledger
  /-- A buffer that is let through cannot be sent. -/
  | drop {ledger : Ledger} (error : IoError) (settled : ledger.debt = none)
      (through : ¬ ledger.Looking) :
      Write policy words buffer (.failed error) ledger ledger.ended

/-- What a call comes to: only writes put anything on the wire. -/
inductive Step (policy : Policy) (words : Nat → Nat) : Exchange → Ledger → Ledger → Prop where
  /-- A write. -/
  | write {ledger later : Ledger} (buffer : Bytes) (answer : Answer Nat)
      (lasting : ledger.isOver = false) (write : Write policy words buffer answer ledger later) :
      Step policy words ⟨.write buffer, answer⟩ ledger later
  /-- A write on a connection that is over takes nothing on. -/
  | late {ledger : Ledger} (buffer : Bytes) (answer : Answer Nat) (isOver : ledger.isOver = true)
      (refused : ∀ count, answer ≠ .done count) :
      Step policy words ⟨.write buffer, answer⟩ ledger ledger
  /-- A read. -/
  | read {ledger : Ledger} (room : Nat) (answer : Answer Bytes) :
      Step policy words ⟨.read room, answer⟩ ledger ledger
  /-- A flush. -/
  | flush {ledger : Ledger} (answer : Answer Unit) :
      Step policy words ⟨.flush, answer⟩ ledger ledger
  /-- A shutdown that is not complete. -/
  | linger {ledger : Ledger} : Step policy words ⟨.shutdown, .pending⟩ ledger ledger
  /-- A shutdown that is complete ends the connection. -/
  | close {ledger : Ledger} (answer : Answer Unit) (complete : answer ≠ .pending) :
      Step policy words ⟨.shutdown, answer⟩ ledger ledger.ended

/-- What calls come to one after another, each taken with what is on the wire after it. -/
inductive Run (policy : Policy) (words : Nat → Nat) :
    List (Exchange × Bytes) → Ledger → Ledger → Prop where
  /-- No call. -/
  | nil {ledger : Ledger} : Run policy words [] ledger ledger
  /-- A call and those after it. -/
  | cons {ledger middle later : Ledger} {exchange : Exchange} {wire : Bytes}
      {exchanges : List (Exchange × Bytes)} (step : Step policy words exchange ledger middle)
      (onWire : middle.OnWire wire) (run : Run policy words exchanges middle later) :
      Run policy words ((exchange, wire) :: exchanges) ledger later

end Ledger

end Outbound.Tls
