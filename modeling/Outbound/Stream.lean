import Outbound.Bytes
import Outbound.Io

/-!
# Streams

A stream is asked to write, read, flush or shut down, and answers at once: with a result, with
an error, or that it is not ready. Its state is threaded through every call, so a statement
about the calls that reach a stream is a statement about its state. A call tells the time and
the task that asks, which a stream wakes when it may be asked again.
-/
namespace Outbound

/-- What a call answers. -/
inductive Answer (α : Type) where
  /-- The call has to be repeated later. -/
  | pending
  /-- The call is complete. -/
  | done (result : α)
  /-- The call has failed. -/
  | failed (error : IoError)
  deriving DecidableEq

/-- When and for whom a call is made. -/
structure Turn where
  /-- The time, in milliseconds. -/
  now : Nat
  /-- The task that asks. -/
  task : Nat := 0
  deriving DecidableEq

/-- A stream whose state is `σ`. -/
structure Stream (σ : Type) where
  /-- Take bytes of a buffer; the answer counts them. -/
  write : Turn → Bytes → σ → Answer Nat × σ
  /-- Give at most so many bytes; none at the end of the stream. -/
  read : Turn → Nat → σ → Answer Bytes × σ
  /-- Send on what is buffered. -/
  flush : Turn → σ → Answer Unit × σ
  /-- Close the sending side. -/
  shutdown : Turn → σ → Answer Unit × σ

/-- A stream that has to be connected first. -/
structure Transport (σ : Type) extends Stream σ where
  /-- Go on connecting. -/
  connect : Turn → σ → Answer Unit × σ

/-- A stream that is connected already. -/
def Stream.connected {σ : Type} (stream : Stream σ) : Transport σ where
  toStream := stream
  connect _ state := (.done (), state)

end Outbound
