import Outbound.Stream

/-!
# Runs of calls

A trace makes calls on a stream one after another, each at its own time and for its own task, and
keeps what they answer and the states they leave. A recorded stream keeps the octets that it has
taken as well, so that what a decorator does to a stream can be told from its state alone. Two
streams are in step when whatever call is made on both, they answer alike; then so do their runs.
-/
namespace Outbound

/-- One call on a stream. -/
inductive Call where
  /-- Write from a buffer. -/
  | write (buffer : Bytes)
  /-- Read at most so many bytes. -/
  | read (room : Nat)
  /-- Flush. -/
  | flush
  /-- Shut down. -/
  | shutdown
  deriving DecidableEq

/-- What a call gives when it is complete. -/
def Call.Result : Call → Type
  | write _ => Nat
  | read _ => Bytes
  | flush => Unit
  | shutdown => Unit

/-- A call and what it answered. -/
structure Exchange where
  /-- The call. -/
  call : Call
  /-- Its answer. -/
  answer : Answer call.Result

namespace Stream

variable {σ : Type}

/-- Make one call. -/
def answer (stream : Stream σ) (turn : Turn) : (call : Call) → σ → Answer call.Result × σ
  | .write buffer => stream.write turn buffer
  | .read room => stream.read turn room
  | .flush => stream.flush turn
  | .shutdown => stream.shutdown turn

/-- Make calls one after another: each with its answer, and the state after it. -/
def trace (stream : Stream σ) : List (Turn × Call) → σ → List (Exchange × σ)
  | [], _ => []
  | (turn, call) :: calls, state =>
    let (answer, state) := stream.answer turn call state
    (⟨call, answer⟩, state) :: trace stream calls state

/-- The stream together with the octets that it has taken. -/
def recorded (stream : Stream σ) : Stream (σ × Bytes) where
  write turn buffer state :=
    match stream.write turn buffer state.1 with
    | (.done count, next) => (.done count, next, state.2 ++ buffer.take count)
    | (answer, next) => (answer, next, state.2)
  read turn room state :=
    let (answer, next) := stream.read turn room state.1
    (answer, next, state.2)
  flush turn state :=
    let (answer, next) := stream.flush turn state.1
    (answer, next, state.2)
  shutdown turn state :=
    let (answer, next) := stream.shutdown turn state.1
    (answer, next, state.2)

/-- A stream that is connected already is written to as it is. -/
theorem connected_write (stream : Stream σ) : stream.connected.write = stream.write := rfl

/-- A write on a recorded stream answers what the stream answers, and takes what the answer
counts. -/
theorem recorded_write (stream : Stream σ) (turn : Turn) (buffer : Bytes) (state : σ)
    (wire : Bytes) :
    (∃ count next, stream.recorded.write turn buffer (state, wire) =
        (.done count, next, wire ++ buffer.take count)) ∨
      (∃ next, stream.recorded.write turn buffer (state, wire) = (.pending, next, wire)) ∨
      ∃ error next, stream.recorded.write turn buffer (state, wire) =
        (.failed error, next, wire) := by
  simp only [recorded]
  match stream.write turn buffer state with
  | (.done count, next) => exact .inl ⟨count, next, rfl⟩
  | (.pending, next) => exact .inr (.inl ⟨next, rfl⟩)
  | (.failed error, next) => exact .inr (.inr ⟨error, next, rfl⟩)

/-- A shutdown of a recorded stream answers what the stream answers, and takes nothing. -/
theorem recorded_shutdown (stream : Stream σ) (turn : Turn) (state : σ) (wire : Bytes) :
    stream.recorded.connected.shutdown turn (state, wire) =
      ((stream.shutdown turn state).1, (stream.shutdown turn state).2, wire) := rfl

/-! ## A run and what follows it -/

/-- The state that calls leave when they are made one after another. -/
def finish (stream : Stream σ) : List (Turn × Call) → σ → σ
  | [], state => state
  | (turn, call) :: calls, state => finish stream calls (stream.answer turn call state).2

/-- A run has an entry for each call. -/
@[simp] theorem length_trace (stream : Stream σ) (calls : List (Turn × Call)) (state : σ) :
    (stream.trace calls state).length = calls.length := by
  induction calls generalizing state with
  | nil => rfl
  | cons first calls ih => exact congrArg (· + 1) (ih (stream.answer first.1 first.2 state).2)

/-- A run goes on from the state that its first calls leave. -/
theorem trace_append (stream : Stream σ) (early late : List (Turn × Call)) (state : σ) :
    stream.trace (early ++ late) state =
      stream.trace early state ++ stream.trace late (stream.finish early state) := by
  induction early generalizing state with
  | nil => rfl
  | cons first early ih =>
    obtain ⟨turn, call⟩ := first
    exact congrArg _ (ih (stream.answer turn call state).2)

end Stream

/-! ## Streams that are in step -/

variable {σ τ α : Type}

/-- Two outcomes of a call that match: the same answer, over states that are related. -/
structure Matching (related : σ → τ → Prop) (left : Answer α × σ) (right : Answer α × τ) :
    Prop where
  /-- The answers are the same. -/
  answer : left.1 = right.1
  /-- The states are related. -/
  states : related left.2 right.2

/-- Outcomes that match are one answer over two states. -/
theorem Matching.same_answer {related : σ → τ → Prop} {left : Answer α × σ} {right : Answer α × τ}
    (matching : Matching related left right) :
    ∃ answer state other, left = (answer, state) ∧ right = (answer, other) ∧
      related state other := by
  obtain ⟨answer, states⟩ := matching
  exact ⟨left.1, left.2, right.2, rfl, Prod.ext answer.symm rfl, states⟩

/-- Two streams are in step when every call on related states has outcomes that match. -/
def Stream.InStep (left : Stream σ) (right : Stream τ) (related : σ → τ → Prop) : Prop :=
  ∀ (turn : Turn) (call : Call) {state : σ} {other : τ}, related state other →
    Matching related (left.answer turn call state) (right.answer turn call other)

/-- Streams that answer alike over states that are the same have the same runs, and what is
related at the start is so all along them. -/
theorem Stream.InStep.trace_eq {left right : Stream σ} {related : σ → σ → Prop}
    (inStep : left.InStep right related)
    (same : ∀ {state other}, related state other → state = other)
    (calls : List (Turn × Call)) {state : σ} (start : related state state) :
    left.trace calls state = right.trace calls state ∧
      ∀ entry ∈ right.trace calls state, related entry.2 entry.2 := by
  induction calls generalizing state with
  | nil => exact ⟨rfl, fun _ mem => nomatch mem⟩
  | cons first calls ih =>
    obtain ⟨turn, call⟩ := first
    obtain ⟨answer, next, other, answered, answeredOther, states⟩ :=
      (inStep turn call start).same_answer
    obtain rfl : next = other := same states
    obtain ⟨rest, later⟩ := ih states
    rw [Stream.trace, Stream.trace, answered, answeredOther]
    exact ⟨congrArg _ rest, List.forall_mem_cons.mpr ⟨states, later⟩⟩

end Outbound
