import Outbound.Stream
import Outbound.Tls.Emission

/-!
# Fragmenting a stream

A fragmenter stands before a transport and cuts every ClientHello record written to it, until a
buffer is written that is no such record; from then on it stands aside. The transport may still
be connecting: whichever call comes first drives the connecting on. A write that fails, or a
connecting that fails, ends the connection for good, and its error answers every later call.
-/
namespace Outbound.Tls

/-- How far the connection is. -/
inductive Link where
  /-- The transport is still connecting. -/
  | connecting
  /-- The transport is connected. -/
  | opened
  /-- The connection has failed, and the transport is released. -/
  | failed (error : IoError)
  /-- The connection is shut down, and the transport is released. -/
  | closed
  deriving DecidableEq

/-- What happens to the next write. -/
inductive Phase where
  /-- It is looked at. -/
  | inspecting
  /-- An emission has to be finished first. -/
  | emitting (emission : Emission)
  /-- It goes straight to the transport. -/
  | passthrough
  deriving DecidableEq

/-- A stream decorator that cuts ClientHello records. -/
structure Fragmenter where
  /-- How records are cut. -/
  policy : Policy
  /-- How far the connection is. -/
  link : Link
  /-- What happens to the next write. -/
  phase : Phase := .inspecting
  /-- The randomness left. -/
  entropy : Entropy

namespace Fragmenter

variable {σ α : Type}

/-- The fragmenter of a connected stream. -/
def opened (policy : Policy) (entropy : Entropy) : Fragmenter :=
  { policy, link := .opened, entropy }

/-- The fragmenter of a transport that is still connecting. -/
def connecting (policy : Policy) (entropy : Entropy) : Fragmenter :=
  { policy, link := .connecting, entropy }

/-- The error of a call after the shutdown. -/
def closedError : IoError := ⟨.notConnected, "use of closed connection"⟩

/-- The error of an emission whose octets are not taken. -/
def stalledError : IoError := ⟨.writeZero, "failed to write TLS record"⟩

/-- The error that ended the connection. -/
def lastError (fragmenter : Fragmenter) : Option IoError :=
  match fragmenter.link with
  | .failed error => some error
  | _ => none

/-- The time at which a pause of the emission ends. -/
def alarm (fragmenter : Fragmenter) : Option Nat :=
  match fragmenter.phase with
  | .emitting emission => emission.pause
  | _ => none

/-- End the connection with an error. -/
def fail (fragmenter : Fragmenter) (error : IoError) : Fragmenter :=
  { fragmenter with link := .failed error, phase := .passthrough }

/-- Drive the connecting on, if it is not over. -/
def ensureOpen (transport : Transport σ) (turn : Turn) (fragmenter : Fragmenter) (state : σ) :
    Answer Unit × Fragmenter × σ :=
  match fragmenter.link with
  | .connecting =>
    match transport.connect turn state with
    | (.pending, state) => (.pending, fragmenter, state)
    | (.done (), state) => (.done (), { fragmenter with link := .opened }, state)
    | (.failed error, state) => (.failed error, { fragmenter with link := .failed error }, state)
  | .opened => (.done (), fragmenter, state)
  | .failed error => (.failed error, fragmenter, state)
  | .closed => (.failed closedError, fragmenter, state)

/-- Make a call on the transport once it is connected. -/
def whenOpen (transport : Transport σ) (turn : Turn) (fragmenter : Fragmenter) (state : σ)
    (call : Fragmenter → σ → Answer α × Fragmenter × σ) : Answer α × Fragmenter × σ :=
  match ensureOpen transport turn fragmenter state with
  | (.pending, fragmenter, state) => (.pending, fragmenter, state)
  | (.failed error, fragmenter, state) => (.failed error, fragmenter, state)
  | (.done (), fragmenter, state) => call fragmenter state

/-- Send on an emission as far as the transport takes it. The answer counts the octets of the
buffer it was made from. -/
def emit (transport : Transport σ) (turn : Turn) (fragmenter : Fragmenter)
    (emission : Emission) (state : σ) : Answer Nat × Fragmenter × σ :=
  if emission.isPaused turn.now then
    (.pending, { fragmenter with phase := .emitting emission }, state)
  else if h : emission.index < emission.records.size then
    let emission' := emission.resume
    let record := emission.records[emission.index].drop emission.offset
    match ensureOpen transport turn { fragmenter with phase := .emitting emission' } state with
    | (.pending, fragmenter, state) => (.pending, fragmenter, state)
    | (.failed error, fragmenter, state) => (.failed error, fragmenter, state)
    | (.done (), fragmenter, state) =>
      match transport.write turn record state with
      | (.pending, state) => (.pending, fragmenter, state)
      | (.failed error, state) => (.failed error, fragmenter.fail error, state)
      | (.done 0, state) => (.failed stalledError, fragmenter.fail stalledError, state)
      | (.done (count + 1), state) =>
        emit transport turn
          { fragmenter with
            entropy := (emission'.advance fragmenter.policy turn.now (count + 1)
              fragmenter.entropy).2 }
          (emission'.advance fragmenter.policy turn.now (count + 1) fragmenter.entropy).1 state
  else (.done emission.origin.length, { fragmenter with phase := .inspecting }, state)
termination_by emission.left
decreasing_by exact Emission.left_advance emission.resume _ _ _ _ h

/-- Write straight to the transport. -/
def writeThrough (transport : Transport σ) (turn : Turn) (buffer : Bytes)
    (fragmenter : Fragmenter) (state : σ) : Answer Nat × Fragmenter × σ :=
  whenOpen transport turn fragmenter state fun fragmenter state =>
    match transport.write turn buffer state with
    | (.failed error, state) => (.failed error, fragmenter.fail error, state)
    | (answer, state) => (answer, fragmenter, state)

/-- Write a buffer while no emission is on its way. -/
def writeFresh (transport : Transport σ) (turn : Turn) (buffer : Bytes)
    (fragmenter : Fragmenter) (state : σ) : Answer Nat × Fragmenter × σ :=
  whenOpen transport turn fragmenter state fun fragmenter state =>
    if buffer = [] then (.done 0, fragmenter, state)
    else
      match inspect buffer with
      | .clientHello header body rest =>
        let (emission, entropy) :=
          Emission.start fragmenter.policy header body rest buffer fragmenter.entropy
        emit transport turn { fragmenter with entropy } emission state
      | _ =>
        writeThrough transport turn buffer { fragmenter with phase := .passthrough } state

/-- Write a buffer. An emission on its way is finished first; it is the answer itself if it was
made from the same buffer. -/
def write (transport : Transport σ) (turn : Turn) (buffer : Bytes) (fragmenter : Fragmenter)
    (state : σ) : Answer Nat × Fragmenter × σ :=
  match fragmenter.phase with
  | .inspecting => writeFresh transport turn buffer fragmenter state
  | .passthrough => writeThrough transport turn buffer fragmenter state
  | .emitting emission =>
    match emit transport turn fragmenter emission state with
    | (.done count, fragmenter, state) =>
      if emission.origin = buffer then (.done count, fragmenter, state)
      else writeFresh transport turn buffer fragmenter state
    | (answer, fragmenter, state) => (answer, fragmenter, state)

/-- Read at most so many bytes. -/
def read (transport : Transport σ) (turn : Turn) (room : Nat) (fragmenter : Fragmenter)
    (state : σ) : Answer Bytes × Fragmenter × σ :=
  whenOpen transport turn fragmenter state fun fragmenter state =>
    let (answer, state) := transport.read turn room state
    (answer, fragmenter, state)

/-- Flush the transport. -/
def flush (transport : Transport σ) (turn : Turn) (fragmenter : Fragmenter) (state : σ) :
    Answer Unit × Fragmenter × σ :=
  whenOpen transport turn fragmenter state fun fragmenter state =>
    let (answer, state) := transport.flush turn state
    (answer, fragmenter, state)

/-- Shut the transport down; once it has answered, the connection is closed whatever the answer
was. A connecting that is not over is given up. -/
def shutdown (transport : Transport σ) (turn : Turn) (fragmenter : Fragmenter) (state : σ) :
    Answer Unit × Fragmenter × σ :=
  match fragmenter.link with
  | .opened =>
    match transport.shutdown turn state with
    | (.pending, state) => (.pending, fragmenter, state)
    | (answer, state) => (answer, { fragmenter with link := .closed }, state)
  | .connecting => (.done (), { fragmenter with link := .closed }, state)
  | .failed _ | .closed => (.done (), fragmenter, state)

/-- The fragmented stream over a transport. -/
def stream (transport : Transport σ) : Stream (Fragmenter × σ) where
  write turn buffer state := write transport turn buffer state.1 state.2
  read turn room state := read transport turn room state.1 state.2
  flush turn state := flush transport turn state.1 state.2
  shutdown turn state := shutdown transport turn state.1 state.2

end Fragmenter

end Outbound.Tls
