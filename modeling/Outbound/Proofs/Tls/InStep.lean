import Outbound.Proofs.Tls.Sending

/-!
# Fragmenting streams that are in step

A fragmenter whose link is not connecting knows its transport by the answers of its stream alone:
over streams that are in step, two fragmenters that start alike stay alike, call by call. What the
transport would do if it were driven on to connect plays no part.
-/
namespace Outbound.Tls.Fragmenter

variable {σ τ α : Type} {related : σ → τ → Prop} {left : Transport σ} {right : Transport τ}
  {turn : Turn} {fragmenter : Fragmenter} {state : σ} {other : τ}

/-- Two fragmented streams that stand alike: the same fragmenter, past the connecting, over related
states. -/
structure Alike (related : σ → τ → Prop) (one : Fragmenter × σ) (two : Fragmenter × τ) :
    Prop where
  /-- The fragmenters are the same. -/
  fragmenter : one.1 = two.1
  /-- The transport is not being connected any more. -/
  past : one.1.link ≠ .connecting
  /-- The states are related. -/
  states : related one.2 two.2

/-- A link past the connecting is open or refuses. -/
theorem opened_or_refusal (past : fragmenter.link ≠ .connecting) :
    fragmenter.link = .opened ∨ ∃ error, fragmenter.link.refusal = some error := by
  cases link : fragmenter.link with
  | connecting => exact absurd link past
  | opened => exact .inl rfl
  | failed error => exact .inr ⟨error, rfl⟩
  | closed => exact .inr ⟨closedError, rfl⟩

/-- Calls that wait for the connecting match if they match when they are made at once. -/
theorem matching_whenOpen (past : fragmenter.link ≠ .connecting) (states : related state other)
    {one : Fragmenter → σ → Answer α × Fragmenter × σ}
    {two : Fragmenter → τ → Answer α × Fragmenter × τ}
    (made : Matching (Alike related) (one fragmenter state) (two fragmenter other)) :
    Matching (Alike related) (whenOpen left turn fragmenter state one)
      (whenOpen right turn fragmenter other two) := by
  have unmoved : Alike related (fragmenter, state) (fragmenter, other) := ⟨rfl, past, states⟩
  rcases opened_or_refusal past with opened | ⟨error, refusal⟩
  · rw [whenOpen_of_opened opened, whenOpen_of_opened opened]
    exact made
  · rw [whenOpen_of_refusal refusal, whenOpen_of_refusal refusal]
    exact ⟨rfl, unmoved⟩

variable (inStep : left.toStream.InStep right.toStream related)
include inStep

/-- Emissions over streams that are in step. -/
theorem matching_emit {fragmenter : Fragmenter} (past : fragmenter.link ≠ .connecting)
    (emission : Emission) {state : σ} {other : τ} (states : related state other) :
    Matching (Alike related) (emit left turn fragmenter emission state)
      (emit right turn fragmenter emission other) := by
  rw [emit, emit]
  split
  · exact ⟨rfl, rfl, past, states⟩
  · split
    case isFalse => exact ⟨rfl, rfl, past, states⟩
    case isTrue more =>
      let sending := { fragmenter with phase := .emitting emission.resume }
      have sendingPast : sending.link ≠ .connecting := past
      dsimp only
      rcases opened_or_refusal sendingPast with opened | ⟨error, refusal⟩
      · rw [ensureOpen_of_opened opened, ensureOpen_of_opened opened]
        dsimp only
        obtain ⟨answer, next, nextOther, wrote, wroteOther, nextStates⟩ :=
          (inStep turn (.write (emission.records[emission.index].drop emission.offset))
            states).same_answer
        rw [Stream.answer] at wrote wroteOther
        rw [wrote, wroteOther]
        have failedPast : ∀ error, (sending.fail error).link ≠ .connecting :=
          fun error failed => by cases failed
        cases answer with
        | pending => exact ⟨rfl, rfl, past, nextStates⟩
        | failed error => exact ⟨rfl, rfl, failedPast error, nextStates⟩
        | done count =>
          cases count with
          | zero => exact ⟨rfl, rfl, failedPast stalledError, nextStates⟩
          -- Both streams took as much, so the same emission is left to both: recursion on it.
          | succ count => exact matching_emit (by exact past) _ nextStates
      · rw [ensureOpen_of_refusal refusal, ensureOpen_of_refusal refusal]
        exact ⟨rfl, rfl, past, states⟩
termination_by emission.left
decreasing_by exact Emission.left_advance emission.resume _ _ _ _ (by assumption)

/-- Buffers that are let through to streams that are in step. -/
theorem matching_writeThrough (past : fragmenter.link ≠ .connecting) (buffer : Bytes)
    (states : related state other) :
    Matching (Alike related) (writeThrough left turn buffer fragmenter state)
      (writeThrough right turn buffer fragmenter other) := by
  apply matching_whenOpen past states
  obtain ⟨answer, next, nextOther, wrote, wroteOther, nextStates⟩ :=
    (inStep turn (.write buffer) states).same_answer
  rw [Stream.answer] at wrote wroteOther
  rw [wrote, wroteOther]
  cases answer with
  | pending => exact ⟨rfl, rfl, past, nextStates⟩
  | done count => exact ⟨rfl, rfl, past, nextStates⟩
  | failed error =>
    have failedPast : (fragmenter.fail error).link ≠ .connecting := fun failed => by cases failed
    exact ⟨rfl, rfl, failedPast, nextStates⟩

/-- Writes over streams that are in step while no emission is on its way. -/
theorem matching_writeFresh (past : fragmenter.link ≠ .connecting) (buffer : Bytes)
    (states : related state other) :
    Matching (Alike related) (writeFresh left turn buffer fragmenter state)
      (writeFresh right turn buffer fragmenter other) := by
  apply matching_whenOpen past states
  by_cases empty : buffer = []
  · rw [if_pos empty, if_pos empty]
    exact ⟨rfl, rfl, past, states⟩
  · rw [if_neg empty, if_neg empty]
    have turned : { fragmenter with phase := .passthrough }.link ≠ .connecting := past
    cases inspect buffer with
    | clientHello header body rest => exact matching_emit inStep (by exact past) _ states
    | notClientHello => exact matching_writeThrough inStep turned buffer states
    | incomplete => exact matching_writeThrough inStep turned buffer states

/-- Writes over streams that are in step. -/
theorem matching_write (past : fragmenter.link ≠ .connecting) (buffer : Bytes)
    (states : related state other) :
    Matching (Alike related) (write left turn buffer fragmenter state)
      (write right turn buffer fragmenter other) := by
  rw [write, write]
  cases fragmenter.phase with
  | inspecting => exact matching_writeFresh inStep past buffer states
  | passthrough => exact matching_writeThrough inStep past buffer states
  | emitting emission =>
    have matching : Matching (Alike related) (emit left turn fragmenter emission state)
        (emit right turn fragmenter emission other) := matching_emit inStep past emission states
    obtain ⟨answer, ⟨later, next⟩, ⟨same, nextOther⟩, emitted, emittedOther, alike⟩ :=
      matching.same_answer
    obtain ⟨rfl : later = same, laterPast, nextStates⟩ := alike
    dsimp only
    rw [emitted, emittedOther]
    cases answer with
    | pending => exact ⟨rfl, rfl, laterPast, nextStates⟩
    | failed error => exact ⟨rfl, rfl, laterPast, nextStates⟩
    | done count =>
      dsimp only
      by_cases retried : emission.origin = buffer
      · rw [if_pos retried, if_pos retried]
        exact ⟨rfl, rfl, laterPast, nextStates⟩
      · rw [if_neg retried, if_neg retried]
        exact matching_writeFresh inStep laterPast buffer nextStates

/-- Shutdowns of streams that are in step. -/
theorem matching_shutdown (past : fragmenter.link ≠ .connecting) (states : related state other) :
    Matching (Alike related) (shutdown left turn fragmenter state)
      (shutdown right turn fragmenter other) := by
  rw [shutdown, shutdown]
  cases link : fragmenter.link with
  | connecting => exact absurd link past
  | opened =>
    obtain ⟨answer, next, nextOther, shut, shutOther, nextStates⟩ :=
      (inStep turn .shutdown states).same_answer
    rw [Stream.answer] at shut shutOther
    dsimp only
    rw [shut, shutOther]
    have closedPast : { fragmenter with link := .closed }.link ≠ .connecting :=
      fun closed => by cases closed
    cases answer with
    | pending => exact ⟨rfl, rfl, past, nextStates⟩
    | done result => exact ⟨rfl, rfl, closedPast, nextStates⟩
    | failed error => exact ⟨rfl, rfl, closedPast, nextStates⟩
  | failed error => exact ⟨rfl, rfl, past, states⟩
  | closed => exact ⟨rfl, rfl, past, states⟩

/-- Fragmented streams over streams that are in step are in step. -/
theorem inStep_stream : (stream left).InStep (stream right) (Alike related) := by
  rintro turn call ⟨fragmenter, state⟩ ⟨same, other⟩ ⟨rfl : fragmenter = same, past, states⟩
  cases call with
  | write buffer => exact matching_write inStep past buffer states
  | read room =>
    have given : Matching related (left.read turn room state) (right.read turn room other) :=
      inStep turn (.read room) states
    exact matching_whenOpen past states ⟨given.answer, rfl, past, given.states⟩
  | flush =>
    have flushed : Matching related (left.flush turn state) (right.flush turn other) :=
      inStep turn .flush states
    exact matching_whenOpen past states ⟨flushed.answer, rfl, past, flushed.states⟩
  | shutdown => exact matching_shutdown inStep past states

end Outbound.Tls.Fragmenter
