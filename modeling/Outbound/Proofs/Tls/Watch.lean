import Outbound.Proofs.Stream.Run
import Outbound.Tls.Fragmenter

/-!
# A fragmented stream under watch

A watched transport keeps the calls that reach it, each with its answer. Octets of an emission and
buffers that are let through are told apart by the place at which the fragmenter offers them, not
by what they are. Watching changes nothing: without its contacts, a watched run is the run.
-/
namespace Outbound

/-- A call that has reached a transport, with its answer. -/
inductive Contact where
  /-- The connecting was driven on. -/
  | connect (answer : Answer Unit)
  /-- Octets of an emission were offered. -/
  | send (octets : Bytes) (answer : Answer Nat)
  /-- A buffer that is let through was offered. -/
  | pass (buffer : Bytes) (answer : Answer Nat)
  /-- At most so many bytes were asked for. -/
  | read (room : Nat) (answer : Answer Bytes)
  /-- A flush was asked for. -/
  | flush (answer : Answer Unit)
  /-- A shutdown was asked for. -/
  | shutdown (answer : Answer Unit)
  deriving DecidableEq

/-- A transport that keeps what reaches it; `offer` says what an offered buffer counts as. -/
def Transport.watched {σ : Type} (transport : Transport σ)
    (offer : Bytes → Answer Nat → Contact) : Transport (σ × List Contact) where
  write turn buffer state :=
    let (answer, next) := transport.write turn buffer state.1
    (answer, next, state.2 ++ [offer buffer answer])
  read turn room state :=
    let (answer, next) := transport.read turn room state.1
    (answer, next, state.2 ++ [.read room answer])
  flush turn state :=
    let (answer, next) := transport.flush turn state.1
    (answer, next, state.2 ++ [.flush answer])
  shutdown turn state :=
    let (answer, next) := transport.shutdown turn state.1
    (answer, next, state.2 ++ [.shutdown answer])
  connect turn state :=
    let (answer, next) := transport.connect turn state.1
    (answer, next, state.2 ++ [.connect answer])

namespace Transport

variable {σ : Type} (transport : Transport σ) (offer : Bytes → Answer Nat → Contact) (turn : Turn)
  (state : σ) (log : List Contact)

/-- Connecting is kept. -/
theorem watched_connect : (transport.watched offer).connect turn (state, log) =
    ((transport.connect turn state).1, (transport.connect turn state).2,
      log ++ [.connect (transport.connect turn state).1]) := rfl

/-- A write is kept as what the buffer counts as. -/
theorem watched_write (buffer : Bytes) : (transport.watched offer).write turn buffer (state, log) =
    ((transport.write turn buffer state).1, (transport.write turn buffer state).2,
      log ++ [offer buffer (transport.write turn buffer state).1]) := rfl

/-- A shutdown is kept. -/
theorem watched_shutdown : (transport.watched offer).shutdown turn (state, log) =
    ((transport.shutdown turn state).1, (transport.shutdown turn state).2,
      log ++ [.shutdown (transport.shutdown turn state).1]) := rfl

end Transport

namespace Tls.Fragmenter

variable {σ α : Type}

/-! ## Two ways to the transport -/

/-- Write a buffer while no emission is on its way. Emissions go one way and buffers that are let
through another. -/
def writeFreshBy (sending passing : Transport σ) (turn : Turn) (buffer : Bytes)
    (fragmenter : Fragmenter) (state : σ) : Answer Nat × Fragmenter × σ :=
  whenOpen passing turn fragmenter state fun fragmenter state =>
    if buffer = [] then (.done 0, fragmenter, state)
    else
      match inspect buffer with
      | .clientHello header body rest =>
        let (emission, entropy) :=
          Emission.start fragmenter.policy header body rest buffer fragmenter.entropy
        emit sending turn { fragmenter with entropy } emission state
      | _ =>
        writeThrough passing turn buffer { fragmenter with phase := .passthrough } state

/-- Write a buffer. Emissions go one way and buffers that are let through another. -/
def writeBy (sending passing : Transport σ) (turn : Turn) (buffer : Bytes)
    (fragmenter : Fragmenter) (state : σ) : Answer Nat × Fragmenter × σ :=
  match fragmenter.phase with
  | .inspecting => writeFreshBy sending passing turn buffer fragmenter state
  | .passthrough => writeThrough passing turn buffer fragmenter state
  | .emitting emission =>
    match emit sending turn fragmenter emission state with
    | (.done count, fragmenter, state) =>
      if emission.origin = buffer then (.done count, fragmenter, state)
      else writeFreshBy sending passing turn buffer fragmenter state
    | (answer, fragmenter, state) => (answer, fragmenter, state)

/-- A fragmenter writes so, with one transport at the end of both ways. -/
theorem writeBy_self (transport : Transport σ) : writeBy transport transport = write transport :=
  rfl

/-- The fragmented stream over a transport together with what reaches the transport. -/
def watched (transport : Transport σ) : Stream (Fragmenter × σ × List Contact) where
  write turn buffer state :=
    writeBy (transport.watched .send) (transport.watched .pass) turn buffer state.1 state.2
  read turn room state := read (transport.watched .pass) turn room state.1 state.2
  flush turn state := flush (transport.watched .pass) turn state.1 state.2
  shutdown turn state := shutdown (transport.watched .pass) turn state.1 state.2

/-! ## Waiting for the connecting -/

/-- A call under watch that waits for the connecting is not made, and changes nothing but the link,
or it is made once the link is open. All that happens before is that the connecting is driven
on. -/
theorem whenOpen_watched (transport : Transport σ) (turn : Turn)
    (offer : Bytes → Answer Nat → Contact)
    (call : Fragmenter → σ × List Contact → Answer α × Fragmenter × σ × List Contact)
    (fragmenter : Fragmenter) (state : σ) (log : List Contact) :
    ∃ front, (∀ contact ∈ front, ∃ answer, contact = .connect answer) ∧
      ((∃ answer link next,
          whenOpen (transport.watched offer) turn fragmenter (state, log) call =
            (answer, { fragmenter with link }, next, log ++ front)) ∨
        ∃ next, whenOpen (transport.watched offer) turn fragmenter (state, log) call =
          call { fragmenter with link := .opened } (next, log ++ front)) := by
  have none : ∀ contact ∈ ([] : List Contact), ∃ answer, contact = .connect answer :=
    fun contact mem => by cases mem
  have one : ∀ answer, ∀ contact ∈ [Contact.connect answer], ∃ given, contact = .connect given :=
    fun answer => List.forall_mem_singleton.mpr ⟨answer, rfl⟩
  have unmoved : (state, log) = (state, log ++ []) := by rw [List.append_nil]
  rw [whenOpen, ensureOpen]
  cases link : fragmenter.link with
  | connecting =>
    dsimp only
    rw [Transport.watched_connect]
    rcases transport.connect turn state with ⟨answer, next⟩
    cases answer with
    | pending => exact ⟨_, one .pending, .inl ⟨.pending, fragmenter.link, next, rfl⟩⟩
    | done result => exact ⟨_, one (.done result), .inr ⟨next, rfl⟩⟩
    | failed error =>
      exact ⟨_, one (.failed error), .inl ⟨.failed error, .failed error, next, rfl⟩⟩
  | opened =>
    have same : { fragmenter with link := .opened } = fragmenter := by rw [← link]
    refine ⟨[], none, .inr ⟨state, ?_⟩⟩
    rw [same, ← unmoved]
  | failed error =>
    refine ⟨[], none, .inl ⟨.failed error, fragmenter.link, state, ?_⟩⟩
    rw [← unmoved]
  | closed =>
    refine ⟨[], none, .inl ⟨.failed closedError, fragmenter.link, state, ?_⟩⟩
    rw [← unmoved]

/-! ## Without the contacts -/

/-- An outcome without the contacts made. -/
def forget (outcome : Answer α × Fragmenter × σ × List Contact) : Answer α × Fragmenter × σ :=
  (outcome.1, outcome.2.1, outcome.2.2.1)

variable {transport : Transport σ} {turn : Turn} {offer : Bytes → Answer Nat → Contact}

/-- Connecting under watch. -/
theorem forget_ensureOpen (fragmenter : Fragmenter) (state : σ) (log : List Contact) :
    forget (ensureOpen (transport.watched offer) turn fragmenter (state, log)) =
      ensureOpen transport turn fragmenter state := by
  rw [ensureOpen, ensureOpen]
  cases fragmenter.link with
  | connecting =>
    dsimp only
    rw [Transport.watched_connect]
    rcases transport.connect turn state with ⟨answer, next⟩
    cases answer with
    | pending => rfl
    | done result => rfl
    | failed error => rfl
  | opened => rfl
  | failed error => rfl
  | closed => rfl

/-- A call under watch that waits for the connecting. -/
theorem forget_whenOpen
    {call : Fragmenter → σ × List Contact → Answer α × Fragmenter × σ × List Contact}
    {plain : Fragmenter → σ → Answer α × Fragmenter × σ}
    (same : ∀ fragmenter state log, forget (call fragmenter (state, log)) = plain fragmenter state)
    (fragmenter : Fragmenter) (state : σ) (log : List Contact) :
    forget (whenOpen (transport.watched offer) turn fragmenter (state, log) call) =
      whenOpen transport turn fragmenter state plain := by
  have opening := @forget_ensureOpen _ transport turn offer fragmenter state log
  rw [whenOpen, whenOpen, ← opening]
  rcases ensureOpen (transport.watched offer) turn fragmenter (state, log) with
    ⟨answer, later, next, seen⟩
  cases answer with
  | pending => rfl
  | done result => exact same later next seen
  | failed error => rfl

/-- An emission under watch. -/
theorem forget_emit (fragmenter : Fragmenter) (emission : Emission) (state : σ)
    (log : List Contact) :
    forget (emit (transport.watched offer) turn fragmenter emission (state, log)) =
      emit transport turn fragmenter emission state := by
  rw [emit, emit]
  split
  · rfl
  · split
    · dsimp only
      have opening := @forget_ensureOpen _ transport turn offer
        { fragmenter with phase := .emitting emission.resume } state log
      rw [← opening]
      rcases ensureOpen (transport.watched offer) turn
        { fragmenter with phase := .emitting emission.resume } (state, log) with
        ⟨answer, later, next, seen⟩
      cases answer with
      | pending => rfl
      | failed error => rfl
      | done result =>
        dsimp only [forget]
        rw [Transport.watched_write]
        rcases transport.write turn (emission.records[emission.index].drop emission.offset) next
          with ⟨answer, last⟩
        cases answer with
        | pending => rfl
        | failed error => rfl
        | done count =>
          cases count with
          | zero => rfl
          -- Watched or not, as much is taken, so the emission that is left is the same.
          | succ count => exact forget_emit _ _ last _
    · rfl
termination_by emission.left
decreasing_by exact Emission.left_advance emission.resume _ _ _ _ (by assumption)

/-- Letting a buffer through under watch. -/
theorem forget_writeThrough (buffer : Bytes) (fragmenter : Fragmenter) (state : σ)
    (log : List Contact) :
    forget (writeThrough (transport.watched offer) turn buffer fragmenter (state, log)) =
      writeThrough transport turn buffer fragmenter state := by
  apply forget_whenOpen
  intro fragmenter state log
  rw [Transport.watched_write]
  rcases transport.write turn buffer state with ⟨answer, next⟩
  cases answer with
  | pending => rfl
  | done count => rfl
  | failed error => rfl

/-- A write under watch while no emission is on its way. -/
theorem forget_writeFreshBy (buffer : Bytes) (fragmenter : Fragmenter) (state : σ)
    (log : List Contact) :
    forget (writeFreshBy (transport.watched .send) (transport.watched .pass) turn buffer fragmenter
        (state, log)) =
      writeFresh transport turn buffer fragmenter state := by
  apply forget_whenOpen
  intro fragmenter state log
  by_cases empty : buffer = []
  · rw [if_pos empty, if_pos empty]
    rfl
  · rw [if_neg empty, if_neg empty]
    cases inspect buffer with
    | clientHello header body rest => exact forget_emit _ _ state log
    | notClientHello => exact forget_writeThrough buffer _ state log
    | incomplete => exact forget_writeThrough buffer _ state log

/-- A write under watch. -/
theorem forget_writeBy (buffer : Bytes) (fragmenter : Fragmenter) (state : σ)
    (log : List Contact) :
    forget (writeBy (transport.watched .send) (transport.watched .pass) turn buffer fragmenter
        (state, log)) =
      write transport turn buffer fragmenter state := by
  rw [writeBy, write]
  cases fragmenter.phase with
  | inspecting => exact forget_writeFreshBy buffer fragmenter state log
  | passthrough => exact forget_writeThrough buffer fragmenter state log
  | emitting emission =>
    dsimp only
    have emitted := @forget_emit _ transport turn .send fragmenter emission state log
    rw [← emitted]
    rcases emit (transport.watched .send) turn fragmenter emission (state, log) with
      ⟨answer, later, next, seen⟩
    cases answer with
    | pending => rfl
    | failed error => rfl
    | done count =>
      dsimp only [forget]
      by_cases same : emission.origin = buffer
      · rw [if_pos same, if_pos same]
      · rw [if_neg same, if_neg same]
        exact forget_writeFreshBy buffer later next seen

/-- A shutdown under watch. -/
theorem forget_shutdown (fragmenter : Fragmenter) (state : σ) (log : List Contact) :
    forget (shutdown (transport.watched offer) turn fragmenter (state, log)) =
      shutdown transport turn fragmenter state := by
  rw [shutdown, shutdown]
  cases fragmenter.link with
  | opened =>
    dsimp only
    rw [Transport.watched_shutdown]
    rcases transport.shutdown turn state with ⟨answer, next⟩
    cases answer with
    | pending => rfl
    | done result => rfl
    | failed error => rfl
  | connecting => rfl
  | failed error => rfl
  | closed => rfl

/-- Any call under watch. -/
theorem forget_answer (call : Call) (fragmenter : Fragmenter) (state : σ) (log : List Contact) :
    forget ((watched transport).answer turn call (fragmenter, state, log)) =
      (stream transport).answer turn call (fragmenter, state) := by
  cases call with
  | write buffer => exact forget_writeBy buffer fragmenter state log
  | read room => exact forget_whenOpen (fun _ _ _ => rfl) fragmenter state log
  | flush => exact forget_whenOpen (fun _ _ _ => rfl) fragmenter state log
  | shutdown => exact forget_shutdown fragmenter state log

/-- Without its contacts a watched run is the run of the fragmented stream. -/
theorem forget_trace (calls : List (Turn × Call)) (fragmenter : Fragmenter) (state : σ)
    (log : List Contact) :
    ((watched transport).trace calls (fragmenter, state, log)).map
        (fun (exchange, after) => (exchange, after.1, after.2.1)) =
      (stream transport).trace calls (fragmenter, state) := by
  induction calls generalizing fragmenter state log with
  | nil => rfl
  | cons first calls ih =>
    obtain ⟨turn, call⟩ := first
    have same := @forget_answer _ transport turn call fragmenter state log
    rw [Stream.trace, Stream.trace, ← same]
    rcases (watched transport).answer turn call (fragmenter, state, log) with
      ⟨answer, later, next, seen⟩
    exact congrArg _ (ih later next seen)

end Tls.Fragmenter

end Outbound
