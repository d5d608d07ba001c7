import Outbound.Proofs.Tls.InStep
import Outbound.Proofs.Tls.Watch

/-!
# A fragmenter between two calls

Whatever calls are made on a fragmenter and however the transport answers, between two calls it is
`Regular`: an emission on its way is sound, and none is on its way before the transport is
connected.
-/
namespace Outbound.Tls.Fragmenter

variable {σ α : Type}

/-- What holds of a fragmenter between two calls. -/
structure Regular (fragmenter : Fragmenter) : Prop where
  /-- Nothing is on its way before the transport is connected. -/
  early : fragmenter.link = .connecting → fragmenter.phase = .inspecting
  /-- An emission on its way is sound. -/
  sound : ∀ emission, fragmenter.phase = .emitting emission → emission.Sound

/-- Without an emission on its way only the connecting matters. -/
theorem regular_of_idle {fragmenter : Fragmenter} (past : fragmenter.link ≠ .connecting)
    (idle : ∀ emission, fragmenter.phase ≠ .emitting emission) : Regular fragmenter where
  early connecting := absurd connecting past
  sound emission sending := absurd sending (idle emission)

/-- A sound emission is on its way past the connecting. -/
theorem regular_of_sound {fragmenter : Fragmenter} {emission : Emission}
    (past : fragmenter.link ≠ .connecting) (sending : fragmenter.phase = .emitting emission)
    (sound : emission.Sound) : Regular fragmenter where
  early connecting := absurd connecting past
  sound found same := by
    rw [sending] at same
    rw [← Phase.emitting.inj same]
    exact sound

/-- An emission is on its way only past the connecting. -/
theorem Regular.past {fragmenter : Fragmenter} {emission : Emission} (regular : Regular fragmenter)
    (sending : fragmenter.phase = .emitting emission) : fragmenter.link ≠ .connecting := by
  intro connecting
  have inspecting := regular.early connecting
  rw [sending] at inspecting
  cases inspecting

/-- A fragmenter is regular when it is made for a connected stream. -/
theorem regular_opened (policy : Policy) (entropy : Entropy) : Regular (opened policy entropy) where
  early connecting := by cases connecting
  sound _ sending := by cases sending

/-- A fragmenter is regular when it is made for a transport that is still connecting. -/
theorem regular_connecting (policy : Policy) (entropy : Entropy) :
    Regular (connecting policy entropy) where
  early _ := rfl
  sound _ sending := by cases sending

/-- A fragmenter that has failed is regular. -/
theorem regular_fail (fragmenter : Fragmenter) (error : IoError) :
    Regular (fragmenter.fail error) where
  early connecting := by cases connecting
  sound _ sending := by cases sending

variable (transport : Transport σ) (turn : Turn)

/-- A sound emission past the connecting leaves a regular fragmenter, however far it gets. -/
theorem regular_emit {fragmenter : Fragmenter} {emission : Emission} (sound : emission.Sound)
    (opened : fragmenter.link = .opened) (state : σ) :
    Regular (emit transport turn fragmenter emission state).2.1 := by
  have past : fragmenter.link ≠ .connecting := by
    rw [opened]
    exact fun same => by cases same
  have soundResumed := Emission.sound_resume sound
  rw [emit_of_sound opened sound]
  split
  · exact regular_of_sound past rfl sound
  · rcases transport.write turn (emission.current.drop emission.offset) state with ⟨answer, next⟩
    cases answer with
    | pending => exact regular_of_sound past rfl soundResumed
    | failed error => exact regular_fail fragmenter error
    | done count =>
      cases count with
      | zero => exact regular_fail fragmenter stalledError
      | succ count =>
        obtain ⟨sameRecords, -, ⟨later, -⟩ | ⟨out, unpaused, -⟩⟩ :=
          Emission.advance_sound soundResumed rfl fragmenter.policy turn.now count
            fragmenter.entropy
        -- The transport took an octet, so less is left to send: the recursion is on that.
        · exact regular_emit later (by exact opened) next
        · dsimp only
          rw [emit_of_out (out.trans (by rw [sameRecords])) unpaused]
          exact regular_of_idle past fun _ sending => by cases sending
termination_by emission.left
decreasing_by exact Emission.left_advance emission.resume _ _ _ _ sound.index_lt

variable {transport turn} {fragmenter : Fragmenter}

/-- A call that waits for the connecting leaves a regular fragmenter if it does so on an open
link. -/
theorem regular_whenOpen {call : Fragmenter → σ → Answer α × Fragmenter × σ}
    (made : ∀ later state, later.link = .opened → Regular later → Regular (call later state).2.1)
    (regular : Regular fragmenter) (state : σ) :
    Regular (whenOpen transport turn fragmenter state call).2.1 := by
  cases link : fragmenter.link with
  | connecting =>
    have idle : ∀ emission, fragmenter.phase ≠ .emitting emission := by
      intro emission sending
      rw [regular.early link] at sending
      cases sending
    rw [whenOpen, ensureOpen, link]
    dsimp only
    rcases transport.connect turn state with ⟨answer, next⟩
    cases answer with
    | pending => exact regular
    | done result =>
      apply made
      · rfl
      · exact regular_of_idle (fun same => by cases same) idle
    | failed error => exact regular_of_idle (fun same => by cases same) idle
  | opened =>
    rw [whenOpen_of_opened link]
    exact made fragmenter state link regular
  | failed error =>
    have refusal : fragmenter.link.refusal = some error := by rw [link, Link.refusal]
    rw [whenOpen_of_refusal refusal]
    exact regular
  | closed =>
    have refusal : fragmenter.link.refusal = some closedError := by rw [link, Link.refusal]
    rw [whenOpen_of_refusal refusal]
    exact regular

/-- A buffer that is let through leaves a regular fragmenter. -/
theorem regular_writeThrough (buffer : Bytes) (regular : Regular fragmenter) (state : σ) :
    Regular (writeThrough transport turn buffer fragmenter state).2.1 := by
  apply regular_whenOpen _ regular
  intro later state opened regularLater
  rcases transport.write turn buffer state with ⟨answer, next⟩
  cases answer with
  | pending => exact regularLater
  | done count => exact regularLater
  | failed error => exact regular_fail later error

/-- A write while no emission is on its way leaves a regular fragmenter. -/
theorem regular_writeFresh (buffer : Bytes) (regular : Regular fragmenter) (state : σ) :
    Regular (writeFresh transport turn buffer fragmenter state).2.1 := by
  apply regular_whenOpen _ regular
  intro later state opened regularLater
  by_cases empty : buffer = []
  · rw [if_pos empty]
    exact regularLater
  · rw [if_neg empty]
    have past : later.link ≠ .connecting := by
      rw [opened]
      exact fun same => by cases same
    have turned : Regular { later with phase := .passthrough } :=
      regular_of_idle past fun _ sending => by cases sending
    cases inspected : inspect buffer with
    | clientHello header body rest =>
      have sound := Emission.sound_start inspected later.policy later.entropy
      exact regular_emit transport turn sound (by exact opened) state
    | notClientHello => exact regular_writeThrough buffer turned state
    | incomplete => exact regular_writeThrough buffer turned state

/-- A write on a link that is over reaches nothing and changes the link in nothing. It waits for
the pause of an emission that is on its way, if one is being kept, and is refused otherwise. -/
theorem writeBy_of_refusal (sending passing : Transport σ) {error : IoError} (buffer : Bytes)
    (refusal : fragmenter.link.refusal = some error) (regular : Regular fragmenter) (state : σ) :
    ∃ answer next, writeBy sending passing turn buffer fragmenter state = (answer, next, state) ∧
      next.link = fragmenter.link ∧ Regular next ∧
      (answer = .failed error ∨
        answer = .pending ∧ ∃ stop, next.alarm = some stop ∧ turn.now < stop) := by
  have past : fragmenter.link ≠ .connecting := fun same => by
    rw [same] at refusal
    cases refusal
  rw [writeBy]
  cases phase : fragmenter.phase with
  | inspecting => exact ⟨_, _, whenOpen_of_refusal refusal _ _, rfl, regular, .inl rfl⟩
  | passthrough => exact ⟨_, _, whenOpen_of_refusal refusal _ _, rfl, regular, .inl rfl⟩
  | emitting emission =>
    have sound := regular.sound emission phase
    dsimp only
    rw [emit_of_refusal refusal sound]
    by_cases paused : emission.isPaused turn.now = true
    · rw [if_pos paused]
      refine ⟨_, _, rfl, rfl, regular_of_sound past rfl sound, .inr ⟨rfl, ?_⟩⟩
      rw [Emission.isPaused] at paused
      cases pause : emission.pause with
      | none =>
        rw [pause] at paused
        cases paused
      | some stop =>
        rw [pause] at paused
        exact ⟨stop, pause, of_decide_eq_true paused⟩
    · rw [if_neg paused]
      have soundResumed := Emission.sound_resume sound
      exact ⟨_, _, rfl, rfl, regular_of_sound past rfl soundResumed, .inl rfl⟩

/-- A write leaves a regular fragmenter. -/
theorem regular_write (buffer : Bytes) (regular : Regular fragmenter) (state : σ) :
    Regular (write transport turn buffer fragmenter state).2.1 := by
  cases phase : fragmenter.phase with
  | inspecting =>
    rw [write, phase]
    exact regular_writeFresh buffer regular state
  | passthrough =>
    rw [write, phase]
    exact regular_writeThrough buffer regular state
  | emitting emission =>
    rcases opened_or_refusal (regular.past phase) with opened | ⟨error, refusal⟩
    · rw [write, phase]
      have kept := regular_emit transport turn (regular.sound emission phase) opened state
      dsimp only
      generalize emit transport turn fragmenter emission state = outcome at kept
      obtain ⟨answer, later, next⟩ := outcome
      cases answer with
      | pending => exact kept
      | failed error => exact kept
      | done count =>
        dsimp only
        by_cases same : emission.origin = buffer
        · rw [if_pos same]
          exact kept
        · rw [if_neg same]
          exact regular_writeFresh buffer kept next
    · obtain ⟨answer, next, written, -, kept, -⟩ :=
        @writeBy_of_refusal _ turn _ transport transport error buffer refusal regular state
      rw [← writeBy_self, written]
      exact kept

/-- A shutdown leaves a regular fragmenter. -/
theorem regular_shutdown (regular : Regular fragmenter) (state : σ) :
    Regular (shutdown transport turn fragmenter state).2.1 := by
  have closed : Regular { fragmenter with link := .closed } :=
    ⟨fun same => (by cases same), regular.sound⟩
  rw [shutdown]
  cases fragmenter.link with
  | opened =>
    dsimp only
    rcases transport.shutdown turn state with ⟨answer, next⟩
    cases answer with
    | pending => exact regular
    | done result => exact closed
    | failed error => exact closed
  | connecting => exact closed
  | failed error => exact regular
  | closed => exact regular

/-- Any call leaves a regular fragmenter. -/
theorem regular_answer (call : Call) (regular : Regular fragmenter) (state : σ) :
    Regular ((stream transport).answer turn call (fragmenter, state)).2.1 := by
  cases call with
  | write buffer => exact regular_write buffer regular state
  | read room => exact regular_whenOpen (fun _ _ _ kept => kept) regular state
  | flush => exact regular_whenOpen (fun _ _ _ kept => kept) regular state
  | shutdown => exact regular_shutdown regular state

/-- Any call under watch leaves a regular fragmenter. -/
theorem regular_watched_answer (call : Call) (regular : Regular fragmenter) (state : σ)
    (log : List Contact) :
    Regular ((watched transport).answer turn call (fragmenter, state, log)).2.1 := by
  have same := @forget_answer _ transport turn call fragmenter state log
  have kept : Regular ((stream transport).answer turn call (fragmenter, state)).2.1 :=
    regular_answer call regular state
  rw [← same] at kept
  exact kept

end Outbound.Tls.Fragmenter
