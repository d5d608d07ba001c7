import Outbound.Proofs.Stream.Run
import Outbound.Proofs.Tls.Emission
import Outbound.Tls.Fragmenter

/-!
# Sending an emission over a recorded stream

How far one call can send an emission on: until it is all out, until the stream or a pause puts
it off, or until the stream fails. In every case the stream has taken the front part of the
image that the emission says it has sent, after what it had taken before the emission.
-/
namespace Outbound.Tls

/-- The error with which a link that is over answers. -/
def Link.refusal : Link → Option IoError
  | .failed error => some error
  | .closed => some Fragmenter.closedError
  | .connecting | .opened => none

/-- A link that is over has failed or is closed. -/
theorem Link.eq_of_refusal {link : Link} {error : IoError} (refusal : link.refusal = some error) :
    link = .failed error ∨ link = .closed ∧ error = Fragmenter.closedError := by
  cases link with
  | connecting => cases refusal
  | opened => cases refusal
  | failed found => exact .inl (congrArg _ (Option.some.inj refusal))
  | closed => exact .inr ⟨rfl, (Option.some.inj refusal).symm⟩

namespace Fragmenter

variable {σ α : Type} {transport : Transport σ} {turn : Turn} {fragmenter : Fragmenter}

/-! ## Calls on a link that is open or over -/

/-- An open link stays as it is. -/
theorem ensureOpen_of_opened (opened : fragmenter.link = .opened) (state : σ) :
    ensureOpen transport turn fragmenter state = (.done (), fragmenter, state) := by
  rw [ensureOpen, opened]

/-- A link that is over refuses, and stays as it is. -/
theorem ensureOpen_of_refusal {error : IoError} (refusal : fragmenter.link.refusal = some error)
    (state : σ) :
    ensureOpen transport turn fragmenter state = (.failed error, fragmenter, state) := by
  rw [ensureOpen]
  rcases Link.eq_of_refusal refusal with link | ⟨link, rfl⟩
  · rw [link]
  · rw [link]

/-- A call on an open link is made at once. -/
theorem whenOpen_of_opened (opened : fragmenter.link = .opened) (state : σ)
    (call : Fragmenter → σ → Answer α × Fragmenter × σ) :
    whenOpen transport turn fragmenter state call = call fragmenter state := by
  rw [whenOpen, ensureOpen_of_opened opened]

/-- A call on a link that is over is refused. -/
theorem whenOpen_of_refusal {error : IoError} (refusal : fragmenter.link.refusal = some error)
    (state : σ) (call : Fragmenter → σ → Answer α × Fragmenter × σ) :
    whenOpen transport turn fragmenter state call = (.failed error, fragmenter, state) := by
  rw [whenOpen, ensureOpen_of_refusal refusal]

/-! ## Sending on -/

variable {emission : Emission}

/-- An emission that is all out is answered with the length of its buffer. -/
theorem emit_of_out (out : emission.index = emission.records.size)
    (unpaused : emission.pause = none) (state : σ) :
    emit transport turn fragmenter emission state =
      (.done emission.origin.length, { fragmenter with phase := .inspecting }, state) := by
  have awake : emission.isPaused turn.now = false := by rw [Emission.isPaused, unpaused]
  rw [emit, awake, if_neg Bool.false_ne_true, dif_neg (by omega)]

/-- A sound emission waits for its pause or else asks the stream to take what is left of the
current record. -/
theorem emit_of_sound (opened : fragmenter.link = .opened) (sound : emission.Sound) (state : σ) :
    emit transport turn fragmenter emission state =
      if emission.isPaused turn.now then
        (.pending, { fragmenter with phase := .emitting emission }, state)
      else
        match transport.write turn (emission.current.drop emission.offset) state with
        | (.pending, state) =>
          (.pending, { fragmenter with phase := .emitting emission.resume }, state)
        | (.failed error, state) => (.failed error, fragmenter.fail error, state)
        | (.done 0, state) => (.failed stalledError, fragmenter.fail stalledError, state)
        | (.done (count + 1), state) =>
          emit transport turn
            { fragmenter with
              phase := .emitting emission.resume
              entropy := (emission.resume.advance fragmenter.policy turn.now (count + 1)
                fragmenter.entropy).2 }
            (emission.resume.advance fragmenter.policy turn.now (count + 1)
              fragmenter.entropy).1 state := by
  rw [emit, dif_pos sound.index_lt, Emission.current_eq sound.index_lt]
  split
  · rfl
  · have open' : { fragmenter with phase := .emitting emission.resume }.link = .opened := opened
    dsimp only
    rw [ensureOpen_of_opened open']
    rfl

/-- On a link that is over a sound emission waits for its pause or else is refused. -/
theorem emit_of_refusal {error : IoError} (refusal : fragmenter.link.refusal = some error)
    (sound : emission.Sound) (state : σ) :
    emit transport turn fragmenter emission state =
      if emission.isPaused turn.now then
        (.pending, { fragmenter with phase := .emitting emission }, state)
      else (.failed error, { fragmenter with phase := .emitting emission.resume }, state) := by
  rw [emit, dif_pos sound.index_lt]
  split
  · rfl
  · have refusal' : { fragmenter with phase := .emitting emission.resume }.link.refusal =
        some error := refusal
    dsimp only
    rw [ensureOpen_of_refusal refusal']

/-- What one call makes of an emission that is in flight: its answer, the fragmenter after it,
and what the stream has taken by then when it had taken `base` before the emission. -/
inductive Sends (base : Bytes) (fragmenter : Fragmenter) (emission : Emission) :
    Answer Nat → Fragmenter → Bytes → Prop where
  /-- All of it is out. -/
  | whole (entropy : Entropy) (words : entropy.word = fragmenter.entropy.word) :
      Sends base fragmenter emission (.done emission.origin.length)
        { fragmenter with phase := .inspecting, entropy } (base ++ emission.image)
  /-- A part of it is out, and the rest is put off. -/
  | partway (later : Emission) (entropy : Entropy) (sound : later.Sound)
      (sameRecords : later.records = emission.records) (sameOrigin : later.origin = emission.origin)
      (words : entropy.word = fragmenter.entropy.word) :
      Sends base fragmenter emission .pending
        { fragmenter with phase := .emitting later, entropy } (base ++ later.sent)
  /-- A part of it is out, and the stream has failed. -/
  | broken (error : IoError) (entropy : Entropy) (sent : Bytes) (front : sent <+: emission.image)
      (short : sent ≠ emission.image) (words : entropy.word = fragmenter.entropy.word) :
      Sends base fragmenter emission (.failed error) ({ fragmenter with entropy }.fail error)
        (base ++ sent)

/-- A call that goes on with a later stage of an emission is a call that sends it. -/
theorem Sends.of_later {base wire : Bytes} {later : Emission} {answer : Answer Nat}
    {next : Fragmenter} {entropy : Entropy}
    (sends : Sends base { fragmenter with phase := .emitting emission.resume, entropy } later answer
      next wire)
    (sameRecords : later.records = emission.records) (sameOrigin : later.origin = emission.origin)
    (words : entropy.word = fragmenter.entropy.word) :
    Sends base fragmenter emission answer next wire := by
  have sameImage : later.image = emission.image := congrArg (·.toList.flatten) sameRecords
  cases sends with
  | whole last kept =>
    rw [sameOrigin, sameImage]
    exact .whole last (kept.trans words)
  | partway last lastEntropy sound records origin kept =>
    exact .partway last lastEntropy sound (records.trans sameRecords) (origin.trans sameOrigin)
      (kept.trans words)
  | broken error lastEntropy sent front short kept =>
    rw [sameImage] at front short
    exact .broken error lastEntropy sent front short (kept.trans words)

/-- Sending a sound emission over a recorded stream that has taken what it says. -/
theorem emit_sends (stream : Stream σ) (turn : Turn) (base : Bytes) {fragmenter : Fragmenter}
    {emission : Emission} (opened : fragmenter.link = .opened) (sound : emission.Sound)
    (state : σ) :
    ∃ answer next state' wire,
      emit stream.recorded.connected turn fragmenter emission (state, base ++ emission.sent) =
        (answer, next, state', wire) ∧
      Sends base fragmenter emission answer next wire := by
  have soundResumed := Emission.sound_resume sound
  rw [emit_of_sound opened sound]
  split
  · exact ⟨_, _, _, _, rfl, .partway emission _ sound rfl rfl rfl⟩
  · have written := stream.recorded_write turn (emission.current.drop emission.offset) state
      (base ++ emission.sent)
    have front : emission.sent <+: emission.image ∧ emission.sent ≠ emission.image :=
      Emission.sent_prefix sound
    rcases written with ⟨count, next, wrote⟩ | ⟨next, wrote⟩ | ⟨error, next, wrote⟩
    · rw [Stream.connected_write, wrote]
      cases count with
      | zero =>
        rw [List.take_zero, List.append_nil]
        exact ⟨_, _, _, _, rfl, .broken stalledError _ _ front.1 front.2 rfl⟩
      | succ count =>
        obtain ⟨sameRecords, sameOrigin, ⟨later, sent⟩ | ⟨out, unpaused, image⟩⟩ :=
          Emission.advance_sound soundResumed rfl fragmenter.policy turn.now count
            fragmenter.entropy
        · -- The stream took an octet, so less is left to send: the recursion is on that.
          obtain ⟨answer, last, state', wire, emitted, sends⟩ := emit_sends stream turn base
            (show { fragmenter with
              phase := .emitting emission.resume
              entropy := (emission.resume.advance fragmenter.policy turn.now (count + 1)
                fragmenter.entropy).2 }.link = .opened from opened) later next
          refine ⟨answer, last, state', wire, ?_, sends.of_later sameRecords sameOrigin (by simp)⟩
          rw [← emitted, sent, ← List.append_assoc]
          rfl
        · refine ⟨_, _, _, _, emit_of_out (out.trans (by rw [sameRecords])) unpaused _, ?_⟩
          have words : (emission.resume.advance fragmenter.policy turn.now (count + 1)
              fragmenter.entropy).2.word = fragmenter.entropy.word := by simp
          have whole : base ++ emission.sent ++
              (emission.current.drop emission.offset).take (count + 1) =
                base ++ emission.image := by
            rw [List.append_assoc]
            exact congrArg (base ++ ·) image.symm
          rw [sameOrigin, whole]
          exact .whole _ words
    · rw [Stream.connected_write, wrote]
      exact ⟨_, _, _, _, rfl, .partway emission.resume _ soundResumed rfl rfl rfl⟩
    · rw [Stream.connected_write, wrote]
      exact ⟨_, _, _, _, rfl, .broken error _ _ front.1 front.2 rfl⟩
termination_by emission.left
decreasing_by exact Emission.left_advance emission.resume _ _ _ _ sound.index_lt

end Fragmenter

end Outbound.Tls
