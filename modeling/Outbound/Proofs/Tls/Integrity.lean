import Outbound.Proofs.Tls.Ledger
import Outbound.Proofs.Tls.Sending

/-!
# Wire integrity

Whatever calls are made on a fragmenter over a connected stream, and whatever the stream does,
there is a ledger that accounts for every answer and for the octets that the stream has taken.
-/
namespace Outbound.Tls

open Ledger (Write Step Run)

namespace Fragmenter

/-- How a fragmenter and the wire stand to a ledger between two calls. -/
inductive Standing (fragmenter : Fragmenter) (wire : Bytes) (ledger : Ledger) : Prop where
  /-- The next buffer is looked at. -/
  | inspecting (phase : fragmenter.phase = .inspecting) (opened : fragmenter.link = .opened)
      (lasting : ledger.isOver = false) (settled : ledger.debt = none) (looking : ledger.Looking)
      (onWire : wire = ledger.images.flatten)
  /-- The next buffer is let through. -/
  | passing (phase : fragmenter.phase = .passthrough) (opened : fragmenter.link = .opened)
      (lasting : ledger.isOver = false) (settled : ledger.debt = none) (through : ¬ ledger.Looking)
      (onWire : wire = ledger.images.flatten)
  /-- A buffer is being sent. -/
  | emitting (emission : Emission) (phase : fragmenter.phase = .emitting emission)
      (opened : fragmenter.link = .opened) (lasting : ledger.isOver = false)
      (sound : emission.Sound) (owed : ledger.debt = some ⟨emission.origin, emission.image⟩)
      (looking : ledger.Looking) (onWire : wire = ledger.images.flatten ++ emission.sent)
  /-- The connection is over. -/
  | ended (error : IoError) (refusal : fragmenter.link.refusal = some error)
      (isOver : ledger.isOver = true)
      (sound : ∀ emission, fragmenter.phase = .emitting emission → emission.Sound)
      (onWire : ledger.OnWire wire)

/-- How a fragmenter made with a policy and a sequence of words, and the wire, stand to a
ledger. -/
structure Agrees (policy : Policy) (words : Nat → Nat) (fragmenter : Fragmenter) (wire : Bytes)
    (ledger : Ledger) : Prop where
  /-- The policy is kept. -/
  policy : fragmenter.policy = policy
  /-- The words are kept. -/
  words : fragmenter.entropy.word = words
  /-- The ledger accounts for the wire. -/
  standing : Standing fragmenter wire ledger

/-- The outcome of a write is accounted for by a ledger that follows. -/
def Accounted (policy : Policy) (words : Nat → Nat) (buffer : Bytes) (ledger : Ledger)
    {σ : Type} (outcome : Answer Nat × Fragmenter × σ × Bytes) : Prop :=
  ∃ later, Write policy words buffer outcome.1 ledger later ∧
    Agrees policy words outcome.2.1 outcome.2.2.2 later

variable {σ : Type} (stream : Stream σ) (transport : Transport σ) (turn : Turn) (buffer : Bytes)
  {policy : Policy} {words : Nat → Nat} {fragmenter : Fragmenter} {ledger : Ledger} {wire : Bytes}

/-- A ledger says what is on the wire. -/
theorem Standing.onWire_ledger (standing : Standing fragmenter wire ledger) :
    ledger.OnWire wire := by
  cases standing with
  | inspecting phase opened lasting settled looking onWire =>
    rw [onWire]
    exact .settled settled
  | passing phase opened lasting settled through onWire =>
    rw [onWire]
    exact .settled settled
  | emitting emission phase opened lasting sound owed looking onWire =>
    obtain ⟨front, short⟩ := Emission.sent_prefix sound
    rw [onWire]
    exact .owing _ emission.sent owed front short
  | ended error refusal isOver sound onWire => exact onWire

/-- An emission in flight is sound. -/
theorem Standing.sound (standing : Standing fragmenter wire ledger) (emission : Emission)
    (sending : fragmenter.phase = .emitting emission) : emission.Sound := by
  cases standing with
  | inspecting phase =>
    rw [phase] at sending
    cases sending
  | passing phase =>
    rw [phase] at sending
    cases sending
  | emitting found phase opened lasting sound =>
    rw [phase] at sending
    rw [← Phase.emitting.inj sending]
    exact sound
  | ended error refusal isOver sound => exact sound emission sending

/-- A connection is open until it is over. -/
theorem Standing.opened_or (standing : Standing fragmenter wire ledger) :
    (fragmenter.link = .opened ∧ ledger.isOver = false) ∨
      ∃ error, fragmenter.link.refusal = some error ∧ ledger.isOver = true := by
  cases standing with
  | inspecting phase opened lasting => exact .inl ⟨opened, lasting⟩
  | passing phase opened lasting => exact .inl ⟨opened, lasting⟩
  | emitting emission phase opened lasting => exact .inl ⟨opened, lasting⟩
  | ended error refusal isOver => exact .inr ⟨error, refusal, isOver⟩

/-! ## Writes on an open connection -/

/-- A write that is let through is accounted for. -/
theorem accounted_writeThrough
    (agrees : Agrees policy words fragmenter ledger.images.flatten ledger)
    (phase : fragmenter.phase = .passthrough) (opened : fragmenter.link = .opened)
    (lasting : ledger.isOver = false) (settled : ledger.debt = none) (through : ¬ ledger.Looking)
    (state : σ) :
    Accounted policy words buffer ledger (writeThrough stream.recorded.connected turn buffer
      fragmenter (state, ledger.images.flatten)) := by
  rw [writeThrough, whenOpen_of_opened opened]
  have written := stream.recorded_write turn buffer state ledger.images.flatten
  rcases written with ⟨count, next, wrote⟩ | ⟨next, wrote⟩ | ⟨error, next, wrote⟩
  · rw [Stream.connected_write, wrote]
    refine ⟨_, .pass count settled through, agrees.policy, agrees.words, ?_⟩
    exact .passing phase opened lasting settled through (by simp)
  · rw [Stream.connected_write, wrote]
    exact ⟨_, .hold settled through, agrees⟩
  · rw [Stream.connected_write, wrote]
    refine ⟨_, .drop error settled through, agrees.policy, agrees.words, ?_⟩
    exact .ended error rfl rfl (fun _ sending => nomatch sending) (.settled settled)

/-- The stages that one call can bring an emission to, as the ledger has them: all of it is out,
it has to wait, or the connection has failed. -/
theorem Sends.agrees {emission : Emission} {answer : Answer Nat} {next : Fragmenter}
    (sends : Sends ledger.images.flatten fragmenter emission answer next wire)
    (samePolicy : fragmenter.policy = policy) (sameWords : fragmenter.entropy.word = words)
    (opened : fragmenter.link = .opened) (lasting : ledger.isOver = false)
    (owed : ledger.debt = some ⟨emission.origin, emission.image⟩) (looking : ledger.Looking) :
    (answer = .done emission.origin.length ∧ next.link = .opened ∧
        wire = (ledger.settle ⟨emission.origin, emission.image⟩).images.flatten ∧
        Agrees policy words next wire (ledger.settle ⟨emission.origin, emission.image⟩)) ∨
      (answer = .pending ∧ Agrees policy words next wire ledger) ∨
      ∃ error, answer = .failed error ∧
        Agrees policy words next wire ledger.ended := by
  cases sends with
  | whole entropy kept =>
    have settled : ledger.images.flatten ++ emission.image =
        (ledger.settle ⟨emission.origin, emission.image⟩).images.flatten := by
      simp [Ledger.settle]
    refine .inl ⟨rfl, opened, settled, samePolicy, kept.trans sameWords, ?_⟩
    exact .inspecting rfl opened lasting rfl looking settled
  | partway later entropy sound sameRecords sameOrigin kept =>
    have sameImage : later.image = emission.image := congrArg (·.toList.flatten) sameRecords
    refine .inr (.inl ⟨rfl, samePolicy, kept.trans sameWords, ?_⟩)
    refine .emitting later rfl opened lasting sound ?_ looking rfl
    rw [sameOrigin, sameImage, owed]
  | broken error entropy sent front short kept =>
    refine .inr (.inr ⟨error, rfl, samePolicy, kept.trans sameWords, ?_⟩)
    refine .ended error rfl rfl (fun _ sending => nomatch sending) ?_
    exact .owing _ sent owed front short

/-- A buffer that opens with a ClientHello is accounted for: it is cut. -/
theorem accounted_cut (agrees : Agrees policy words fragmenter ledger.images.flatten ledger)
    (opened : fragmenter.link = .opened) (lasting : ledger.isOver = false)
    (settled : ledger.debt = none) (looking : ledger.Looking) (nonempty : buffer ≠ [])
    {header : RecordHeader} {body rest : Bytes}
    (opens : inspect buffer = .clientHello header body rest) (state : σ) :
    Accounted policy words buffer ledger (emit stream.recorded.connected turn
      { fragmenter with entropy :=
        (Emission.start fragmenter.policy header body rest buffer fragmenter.entropy).2 }
      (Emission.start fragmenter.policy header body rest buffer fragmenter.entropy).1
      (state, ledger.images.flatten)) := by
  let emission := (Emission.start fragmenter.policy header body rest buffer fragmenter.entropy).1
  have sound : emission.Sound := Emission.sound_start opens fragmenter.policy fragmenter.entropy
  have fragmented : Fragmented policy words buffer emission.image := by
    refine ⟨header, body, rest, fragmenter.entropy.used, opens, ?_⟩
    rw [← agrees.policy, ← agrees.words]
    exact Emission.image_start fragmenter.policy header body rest buffer fragmenter.entropy
  have sameWords := (Emission.word_start fragmenter.policy header body rest buffer
    fragmenter.entropy).trans agrees.words
  have lookingLater : (ledger.owe buffer emission.image).Looking :=
    Ledger.looking_inspect.mpr ⟨looking, header, body, rest, opens⟩
  have sentNothing : (ledger.owe buffer emission.image).images.flatten ++ emission.sent =
      ledger.images.flatten := by
    rw [Emission.sent_start, List.append_nil]
    rfl
  obtain ⟨answer, next, state', wire, emitted, sends⟩ := emit_sends stream turn
    (ledger.owe buffer emission.image).images.flatten (show { fragmenter with entropy :=
      (Emission.start fragmenter.policy header body rest buffer fragmenter.entropy).2 }.link =
        .opened from opened) sound state
  rw [sentNothing] at emitted
  rw [emitted]
  rcases sends.agrees agrees.policy sameWords opened lasting rfl lookingLater with
    ⟨rfl, -, -, finished⟩ | ⟨rfl, waiting⟩ | ⟨error, rfl, failed⟩
  · exact ⟨_, .cut _ _ settled looking nonempty fragmented (.finish _ rfl rfl), finished⟩
  · exact ⟨_, .cut _ _ settled looking nonempty fragmented (.wait _ rfl), waiting⟩
  · exact ⟨_, .cut _ _ settled looking nonempty fragmented (.fail _ error rfl), failed⟩

/-- A buffer that does not open with a ClientHello is accounted for: it is let through. -/
theorem accounted_turn (agrees : Agrees policy words fragmenter ledger.images.flatten ledger)
    (opened : fragmenter.link = .opened) (lasting : ledger.isOver = false)
    (settled : ledger.debt = none) (looking : ledger.Looking) (nonempty : buffer ≠ [])
    (other : ¬ Opens buffer) (state : σ) :
    Accounted policy words buffer ledger (writeThrough stream.recorded.connected turn buffer
      { fragmenter with phase := .passthrough } (state, ledger.images.flatten)) := by
  have through : ¬ (ledger.inspect buffer).Looking := fun looking =>
    other (Ledger.looking_inspect.mp looking).2
  have turned : Agrees policy words { fragmenter with phase := .passthrough }
      (ledger.inspect buffer).images.flatten (ledger.inspect buffer) :=
    ⟨agrees.policy, agrees.words, .passing rfl opened lasting settled through rfl⟩
  obtain ⟨later, write, accounted⟩ := accounted_writeThrough stream turn buffer turned
    rfl opened lasting settled through state
  exact ⟨later, .turn _ settled looking nonempty other write, accounted⟩

/-- A buffer that is looked at is accounted for. -/
theorem accounted_writeFresh
    (agrees : Agrees policy words fragmenter ledger.images.flatten ledger)
    (opened : fragmenter.link = .opened) (lasting : ledger.isOver = false)
    (settled : ledger.debt = none) (looking : ledger.Looking) (state : σ) :
    Accounted policy words buffer ledger (writeFresh stream.recorded.connected turn buffer
      fragmenter (state, ledger.images.flatten)) := by
  rw [writeFresh, whenOpen_of_opened opened]
  by_cases empty : buffer = []
  · rw [if_pos empty]
    exact ⟨ledger, .nothing settled looking empty, agrees⟩
  · rw [if_neg empty]
    by_cases opens : Opens buffer
    · obtain ⟨header, body, rest, inspected⟩ := opens
      rw [inspected]
      exact accounted_cut stream turn buffer agrees opened lasting settled looking empty inspected
        state
    · have turned := accounted_turn stream turn buffer agrees opened lasting settled
        looking empty opens state
      cases inspected : inspect buffer with
      | clientHello header body rest => exact absurd ⟨header, body, rest, inspected⟩ opens
      | notClientHello => exact turned
      | incomplete => exact turned

/-- A write while a buffer is being sent is accounted for: that buffer comes first. -/
theorem accounted_emitting {emission : Emission}
    (agrees : Agrees policy words fragmenter (ledger.images.flatten ++ emission.sent) ledger)
    (phase : fragmenter.phase = .emitting emission) (opened : fragmenter.link = .opened)
    (lasting : ledger.isOver = false) (sound : emission.Sound)
    (owed : ledger.debt = some ⟨emission.origin, emission.image⟩) (looking : ledger.Looking)
    (state : σ) :
    Accounted policy words buffer ledger (write stream.recorded.connected turn buffer
      fragmenter (state, ledger.images.flatten ++ emission.sent)) := by
  obtain ⟨answer, next, state', wire, emitted, sends⟩ := emit_sends stream turn
    ledger.images.flatten opened sound state
  rw [write, phase]
  dsimp only
  rw [emitted]
  rcases sends.agrees agrees.policy agrees.words opened lasting owed looking with
    ⟨rfl, nextOpened, rfl, finished⟩ | ⟨rfl, waiting⟩ | ⟨error, rfl, failed⟩
  · dsimp only
    by_cases same : emission.origin = buffer
    · rw [if_pos same, same]
      exact ⟨_, .finish _ owed same, finished⟩
    · obtain ⟨later, write, accounted⟩ := accounted_writeFresh stream turn buffer
        finished nextOpened lasting rfl looking state'
      rw [if_neg same]
      exact ⟨later, .overtake _ _ owed same write, accounted⟩
  · exact ⟨_, .wait _ owed, waiting⟩
  · exact ⟨_, .fail _ error owed, failed⟩

/-- A write on a connection that is not over is accounted for. -/
theorem accounted_write (agrees : Agrees policy words fragmenter wire ledger)
    (lasting : ledger.isOver = false) (state : σ) :
    Accounted policy words buffer ledger
      (write stream.recorded.connected turn buffer fragmenter (state, wire)) := by
  cases agrees.standing with
  | inspecting phase opened _ settled looking onWire =>
    subst onWire
    rw [write, phase]
    exact accounted_writeFresh stream turn buffer agrees opened lasting settled looking state
  | passing phase opened _ settled through onWire =>
    subst onWire
    rw [write, phase]
    exact accounted_writeThrough stream turn buffer agrees phase opened lasting settled through
      state
  | emitting emission phase opened _ sound owed looking onWire =>
    subst onWire
    exact accounted_emitting stream turn buffer agrees phase opened lasting sound owed looking state
  | ended error refusal isOver sound onWire =>
    rw [isOver] at lasting
    cases lasting

/-! ## Calls on a connection that is over -/

/-- A write on a connection that is over takes nothing on and leaves the stream alone. -/
theorem write_of_refusal {error : IoError} (refusal : fragmenter.link.refusal = some error)
    (sound : ∀ emission, fragmenter.phase = .emitting emission → emission.Sound) (state : σ) :
    ∃ answer next, write transport turn buffer fragmenter state = (answer, next, state) ∧
      (∀ count, answer ≠ .done count) ∧ next.policy = fragmenter.policy ∧
      next.entropy = fragmenter.entropy ∧ next.link = fragmenter.link ∧
      ∀ emission, next.phase = .emitting emission → emission.Sound := by
  have refused : ∀ count, (.failed error : Answer Nat) ≠ .done count := fun _ same => nomatch same
  have waits : ∀ count, (.pending : Answer Nat) ≠ .done count := fun _ same => nomatch same
  cases phase : fragmenter.phase with
  | inspecting =>
    refine ⟨_, fragmenter, ?_, refused, rfl, rfl, rfl, sound⟩
    rw [write, phase]
    exact whenOpen_of_refusal refusal state _
  | passthrough =>
    refine ⟨_, fragmenter, ?_, refused, rfl, rfl, rfl, sound⟩
    rw [write, phase]
    exact whenOpen_of_refusal refusal state _
  | emitting emission =>
    have soundNow := sound emission phase
    rw [write, phase]
    dsimp only
    rw [emit_of_refusal refusal soundNow]
    by_cases paused : emission.isPaused turn.now
    · rw [if_pos paused]
      refine ⟨_, _, rfl, waits, rfl, rfl, rfl, fun found same => ?_⟩
      rw [← Phase.emitting.inj same]
      exact soundNow
    · rw [if_neg paused]
      refine ⟨_, _, rfl, refused, rfl, rfl, rfl, fun found same => ?_⟩
      rw [← Phase.emitting.inj same]
      exact Emission.sound_resume soundNow

/-! ## Any call -/

/-- A call that takes nothing and leaves the fragmenter alone, made as far as the connection is
open, does neither. -/
theorem whenOpen_keeps {α : Type} (transport : Transport (σ × Bytes)) (turn : Turn)
    (standing : Standing fragmenter wire ledger) (call : σ × Bytes → Answer α × σ × Bytes)
    (keeps : ∀ state, (call state).2.2 = state.2) (state : σ) :
    ∃ answer state', whenOpen transport turn fragmenter (state, wire)
        (fun fragmenter state => ((call state).1, fragmenter, (call state).2)) =
      (answer, fragmenter, state', wire) := by
  rcases standing.opened_or with ⟨opened, -⟩ | ⟨error, refusal, -⟩
  · rw [whenOpen_of_opened opened]
    have kept : (call (state, wire)).2 = ((call (state, wire)).2.1, wire) :=
      Prod.ext rfl (keeps (state, wire))
    exact ⟨_, _, congrArg (fun after => ((call (state, wire)).1, fragmenter, after)) kept⟩
  · rw [whenOpen_of_refusal refusal]
    exact ⟨_, _, rfl⟩

/-- A shutdown is accounted for. -/
theorem accounted_shutdown (agrees : Agrees policy words fragmenter wire ledger) (state : σ) :
    ∃ answer next state' later,
      shutdown stream.recorded.connected turn fragmenter (state, wire) =
        (answer, next, state', wire) ∧
      Step policy words ⟨.shutdown, answer⟩ ledger later ∧
      Agrees policy words next wire later := by
  have standing := agrees.standing
  have onWire := standing.onWire_ledger.ended
  rcases standing.opened_or with ⟨opened, -⟩ | ⟨error, refusal, -⟩
  · have closing := stream.recorded_shutdown turn state wire
    have ended : Agrees policy words { fragmenter with link := .closed } wire ledger.ended :=
      ⟨agrees.policy, agrees.words, .ended closedError rfl rfl standing.sound onWire⟩
    rw [shutdown, opened]
    cases answered : (stream.shutdown turn state).1 with
    | pending =>
      rw [answered] at closing
      dsimp only
      rw [closing]
      exact ⟨_, _, _, _, rfl, .linger, agrees⟩
    | done result =>
      rw [answered] at closing
      dsimp only
      rw [closing]
      exact ⟨_, _, _, _, rfl, .close _ (fun same => nomatch same), ended⟩
    | failed error =>
      rw [answered] at closing
      dsimp only
      rw [closing]
      exact ⟨_, _, _, _, rfl, .close _ (fun same => nomatch same), ended⟩
  · have done : shutdown stream.recorded.connected turn fragmenter (state, wire) =
        (.done (), fragmenter, state, wire) := by
      rw [shutdown]
      rcases Link.eq_of_refusal refusal with link | ⟨link, -⟩
      · rw [link]
      · rw [link]
    refine ⟨_, _, _, _, done, .close _ (fun same => nomatch same), agrees.policy, agrees.words, ?_⟩
    exact .ended error refusal rfl standing.sound onWire

/-- Any call is accounted for. -/
theorem accounted_answer (agrees : Agrees policy words fragmenter wire ledger) (call : Call)
    (state : σ) :
    ∃ answer next state' wire' later,
      (Fragmenter.stream stream.recorded.connected).answer turn call (fragmenter, state, wire) =
        (answer, next, state', wire') ∧
      Step policy words ⟨call, answer⟩ ledger later ∧ Agrees policy words next wire' later := by
  have standing := agrees.standing
  cases call with
  | write buffer =>
    rcases standing.opened_or with ⟨-, lasting⟩ | ⟨error, refusal, isOver⟩
    · obtain ⟨later, write, accounted⟩ := accounted_write stream turn buffer agrees
        lasting state
      exact ⟨_, _, _, _, later, rfl, .write buffer _ lasting write, accounted⟩
    · obtain ⟨answer, next, written, refused, samePolicy, sameEntropy, sameLink, sound⟩ :=
        write_of_refusal stream.recorded.connected turn buffer refusal standing.sound (state, wire)
      refine ⟨answer, next, state, wire, ledger, written, .late buffer answer isOver refused,
        samePolicy.trans agrees.policy, ?_, ?_⟩
      · rw [sameEntropy, agrees.words]
      · exact .ended error (sameLink ▸ refusal) isOver sound standing.onWire_ledger
  | read room =>
    obtain ⟨answer, state', read⟩ := whenOpen_keeps stream.recorded.connected turn
      standing (stream.recorded.read turn room)
      (fun _ => rfl) state
    exact ⟨answer, fragmenter, state', wire, ledger, read, .read room answer, agrees⟩
  | flush =>
    obtain ⟨answer, state', flushed⟩ := whenOpen_keeps stream.recorded.connected turn
      standing (stream.recorded.flush turn)
      (fun _ => rfl) state
    exact ⟨answer, fragmenter, state', wire, ledger, flushed, .flush answer, agrees⟩
  | shutdown =>
    obtain ⟨answer, next, state', later, closed, step, accounted⟩ :=
      accounted_shutdown stream turn agrees state
    exact ⟨answer, next, state', wire, later, closed, step, accounted⟩

/-- Calls made one after another are accounted for. -/
theorem accounted_trace (calls : List (Turn × Call))
    (agrees : Agrees policy words fragmenter wire ledger) (state : σ) :
    ∃ later, Run policy words
      (((Fragmenter.stream stream.recorded.connected).trace calls (fragmenter, state, wire)).map
        fun (exchange, after) => (exchange, after.2.2)) ledger later := by
  induction calls generalizing fragmenter ledger wire state with
  | nil => exact ⟨ledger, .nil⟩
  | cons first calls ih =>
    obtain ⟨turn, call⟩ := first
    obtain ⟨answer, next, state', wire', middle, answered, step, accounted⟩ :=
      accounted_answer stream turn agrees call state
    obtain ⟨later, run⟩ := ih accounted state'
    refine ⟨later, ?_⟩
    rw [Stream.trace, answered]
    exact .cons step accounted.standing.onWire_ledger run

/-- Wire integrity. Whatever calls are made on a fragmenter over a connected stream, and however
the stream answers, the stream has after each of them taken exactly the images of the buffers that
were taken on, in order, and of the last one perhaps only a front part. A moment within a call is
the end of that call over a stream that takes nothing more in it. -/
theorem wire_accounted (stream : Stream σ) (policy : Policy) (entropy : Entropy)
    (calls : List (Turn × Call)) (state : σ) :
    ∃ ledger, Run policy entropy.word
      (((Fragmenter.stream stream.recorded.connected).trace calls
        (opened policy entropy, state, [])).map fun (exchange, after) => (exchange, after.2.2))
      {} ledger := by
  have looking : ({} : Ledger).Looking := fun _ mem => nomatch mem
  have start : Agrees policy entropy.word (opened policy entropy) [] {} :=
    ⟨rfl, rfl, .inspecting rfl rfl rfl rfl looking rfl⟩
  exact accounted_trace stream calls start state

end Fragmenter

end Outbound.Tls
