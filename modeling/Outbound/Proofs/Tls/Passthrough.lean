import Outbound.Proofs.Tls.Ledger
import Outbound.Proofs.Tls.Sending
import Outbound.Proofs.Tls.Watch
import Outbound.Stream.Script

/-!
# Standing aside

Once a fragmenter has looked at a buffer that does not open with a whole ClientHello record, it
stands aside for good. The bare stream is the measure: from the write that is looked at on, the
same calls on it give the same answers and leave it in the same states, until a write fails or a
shutdown is complete.
-/
namespace Outbound

/-- Whether a call is the last one that a connection passes on: a write that has failed, or a
shutdown that is complete. -/
def Exchange.ends : Exchange → Bool
  | ⟨.write _, .failed _⟩ => true
  | ⟨.shutdown, .done _⟩ => true
  | ⟨.shutdown, .failed _⟩ => true
  | _ => false

/-- A run up to and including the first call that ends the connection. -/
def throughEnd {σ : Type} : List (Exchange × σ) → List (Exchange × σ)
  | [] => []
  | entry :: entries => if entry.1.ends then [entry] else entry :: throughEnd entries

namespace Tls.Fragmenter

variable {σ : Type} {transport : Transport σ} {turn : Turn} {fragmenter later : Fragmenter}
  {buffer : Bytes} {state next : σ}

/-- A write comes to look at its buffer: the link is open and no emission is on its way, or one of
another buffer that is finished first. So it finds the fragmenter and the transport as `later` and
`next`. -/
inductive Looks (transport : Transport σ) (turn : Turn) (buffer : Bytes) (fragmenter : Fragmenter)
    (state : σ) : Fragmenter → σ → Prop where
  /-- No emission is on its way. -/
  | fresh (phase : fragmenter.phase = .inspecting) (opened : fragmenter.link = .opened) :
      Looks transport turn buffer fragmenter state fragmenter state
  /-- The emission of another buffer is on its way, and all of it goes out. -/
  | overtaking {emission : Emission} {count : Nat} {later : Fragmenter} {next : σ}
      (phase : fragmenter.phase = .emitting emission) (other : emission.origin ≠ buffer)
      (finished : emit transport turn fragmenter emission state = (.done count, later, next))
      (opened : later.link = .opened) : Looks transport turn buffer fragmenter state later next

/-- A fragmenter that stands aside on an open link. -/
structure Aside (fragmenter : Fragmenter) : Prop where
  /-- Buffers are let through. -/
  phase : fragmenter.phase = .passthrough
  /-- The transport is connected. -/
  opened : fragmenter.link = .opened

/-- The outcome of a call that is the stream's own: its answer and the state it leaves are those of
the bare stream, and the fragmenter stands aside unless the call ends the connection. -/
def Transparent (call : Call) (own : Answer call.Result × σ)
    (outcome : Answer call.Result × Fragmenter × σ) : Prop :=
  ∃ later, outcome = (own.1, later, own.2) ∧ (Exchange.ends ⟨call, own.1⟩ = false → Aside later)

/-- A buffer that is let through is the stream's own. -/
theorem transparent_writeThrough (aside : Aside fragmenter) :
    Transparent (.write buffer) (transport.write turn buffer state)
      (writeThrough transport turn buffer fragmenter state) := by
  rw [writeThrough, whenOpen_of_opened aside.opened]
  rcases transport.write turn buffer state with ⟨answer, next⟩
  cases answer with
  | pending => exact ⟨fragmenter, rfl, fun _ => aside⟩
  | done count => exact ⟨fragmenter, rfl, fun _ => aside⟩
  | failed error => exact ⟨fragmenter.fail error, rfl, fun lasting => by cases lasting⟩

/-- A shutdown of a connected transport is the stream's own. -/
theorem transparent_shutdown (aside : Aside fragmenter) :
    Transparent .shutdown (transport.shutdown turn state)
      (shutdown transport turn fragmenter state) := by
  have closed : ∀ answer : Answer Unit, answer ≠ .pending →
      Exchange.ends ⟨.shutdown, answer⟩ = false → Aside { fragmenter with link := .closed } := by
    intro answer complete lasting
    cases answer with
    | pending => exact absurd rfl complete
    | done result => cases lasting
    | failed error => cases lasting
  rw [shutdown, aside.opened]
  dsimp only
  rcases transport.shutdown turn state with ⟨answer, next⟩
  cases answer with
  | pending => exact ⟨fragmenter, rfl, fun _ => aside⟩
  | done result => exact ⟨_, rfl, closed _ fun same => by cases same⟩
  | failed error => exact ⟨_, rfl, closed _ fun same => by cases same⟩

/-- Any call on a fragmenter that stands aside is the stream's own. -/
theorem transparent_answer (aside : Aside fragmenter) (call : Call) :
    Transparent call (transport.answer turn call state)
      ((stream transport).answer turn call (fragmenter, state)) := by
  cases call with
  | write buffer =>
    have written : write transport turn buffer fragmenter state =
        writeThrough transport turn buffer fragmenter state := by rw [write, aside.phase]
    have own : Transparent (.write buffer) (transport.write turn buffer state)
        (writeThrough transport turn buffer fragmenter state) := transparent_writeThrough aside
    obtain ⟨later, passed, lasting⟩ := own
    exact ⟨later, written.trans passed, lasting⟩
  | read room => exact ⟨fragmenter, whenOpen_of_opened aside.opened state _, fun _ => aside⟩
  | flush => exact ⟨fragmenter, whenOpen_of_opened aside.opened state _, fun _ => aside⟩
  | shutdown => exact transparent_shutdown aside

/-- A buffer that is looked at and does not open with a ClientHello is let through. -/
theorem writeFresh_of_other (opened : fragmenter.link = .opened) (nonempty : buffer ≠ [])
    (other : ¬ Opens buffer) :
    writeFresh transport turn buffer fragmenter state =
      writeThrough transport turn buffer { fragmenter with phase := .passthrough } state := by
  rw [writeFresh, whenOpen_of_opened opened, if_neg nonempty]
  cases inspected : inspect buffer with
  | clientHello header body rest => exact absurd ⟨header, body, rest, inspected⟩ other
  | notClientHello => rfl
  | incomplete => rfl

/-- The write that looks at such a buffer is the stream's own from then on. -/
theorem transparent_of_looks (looks : Looks transport turn buffer fragmenter state later next)
    (nonempty : buffer ≠ []) (other : ¬ Opens buffer) :
    Transparent (.write buffer) (transport.write turn buffer next)
      (write transport turn buffer fragmenter state) := by
  cases looks with
  | fresh phase opened =>
    rw [write, phase]
    dsimp only
    rw [writeFresh_of_other opened nonempty other]
    exact transparent_writeThrough ⟨rfl, opened⟩
  | overtaking phase another finished opened =>
    rw [write, phase]
    dsimp only
    rw [finished]
    dsimp only
    rw [if_neg another, writeFresh_of_other opened nonempty other]
    exact transparent_writeThrough ⟨rfl, opened⟩

/-- An entry of a run without the fragmenter. -/
def bare (entry : Exchange × Fragmenter × σ) : Exchange × σ := (entry.1, entry.2.2)

/-- A run that begins with a call that is the stream's own, and goes on so as long as the fragmenter
stands aside, is the run of the bare stream. -/
theorem throughEnd_cons {call : Call} {calls : List (Turn × Call)}
    (own : Transparent call (transport.answer turn call next)
      ((stream transport).answer turn call (fragmenter, state)))
    (rest : ∀ {fragmenter state}, Aside fragmenter →
      throughEnd (((stream transport).trace calls (fragmenter, state)).map bare) =
        throughEnd (transport.trace calls state)) :
    throughEnd (((stream transport).trace ((turn, call) :: calls) (fragmenter, state)).map bare) =
      throughEnd (transport.trace ((turn, call) :: calls) next) := by
  obtain ⟨later, answered, aside⟩ := own
  rw [Stream.trace, Stream.trace, answered]
  generalize transport.answer turn call next = outcome at aside ⊢
  obtain ⟨answer, left⟩ := outcome
  simp only [List.map_cons, bare, throughEnd]
  cases ending : Exchange.ends ⟨call, answer⟩ with
  | true => rw [if_pos rfl, if_pos rfl]
  | false =>
    rw [if_neg Bool.false_ne_true, if_neg Bool.false_ne_true]
    exact congrArg _ (rest (aside ending))

/-- Runs on a fragmenter that stands aside are those of the bare stream. -/
theorem throughEnd_aside (calls : List (Turn × Call)) (aside : Aside fragmenter) :
    throughEnd (((stream transport).trace calls (fragmenter, state)).map bare) =
      throughEnd (transport.trace calls state) := by
  induction calls generalizing fragmenter state with
  | nil => rfl
  | cons first calls ih => exact throughEnd_cons (transparent_answer aside first.2) ih

/-- Standing aside is transparent and lasts. On a connected stream, after any calls, a write comes
to look at a buffer that is not empty and does not open with a whole ClientHello record. From then
on, that write included, the answers and the states of the stream, which may tell every call made
on it, are those of the bare stream, up to and including the first write that fails or shutdown
that is complete. -/
theorem passthrough_transparent (inner : Stream σ) (policy : Policy) (entropy : Entropy)
    (early late : List (Turn × Call)) (start : σ)
    (looks : Looks inner.connected turn buffer
      ((stream inner.connected).finish early (opened policy entropy, start)).1
      ((stream inner.connected).finish early (opened policy entropy, start)).2 later next)
    (nonempty : buffer ≠ []) (other : ¬ Opens buffer) :
    throughEnd ((((stream inner.connected).trace (early ++ (turn, .write buffer) :: late)
        (opened policy entropy, start)).drop early.length).map bare) =
      throughEnd (inner.trace ((turn, .write buffer) :: late) next) := by
  have own := transparent_of_looks looks nonempty other
  have rest := @throughEnd_aside σ inner.connected
  rw [Stream.trace_append, List.drop_left' (Stream.length_trace ..)]
  exact throughEnd_cons own fun aside => rest late aside

/-- A buffer of two octets is put off, and is let through when it is written again, as is a
ClientHello after it. -/
theorem passthrough_transparent_retried :
    let inner : Stream Script := Script.transport.toStream
    let policy : Policy := ⟨.fixed 2, .fixed 5, false⟩
    let early : List (Turn × Call) := [(⟨0, 1⟩, .flush), (⟨1, 1⟩, .write [])]
    let late : List (Turn × Call) := [(⟨3, 1⟩, .write [1, 2]), (⟨4, 2⟩, .read 4),
      (⟨5, 1⟩, .write [22, 3, 1, 0, 4, 1, 0, 0, 0]), (⟨6, 1⟩, .shutdown), (⟨7, 1⟩, .write [3])]
    let start : Script := { writes := [.pending] }
    let found := (stream inner.connected).finish early (opened policy ⟨id, 0⟩, start)
    Looks inner.connected ⟨2, 1⟩ [1, 2] found.1 found.2 found.1 found.2 ∧ [1, 2] ≠ ([] : Bytes) ∧
      ¬ Opens [1, 2] ∧
      throughEnd ((((stream inner.connected).trace (early ++ (⟨2, 1⟩, .write [1, 2]) :: late)
          (opened policy ⟨id, 0⟩, start)).drop early.length).map bare) =
        throughEnd (inner.trace ((⟨2, 1⟩, .write [1, 2]) :: late) found.2) ∧
      ((inner.finish ((⟨2, 1⟩, .write [1, 2]) :: late) found.2).taken.toList.map Prod.snd).take 2 =
        [[1, 2], [22, 3, 1, 0, 4, 1, 0, 0, 0]] := by
  intro inner policy early late start found
  have looks : Looks inner.connected ⟨2, 1⟩ [1, 2] found.1 found.2 found.1 found.2 :=
    .fresh rfl rfl
  have nonempty : [1, 2] ≠ ([] : Bytes) := by decide
  have other : ¬ Opens [1, 2] := by
    rintro ⟨header, body, rest, opens⟩
    have short : inspect [1, 2] = .notClientHello := rfl
    rw [short] at opens
    cases opens
  exact ⟨looks, nonempty, other,
    passthrough_transparent inner policy ⟨id, 0⟩ early late start looks nonempty other, rfl⟩

end Tls.Fragmenter

end Outbound
