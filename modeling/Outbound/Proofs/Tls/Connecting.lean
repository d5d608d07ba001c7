import Outbound.Proofs.Tls.InStep
import Outbound.Proofs.Tls.Watch
import Outbound.Stream.Script

/-!
# A transport that is still connecting

Whichever call comes first drives the connecting on. As long as it is put off, the call is put off
with it and the fragmenter is as it was made. The call that finds the transport connected goes on
as on a connected stream, and from there on nothing tells the two apart: the connecting is never
driven on again.
-/
namespace Outbound

/-- A transport that is driven on to connect at these turns puts it off at each of them. -/
inductive Transport.PutsOff {σ : Type} (transport : Transport σ) : List Turn → σ → σ → Prop where
  /-- No turn. -/
  | nil {state : σ} : PutsOff transport [] state state
  /-- A turn at which connecting is put off, and those after it. -/
  | cons {turn : Turn} {turns : List Turn} {state middle later : σ}
      (waits : transport.connect turn state = (.pending, middle))
      (rest : PutsOff transport turns middle later) : PutsOff transport (turn :: turns) state later

/-- Whether a contact drives the connecting on. -/
def Contact.connects : Contact → Bool
  | .connect _ => true
  | _ => false

namespace Transport

variable {σ : Type} {transport : Transport σ} {turns : List Turn} {state later : σ}

/-- A connecting that is put off under watch. -/
theorem PutsOff.watched (waits : transport.PutsOff turns state later)
    (offer : Bytes → Answer Nat → Contact) (log : List Contact) :
    (transport.watched offer).PutsOff turns (state, log)
      (later, log ++ List.replicate turns.length (.connect .pending)) := by
  induction waits generalizing log with
  | nil =>
    rw [List.length_nil, List.replicate_zero, List.append_nil]
    exact .nil
  | cons waits rest ih =>
    rw [List.length_cons, List.replicate_succ, List.append_cons]
    refine .cons ?_ (ih _)
    rw [watched_connect, waits]

/-- No call on a watched stream drives the connecting on. -/
theorem watched_inStep (transport : Transport σ) (polls : List Contact) :
    (transport.watched .pass).toStream.InStep (transport.watched .pass).toStream
      fun state other => state = other ∧ state.2.filter Contact.connects = polls := by
  rintro turn call ⟨state, log⟩ other ⟨rfl, kept : log.filter Contact.connects = polls⟩
  have silent : ∀ contact : Contact, contact.connects = false →
      (log ++ [contact]).filter Contact.connects = polls := by
    intro contact other
    rw [List.filter_append, kept, List.filter_cons_of_neg (ne_true_of_eq_false other),
      List.filter_nil, List.append_nil]
  cases call with
  | write buffer => exact ⟨rfl, rfl, silent _ rfl⟩
  | read room => exact ⟨rfl, rfl, silent _ rfl⟩
  | flush => exact ⟨rfl, rfl, silent _ rfl⟩
  | shutdown => exact ⟨rfl, rfl, silent _ rfl⟩

end Transport

namespace Tls.Fragmenter

variable {σ α : Type} {transport : Transport σ} {turn : Turn} {policy : Policy}
  {entropy : Entropy} {state later : σ}

/-! ## While connecting is put off -/

/-- A call that waits for the connecting is put off with it. -/
theorem whenOpen_of_pending (waits : transport.connect turn state = (.pending, later))
    (call : Fragmenter → σ → Answer α × Fragmenter × σ) :
    whenOpen transport turn (connecting policy entropy) state call =
      (.pending, connecting policy entropy, later) := by
  rw [whenOpen, ensureOpen, connecting]
  dsimp only
  rw [waits]

/-- So is any call but a shutdown. -/
theorem answer_of_pending (waits : transport.connect turn state = (.pending, later)) {call : Call}
    (usual : call ≠ .shutdown) :
    (stream transport).answer turn call (connecting policy entropy, state) =
      (.pending, connecting policy entropy, later) := by
  cases call with
  | write buffer => exact whenOpen_of_pending waits _
  | read room => exact whenOpen_of_pending waits _
  | flush => exact whenOpen_of_pending waits _
  | shutdown => exact absurd rfl usual

/-- So is every call of a run as long as connecting is put off. -/
theorem trace_of_putsOff {calls : List (Turn × Call)}
    (waits : transport.PutsOff (calls.map Prod.fst) state later)
    (usual : ∀ made ∈ calls, made.2 ≠ .shutdown) :
    (∀ entry ∈ (stream transport).trace calls (connecting policy entropy, state),
        entry.1.answer = .pending ∧ entry.2.1 = connecting policy entropy) ∧
      (stream transport).finish calls (connecting policy entropy, state) =
        (connecting policy entropy, later) := by
  induction calls generalizing state with
  | nil =>
    cases waits
    exact ⟨fun _ mem => (nomatch mem), rfl⟩
  | cons first calls ih =>
    obtain ⟨turn, call⟩ := first
    obtain ⟨usualFirst, usualRest⟩ := List.forall_mem_cons.mp usual
    cases waits with
    | cons waitsFirst waitsRest =>
      obtain ⟨pending, finish⟩ := ih waitsRest usualRest
      rw [Stream.trace, Stream.finish, answer_of_pending waitsFirst usualFirst]
      exact ⟨List.forall_mem_cons.mpr ⟨⟨rfl, rfl⟩, pending⟩, finish⟩

/-! ## Once the transport is connected -/

/-- A call that finds the transport connected goes on as on an open link. -/
theorem whenOpen_of_done (yields : transport.connect turn state = (.done (), later))
    (call : Fragmenter → σ → Answer α × Fragmenter × σ) :
    whenOpen transport turn (connecting policy entropy) state call =
      whenOpen transport turn (opened policy entropy) later call := by
  rw [whenOpen, whenOpen, ensureOpen, ensureOpen, connecting, opened]
  dsimp only
  rw [yields]

/-- Any call but a shutdown that finds the transport connected is answered as on an open link. -/
theorem answer_of_done (yields : transport.connect turn state = (.done (), later)) {call : Call}
    (usual : call ≠ .shutdown) :
    (stream transport).answer turn call (connecting policy entropy, state) =
      (stream transport).answer turn call (opened policy entropy, later) := by
  cases call with
  | write buffer => exact whenOpen_of_done yields _
  | read room => exact whenOpen_of_done yields _
  | flush => exact whenOpen_of_done yields _
  | shutdown => exact absurd rfl usual

/-- On an open link a run is one over the connected stream, and keeps what its calls keep. -/
theorem trace_opened (policy : Policy) (entropy : Entropy) (kept : σ → Prop)
    (keeps : transport.toStream.InStep transport.toStream
      fun state other => state = other ∧ kept state)
    (calls : List (Turn × Call)) (start : kept state) :
    (stream transport).trace calls (opened policy entropy, state) =
        (stream transport.toStream.connected).trace calls (opened policy entropy, state) ∧
      ∀ entry ∈ (stream transport.toStream.connected).trace calls (opened policy entropy, state),
        kept entry.2.2 := by
  have inStep : (stream transport).InStep (stream transport.toStream.connected)
      (Alike fun state other => state = other ∧ kept state) := inStep_stream keeps
  have standing : Alike (fun state other => state = other ∧ kept state)
      (opened policy entropy, state) (opened policy entropy, state) :=
    ⟨rfl, fun connecting => (nomatch connecting), rfl, start⟩
  obtain ⟨same, all⟩ := inStep.trace_eq (fun alike => Prod.ext alike.fragmenter alike.states.1)
    calls standing
  exact ⟨same, fun entry mem => (all entry mem).states.2⟩

/-! ## Whole runs -/

/-- A run whose first call finds the transport connected is one on an open link. -/
theorem trace_of_done {calls : List (Turn × Call)}
    (yields : ∀ first ∈ calls.take 1, transport.connect first.1 state = (.done (), later))
    (usual : ∀ made ∈ calls.take 1, made.2 ≠ .shutdown) :
    (stream transport).trace calls (connecting policy entropy, state) =
      (stream transport).trace calls (opened policy entropy, later) := by
  cases calls with
  | nil => rfl
  | cons first calls =>
    have yieldsFirst := yields first (List.mem_cons_self ..)
    have usualFirst := usual first (List.mem_cons_self ..)
    obtain ⟨turn, call⟩ := first
    rw [Stream.trace, Stream.trace, answer_of_done yieldsFirst usualFirst]

variable {early late : List (Turn × Call)} {middle ready : σ}
  (waits : transport.PutsOff (early.map Prod.fst) state middle)
  (yields : ∀ first ∈ late.take 1, transport.connect first.1 middle = (.done (), ready))
  (usual : ∀ made ∈ early ++ late.take 1, made.2 ≠ .shutdown)
include waits yields usual

/-- A run in which connecting is put off and then done is, after that, one over the connected
stream; and what the calls on that stream keep is kept by them. -/
theorem trace_of_yields (kept : σ → Prop)
    (keeps : transport.toStream.InStep transport.toStream
      fun state other => state = other ∧ kept state) (start : kept ready) :
    (stream transport).trace (early ++ late) (connecting policy entropy, state) =
        (stream transport).trace early (connecting policy entropy, state) ++
          (stream transport.toStream.connected).trace late (opened policy entropy, ready) ∧
      ∀ entry ∈ ((stream transport).trace (early ++ late)
        (connecting policy entropy, state)).drop early.length, kept entry.2.2 := by
  obtain ⟨usualEarly, usualFirst⟩ := List.forall_mem_append.mp usual
  have finish : (stream transport).finish early (connecting policy entropy, state) =
      (connecting policy entropy, middle) := (trace_of_putsOff waits usualEarly).2
  obtain ⟨connected, all⟩ := trace_opened policy entropy kept keeps late start
  have whole : (stream transport).trace (early ++ late) (connecting policy entropy, state) =
      (stream transport).trace early (connecting policy entropy, state) ++
        (stream transport.toStream.connected).trace late (opened policy entropy, ready) := by
    rw [Stream.trace_append, finish, trace_of_done yields usualFirst, connected]
  have afterwards : ((stream transport).trace (early ++ late)
      (connecting policy entropy, state)).drop early.length =
        (stream transport.toStream.connected).trace late (opened policy entropy, ready) := by
    rw [whole]
    exact List.drop_left' (Stream.length_trace ..)
  refine ⟨whole, ?_⟩
  rw [afterwards]
  exact all

omit waits yields usual

/-- How a run goes on a transport that is connecting, when connecting is put off by the calls of
`early` and done with the first call of `late`, which leaves `ready`. -/
structure Delayed (transport : Transport σ) (policy : Policy) (entropy : Entropy)
    (early late : List (Turn × Call)) (state ready : σ) : Prop where
  /-- As long as connecting is put off, so is every call, and the fragmenter stays as it was made:
  nothing is looked at, and nothing is drawn. -/
  pending : ∀ entry ∈ (stream transport).trace early (connecting policy entropy, state),
    entry.1.answer = .pending ∧ entry.2.1 = connecting policy entropy
  /-- From the call on that finds the transport connected, the run is that of a fragmenter made
  over the connected stream: the same answers, and the same calls on the stream, whose state may
  tell all of them. -/
  joined : (stream transport).trace (early ++ late) (connecting policy entropy, state) =
    (stream transport).trace early (connecting policy entropy, state) ++
      (stream transport.toStream.connected).trace late (opened policy entropy, ready)
  /-- From that call on, what has driven the connecting on are the calls of `early` and that one:
  it is never driven on again. -/
  once : ∀ entry ∈ ((stream (transport.watched .pass)).trace (early ++ late)
      (connecting policy entropy, state, [])).drop early.length,
    entry.2.2.2.filter Contact.connects =
      List.replicate early.length (.connect .pending) ++ [.connect (.done ())]

/-- A fragmenter of a transport that is connecting is a delayed one of the connected stream:
however often connecting is put off, whatever stream comes of it and whatever calls but a shutdown
drive it on. -/
theorem connecting_delays (transport : Transport σ) (policy : Policy) (entropy : Entropy)
    {early late : List (Turn × Call)} {state middle ready : σ}
    (waits : transport.PutsOff (early.map Prod.fst) state middle)
    (yields : ∀ first ∈ late.take 1, transport.connect first.1 middle = (.done (), ready))
    (usual : ∀ made ∈ early ++ late.take 1, made.2 ≠ .shutdown) :
    Delayed transport policy entropy early late state ready where
  pending := (trace_of_putsOff waits (List.forall_mem_append.mp usual).1).1
  joined := by
    have keeps : transport.toStream.InStep transport.toStream
        fun state other => state = other ∧ True := by
      rintro turn call state other ⟨rfl, -⟩
      exact ⟨rfl, rfl, trivial⟩
    exact (trace_of_yields waits yields usual _ keeps trivial).1
  once := by
    let polls := List.replicate early.length (Contact.connect .pending)
    have waitsWatched : (transport.watched .pass).PutsOff (early.map Prod.fst) (state, [])
        (middle, polls) := by
      have watched := waits.watched .pass []
      rw [List.length_map, List.nil_append] at watched
      exact watched
    have yieldsWatched : ∀ first ∈ late.take 1, (transport.watched .pass).connect first.1
        (middle, polls) = (.done (), ready, polls ++ [.connect (.done ())]) := by
      intro first mem
      rw [Transport.watched_connect, yields first mem]
    have start : (polls ++ [Contact.connect (.done ())]).filter Contact.connects =
        polls ++ [Contact.connect (.done ())] := by
      rw [List.filter_append, List.filter_replicate_of_pos rfl]
      rfl
    exact (trace_of_yields waitsWatched yieldsWatched usual _
      (transport.watched_inStep (polls ++ [.connect (.done ())])) start).2

/-- A flush and a read are put off, and then a ClientHello is written, which is cut. -/
theorem connecting_delays_hello :
    let policy : Policy := ⟨.fixed 2, .fixed 5, false⟩
    let early : List (Turn × Call) := [(⟨0, 1⟩, .flush), (⟨1, 2⟩, .read 4)]
    let late : List (Turn × Call) := [(⟨2, 1⟩, .write [22, 3, 1, 0, 4, 1, 0, 0, 0]),
      (⟨3, 2⟩, .read 4), (⟨9, 1⟩, .write [22, 3, 1, 0, 4, 1, 0, 0, 0])]
    let start : Script := { waits := 2, reads := [.done [65]] }
    let ready : Script := { waits := 0, reads := [.done [65]], woken := #[1, 2] }
    Script.transport.PutsOff (early.map Prod.fst) start ready ∧
      (∀ first ∈ late.take 1, Script.transport.connect first.1 ready = (.done (), ready)) ∧
      (∀ made ∈ early ++ late.take 1, made.2 ≠ .shutdown) ∧
      Delayed Script.transport policy ⟨id, 0⟩ early late start ready := by
  intro policy early late start ready
  have waits : Script.transport.PutsOff (early.map Prod.fst) start ready :=
    .cons rfl (.cons rfl .nil)
  have yields : ∀ first ∈ late.take 1,
      Script.transport.connect first.1 ready = (.done (), ready) :=
    List.forall_mem_singleton.mpr rfl
  have usual : ∀ made ∈ early ++ late.take 1, made.2 ≠ .shutdown := by decide
  exact ⟨waits, yields, usual, connecting_delays Script.transport policy ⟨id, 0⟩ waits yields usual⟩

end Tls.Fragmenter

end Outbound
