import Outbound.Proofs.Tls.Failure
import Outbound.Proofs.Tls.Regular

/-!
# The end of a connection

A shutdown that the transport leaves pending changes nothing. One that it answers, and one that
comes before the transport is connected, close the connection (`Shuts`): from then on nothing
reaches the transport, and every call but a further shutdown is refused, if only at the end of a
pause that an interrupted emission had begun (`Silent`).
-/
namespace Outbound

/-- Whether a contact is a shutdown. -/
def Contact.isShutdown : Contact → Bool
  | .shutdown _ => true
  | _ => false

/-- Whether a contact is a shutdown that the transport has answered, be it with an error. -/
def Contact.completes : Contact → Bool
  | .shutdown .pending => false
  | .shutdown _ => true
  | _ => false

/-- Only shutdowns complete one. -/
theorem Contact.completes_of_spares {contact : Contact} (other : contact.isShutdown = false) :
    contact.completes = false := by
  cases contact with
  | shutdown answer => cases other
  | _ => rfl

namespace Tls.Fragmenter

variable {σ α : Type} {transport : Transport σ} {turn : Turn} {fragmenter : Fragmenter}
  {log : List Contact}

/-! ## Calls that are no shutdown -/

/-- More contacts were made, and none of them is a shutdown. -/
def Spares (log seen : List Contact) : Prop :=
  ∃ contacts, seen = log ++ contacts ∧ ∀ contact ∈ contacts, contact.isShutdown = false

/-- No more contacts. -/
theorem spares_refl (log : List Contact) : Spares log log :=
  ⟨[], (List.append_nil log).symm, fun contact mem => by cases mem⟩

/-- One more contact that is no shutdown, and others after it. -/
theorem spares_cons {log seen : List Contact} {contact : Contact}
    (other : contact.isShutdown = false) (spares : Spares (log ++ [contact]) seen) :
    Spares log seen := by
  obtain ⟨contacts, rfl, others⟩ := spares
  refine ⟨contact :: contacts, List.append_assoc log [contact] contacts, ?_⟩
  exact List.forall_mem_cons.mpr ⟨other, others⟩

/-- Contacts made first and contacts made then. -/
theorem Spares.trans {log middle seen : List Contact} (first : Spares log middle)
    (second : Spares middle seen) : Spares log seen := by
  obtain ⟨early, rfl, spared⟩ := first
  obtain ⟨late, rfl, sparedToo⟩ := second
  exact ⟨early ++ late, List.append_assoc .., List.forall_mem_append.mpr ⟨spared, sparedToo⟩⟩

/-- One more contact that is no shutdown. -/
theorem spares_one {contact : Contact} (other : contact.isShutdown = false) :
    Spares log (log ++ [contact]) :=
  spares_cons other (spares_refl _)

/-- A call that waits for the connecting makes no shutdown if the call does not. -/
theorem spares_whenOpen (offer : Bytes → Answer Nat → Contact)
    {call : Fragmenter → σ × List Contact → Answer α × Fragmenter × σ × List Contact}
    (spares : ∀ later state seen, later.link = .opened →
      Spares seen (call later (state, seen)).2.2.2)
    (fragmenter : Fragmenter) (state : σ) (log : List Contact) :
    Spares log (whenOpen (transport.watched offer) turn fragmenter (state, log) call).2.2.2 := by
  obtain ⟨front, connects, outcome⟩ :=
    whenOpen_watched transport turn offer call fragmenter state log
  have waits : Spares log (log ++ front) := by
    refine ⟨front, rfl, fun contact mem => ?_⟩
    obtain ⟨answer, rfl⟩ := connects contact mem
    rfl
  rcases outcome with ⟨answer, link, next, unmade⟩ | ⟨next, made⟩
  · rw [unmade]
    exact waits
  · rw [made]
    exact waits.trans (spares _ next _ rfl)

/-- An emission makes no shutdown. -/
theorem spares_emit {fragmenter : Fragmenter} (past : fragmenter.link ≠ .connecting)
    (emission : Emission) (state : σ) (log : List Contact) :
    Spares log (emit (transport.watched .send) turn fragmenter emission (state, log)).2.2.2 := by
  let sending := { fragmenter with phase := .emitting emission.resume }
  rw [emit]
  split
  · exact spares_refl log
  · split
    · dsimp only
      rcases opened_or_refusal (show sending.link ≠ .connecting from past) with
        opened | ⟨error, refusal⟩
      · rw [ensureOpen_of_opened opened]
        dsimp only
        rw [Transport.watched_write]
        rcases transport.write turn (emission.records[emission.index].drop emission.offset) state
          with ⟨answer, next⟩
        cases answer with
        | pending => exact spares_one rfl
        | failed error => exact spares_one rfl
        | done count =>
          cases count with
          | zero => exact spares_one rfl
          -- The transport took an octet, so less is left to send: the recursion is on that.
          | succ count => exact spares_cons rfl (spares_emit (by exact past) _ next _)
      · rw [ensureOpen_of_refusal refusal]
        exact spares_refl log
    · exact spares_refl log
termination_by emission.left
decreasing_by exact Emission.left_advance emission.resume _ _ _ _ (by assumption)

/-- A buffer that is let through makes no shutdown. -/
theorem spares_writeThrough (buffer : Bytes) (fragmenter : Fragmenter) (state : σ)
    (log : List Contact) :
    Spares log
      (writeThrough (transport.watched .pass) turn buffer fragmenter (state, log)).2.2.2 := by
  apply spares_whenOpen
  intro later state seen _
  rw [Transport.watched_write]
  rcases transport.write turn buffer state with ⟨answer, next⟩
  cases answer with
  | pending => exact spares_one rfl
  | done count => exact spares_one rfl
  | failed error => exact spares_one rfl

/-- A write while no emission is on its way makes no shutdown. -/
theorem spares_writeFreshBy (buffer : Bytes) (fragmenter : Fragmenter) (state : σ)
    (log : List Contact) :
    Spares log (writeFreshBy (transport.watched .send) (transport.watched .pass) turn buffer
      fragmenter (state, log)).2.2.2 := by
  apply spares_whenOpen
  intro later state seen opened
  by_cases empty : buffer = []
  · rw [if_pos empty]
    exact spares_refl seen
  · rw [if_neg empty]
    have past : later.link ≠ .connecting := by
      rw [opened]
      exact fun same => by cases same
    cases inspect buffer with
    | clientHello header body rest => exact spares_emit (by exact past) _ state seen
    | notClientHello => exact spares_writeThrough buffer _ state seen
    | incomplete => exact spares_writeThrough buffer _ state seen

/-- A write makes no shutdown. -/
theorem spares_writeBy (buffer : Bytes) (regular : Regular fragmenter) (state : σ)
    (log : List Contact) :
    Spares log (writeBy (transport.watched .send) (transport.watched .pass) turn buffer fragmenter
      (state, log)).2.2.2 := by
  rw [writeBy]
  cases phase : fragmenter.phase with
  | inspecting => exact spares_writeFreshBy buffer fragmenter state log
  | passthrough => exact spares_writeThrough buffer fragmenter state log
  | emitting emission =>
    have emitted : Spares log
        (emit (transport.watched .send) turn fragmenter emission (state, log)).2.2.2 :=
      spares_emit (regular.past phase) emission state log
    dsimp only
    generalize emit (transport.watched .send) turn fragmenter emission (state, log) = outcome
      at emitted
    obtain ⟨answer, later, next, seen⟩ := outcome
    cases answer with
    | pending => exact emitted
    | failed error => exact emitted
    | done count =>
      dsimp only
      by_cases same : emission.origin = buffer
      · rw [if_pos same]
        exact emitted
      · rw [if_neg same]
        exact emitted.trans (spares_writeFreshBy buffer later next seen)

/-- Only a shutdown makes one. -/
theorem spares_answer {call : Call} (other : call ≠ .shutdown) (regular : Regular fragmenter)
    (state : σ) (log : List Contact) :
    Spares log ((watched transport).answer turn call (fragmenter, state, log)).2.2.2 := by
  cases call with
  | write buffer => exact spares_writeBy buffer regular state log
  | read room => exact spares_whenOpen .pass (fun _ _ seen _ => spares_one rfl) _ _ _
  | flush => exact spares_whenOpen .pass (fun _ _ seen _ => spares_one rfl) _ _ _
  | shutdown => exact absurd rfl other

/-! ## Shutdowns -/

/-- What a shutdown does to a fragmenter, its transport and the contacts made so far. -/
inductive Shuts (transport : Transport σ) (turn : Turn) :
    Fragmenter × σ × List Contact → Answer Unit → Fragmenter × σ × List Contact → Prop where
  /-- The transport is not ready: the fragmenter is as it was. -/
  | pending (fragmenter : Fragmenter) (state next : σ) (log : List Contact)
      (opened : fragmenter.link = .opened)
      (asked : transport.shutdown turn state = (.pending, next)) :
      Shuts transport turn (fragmenter, state, log) .pending
        (fragmenter, next, log ++ [.shutdown .pending])
  /-- The transport answers, be it with an error: the connection is closed. -/
  | complete (fragmenter : Fragmenter) (answer : Answer Unit) (state next : σ)
      (log : List Contact) (opened : fragmenter.link = .opened)
      (asked : transport.shutdown turn state = (answer, next)) (ready : answer ≠ .pending) :
      Shuts transport turn (fragmenter, state, log) answer
        ({ fragmenter with link := .closed }, next, log ++ [.shutdown answer])
  /-- The transport is still connecting: the connection is closed and the connecting given up, with
  nothing asked of the transport. -/
  | abandoned (fragmenter : Fragmenter) (state : σ) (log : List Contact)
      (connecting : fragmenter.link = .connecting) :
      Shuts transport turn (fragmenter, state, log) (.done ())
        ({ fragmenter with link := .closed }, state, log)
  /-- The connection is over already: nothing is left to do. -/
  | late (fragmenter : Fragmenter) (error : IoError) (state : σ) (log : List Contact)
      (refusal : fragmenter.link.refusal = some error) :
      Shuts transport turn (fragmenter, state, log) (.done ()) (fragmenter, state, log)

/-- A shutdown is one of these. -/
theorem shuts_shutdown (fragmenter : Fragmenter) (state : σ) (log : List Contact) :
    Shuts transport turn (fragmenter, state, log)
      (shutdown (transport.watched .pass) turn fragmenter (state, log)).1
      (shutdown (transport.watched .pass) turn fragmenter (state, log)).2 := by
  rw [shutdown]
  cases link : fragmenter.link with
  | opened =>
    dsimp only
    rw [Transport.watched_shutdown]
    rcases asked : transport.shutdown turn state with ⟨answer, next⟩
    cases answer with
    | pending => exact .pending fragmenter state next log link asked
    | done result =>
      exact .complete fragmenter _ state next log link asked fun same => by cases same
    | failed error =>
      exact .complete fragmenter _ state next log link asked fun same => by cases same
  | connecting => exact .abandoned fragmenter state log link
  | failed error => exact .late fragmenter error state log (by rw [link, Link.refusal])
  | closed => exact .late fragmenter closedError state log (by rw [link, Link.refusal])

/-! ## Calls on a closed connection -/

/-- What a call shows after a connection was closed, when `closed` is how that left it. -/
structure Silent (closed : Fragmenter × σ × List Contact)
    (entry : Exchange × Fragmenter × σ × List Contact) : Prop where
  /-- Nothing reaches the transport. -/
  untouched : entry.2.2 = closed.2
  /-- The connection stays closed. -/
  lasting : entry.2.1.link = .closed
  /-- The call is refused, or is a shutdown that succeeds, or a write that waits for the end of a
  pause. -/
  refused : entry.1.answer = entry.1.call.refusal closedError ∨
    ∃ buffer stop, entry.1 = ⟨.write buffer, .pending⟩ ∧ entry.2.1.alarm = some stop

/-- A call on a closed connection is silent. -/
theorem silent_answer (call : Call) (closed : fragmenter.link = .closed)
    (regular : Regular fragmenter) (state : σ) (log : List Contact) :
    Silent (fragmenter, state, log)
      (⟨call, ((watched transport).answer turn call (fragmenter, state, log)).1⟩,
        ((watched transport).answer turn call (fragmenter, state, log)).2) := by
  have refusal : fragmenter.link.refusal = some closedError := by rw [closed, Link.refusal]
  cases call with
  | write buffer =>
    obtain ⟨answer, next, written, kept, -, answered⟩ :=
      @writeBy_of_refusal _ turn _ (transport.watched .send) (transport.watched .pass) closedError
        buffer refusal regular (state, log)
    rw [show (watched transport).answer turn (.write buffer) (fragmenter, state, log) =
      (answer, next, state, log) from written]
    refine ⟨rfl, kept.trans closed, ?_⟩
    rcases answered with rfl | ⟨rfl, stop, alarm, -⟩
    · exact .inl rfl
    · exact .inr ⟨buffer, stop, rfl, alarm⟩
  | read room =>
    rw [show (watched transport).answer turn (.read room) (fragmenter, state, log) =
      (.failed closedError, fragmenter, state, log) from whenOpen_of_refusal refusal _ _]
    exact ⟨rfl, closed, .inl rfl⟩
  | flush =>
    rw [show (watched transport).answer turn .flush (fragmenter, state, log) =
      (.failed closedError, fragmenter, state, log) from whenOpen_of_refusal refusal _ _]
    exact ⟨rfl, closed, .inl rfl⟩
  | shutdown =>
    have done : shutdown (transport.watched .pass) turn fragmenter (state, log) =
        (.done (), fragmenter, state, log) := by rw [shutdown, closed]
    rw [show (watched transport).answer turn .shutdown (fragmenter, state, log) =
      (.done (), fragmenter, state, log) from done]
    exact ⟨rfl, closed, .inl rfl⟩

/-- So is every call of a run. -/
theorem silent_trace (calls : List (Turn × Call)) (closed : fragmenter.link = .closed)
    (regular : Regular fragmenter) (state : σ) (log : List Contact) :
    ∀ entry ∈ (watched transport).trace calls (fragmenter, state, log),
      Silent (fragmenter, state, log) entry := by
  induction calls generalizing fragmenter with
  | nil => exact fun entry mem => by cases mem
  | cons first calls ih =>
    obtain ⟨turn, call⟩ := first
    have silent := @silent_answer _ transport turn _ call closed regular state log
    have regularLater := @regular_watched_answer _ transport turn _ call regular state log
    rw [Stream.trace]
    generalize (watched transport).answer turn call (fragmenter, state, log) = outcome
      at silent regularLater
    obtain ⟨answer, later, left⟩ := outcome
    obtain rfl : left = (state, log) := silent.untouched
    refine List.forall_mem_cons.mpr ⟨silent, fun entry mem => ?_⟩
    have later := ih silent.lasting regularLater entry mem
    exact ⟨later.untouched, later.lasting, later.refused⟩

/-! ## Runs -/

/-- How a connection and the contacts made so far stand between two calls. -/
structure Parting (fragmenter : Fragmenter) (log : List Contact) : Prop where
  /-- The fragmenter is regular. -/
  regular : Regular fragmenter
  /-- Until the connection is closed, no shutdown was completed. -/
  unended : fragmenter.link ≠ .closed → ∀ contact ∈ log, contact.completes = false
  /-- Nothing was asked of the transport after a shutdown was completed. -/
  final : ∀ contact ∈ log.dropLast, contact.completes = false

/-- A connection with contacts of which none completes a shutdown. -/
theorem parting_of_none (regular : Regular fragmenter)
    (none : ∀ contact ∈ log, contact.completes = false) : Parting fragmenter log :=
  ⟨regular, fun _ => none,
    fun contact mem => none contact ((List.dropLast_sublist log).subset mem)⟩

/-- A connection with more contacts, none of which is a shutdown. -/
theorem parting_of_spares {seen : List Contact} (regular : Regular fragmenter)
    (unended : ∀ contact ∈ log, contact.completes = false) (spares : Spares log seen) :
    Parting fragmenter seen := by
  obtain ⟨contacts, rfl, others⟩ := spares
  apply parting_of_none regular
  exact List.forall_mem_append.mpr
    ⟨unended, fun contact mem => Contact.completes_of_spares (others contact mem)⟩

/-- A shutdown of a connection that is not closed: if it completes one, that is the last contact. -/
theorem Shuts.parting {before after : Fragmenter × σ × List Contact} {answer : Answer Unit}
    (shuts : Shuts transport turn before answer after) (regular : Regular after.1)
    (unended : ∀ contact ∈ before.2.2, contact.completes = false) :
    Parting after.1 after.2.2 := by
  cases shuts with
  | pending fragmenter state next log opened asked =>
    apply parting_of_none regular
    exact List.forall_mem_append.mpr ⟨unended, List.forall_mem_singleton.mpr rfl⟩
  | complete fragmenter answer state next log opened asked ready =>
    refine ⟨regular, fun unclosed => absurd rfl unclosed, ?_⟩
    rw [List.dropLast_concat]
    exact unended
  | abandoned fragmenter state log connecting =>
    exact parting_of_spares regular unended (spares_refl log)
  | late fragmenter error state log refusal =>
    exact parting_of_spares regular unended (spares_refl log)

/-- Every call leaves a connection and its contacts so. -/
theorem parting_answer (call : Call) (parting : Parting fragmenter log) (state : σ) :
    Parting ((watched transport).answer turn call (fragmenter, state, log)).2.1
      ((watched transport).answer turn call (fragmenter, state, log)).2.2.2 := by
  have regular : Regular ((watched transport).answer turn call (fragmenter, state, log)).2.1 :=
    regular_watched_answer call parting.regular state log
  by_cases closed : fragmenter.link = .closed
  · have silent := @silent_answer _ transport turn _ call closed parting.regular state log
    have untouched := silent.untouched
    have lasting := silent.lasting
    generalize (watched transport).answer turn call (fragmenter, state, log) = outcome
      at regular untouched lasting
    obtain ⟨answer, later, left⟩ := outcome
    obtain rfl : left = (state, log) := untouched
    exact ⟨regular, fun unclosed => absurd lasting unclosed, parting.final⟩
  · have unended := parting.unended closed
    by_cases shutting : call = .shutdown
    · subst shutting
      exact (shuts_shutdown fragmenter state log).parting regular unended
    · exact parting_of_spares regular unended (spares_answer shutting parting.regular state log)

/-- So does every run, after each of its calls and at its end. -/
theorem parting_trace (calls : List (Turn × Call)) (parting : Parting fragmenter log) (state : σ) :
    (∀ entry ∈ (watched transport).trace calls (fragmenter, state, log),
      Parting entry.2.1 entry.2.2.2) ∧
    Parting ((watched transport).finish calls (fragmenter, state, log)).1
      ((watched transport).finish calls (fragmenter, state, log)).2.2 := by
  induction calls generalizing fragmenter state log with
  | nil => exact ⟨fun entry mem => (by cases mem), parting⟩
  | cons first calls ih =>
    obtain ⟨turn, call⟩ := first
    have next := @parting_answer _ transport turn _ _ call parting state
    rw [Stream.trace, Stream.finish]
    generalize (watched transport).answer turn call (fragmenter, state, log) = outcome at next
    obtain ⟨answer, later, left, seen⟩ := outcome
    obtain ⟨each, last⟩ := ih next left
    exact ⟨List.forall_mem_cons.mpr ⟨next, each⟩, last⟩

/-- The end of a connection. Whatever calls are made on a fragmenter, made for a connected stream
or for one that is still connecting, and however the transport answers: nothing is asked of the
transport after a shutdown that it has answered. A shutdown asks it at most once, and changes
nothing if the transport leaves it pending; otherwise the connection is closed, unless it has
failed before, and every later call is silent. -/
theorem shutdown_final (transport : Transport σ) (policy : Policy) (entropy : Entropy)
    (made : fragmenter = opened policy entropy ∨ fragmenter = connecting policy entropy)
    (calls : List (Turn × Call)) (state : σ) :
    ((watched transport).trace calls (fragmenter, state, [])).map
        (fun (exchange, after) => (exchange, after.1, after.2.1)) =
      (stream transport).trace calls (fragmenter, state) ∧
    (∀ entry ∈ (watched transport).trace calls (fragmenter, state, []),
      ∀ contact ∈ entry.2.2.2.dropLast, contact.completes = false) ∧
    ∀ early turn late,
      let before := (watched transport).finish early (fragmenter, state, [])
      let (answer, after) := (watched transport).answer turn .shutdown before
      Shuts transport turn before answer after ∧
        (after.1.link = .closed →
          ∀ entry ∈ (watched transport).trace late after, Silent after entry) := by
  have regular : Regular fragmenter := by
    rcases made with rfl | rfl
    · exact regular_opened policy entropy
    · exact regular_connecting policy entropy
  have start : Parting fragmenter [] :=
    ⟨regular, fun unclosed contact mem => (by cases mem), fun contact mem => by cases mem⟩
  refine ⟨forget_trace calls fragmenter state [], ?_, ?_⟩
  · exact fun entry mem => ((parting_trace calls start state).1 entry mem).final
  · intro early turn late
    have reached := (@parting_trace _ transport _ _ early start state).2
    dsimp only
    generalize (watched transport).finish early (fragmenter, state, []) = before at reached
    obtain ⟨found, middle, log⟩ := before
    refine ⟨shuts_shutdown found middle log, fun closed => ?_⟩
    exact silent_trace late closed
      (regular_watched_answer .shutdown reached.regular middle log) _ _

/-- A stream that puts a shutdown off once, and then fails it. -/
def reluctant : Script := { shutdowns := [.pending, .failed ⟨.brokenPipe, "peer gone"⟩] }

/-- The second shutdown fails and closes the connection all the same: nothing reaches the stream
any more, whichever call is made, while the emission that it interrupts is written again. -/
theorem shutdown_final_reluctant :
    let policy : Policy := ⟨.fixed 2, .fixed 5, false⟩
    let fragmenter := opened policy ⟨id, 0⟩
    let hello : Bytes := [22, 3, 1, 0, 4, 1, 0, 0, 0]
    let ending := [(⟨1, 0⟩, .shutdown), (⟨2, 0⟩, .shutdown), (⟨3, 0⟩, .write [1]), (⟨4, 0⟩, .read 4),
      (⟨5, 0⟩, .shutdown)]
    let before := (watched Script.transport).finish [(⟨0, 0⟩, .write hello), (⟨1, 0⟩, .shutdown)]
      (fragmenter, reluctant, [])
    let (answer, after) := (watched Script.transport).answer ⟨2, 0⟩ .shutdown before
    (fragmenter = opened policy ⟨id, 0⟩ ∨ fragmenter = connecting policy ⟨id, 0⟩) ∧
      Shuts Script.transport ⟨2, 0⟩ before answer after ∧
      (after.1.link = .closed → ∀ entry ∈ (watched Script.transport).trace
        [(⟨3, 0⟩, .write hello), (⟨9, 0⟩, .write hello)] after, Silent after entry) ∧
      ((watched Script.transport).trace ((⟨0, 0⟩, .write [1]) :: ending)
          (fragmenter, reluctant, [])).map (fun entry => (entry.2.1.link, entry.2.2.2.length)) =
        [(.opened, 1), (.opened, 2), (.closed, 3), (.closed, 3), (.closed, 3), (.closed, 3)] :=
  have final := shutdown_final Script.transport ⟨.fixed 2, .fixed 5, false⟩ ⟨id, 0⟩ (.inl rfl) []
    reluctant
  have closing := final.2.2 [(⟨0, 0⟩, .write [22, 3, 1, 0, 4, 1, 0, 0, 0]), (⟨1, 0⟩, .shutdown)]
    ⟨2, 0⟩ [(⟨3, 0⟩, .write [22, 3, 1, 0, 4, 1, 0, 0, 0]),
      (⟨9, 0⟩, .write [22, 3, 1, 0, 4, 1, 0, 0, 0])]
  ⟨.inl rfl, closing.1, closing.2, by decide⟩

end Tls.Fragmenter

end Outbound
