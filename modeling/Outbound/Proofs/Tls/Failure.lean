import Outbound.Proofs.Tls.Sending
import Outbound.Proofs.Tls.Watch
import Outbound.Stream.Script

/-!
# Sticky failure

A connection fails with the first fatal contact with its transport, and with nothing else. That
contact is the last one ever made: the call that made it and every later call but a shutdown answer
with the error of the failure, a shutdown succeeds, and all of them leave everything as it is.
-/
namespace Outbound

/-- The error with which a contact ends the connection: the connecting or a write has failed, or
an emission is not taken on. Reads, flushes and shutdowns end nothing, nor does a wait. -/
def Contact.fatal : Contact → Option IoError
  | .connect (.failed error) => some error
  | .send _ (.failed error) => some error
  | .send _ (.done 0) => some Tls.Fragmenter.stalledError
  | .pass _ (.failed error) => some error
  | _ => none

/-- What a call answers after a failure. -/
def Call.refusal (error : IoError) : (call : Call) → Answer call.Result
  | .write _ => .failed error
  | .read _ => .failed error
  | .flush => .failed error
  | .shutdown => .done ()

namespace Tls

namespace Fragmenter

variable {σ α : Type}

/-- No contact made so far was fatal. -/
def Harmless (log : List Contact) : Prop := ∀ contact ∈ log, contact.fatal = none

/-- One more contact that is not fatal. -/
theorem harmless_append {log : List Contact} (harmless : Harmless log) {contact : Contact}
    (mild : contact.fatal = none) : Harmless (log ++ [contact]) :=
  List.forall_mem_append.mpr ⟨harmless, List.forall_mem_singleton.mpr mild⟩

/-- How a connection stands that has not failed. -/
structure Well (fragmenter : Fragmenter) (log : List Contact) : Prop where
  /-- It has not failed. -/
  unfailed : fragmenter.lastError = none
  /-- Nothing is on its way before the transport is connected. -/
  early : fragmenter.link = .connecting → fragmenter.phase = .inspecting
  /-- No contact was fatal. -/
  harmless : Harmless log

/-- How a connection stands that has failed. -/
structure Over (error : IoError) (fragmenter : Fragmenter) (log : List Contact) : Prop where
  /-- It has failed. -/
  failed : fragmenter.link = .failed error
  /-- Nothing is on its way. -/
  idle : ∀ emission, fragmenter.phase ≠ .emitting emission
  /-- Only the last contact was fatal. -/
  last : ∃ earlier contact, log = earlier ++ [contact] ∧ Harmless earlier ∧
    contact.fatal = some error

/-- How a call ends on a connection that had not failed: it has not failed either, or it answers
with the error of its failure. -/
def Ends (outcome : Answer α × Fragmenter × σ × List Contact) : Prop :=
  Well outcome.2.1 outcome.2.2.2 ∨
    ∃ error, outcome.1 = .failed error ∧ Over error outcome.2.1 outcome.2.2.2

variable {transport : Transport σ} {turn : Turn} {fragmenter : Fragmenter} {log : List Contact}

/-! ## Calls on a connection that has not failed -/

/-- A connection with an open link has not failed. -/
theorem well_of_opened (opened : fragmenter.link = .opened) (harmless : Harmless log) :
    Well fragmenter log where
  unfailed := by rw [lastError, opened]
  early connecting := by
    rw [opened] at connecting
    cases connecting
  harmless := harmless

/-- A connection that is shut down has not failed. -/
theorem well_of_closed (closed : fragmenter.link = .closed) (harmless : Harmless log) :
    Well fragmenter log where
  unfailed := by rw [lastError, closed]
  early connecting := by
    rw [closed] at connecting
    cases connecting
  harmless := harmless

/-- A fatal contact after harmless ones, and what it makes of a connection. -/
theorem over_of_fatal {contact : Contact} {error : IoError} (harmless : Harmless log)
    (fatal : contact.fatal = some error) (failed : fragmenter.link = .failed error)
    (idle : ∀ emission, fragmenter.phase ≠ .emitting emission) :
    Over error fragmenter (log ++ [contact]) :=
  ⟨failed, idle, log, contact, rfl, harmless, fatal⟩

/-- A fatal write after harmless contacts. -/
theorem over_fail {contact : Contact} {error : IoError} (fragmenter : Fragmenter)
    (harmless : Harmless log) (fatal : contact.fatal = some error) :
    Over error (fragmenter.fail error) (log ++ [contact]) := by
  apply over_of_fatal harmless fatal rfl
  intro emission sending
  cases sending

/-- A call that waits for the connecting ends as the call does on an open link. -/
theorem ends_whenOpen (offer : Bytes → Answer Nat → Contact)
    {call : Fragmenter → σ × List Contact → Answer α × Fragmenter × σ × List Contact}
    (ends : ∀ later state seen, later.link = .opened → Harmless seen →
      Ends (call later (state, seen)))
    (well : Well fragmenter log) (state : σ) :
    Ends (whenOpen (transport.watched offer) turn fragmenter (state, log) call) := by
  cases link : fragmenter.link with
  | connecting =>
    have early : ∀ emission, fragmenter.phase ≠ .emitting emission := by
      intro emission sending
      rw [well.early link] at sending
      cases sending
    rw [whenOpen, ensureOpen, link]
    dsimp only
    rw [Transport.watched_connect]
    cases (transport.connect turn state).1 with
    | pending =>
      exact .inl ⟨well.unfailed, well.early, harmless_append well.harmless rfl⟩
    | done result => exact ends _ _ _ rfl (harmless_append well.harmless rfl)
    | failed error => exact .inr ⟨error, rfl, over_of_fatal well.harmless rfl rfl early⟩
  | opened =>
    rw [whenOpen_of_opened link]
    exact ends fragmenter state log link well.harmless
  | failed error =>
    have unfailed := well.unfailed
    rw [lastError, link] at unfailed
    cases unfailed
  | closed =>
    have refusal : fragmenter.link.refusal = some closedError := by rw [link, Link.refusal]
    rw [whenOpen_of_refusal refusal]
    exact .inl well

/-- An emission on an open link goes on until a contact is fatal, or it is put off or out. -/
theorem ends_emit {fragmenter : Fragmenter} {log : List Contact}
    (opened : fragmenter.link = .opened) (emission : Emission) (harmless : Harmless log)
    (state : σ) :
    Ends (emit (transport.watched .send) turn fragmenter emission (state, log)) := by
  have opened' : { fragmenter with phase := .emitting emission.resume }.link = .opened := opened
  rw [emit]
  split
  · exact .inl (well_of_opened opened harmless)
  · split
    · dsimp only
      rw [ensureOpen_of_opened opened']
      dsimp only
      rw [Transport.watched_write]
      rcases transport.write turn (emission.records[emission.index].drop emission.offset) state
        with ⟨answer, next⟩
      cases answer with
      | pending => exact .inl (well_of_opened opened (harmless_append harmless rfl))
      | failed error =>
        exact .inr ⟨error, rfl, over_fail _ harmless rfl⟩
      | done count =>
        cases count with
        | zero =>
          exact .inr ⟨stalledError, rfl, over_fail _ harmless rfl⟩
        | succ count =>
          -- The transport took an octet, so less is left to send: the recursion is on that.
          exact ends_emit (by exact opened) _ (harmless_append harmless rfl) next
    · exact .inl (well_of_opened opened harmless)
termination_by emission.left
decreasing_by exact Emission.left_advance emission.resume _ _ _ _ (by assumption)

/-- An emission after a shutdown is refused, or is out already, and makes no contact. -/
theorem ends_emit_of_closed (closed : fragmenter.link = .closed) (emission : Emission)
    (harmless : Harmless log) (state : σ) :
    Ends (emit (transport.watched .send) turn fragmenter emission (state, log)) := by
  have refusal : { fragmenter with phase := .emitting emission.resume }.link.refusal =
      some closedError := congrArg Link.refusal closed
  rw [emit]
  split
  · exact .inl (well_of_closed closed harmless)
  · split
    · dsimp only
      rw [ensureOpen_of_refusal refusal]
      exact .inl (well_of_closed closed harmless)
    · exact .inl (well_of_closed closed harmless)

/-- A buffer that is let through. -/
theorem ends_writeThrough (buffer : Bytes) (well : Well fragmenter log) (state : σ) :
    Ends (writeThrough (transport.watched .pass) turn buffer fragmenter (state, log)) := by
  apply ends_whenOpen _ _ well
  intro later state seen opened harmless
  rw [Transport.watched_write]
  rcases transport.write turn buffer state with ⟨answer, next⟩
  cases answer with
  | pending => exact .inl (well_of_opened opened (harmless_append harmless rfl))
  | done count => exact .inl (well_of_opened opened (harmless_append harmless rfl))
  | failed error =>
    exact .inr ⟨error, rfl, over_fail _ harmless rfl⟩

/-- A write while no emission is on its way. -/
theorem ends_writeFreshBy (buffer : Bytes) (well : Well fragmenter log) (state : σ) :
    Ends (writeFreshBy (transport.watched .send) (transport.watched .pass) turn buffer fragmenter
      (state, log)) := by
  apply ends_whenOpen _ _ well
  intro later state seen opened harmless
  by_cases empty : buffer = []
  · rw [if_pos empty]
    exact .inl (well_of_opened opened harmless)
  · rw [if_neg empty]
    have turned : Well { later with phase := .passthrough } seen := well_of_opened opened harmless
    cases inspect buffer with
    | clientHello header body rest => exact ends_emit (by exact opened) _ harmless state
    | notClientHello => exact ends_writeThrough buffer turned state
    | incomplete => exact ends_writeThrough buffer turned state

/-- A write. -/
theorem ends_writeBy (buffer : Bytes) (well : Well fragmenter log) (state : σ) :
    Ends (writeBy (transport.watched .send) (transport.watched .pass) turn buffer fragmenter
      (state, log)) := by
  rw [writeBy]
  cases phase : fragmenter.phase with
  | inspecting => exact ends_writeFreshBy buffer well state
  | passthrough => exact ends_writeThrough buffer well state
  | emitting emission =>
    have emitted : Ends (emit (transport.watched .send) turn fragmenter emission (state, log)) := by
      cases link : fragmenter.link with
      | connecting =>
        have inspecting := well.early link
        rw [phase] at inspecting
        cases inspecting
      | opened => exact ends_emit link emission well.harmless state
      | failed error =>
        have unfailed := well.unfailed
        rw [lastError, link] at unfailed
        cases unfailed
      | closed => exact ends_emit_of_closed link emission well.harmless state
    dsimp only
    generalize emit (transport.watched .send) turn fragmenter emission (state, log) = outcome
      at emitted
    obtain ⟨answer, later, next, seen⟩ := outcome
    cases answer with
    | pending => exact emitted
    | failed error => exact emitted
    | done count =>
      dsimp only
      by_cases same : emission.origin = buffer
      · rw [if_pos same]
        exact emitted
      · rw [if_neg same]
        obtain wellLater | ⟨error, failed, isOver⟩ := emitted
        · exact ends_writeFreshBy buffer wellLater next
        · cases failed

/-- A shutdown never fails the connection. -/
theorem well_shutdown (offer : Bytes → Answer Nat → Contact) (well : Well fragmenter log)
    (state : σ) :
    Well (shutdown (transport.watched offer) turn fragmenter (state, log)).2.1
      (shutdown (transport.watched offer) turn fragmenter (state, log)).2.2.2 := by
  rw [shutdown]
  cases link : fragmenter.link with
  | opened =>
    have harmless : ∀ answer, Harmless (log ++ [.shutdown answer]) := fun answer =>
      harmless_append well.harmless rfl
    dsimp only
    rw [Transport.watched_shutdown]
    rcases transport.shutdown turn state with ⟨answer, next⟩
    cases answer with
    | pending => exact well_of_opened link (harmless _)
    | done result => exact well_of_closed rfl (harmless _)
    | failed error => exact well_of_closed rfl (harmless _)
  | connecting => exact well_of_closed rfl well.harmless
  | failed error => exact well
  | closed => exact well

/-- Any call: the connection has not failed, or the call answers with the error of its failure. -/
theorem well_or_over_answer (call : Call) (well : Well fragmenter log) (state : σ)
    {answer : Answer call.Result} {later : Fragmenter} {next : σ} {seen : List Contact}
    (answered : (watched transport).answer turn call (fragmenter, state, log) =
      (answer, later, next, seen)) :
    Well later seen ∨ ∃ error, answer = call.refusal error ∧ Over error later seen := by
  cases call with
  | write buffer =>
    have ends : Ends (writeBy (transport.watched .send) (transport.watched .pass) turn buffer
        fragmenter (state, log)) := ends_writeBy buffer well state
    rw [show writeBy _ _ turn buffer fragmenter (state, log) = _ from answered] at ends
    exact ends
  | read room =>
    have ends : Ends (read (transport.watched .pass) turn room fragmenter (state, log)) := by
      apply ends_whenOpen _ _ well
      intro later state seen opened harmless
      exact .inl (well_of_opened opened (harmless_append harmless rfl))
    rw [show read _ turn room fragmenter (state, log) = _ from answered] at ends
    exact ends
  | flush =>
    have ends : Ends (flush (transport.watched .pass) turn fragmenter (state, log)) := by
      apply ends_whenOpen _ _ well
      intro later state seen opened harmless
      exact .inl (well_of_opened opened (harmless_append harmless rfl))
    rw [show flush _ turn fragmenter (state, log) = _ from answered] at ends
    exact ends
  | shutdown =>
    have kept : Well (shutdown (transport.watched .pass) turn fragmenter (state, log)).2.1
        (shutdown (transport.watched .pass) turn fragmenter (state, log)).2.2.2 :=
      well_shutdown .pass well state
    rw [show shutdown _ turn fragmenter (state, log) = _ from answered] at kept
    exact .inl kept

/-! ## Calls on a connection that has failed -/

variable {error : IoError}

/-- A call after a failure is refused, or is a shutdown that succeeds, and changes nothing. -/
theorem answer_of_over (call : Call) (isOver : Over error fragmenter log) (state : σ) :
    (watched transport).answer turn call (fragmenter, state, log) =
      (call.refusal error, fragmenter, state, log) := by
  have refusal : fragmenter.link.refusal = some error := by rw [isOver.failed, Link.refusal]
  cases call with
  | write buffer =>
    have written : writeBy (transport.watched .send) (transport.watched .pass) turn buffer
        fragmenter (state, log) = (.failed error, fragmenter, state, log) := by
      rw [writeBy]
      cases phase : fragmenter.phase with
      | inspecting => exact whenOpen_of_refusal refusal _ _
      | passthrough => exact whenOpen_of_refusal refusal _ _
      | emitting emission => exact absurd phase (isOver.idle emission)
    exact written
  | read room => exact whenOpen_of_refusal refusal _ _
  | flush => exact whenOpen_of_refusal refusal _ _
  | shutdown =>
    have done : shutdown (transport.watched .pass) turn fragmenter (state, log) =
        (.done (), fragmenter, state, log) := by rw [shutdown, isOver.failed]
    exact done

/-- So is every call of a run. -/
theorem trace_of_over (calls : List (Turn × Call)) (isOver : Over error fragmenter log)
    (state : σ) :
    ∀ entry ∈ (watched transport).trace calls (fragmenter, state, log),
      entry.1.answer = entry.1.call.refusal error ∧ entry.2 = (fragmenter, state, log) := by
  induction calls with
  | nil => exact fun entry mem => nomatch mem
  | cons first calls ih =>
    obtain ⟨turn, call⟩ := first
    rw [Stream.trace, answer_of_over call isOver state]
    exact List.forall_mem_cons.mpr ⟨⟨rfl, rfl⟩, ih⟩

/-! ## Runs -/

/-- What a run shows of a failure after one of its calls: the call with its answer, and how it
leaves the fragmenter, the transport and the contacts made so far. -/
structure Explained (entry : Exchange × Fragmenter × σ × List Contact) : Prop where
  /-- The error kept is that of the first fatal contact, and there is none without one. -/
  cause : entry.2.1.lastError = entry.2.2.2.findSome? Contact.fatal
  /-- No contact is made after a fatal one. -/
  final : Harmless entry.2.2.2.dropLast
  /-- Once an error is kept, it is what the call answers, be it the call that has failed or a later
  one; only a shutdown succeeds. -/
  refused : ∀ error, entry.2.1.lastError = some error →
    entry.1.answer = entry.1.call.refusal error

/-- What a whole run shows of a failure. -/
structure Sticky (trace : List (Exchange × Fragmenter × σ × List Contact)) : Prop where
  /-- Each call is explained. -/
  explained : ∀ entry ∈ trace, Explained entry
  /-- Nothing changes after a failure: not the error kept, not the transport, not the contacts. -/
  lasting : trace.Pairwise fun earlier later =>
    earlier.2.1.lastError ≠ none → later.2 = earlier.2

/-- A call that leaves a connection that has not failed. -/
theorem explained_of_well (exchange : Exchange) (well : Well fragmenter log) (state : σ) :
    Explained (exchange, fragmenter, state, log) where
  cause := by rw [well.unfailed, List.findSome?_eq_none_iff.mpr well.harmless]
  final := fun contact mem => well.harmless contact ((List.dropLast_sublist log).subset mem)
  refused := fun error kept => by
    rw [well.unfailed] at kept
    cases kept

/-- A call that leaves a connection that has failed. -/
theorem explained_of_over {exchange : Exchange} (isOver : Over error fragmenter log)
    (refused : exchange.answer = exchange.call.refusal error) (state : σ) :
    Explained (exchange, fragmenter, state, log) := by
  have kept : fragmenter.lastError = some error := by rw [lastError, isOver.failed]
  obtain ⟨earlier, contact, rfl, harmless, fatal⟩ := isOver.last
  constructor
  case cause =>
    have none : earlier.findSome? Contact.fatal = none := List.findSome?_eq_none_iff.mpr harmless
    rw [kept, List.findSome?_append, none, List.findSome?_singleton, fatal]
    rfl
  case final =>
    rw [List.dropLast_concat]
    exact harmless
  case refused =>
    intro other same
    rw [kept] at same
    cases same
    exact refused

/-- One more call before a run. -/
theorem sticky_cons {entry : Exchange × Fragmenter × σ × List Contact}
    {trace : List (Exchange × Fragmenter × σ × List Contact)} (explained : Explained entry)
    (lasting : entry.2.1.lastError ≠ none → ∀ later ∈ trace, later.2 = entry.2)
    (sticky : Sticky trace) : Sticky (entry :: trace) where
  explained := List.forall_mem_cons.mpr ⟨explained, sticky.explained⟩
  lasting := List.pairwise_cons.mpr
    ⟨fun later mem failed => lasting failed later mem, sticky.lasting⟩

/-- Calls after a failure. -/
theorem sticky_of_over (calls : List (Turn × Call)) (isOver : Over error fragmenter log)
    (state : σ) : Sticky ((watched transport).trace calls (fragmenter, state, log)) := by
  induction calls with
  | nil => exact ⟨fun _ mem => (nomatch mem), .nil⟩
  | cons first calls ih =>
    obtain ⟨turn, call⟩ := first
    rw [Stream.trace, answer_of_over call isOver state]
    apply sticky_cons
    · exact explained_of_over isOver rfl state
    · exact fun _ later mem => (trace_of_over calls isOver state later mem).2
    · exact ih

/-- Calls on a connection that has not failed. -/
theorem sticky_of_well (calls : List (Turn × Call)) (well : Well fragmenter log) (state : σ) :
    Sticky ((watched transport).trace calls (fragmenter, state, log)) := by
  induction calls generalizing fragmenter state log with
  | nil => exact ⟨fun _ mem => (nomatch mem), .nil⟩
  | cons first calls ih =>
    obtain ⟨turn, call⟩ := first
    rcases answered : (watched transport).answer turn call (fragmenter, state, log) with
      ⟨answer, later, next, seen⟩
    rw [Stream.trace, answered]
    -- The first fatal contact ends the induction: what follows is a run after a failure.
    obtain wellLater | ⟨error, refused, isOver⟩ := well_or_over_answer call well state answered
    · apply sticky_cons
      · exact explained_of_well ⟨call, answer⟩ wellLater next
      · exact fun failed => absurd wellLater.unfailed failed
      · exact ih wellLater next
    · apply sticky_cons
      · exact explained_of_over isOver refused next
      · exact fun _ entry mem => (trace_of_over calls isOver next entry mem).2
      · exact sticky_of_over calls isOver next

/-- Sticky failure. Whatever calls are made on a fragmenter, made for a connected stream or for one
that is still connecting, and however the transport answers: the connection fails just when the
transport refuses to connect or a write, or takes nothing of an emission. From then on every call
but a shutdown answers with the error of that failure, which is kept, and nothing reaches the
transport any more. -/
theorem failure_sticky (transport : Transport σ) (policy : Policy) (entropy : Entropy)
    (made : fragmenter = opened policy entropy ∨ fragmenter = connecting policy entropy)
    (calls : List (Turn × Call)) (state : σ) :
    ((watched transport).trace calls (fragmenter, state, [])).map
        (fun (exchange, after) => (exchange, after.1, after.2.1)) =
      (stream transport).trace calls (fragmenter, state) ∧
    Sticky ((watched transport).trace calls (fragmenter, state, [])) := by
  have harmless : Harmless [] := fun _ mem => nomatch mem
  refine ⟨forget_trace calls fragmenter state [], sticky_of_well calls ?_ state⟩
  rcases made with rfl | rfl
  · exact well_of_opened rfl harmless
  · exact ⟨rfl, fun _ => rfl, harmless⟩

/-- A stream that takes one write and refuses the next. -/
def brittle : Script := { writes := [.done none, .failed ⟨.brokenPipe, "peer gone"⟩] }

/-- The second write fails: its error is kept from then on, and nothing more reaches the stream. -/
theorem failure_sticky_brittle :
    let fragmenter := opened ⟨.fixed 4, .fixed 0, false⟩ ⟨id, 0⟩
    let calls := [(⟨0, 0⟩, .write [120]), (⟨1, 0⟩, .write [121]), (⟨2, 0⟩, .write [121]),
      (⟨3, 0⟩, .shutdown), (⟨4, 0⟩, .read 4)]
    let trace := (watched Script.transport).trace calls (fragmenter, brittle, [])
    let gone := some ⟨.brokenPipe, "peer gone"⟩
    (fragmenter = opened ⟨.fixed 4, .fixed 0, false⟩ ⟨id, 0⟩ ∨
        fragmenter = connecting ⟨.fixed 4, .fixed 0, false⟩ ⟨id, 0⟩) ∧
      Sticky trace ∧
      trace.map (fun entry => (entry.2.1.lastError, entry.2.2.2.length)) =
        [(none, 1), (gone, 2), (gone, 2), (gone, 2), (gone, 2)] :=
  ⟨.inl rfl, (failure_sticky Script.transport _ _ (.inl rfl) _ brittle).2, by decide⟩

end Fragmenter

end Tls

end Outbound
