import Outbound.Proofs.Stream.Run
import Outbound.Proofs.Tracker.Bookkeeping

/-!
# Calls on a tracked connection

A call on a tracked connection has two halves: its task is noted, then it is answered. Anything may
happen to the tracker between them, and between one call and the next. Streams and channels differ
in what they can be asked, where the asking tasks are noted, and which calls an abort does not stop,
so these are what a service is.
-/
namespace Outbound

/-- What a connection offers, before it is tracked. -/
structure Service {Call : Type} (Result : Call → Type) (σ : Type) where
  /-- Where the task that makes a call is noted, if it is. -/
  slot : Call → Option Slot
  /-- Whether a call is made even on an aborted connection. -/
  exempt : Call → Bool
  /-- Make a call. -/
  make : Turn → (call : Call) → σ → Answer (Result call) × σ

/-- A call and what it answered. -/
structure Response {Call : Type} (Result : Call → Type) where
  /-- The call. -/
  call : Call
  /-- Its answer. -/
  answer : Answer (Result call)

/-- What happens to a tracked connection and around it. -/
inductive Move (Call : Type) where
  /-- Something happens to the tracker. -/
  | elsewhere (op : Tracker.Op)
  /-- A call is asked for: its task is noted. -/
  | ask (turn : Turn) (call : Call)
  /-- A call is answered. -/
  | answer (turn : Turn) (call : Call)
  /-- A call that waits is given up. -/
  | giveUp (number : Nat)
  deriving DecidableEq

/-- What happens to a tracker is not the dropping of a registration, and no call on its
connection. -/
def Tracker.Op.Spares (id : Nat) : Tracker.Op → Prop
  | drop other => other ≠ id
  | note other _ _ => other ≠ id
  | leave other _ => other ≠ id
  | _ => True

instance (id : Nat) : (op : Tracker.Op) → Decidable (op.Spares id)
  | .drop other => inferInstanceAs (Decidable (other ≠ id))
  | .note other _ _ => inferInstanceAs (Decidable (other ≠ id))
  | .leave other _ => inferInstanceAs (Decidable (other ≠ id))
  | .setEnabled _ => isTrue trivial
  | .register => isTrue trivial
  | .closeAll => isTrue trivial

/-- What happens elsewhere spares a registration. -/
def Move.Spares {Call : Type} (id : Nat) : Move Call → Prop
  | elsewhere op => op.Spares id
  | _ => True

instance {Call : Type} (id : Nat) : (move : Move Call) → Decidable (move.Spares id)
  | .elsewhere op => inferInstanceAs (Decidable (op.Spares id))
  | .ask _ _ => isTrue trivial
  | .answer _ _ => isTrue trivial
  | .giveUp _ => isTrue trivial

namespace Service

variable {Call : Type} {Result : Call → Type} {σ : Type}

/-! ## Runs -/

/-- Make calls one after another: each with its answer, and the state after it. -/
def trace (service : Service Result σ) : List (Turn × Call) → σ → List (Response Result × σ)
  | [], _ => []
  | (turn, call) :: calls, state =>
    (⟨call, (service.make turn call state).1⟩, (service.make turn call state).2) ::
      trace service calls (service.make turn call state).2

/-- The state that calls leave when they are made one after another. -/
def finish (service : Service Result σ) : List (Turn × Call) → σ → σ
  | [], state => state
  | (turn, call) :: calls, state => finish service calls (service.make turn call state).2

/-- What is left of a service after an abort: the calls that it does not stop. Every other fails
and is not made. -/
def severed (service : Service Result σ) : Service Result σ where
  slot := service.slot
  exempt := service.exempt
  make turn call state :=
    if service.exempt call then service.make turn call state
    else (.failed Tracker.abortedError, state)

/-- Answer a call on a connection under a registration, if there is one. -/
def answer (service : Service Result σ) (id : Option Nat) (turn : Turn) (call : Call) :
    Tracker × σ → Answer (Result call) × Tracker × σ :=
  if service.exempt call then Tracker.unguarded (service.make turn call)
  else Tracker.answer id (service.slot call) (service.make turn call)

/-- The tracker and the connection after a move. -/
def next (service : Service Result σ) (id : Option Nat) : Move Call → Tracker × σ → Tracker × σ
  | .elsewhere op, (tracker, state) => (tracker.apply op, state)
  | .ask turn call, (tracker, state) => (tracker.ask id (service.slot call) turn, state)
  | .answer turn call, conn => (service.answer id turn call conn).2
  | .giveUp number, (tracker, state) => (tracker.giveUp id number, state)

/-- The tracker and the connection after one move after another. -/
def after (service : Service Result σ) (id : Option Nat) (moves : List (Move Call))
    (conn : Tracker × σ) : Tracker × σ :=
  moves.foldl (fun conn move => service.next id move conn) conn

/-- What is to be seen of one move after another: the answers, and the states of the connection
after them. -/
def watch (service : Service Result σ) (id : Option Nat) :
    List (Move Call) → Tracker × σ → List (Response Result × σ)
  | [], _ => []
  | .answer turn call :: moves, conn =>
    (⟨call, (service.answer id turn call conn).1⟩, (service.answer id turn call conn).2.2) ::
      watch service id moves (service.answer id turn call conn).2
  | move :: moves, conn => watch service id moves (service.next id move conn)

/-- The calls that are answered. -/
def answered : List (Move Call) → List (Turn × Call)
  | [] => []
  | .answer turn call :: moves => (turn, call) :: answered moves
  | _ :: moves => answered moves

/-- A task waits in a slot: it asked last for a call that is noted there, and that call is not
over, which can only be told of the calls that wait for the abort themselves. -/
def Waits (service : Service Result σ) (id : Nat) (moves : List (Move Call)) (conn : Tracker × σ)
    (slot : Slot) (task : Nat) : Prop :=
  ∃ first turn call last, moves = first ++ .ask turn call :: last ∧
    service.slot call = some slot ∧ turn.task = task ∧
    (∀ later other, .ask later other ∈ last → service.slot other ≠ some slot) ∧
    ∀ number, slot = .wait number → .giveUp number ∉ last ∧
      ∀ response ∈ service.watch (some id) last
          (service.after (some id) (first ++ [.ask turn call]) conn),
        service.slot response.1.call = some slot → response.1.answer = .pending

end Service

/-! ## Streams and channels -/

/-- What a stream offers. An abort does not stop its shutdown. -/
def Stream.service {σ : Type} (inner : Stream σ) : Service Call.Result σ where
  slot
    | .read _ => some .reader
    | .write _ => some .writer
    | .flush => some .writer
    | .shutdown => none
  exempt call := call = .shutdown
  make turn call := inner.answer turn call

/-- One call on a channel. -/
inductive Request where
  /-- Send a datagram. -/
  | send (datagram : Bytes)
  /-- Go on with a send that was put off. -/
  | resume (datagram : Bytes)
  /-- Receive a datagram, cut to so many bytes, or go on with a receive. -/
  | receive (number room : Nat)
  deriving DecidableEq

/-- What a call on a channel gives when it is complete. -/
def Request.Result : Request → Type
  | send _ => Nat
  | resume _ => Nat
  | receive _ _ => Bytes

namespace Channel

variable {σ : Type}

/-- What a channel offers. An abort does not stop the sends that have begun. -/
def service (inner : Channel σ) : Service Request.Result σ where
  slot
    | .receive number _ => some (.wait number)
    | _ => none
  exempt
    | .resume _ => true
    | _ => false
  make turn
    | .send datagram => inner.send turn datagram
    | .resume datagram => inner.send turn datagram
    | .receive _ room => inner.receive turn room

/-- Make one call on a channel under a registration, if there is one. -/
def answer (inner : Channel σ) (id : Option Nat) (turn : Turn) :
    (request : Request) → Tracker × σ → Answer request.Result × Tracker × σ
  | .send datagram => Tracker.send id inner turn datagram
  | .resume datagram => Tracker.resumeSend inner turn datagram
  | .receive number room => Tracker.receive id inner turn number room

end Channel

/-- A call without a slot leaves no note. -/
theorem Tracker.ask_none (tracker : Tracker) (own : Option Nat) (turn : Turn) :
    tracker.ask own none turn = tracker := by
  cases own <;> rfl

/-- A call on a tracked stream is asked for, and then answered. -/
theorem Stream.answer_tracked {σ : Type} (inner : Stream σ) (id : Option Nat) (turn : Turn)
    (call : Call) (conn : Tracker × σ) :
    (Tracker.stream id inner).answer turn call conn =
      inner.service.answer id turn call (inner.service.next id (.ask turn call) conn) := by
  cases call with
  | write buffer => rfl
  | read room => rfl
  | flush => rfl
  | shutdown =>
    have unnoted : inner.service.next id (.ask turn .shutdown) conn = conn :=
      Prod.ext (Tracker.ask_none conn.1 id turn) rfl
    rw [unnoted]
    rfl

/-- A call on a tracked channel is asked for, and then answered. -/
theorem Channel.answer_tracked {σ : Type} (inner : Channel σ) (id : Option Nat) (turn : Turn)
    (request : Request) (conn : Tracker × σ) :
    inner.answer id turn request conn =
      inner.service.answer id turn request (inner.service.next id (.ask turn request) conn) := by
  cases request with
  | send datagram => rfl
  | resume datagram =>
    have unnoted : inner.service.next id (.ask turn (.resume datagram)) conn = conn :=
      Prod.ext (Tracker.ask_none conn.1 id turn) rfl
    rw [unnoted]
    rfl
  | receive number room => rfl

/-! ## What a connection does to the tracker -/

namespace Tracker

variable {tracker later : Tracker} {id : Nat}

/-- Two trackers are the same but for the tasks that are noted. -/
structure Alike (tracker later : Tracker) : Prop where
  /-- The tables are the same. -/
  live : later.live = tracker.live
  /-- So is what has been made. -/
  next : later.next = tracker.next
  /-- So is what is aborted. -/
  aborted : ∀ id, later.isAborted id = tracker.isAborted id

theorem Alike.refl (tracker : Tracker) : Alike tracker tracker := ⟨rfl, rfl, fun _ => rfl⟩

/-- A change of what is noted. -/
theorem alike_update (tracker : Tracker) (own : Nat) (change : Registration → Registration)
    (keeps : ∀ registration, (change registration).aborted = registration.aborted) :
    Alike tracker (tracker.update own change) := by
  refine ⟨rfl, rfl, fun id => ?_⟩
  simp only [isAborted, update]
  split
  · next same => rw [keeps, same]
  · rfl

theorem alike_ask (tracker : Tracker) (own : Option Nat) (slot : Option Slot) (turn : Turn) :
    Alike tracker (tracker.ask own slot turn) := by
  cases own with
  | none => exact .refl tracker
  | some own =>
    cases slot with
    | none => exact .refl tracker
    | some slot => exact alike_update tracker own (·.note slot turn.task) fun _ => rfl

theorem alike_settle (tracker : Tracker) (own : Option Nat) (slot : Option Slot) :
    Alike tracker (tracker.settle own slot) := by
  rcases own with _ | own
  · exact .refl tracker
  · rcases slot with _ | _ | _ | number
    · exact .refl tracker
    · exact .refl tracker
    · exact .refl tracker
    · exact alike_update tracker own (·.leave (.wait number)) fun _ => rfl

theorem Sound.alike (sound : tracker.Sound) (alike : Alike tracker later) : later.Sound where
  keyed := by rw [alike.live]; exact sound.keyed
  made := by rw [alike.live, alike.next]; exact sound.made
  distinct := by rw [alike.live]; exact sound.distinct
  fresh id := by rw [alike.next, alike.aborted]; exact sound.fresh id

/-- What becomes of a registration when something happens elsewhere: it is aborted if everything is
closed while it is in the table, and else it is as before, its notes included. -/
theorem entry_apply {op : Op} (made : id < tracker.next) (spared : op.Spares id) :
    (tracker.apply op).entry id =
      if op = .closeAll ∧ tracker.Lists id then (tracker.entry id).abort else tracker.entry id := by
  cases op with
  | setEnabled on => rfl
  | register =>
    cases enabled : tracker.enabled with
    | false => rw [apply_register_of_off enabled]; rfl
    | true =>
      rw [apply_register_of_on enabled]
      exact if_neg (Nat.ne_of_lt made)
  | drop other =>
    rw [apply]
    split <;> rfl
  | closeAll =>
    rw [apply, entry_closeAll]
    simp only [true_and]
  | note other slot task => exact if_neg (Ne.symm spared)
  | leave other slot => exact if_neg (Ne.symm spared)

end Tracker

/-- How a call is answered. It is made, unless an abort stops it; and unless it is put off, or no
abort stops it, its wait is over. -/
theorem Service.answer_cases {Call : Type} {Result : Call → Type} {σ : Type}
    (service : Service Result σ) (own : Option Nat) (turn : Turn) (call : Call)
    (conn : Tracker × σ) :
    (service.answer own turn call conn = ((service.make turn call conn.2).1, conn.1,
          (service.make turn call conn.2).2) ∧
        (service.exempt call = true ∨
          conn.1.isCut own = false ∧ (service.make turn call conn.2).1 = .pending)) ∨
      (service.answer own turn call conn = ((service.make turn call conn.2).1,
          conn.1.settle own (service.slot call), (service.make turn call conn.2).2) ∧
        conn.1.isCut own = false ∧ (service.make turn call conn.2).1 ≠ .pending) ∨
      (service.answer own turn call conn =
          (.failed Tracker.abortedError, conn.1.settle own (service.slot call), conn.2) ∧
        service.exempt call = false ∧ conn.1.isCut own = true) := by
  rw [Service.answer]
  cases exempt : service.exempt call with
  | true => exact .inl ⟨rfl, .inl rfl⟩
  | false =>
    rw [if_neg Bool.false_ne_true, Tracker.answer]
    cases cut : conn.1.isCut own with
    | true => exact .inr (.inr ⟨if_pos rfl, rfl, rfl⟩)
    | false =>
      rw [if_neg Bool.false_ne_true]
      rcases service.make turn call conn.2 with ⟨_ | result | error, inner⟩
      · exact .inl ⟨rfl, .inr ⟨rfl, rfl⟩⟩
      · exact .inr (.inl ⟨rfl, rfl, nofun⟩)
      · exact .inr (.inl ⟨rfl, rfl, nofun⟩)

end Outbound
