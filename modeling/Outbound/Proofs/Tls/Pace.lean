import Outbound.Proofs.Draws
import Outbound.Proofs.Tls.Fragmentation
import Outbound.Proofs.Tls.Watch

/-!
# The pace of an emission

What a buffer that is cut becomes is known once its chunks are planned: fragments, of which every
one but the first waits for a pause of its own, and last what followed the cut record, which waits
for none. `Poll` says what one call may make of the pieces that are left, `Write` and `Step` what
calls come to, and `Run` what a run of them does. None of them knows records, indices or alarms.
-/
namespace Outbound

/-- A transport that is always ready: it connects as soon as it is asked to, and takes some of
whatever it is offered. -/
structure Transport.Ready {σ : Type} (transport : Transport σ) : Prop where
  /-- It connects. -/
  connect : ∀ turn state, (transport.connect turn state).1 = .done ()
  /-- It takes something. -/
  write : ∀ turn octets state, octets ≠ [] →
    ∃ count, (transport.write turn octets state).1 = .done (count + 1)

/-- Whether a contact offers octets of an emission. -/
def Contact.isSend : Contact → Bool
  | .send _ _ => true
  | _ => false

namespace Tls

/-! ## What is to be sent, and when -/

/-- Octets that are sent in one piece, and the pause that is kept before they are begun. -/
structure Piece where
  /-- How long the pause is, if there is one. -/
  pause : Option Nat
  /-- The octets. -/
  octets : Bytes

/-- The pauses before fragments that follow a fragment: one draw each, or none at all when the range
holds no number but zero. -/
def Policy.gaps (policy : Policy) (count : Nat) (entropy : Entropy) : List (Option Nat) × Entropy :=
  if policy.sleep.isZero then (List.replicate count none, entropy)
  else ((policy.sleep.draws count entropy).1.map some, (policy.sleep.draws count entropy).2)

/-- The pieces after a first fragment: the other fragments, each after its pause, and what followed
the cut record. -/
def Policy.following (policy : Policy) (fragments trailing : List Bytes) (entropy : Entropy) :
    List Piece × Entropy :=
  let (gaps, entropy) := policy.gaps fragments.length entropy
  (List.zipWith Piece.mk gaps fragments ++ trailing.map (Piece.mk none), entropy)

namespace Pace

/-- How far the pieces of a buffer have been sent. -/
inductive Position where
  /-- A pause is being kept since some time and for so long, and then a piece is begun. -/
  | pausing (since delay : Nat) (octets : Bytes) (later : List Piece)
  /-- These octets of a piece are offered next. -/
  | sending (octets : Bytes) (later : List Piece)

/-- Where the pieces stand when the one before has just been taken. -/
def Position.start (now : Nat) (piece : Piece) (later : List Piece) : Position :=
  match piece.pause with
  | some delay => .pausing now delay piece.octets later
  | none => .sending piece.octets later

/-- When a pause that is being kept ends. -/
def Position.alarm : Position → Option Nat
  | pausing since delay _ _ => some (since + delay)
  | sending _ _ => none

/-- How one call leaves the pieces of a buffer. -/
inductive Ending where
  /-- All of them are out. -/
  | out
  /-- The rest has to wait. -/
  | held (position : Position)
  /-- The connection was over before the call: the rest is not sent. -/
  | refused (error : IoError) (position : Position)
  /-- The connection has failed. -/
  | broken (error : IoError)

/-- What one call at some time may make of the pieces that are left, and its contacts with the
transport: while the transport takes octets it goes on at once, but for the pauses. -/
inductive Poll (now : Nat) : Position → List Contact → Ending → Prop where
  /-- Before a pause is over nothing is offered, and the pause stays as it is. -/
  | early (since delay : Nat) (octets : Bytes) (later : List Piece) (before : now < since + delay) :
      Poll now (.pausing since delay octets later) [] (.held (.pausing since delay octets later))
  /-- Once it is over, the piece is begun. -/
  | resume (since delay : Nat) (octets : Bytes) (later : List Piece) (contacts : List Contact)
      (ending : Ending) (reached : since + delay ≤ now)
      (poll : Poll now (.sending octets later) contacts ending) :
      Poll now (.pausing since delay octets later) contacts ending
  /-- The transport is not ready: the same octets are offered again. -/
  | wait (octets : Bytes) (later : List Piece) :
      Poll now (.sending octets later) [.send octets .pending] (.held (.sending octets later))
  /-- The connection is over already. -/
  | refuse (error : IoError) (octets : Bytes) (later : List Piece) :
      Poll now (.sending octets later) [] (.refused error (.sending octets later))
  /-- The transport fails. -/
  | fail (error : IoError) (octets : Bytes) (later : List Piece) :
      Poll now (.sending octets later) [.send octets (.failed error)] (.broken error)
  /-- The transport takes nothing. -/
  | stall (octets : Bytes) (later : List Piece) :
      Poll now (.sending octets later) [.send octets (.done 0)] (.broken Fragmenter.stalledError)
  /-- The transport takes a part of the octets: the others are offered at once. -/
  | part (octets : Bytes) (later : List Piece) (count : Nat) (contacts : List Contact)
      (ending : Ending) (less : count + 1 < octets.length)
      (poll : Poll now (.sending (octets.drop (count + 1)) later) contacts ending) :
      Poll now (.sending octets later) (.send octets (.done (count + 1)) :: contacts) ending
  /-- The transport takes the octets: the next piece is begun, after its pause. -/
  | next (octets : Bytes) (piece : Piece) (later : List Piece) (count : Nat)
      (contacts : List Contact) (ending : Ending) (all : octets.length ≤ count + 1)
      (poll : Poll now (.start now piece later) contacts ending) :
      Poll now (.sending octets (piece :: later)) (.send octets (.done (count + 1)) :: contacts)
        ending
  /-- The transport takes the octets of the last piece. -/
  | last (octets : Bytes) (count : Nat) (all : octets.length ≤ count + 1) :
      Poll now (.sending octets []) [.send octets (.done (count + 1))] .out

/-! ## What calls come to -/

/-- How a connection stands between two calls. -/
inductive Stage where
  /-- No emission is on its way; the randomness left. -/
  | idle (entropy : Entropy)
  /-- The emission of a buffer is on its way; the randomness left once its pauses are drawn. -/
  | emitting (origin : Bytes) (position : Position) (left : Entropy)
  /-- An emission has failed, and there will be no other. -/
  | broken

/-- When a pause that is being kept ends. -/
def Stage.alarm : Stage → Option Nat
  | emitting _ position _ => position.alarm
  | idle _ => none
  | broken => none

/-- What a call answers that leaves the pieces of a buffer so. -/
def Ending.answer (origin : Bytes) : Ending → Answer Nat
  | out => .done origin.length
  | held _ => .pending
  | refused error _ => .failed error
  | broken error => .failed error

/-- How a call leaves the connection that leaves the pieces of a buffer so. -/
def Ending.stage (origin : Bytes) (left : Entropy) : Ending → Stage
  | out => .idle left
  | held position => .emitting origin position left
  | refused _ position => .emitting origin position left
  | broken _ => .broken

/-- No contact offers octets of an emission. -/
def Quiet (contacts : List Contact) : Prop := ∀ contact ∈ contacts, contact.isSend = false

/-- What a write of a buffer comes to at some time. -/
inductive Write (policy : Policy) (now : Nat) (buffer : Bytes) :
    List Contact → Answer Nat → Stage → Stage → Prop where
  /-- The buffer is not cut. -/
  | aside (entropy : Entropy) (contacts : List Contact) (answer : Answer Nat)
      (quiet : Quiet contacts) :
      Write policy now buffer contacts answer (.idle entropy) (.idle entropy)
  /-- The buffer is cut. Its first fragment is offered at once, unless the transport has to be
  connected first; the others follow. -/
  | cut (entropy : Entropy) (header : RecordHeader) (body rest first : Bytes) (others : List Bytes)
      (later : List Piece) (left : Entropy) (front contacts : List Contact) (ending : Ending)
      (quiet : Quiet front) (opens : inspect buffer = .clientHello header body rest)
      (fragments : (Emission.chunks policy body entropy).map
        (fun chunk => Plan.record header (chunk.slice body)) = first :: others)
      (paced : policy.following others (Emission.trailing rest)
        (Plan.chunks body.length policy.size (Emission.name policy body) entropy).2 = (later, left))
      (poll : Poll now (.sending first later) contacts ending) :
      Write policy now buffer (front ++ contacts) (ending.answer buffer) (.idle entropy)
        (ending.stage buffer left)
  /-- The emission on its way is sent on; the call is answered when it is out only if it was made
  from the same buffer. -/
  | carry (origin : Bytes) (position : Position) (left : Entropy) (contacts : List Contact)
      (ending : Ending) (poll : Poll now position contacts ending)
      (same : ending = .out → origin = buffer) :
      Write policy now buffer contacts (ending.answer origin) (.emitting origin position left)
        (ending.stage origin left)
  /-- The emission on its way is out, and was made from another buffer. -/
  | overtake (origin : Bytes) (position : Position) (left : Entropy) (early late : List Contact)
      (answer : Answer Nat) (stage : Stage) (other : origin ≠ buffer)
      (poll : Poll now position early .out)
      (write : Write policy now buffer late answer (.idle left) stage) :
      Write policy now buffer (early ++ late) answer (.emitting origin position left) stage
  /-- After a failure nothing is cut. -/
  | late (contacts : List Contact) (answer : Answer Nat) (quiet : Quiet contacts) :
      Write policy now buffer contacts answer .broken .broken

/-- What a call comes to at some time: only writes send anything, begin a pause or end one. -/
inductive Step (policy : Policy) (now : Nat) :
    Exchange → List Contact → Stage → Stage → Prop where
  /-- A write. -/
  | write (buffer : Bytes) (answer : Answer Nat) (contacts : List Contact) (stage later : Stage)
      (write : Write policy now buffer contacts answer stage later) :
      Step policy now ⟨.write buffer, answer⟩ contacts stage later
  /-- Any other call. -/
  | other (exchange : Exchange) (contacts : List Contact) (stage : Stage)
      (other : ∀ buffer, exchange.call ≠ .write buffer) (quiet : Quiet contacts) :
      Step policy now exchange contacts stage stage

/-- A call of a run: when it is made, what it answers, which contacts with the transport it makes,
and when the pause ends that it leaves. -/
structure Entry where
  /-- The time. -/
  now : Nat
  /-- The call and its answer. -/
  exchange : Exchange
  /-- The contacts. -/
  contacts : List Contact
  /-- The end of the pause. -/
  alarm : Option Nat

/-- What calls come to one after another. -/
inductive Run (policy : Policy) : List Entry → Stage → Stage → Prop where
  /-- No call. -/
  | nil (stage : Stage) : Run policy [] stage stage
  /-- A call and those after it. -/
  | cons (entry : Entry) (entries : List Entry) (stage middle last : Stage)
      (step : Step policy entry.now entry.exchange entry.contacts stage middle)
      (alarm : entry.alarm = middle.alarm) (run : Run policy entries middle last) :
      Run policy (entry :: entries) stage last

end Pace

/-- Make calls one after another, and keep of each what its pace is told by. -/
def Fragmenter.journal {σ : Type} (transport : Transport σ) :
    List (Turn × Call) → Fragmenter × σ → List Pace.Entry
  | [], _ => []
  | (turn, call) :: calls, (fragmenter, state) =>
    let (answer, later, next, contacts) :=
      (watched transport).answer turn call (fragmenter, state, [])
    ⟨turn.now, ⟨call, answer⟩, contacts, later.alarm⟩ :: journal transport calls (later, next)

end Tls

end Outbound
