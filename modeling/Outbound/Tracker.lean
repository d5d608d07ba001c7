import Outbound.Channel

/-!
# Tracking connections

While tracking is on, every new connection is registered, and `closeAll` aborts all that are:
it wakes the tasks that wait on them, and every later call on them fails, the shutdown of a
stream excepted. A registration keeps its own state, so aborting and dropping one touches no
other. What `closeAll` finds is a table by keys, which are counted in a word and come round again.
-/
namespace Outbound

/-- Where a task is noted that the abort of a connection is to wake. -/
inductive Slot where
  /-- The task that read last. -/
  | reader
  /-- The task that wrote or flushed last. -/
  | writer
  /-- The task of one of the waits for the abort itself. -/
  | wait (number : Nat)
  deriving DecidableEq

/-- What a registration shares with the tracker. -/
structure Registration where
  /-- Whether the connection is aborted. -/
  aborted : Bool := false
  /-- The tasks that the abort is to wake, each with where it is noted. -/
  noted : List (Slot × Nat) := []
  deriving DecidableEq, Inhabited

namespace Registration

/-- Forget the task that is noted in a slot. -/
def leave (registration : Registration) (slot : Slot) : Registration :=
  { registration with noted := registration.noted.filter (·.1 ≠ slot) }

/-- Note a task in a slot, in the place of the one before. -/
def note (registration : Registration) (slot : Slot) (task : Nat) : Registration :=
  { registration with noted := (slot, task) :: (registration.leave slot).noted }

/-- The tasks that an abort wakes. -/
def tasks (registration : Registration) : List Nat := registration.noted.map Prod.snd

/-- Abort a connection. The tasks that were noted are forgotten, for they are woken now. -/
def abort (registration : Registration) : Registration :=
  { registration with aborted := true, noted := [] }

end Registration

/-- All registrations, numbered in the order in which they were made. -/
structure Tracker where
  /-- Whether new connections are registered. -/
  enabled : Bool := false
  /-- The number of the next registration. -/
  next : Nat := 0
  /-- The registrations that `closeAll` would abort, by their keys. -/
  live : List (UInt64 × Nat) := []
  /-- The state of each registration. -/
  entry : Nat → Registration := fun _ => {}

namespace Tracker

variable {σ α : Type}

/-- The key of a registration. -/
def key (id : Nat) : UInt64 := .ofNat id

/-- How many registrations `closeAll` would abort. -/
def count (tracker : Tracker) : Nat := tracker.live.length

/-- Turn tracking on or off. What is registered stays so. -/
def setEnabled (tracker : Tracker) (enabled : Bool) : Tracker := { tracker with enabled }

/-- Let go of what is registered under a key. -/
def remove (tracker : Tracker) (key : UInt64) : Tracker :=
  { tracker with live := tracker.live.filter (·.1 ≠ key) }

/-- Register a connection, if tracking is on. -/
def register (tracker : Tracker) : Option Nat × Tracker :=
  if tracker.enabled then
    (some tracker.next,
      { tracker with
        next := tracker.next + 1
        live := (key tracker.next, tracker.next) :: (tracker.remove (key tracker.next)).live
        entry := fun id => if id = tracker.next then {} else tracker.entry id })
  else (none, tracker)

/-- Drop a registration. -/
def drop (tracker : Tracker) (id : Nat) : Tracker := tracker.remove (key id)

/-- Whether a registration is aborted. -/
def isAborted (tracker : Tracker) (id : Nat) : Bool := (tracker.entry id).aborted

/-- Change the state of a registration. -/
def update (tracker : Tracker) (id : Nat) (change : Registration → Registration) : Tracker :=
  { tracker with
    entry := fun other => if other = id then change (tracker.entry id) else tracker.entry other }

/-- How far the aborting of registrations has come. -/
structure Closing where
  /-- The tracker. -/
  tracker : Tracker
  /-- How many registrations are aborted. -/
  closed : Nat := 0
  /-- The tasks that are woken. -/
  woken : List Nat := []

/-- Abort a registration and let go of it. -/
def Closing.abort (closing : Closing) (conn : UInt64 × Nat) : Closing where
  tracker := (closing.tracker.update conn.2 Registration.abort).remove conn.1
  closed := closing.closed + 1
  woken := closing.woken ++ (closing.tracker.entry conn.2).tasks

/-- Abort every live registration. -/
def closeAll (tracker : Tracker) : Closing := tracker.live.foldl Closing.abort { tracker }

/-- Wait for the abort of a registration: whether it has come, and if not, the task is woken
once it does. The wait is told from others by a number. -/
def awaitAbort (tracker : Tracker) (id number task : Nat) : Bool × Tracker :=
  if tracker.isAborted id then (true, tracker)
  else (false, tracker.update id (·.note (.wait number) task))

/-- The error of a call on an aborted connection. -/
def abortedError : IoError := ⟨.connectionAborted, "connection closed by tracker"⟩

/-- Whether a connection is aborted. One that is not registered never is. -/
def isCut (tracker : Tracker) (id : Option Nat) : Bool := id.any tracker.isAborted

/-- Note the task that asks for a call, if the call has a slot. -/
def ask (tracker : Tracker) (id : Option Nat) (slot : Option Slot) (turn : Turn) : Tracker :=
  match id, slot with
  | some id, some slot => tracker.update id (·.note slot turn.task)
  | _, _ => tracker

/-- The call of a slot is over. A wait ends with it. -/
def settle (tracker : Tracker) (id : Option Nat) (slot : Option Slot) : Tracker :=
  match id, slot with
  | some id, some (.wait number) => tracker.update id (·.leave (.wait number))
  | _, _ => tracker

/-- Answer a call that was asked for. It is made now, unless the connection is aborted. -/
def answer (id : Option Nat) (slot : Option Slot) (call : σ → Answer α × σ)
    (state : Tracker × σ) : Answer α × Tracker × σ :=
  if state.1.isCut id then (.failed abortedError, state.1.settle id slot, state.2)
  else
    match call state.2 with
    | (.pending, inner) => (.pending, state.1, inner)
    | (answer, inner) => (answer, state.1.settle id slot, inner)

/-- Make a call on a connection unless it is aborted. The asking task is noted first. -/
def guarded (id : Option Nat) (slot : Option Slot) (turn : Turn) (call : σ → Answer α × σ)
    (state : Tracker × σ) : Answer α × Tracker × σ :=
  answer id slot call (state.1.ask id slot turn, state.2)

/-- Make a call on a connection, aborted or not. -/
def unguarded (call : σ → Answer α × σ) (state : Tracker × σ) : Answer α × Tracker × σ :=
  let (answer, inner) := call state.2
  (answer, state.1, inner)

/-- A stream under a registration, if there is one. -/
def stream (id : Option Nat) (inner : Stream σ) : Stream (Tracker × σ) where
  read turn room := guarded id (some .reader) turn (inner.read turn room)
  write turn buffer := guarded id (some .writer) turn (inner.write turn buffer)
  flush turn := guarded id (some .writer) turn (inner.flush turn)
  shutdown turn := unguarded (inner.shutdown turn)

/-- Begin a send on a channel under a registration, if there is one. -/
def send (id : Option Nat) (inner : Channel σ) (turn : Turn) (datagram : Bytes) :
    Tracker × σ → Answer Nat × Tracker × σ :=
  guarded id none turn (inner.send turn datagram)

/-- Go on with a send that was put off. Whether the connection is aborted is not asked again. -/
def resumeSend (inner : Channel σ) (turn : Turn) (datagram : Bytes) :
    Tracker × σ → Answer Nat × Tracker × σ :=
  unguarded (inner.send turn datagram)

/-- Begin a receive on a channel under a registration, if there is one, or go on with it. Receives
are told from one another by numbers, for each of them waits for the abort as well. -/
def receive (id : Option Nat) (inner : Channel σ) (turn : Turn) (number room : Nat) :
    Tracker × σ → Answer Bytes × Tracker × σ :=
  guarded id (some (.wait number)) turn (inner.receive turn room)

/-- Give a receive up. -/
def giveUp (tracker : Tracker) (id : Option Nat) (number : Nat) : Tracker :=
  tracker.settle id (some (.wait number))

end Tracker

end Outbound
