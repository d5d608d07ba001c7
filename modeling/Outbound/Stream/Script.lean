import Outbound.Stream

/-!
# Scripted streams

A stream that answers from lists, one entry a call, and records what reaches it. When a list is
used up, writes are taken whole, reads find the end of the stream, and the other calls succeed.
Whoever is told to come back is woken at once.
-/
namespace Outbound

/-- One scripted answer to a call that gives `α` when it succeeds. -/
inductive Reply (α : Type) where
  | done (result : α)
  | pending
  | failed (error : IoError)

/-- A stream that answers from a script. -/
structure Script where
  /-- Answers to writes: how many bytes are taken at most, or all of them. -/
  writes : List (Reply (Option Nat)) := []
  /-- Answers to reads. -/
  reads : List (Reply Bytes) := []
  /-- Answers to flushes. -/
  flushes : List (Reply Unit) := []
  /-- Answers to shutdowns. -/
  shutdowns : List (Reply Unit) := []
  /-- How often connecting is put off. -/
  waits : Nat := 0
  /-- How long connecting takes after that. -/
  delay : Option Nat := none
  /-- The time at which the delay ends, once it has begun. -/
  connectsAt : Option Nat := none
  /-- How connecting fails, if it does. -/
  refusal : Option IoError := none
  /-- What was taken, and when. -/
  taken : Array (Nat × Bytes) := #[]
  /-- How often a flush was asked for. -/
  flushCalls : Nat := 0
  /-- How often a shutdown was asked for. -/
  shutdownCalls : Nat := 0
  /-- The tasks woken. -/
  woken : Array Nat := #[]

namespace Script

/-- Wake a task. -/
def wake (script : Script) (turn : Turn) : Script :=
  { script with woken := script.woken.push turn.task }

/-- The bytes taken so far. -/
def wire (script : Script) : Bytes := script.taken.toList.flatMap Prod.snd

/-- Answer a write. -/
def write (turn : Turn) (buffer : Bytes) (script : Script) : Answer Nat × Script :=
  let take (count : Nat) (script : Script) :=
    (.done count, { script with taken := script.taken.push (turn.now, buffer.take count) })
  match script.writes with
  | [] => take buffer.length script
  | reply :: others =>
    let script := { script with writes := others }
    match reply with
    | .pending => (.pending, script.wake turn)
    | .failed error => (.failed error, script)
    | .done none => take buffer.length script
    | .done (some most) => take (min most buffer.length) script

/-- Answer a read. What does not fit in the room is given next. -/
def read (turn : Turn) (room : Nat) (script : Script) : Answer Bytes × Script :=
  match script.reads with
  | [] => (.done [], script)
  | .pending :: others => (.pending, { script with reads := others }.wake turn)
  | .failed error :: others => (.failed error, { script with reads := others })
  | .done bytes :: others =>
    let rest := bytes.drop room
    (.done (bytes.take room),
      { script with reads := if rest = [] then others else .done rest :: others })

/-- Answer a flush. -/
def flush (turn : Turn) (script : Script) : Answer Unit × Script :=
  let script := { script with flushCalls := script.flushCalls + 1 }
  match script.flushes with
  | [] => (.done (), script)
  | .done () :: others => (.done (), { script with flushes := others })
  | .pending :: others => (.pending, { script with flushes := others }.wake turn)
  | .failed error :: others => (.failed error, { script with flushes := others })

/-- Answer a shutdown. -/
def shutdown (turn : Turn) (script : Script) : Answer Unit × Script :=
  let script := { script with shutdownCalls := script.shutdownCalls + 1 }
  match script.shutdowns with
  | [] => (.done (), script)
  | .done () :: others => (.done (), { script with shutdowns := others })
  | .pending :: others => (.pending, { script with shutdowns := others }.wake turn)
  | .failed error :: others => (.failed error, { script with shutdowns := others })

/-- How connecting ends. -/
def finishConnect (script : Script) : Answer Unit × Script :=
  match script.refusal with
  | some error => (.failed error, script)
  | none => (.done (), script)

/-- Answer a connecting. -/
def connect (turn : Turn) (script : Script) : Answer Unit × Script :=
  match script.waits, script.delay with
  | waits + 1, _ => (.pending, { script with waits }.wake turn)
  | 0, none => script.finishConnect
  | 0, some delay =>
    let stop := script.connectsAt.getD (turn.now + delay)
    let script := { script with connectsAt := some stop }
    if turn.now < stop then (.pending, script) else script.finishConnect

/-- The transport of a script. -/
def transport : Transport Script := { write, read, flush, shutdown, connect }

end Script

end Outbound
