import Outbound.Stream

/-!
# Awaiting a call

A call that is not ready is made again: at once if its task was woken, and otherwise at the
next alarm, to which the clock jumps. `writeAll` repeats writes until a whole buffer is taken.
-/
namespace Outbound

/-- How an awaited call ends. -/
inductive Outcome (α : Type) where
  /-- With a result. -/
  | done (result : α)
  /-- With an error. -/
  | failed (error : IoError)
  /-- It was given up at its deadline. -/
  | late
  /-- It was not ready within the rounds allowed. -/
  | unfinished

namespace Await

variable {σ α : Type}

/-- The later of now and an alarm, but no later than a deadline. -/
def nextTime (now : Nat) (alarm deadline : Option Nat) : Nat :=
  let next := max now (alarm.getD now)
  match deadline with
  | some stop => min next stop
  | none => next

/-- Repeat a call until it is ready, or until it is not ready at its deadline. Gives the outcome,
the time and the state. -/
def call (poll : Nat → σ → Answer α × σ) (alarm : σ → Option Nat) (deadline : Option Nat) :
    (rounds now : Nat) → σ → Outcome α × Nat × σ
  | 0, now, state => (.unfinished, now, state)
  | rounds + 1, now, state =>
    match poll now state with
    | (.done result, state) => (.done result, now, state)
    | (.failed error, state) => (.failed error, now, state)
    | (.pending, state) =>
      if deadline.any (· ≤ now) then (.late, now, state)
      else call poll alarm deadline rounds (nextTime now (alarm state) deadline) state

/-- The error of a stream that takes nothing of a buffer. -/
def writeZeroError : IoError := ⟨.writeZero, "write zero"⟩

/-- Write a whole buffer, however many writes it takes. -/
def writeAll (write : Nat → Bytes → σ → Answer Nat × σ) (alarm : σ → Option Nat) (rounds : Nat)
    (now : Nat) (buffer : Bytes) (state : σ) : Outcome Unit × Nat × σ :=
  if buffer = [] then (.done (), now, state)
  else
    match call (fun now => write now buffer) alarm none rounds now state with
    | (.done 0, now, state) => (.failed writeZeroError, now, state)
    | (.done (count + 1), now, state) =>
      writeAll write alarm rounds now (buffer.drop (count + 1)) state
    | (.failed error, now, state) => (.failed error, now, state)
    | (.late, now, state) => (.late, now, state)
    | (.unfinished, now, state) => (.unfinished, now, state)
termination_by buffer.length
decreasing_by
  have := List.length_pos_iff.mpr ‹¬ buffer = []›
  simp only [List.length_drop]
  omega

end Await

namespace Answer

/-- The same answer with another result. -/
def map {α β : Type} (f : α → β) : Answer α → Answer β
  | pending => pending
  | done result => done (f result)
  | failed error => failed error

end Answer

end Outbound
