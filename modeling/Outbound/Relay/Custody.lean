import Outbound.Relay.Bridge

/-!
# Closing and dropping a bridge

Whoever has a bridge in custody may close it any number of times, also side by side, and may drop
it once no call is under way. The first call tells the directions to stop, takes charge of them and
waits for one after the other; then it releases the relay and waits until that is over. A drop cuts
off the directions that no call has taken charge of, wherever they wait at the time. A call may be
given up at each of its waits, and a direction may fail.

A call runs from one wait to the next without another coming in between. A move is one of these
stretches, or something that happens around the calls.
-/
namespace Outbound.Relay

/-- A direction of a bridge. -/
inductive Direction where
  /-- To the relay. -/
  | outward
  /-- From the relay. -/
  | inward
  deriving DecidableEq

/-- What goes on at a bridge apart from its end. -/
inductive Traffic where
  | arriveLocally (arrival : Arrival)
  | arriveOnRelay (arrival : Arrival)
  | runOutward (now : Nat)
  | finishOutward (result : Except IoError Unit)
  | runInward (now : Nat)
  | finishInward (result : Except IoError Unit)

namespace Traffic

/-- The event that it is for the bridge. -/
def event : Traffic → Bridge.Event
  | arriveLocally arrival => .arriveLocally arrival
  | arriveOnRelay arrival => .arriveOnRelay arrival
  | runOutward now => .runOutward now
  | finishOutward result => .finishOutward result
  | runInward now => .runInward now
  | finishInward result => .finishInward result

end Traffic

namespace Bridge

/-- A direction ends wherever it is. -/
def cutOff (bridge : Bridge) : Direction → Bridge
  | .outward => { bridge with outward := .ended }
  | .inward => { bridge with inward := .ended }

/-- The relay is released. -/
def release (bridge : Bridge) : Bridge :=
  { bridge with closing := false, releases := bridge.releases + 1 }

end Bridge

/-- How far a call of close is. -/
inductive CloseStage where
  /-- It waits for the direction to the relay to end. -/
  | awaitingOutward
  /-- It waits for the direction from the relay to end. -/
  | awaitingInward
  /-- It waits until the relay is released. -/
  | releasing
  /-- It has returned. -/
  | returned
  /-- It was given up. -/
  | givenUp
  deriving DecidableEq

/-- Whether a call at a stage is under way. -/
def CloseStage.isUnderWay : CloseStage → Bool
  | awaitingOutward | awaitingInward | releasing => true
  | returned | givenUp => false

/-- A bridge with the calls of close on it. -/
structure Custody where
  /-- The bridge. -/
  bridge : Bridge
  /-- Whether no call has taken charge of the directions, and no drop has cut them off. -/
  held : Bool := true
  /-- Whether the directions are being cut off. -/
  aborted : Bool := false
  /-- Whether the bridge was dropped. -/
  dropped : Bool := false
  /-- How far each call of close is, in the order in which they were made. -/
  calls : List CloseStage := []

/-- Something that happens to a bridge in custody. -/
inductive Move where
  /-- The bridge goes on by itself. -/
  | traffic (part : Traffic)
  /-- Call close. -/
  | close
  /-- A call that waits for a direction looks whether it has ended. -/
  | goOn (call : Nat)
  /-- The relay was released for a call that waits for this, or could not be. -/
  | released (call : Nat) (result : Except IoError Unit)
  /-- A call is given up where it waits. -/
  | giveUp (call : Nat)
  /-- Drop the bridge. -/
  | drop
  /-- A direction that is being cut off is cut off. -/
  | cutOff (direction : Direction)
  /-- A direction fails. -/
  | fail (direction : Direction)

namespace Custody

/-- Go on with a call. -/
def advance (custody : Custody) (call : Nat) (stage : CloseStage) : Custody :=
  { custody with calls := custody.calls.set call stage }

/-- What a move makes of a bridge in custody. A move that is not due leaves everything as it
is. -/
def step (custody : Custody) : Move → Custody
  | .traffic part => { custody with bridge := custody.bridge.step part.event }
  | .close =>
    if custody.dropped then custody
    else if custody.bridge.closed then { custody with calls := custody.calls ++ [.returned] }
    else
      { custody with
        bridge := custody.bridge.close
        held := false
        calls := custody.calls ++ [.awaitingOutward] }
  | .goOn call =>
    match custody.calls[call]? with
    | some .awaitingOutward =>
      if custody.bridge.outward = .ended then custody.advance call .awaitingInward else custody
    | some .awaitingInward =>
      if custody.bridge.inward = .ended then
        { custody with bridge := custody.bridge.release }.advance call .releasing
      else custody
    | _ => custody
  | .released call _result =>
    if custody.calls[call]? = some .releasing then custody.advance call .returned else custody
  | .giveUp call =>
    if custody.calls[call]?.any (·.isUnderWay) then
      { custody with bridge := { custody.bridge with closing := false } }.advance call .givenUp
    else custody
  | .drop =>
    if custody.dropped || custody.calls.any (·.isUnderWay) then custody
    else
      { custody with
        bridge := { custody.bridge with stopping := true }
        held := false
        aborted := custody.held
        dropped := true }
  | .cutOff direction =>
    if custody.aborted then { custody with bridge := custody.bridge.cutOff direction }
    else custody
  | .fail direction => { custody with bridge := custody.bridge.cutOff direction }

/-- What moves in order make of a bridge in custody. -/
def after (custody : Custody) (moves : List Move) : Custody := moves.foldl step custody

end Custody

end Outbound.Relay
