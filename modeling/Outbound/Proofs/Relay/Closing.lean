import Mathlib.Data.List.Basic
import Outbound.Proofs.Relay.Schedule
import Outbound.Relay.Custody

/-!
# The end of a bridge

However a bridge is closed and dropped, its relay is released at most once, and only after both
directions have ended. What a move may do is said once (`Outcome`). How far the first call has come
tells how often the relay was released and what has ended (`Reached`); all the others have returned
at once (`Standing`). Once both directions have ended, nothing is forwarded any more (`Still`). That
a bridge comes to its end is shown by moves that are due then, whatever the directions were doing
(`windDown`).
-/
namespace Outbound.Relay

/-- Both directions of a bridge have ended. -/
structure Bridge.Halted (bridge : Bridge) : Prop where
  /-- The one to the relay. -/
  outward : bridge.outward = .ended
  /-- The one from the relay. -/
  inward : bridge.inward = .ended

namespace Move

/-- What arrives on the local socket. -/
def arrivedLocally : Move → Option Arrival
  | traffic part => part.event.arrivedLocally
  | _ => none

/-- What arrives on the relay. -/
def arrivedOnRelay : Move → Option Arrival
  | traffic part => part.event.arrivedOnRelay
  | _ => none

/-- Whether something does not come to its own end. -/
def breaks : Move → Bool
  | giveUp _ | drop | cutOff _ | fail _ => true
  | _ => false

/-- The same move, except that the relay is released without an error. -/
def unharmed : Move → Move
  | released call _ => released call (.ok ())
  | move => move

end Move

/-! ## What a move does -/

/-- Nothing is forwarded in the course of moves. -/
structure Still (moves : List Move) (before after : Bridge) : Prop where
  /-- Nothing is handed to the relay. -/
  relayed : after.relayed = before.relayed
  /-- Nothing is sent on the local socket. -/
  delivered : after.delivered = before.delivered
  /-- What was waiting on the local socket goes on waiting, before what arrives. -/
  localArrivals : after.localArrivals = before.localArrivals ++ moves.filterMap Move.arrivedLocally
  /-- So does what was waiting on the relay. -/
  relayArrivals : after.relayArrivals = before.relayArrivals ++ moves.filterMap Move.arrivedOnRelay

/-- Nothing about the end of a bridge changes. -/
structure Keeps (before after : Bridge) : Prop where
  /-- It is closed or not, as before. -/
  closed : after.closed = before.closed
  /-- The first call waits for the directions or not, as before. -/
  closing : after.closing = before.closing
  /-- The directions are told to stop or not, as before. -/
  stopping : after.stopping = before.stopping
  /-- The relay is not released. -/
  releases : after.releases = before.releases

/-- What a move that no call makes may do with a bridge. -/
structure Onward (move : Move) (before after : Bridge) : Prop where
  /-- Nothing about the end changes, -/
  keeps : Keeps before after
  /-- except that the direction to the relay may end, -/
  outward : before.outward = .ended → after.outward = .ended
  /-- and so may the direction from the relay. -/
  inward : before.inward = .ended → after.inward = .ended
  /-- Directions that have ended forward nothing. -/
  still : before.Halted → Still [move] before after
  /-- It comes to events of the bridge if everything is left to come to its own end. -/
  events : move.breaks = false → ∃ events, after = before.run events

/-- What a move of a bridge in custody comes to. -/
inductive Outcome (custody : Custody) : Move → Custody → Prop where
  /-- It has nothing to do with the calls. -/
  | onward {move : Move} {bridge : Bridge} (onward : Onward move custody.bridge bridge) :
    Outcome custody move { custody with bridge }
  /-- The first call tells the directions to stop and takes charge of them. -/
  | called (uncalled : custody.calls = []) (kept : custody.dropped = false) :
    Outcome custody .close
      { custody with
        bridge := { custody.bridge with closed := true, stopping := true, closing := true }
        held := false
        calls := [.awaitingOutward] }
  /-- Another call returns at once. -/
  | calledAgain (earlier : custody.calls ≠ []) (kept : custody.dropped = false) :
    Outcome custody .close { custody with calls := custody.calls ++ [.returned] }
  /-- The first call finds that the direction to the relay has ended. -/
  | outwardEnded {others : List CloseStage} (calls : custody.calls = .awaitingOutward :: others)
    (ended : custody.bridge.outward = .ended) :
    Outcome custody (.goOn 0) { custody with calls := .awaitingInward :: others }
  /-- It finds that the direction from the relay has ended, and releases the relay. -/
  | inwardEnded {others : List CloseStage} (calls : custody.calls = .awaitingInward :: others)
    (ended : custody.bridge.inward = .ended) :
    Outcome custody (.goOn 0)
      { custody with bridge := custody.bridge.release, calls := .releasing :: others }
  /-- It returns, whatever came of the release. -/
  | returns {others : List CloseStage} (calls : custody.calls = .releasing :: others)
    (result : Except IoError Unit) :
    Outcome custody (.released 0 result) { custody with calls := .returned :: others }
  /-- It is given up. -/
  | givenUp {stage : CloseStage} {others : List CloseStage}
    (calls : custody.calls = stage :: others) :
    Outcome custody (.giveUp 0)
      { custody with
        bridge := { custody.bridge with closing := false }
        calls := .givenUp :: others }
  /-- The bridge is dropped. -/
  | dropped (kept : custody.dropped = false)
    (idle : ∀ stage ∈ custody.calls, stage.isUnderWay = false) :
    Outcome custody .drop
      { custody with
        bridge := { custody.bridge with stopping := true }
        held := false
        aborted := custody.held
        dropped := true }

/-- What a bridge shows of how far the first call has come. -/
inductive Reached (bridge : Bridge) : CloseStage → Prop where
  | awaitingOutward (waits : bridge.closing = true) (unreleased : bridge.releases = 0) :
    Reached bridge .awaitingOutward
  | awaitingInward (waits : bridge.closing = true) (unreleased : bridge.releases = 0)
    (ended : bridge.outward = .ended) : Reached bridge .awaitingInward
  | releasing (gone : bridge.closing = false) (released : bridge.releases = 1)
    (halted : bridge.Halted) : Reached bridge .releasing
  | returned (gone : bridge.closing = false) (released : bridge.releases = 1)
    (halted : bridge.Halted) : Reached bridge .returned
  | givenUp (gone : bridge.closing = false) (atMostOnce : bridge.releases ≤ 1) :
    Reached bridge .givenUp

/-- How the calls on a bridge stand with it. -/
inductive Standing (bridge : Bridge) : List CloseStage → Prop where
  /-- There was none. -/
  | uncalled (unclosed : bridge.closed = false) (idle : bridge.closing = false)
    (unreleased : bridge.releases = 0) : Standing bridge []
  /-- The first one has come some way, and all the others have returned. -/
  | called {first : CloseStage} (others : Nat) (closed : bridge.closed = true)
    (told : bridge.stopping = true) (reached : Reached bridge first) :
    Standing bridge (first :: List.replicate others .returned)

/-- What holds of a bridge in custody at all times. -/
structure Orderly (custody : Custody) : Prop where
  /-- How the calls stand. -/
  standing : Standing custody.bridge custody.calls
  /-- A bridge that was dropped is told to stop. -/
  told : custody.dropped = true → custody.bridge.stopping = true
  /-- The directions are held until the first call or the drop. -/
  held : custody.held = true ↔ custody.calls = [] ∧ custody.dropped = false
  /-- They are being cut off by a drop before which there was no call. -/
  aborted : custody.aborted = true ↔ custody.calls = [] ∧ custody.dropped = true

/-! ## Moves around the calls -/

variable {bridge after : Bridge}

/-- Nothing is forwarded in two courses of moves one after the other. -/
theorem Still.trans {moves later : List Move} {before between : Bridge}
    (first : Still moves before between) (second : Still later between after) :
    Still (moves ++ later) before after where
  relayed := second.relayed.trans first.relayed
  delivered := second.delivered.trans first.delivered
  localArrivals := by
    rw [second.localArrivals, first.localArrivals, List.filterMap_append, List.append_assoc]
  relayArrivals := by
    rw [second.relayArrivals, first.relayArrivals, List.filterMap_append, List.append_assoc]

/-- Nothing is forwarded by a move that changes only how a bridge ends. -/
theorem still_of_quiet {move : Move} (localQuiet : move.arrivedLocally = none)
    (relayQuiet : move.arrivedOnRelay = none) (outward inward : Activity)
    (stopping closed closing : Bool) (releases : Nat) :
    Still [move] bridge
      { bridge with outward, inward, stopping, closed, closing, releases } where
  relayed := rfl
  delivered := rfl
  localArrivals := by rw [List.filterMap_cons_none localQuiet, List.filterMap_nil, List.append_nil]
  relayArrivals := by rw [List.filterMap_cons_none relayQuiet, List.filterMap_nil, List.append_nil]

/-- A move may leave a bridge as it is. -/
theorem onward_self (bridge : Bridge) {move : Move} (localQuiet : move.arrivedLocally = none)
    (relayQuiet : move.arrivedOnRelay = none) : Onward move bridge bridge where
  keeps := ⟨rfl, rfl, rfl, rfl⟩
  outward := id
  inward := id
  still _ := still_of_quiet localQuiet relayQuiet ..
  events _ := ⟨[], rfl⟩

/-- A direction may be cut off. -/
theorem onward_cutOff (bridge : Bridge) {move : Move} (localQuiet : move.arrivedLocally = none)
    (relayQuiet : move.arrivedOnRelay = none) (breaks : move.breaks = true)
    (direction : Direction) : Onward move bridge (bridge.cutOff direction) := by
  have broken : move.breaks = false → ∃ events, bridge.cutOff direction = bridge.run events :=
    fun whole => absurd (breaks.symm.trans whole) Bool.noConfusion
  cases direction with
  | outward =>
    exact ⟨⟨rfl, rfl, rfl, rfl⟩, fun _ => rfl, id,
      fun _ => still_of_quiet localQuiet relayQuiet .., broken⟩
  | inward =>
    exact ⟨⟨rfl, rfl, rfl, rfl⟩, id, fun _ => rfl,
      fun _ => still_of_quiet localQuiet relayQuiet .., broken⟩

/-- Arrivals are nothing to the end of a bridge, and wait behind what arrived before. -/
theorem onward_arrivals (bridge : Bridge) (arrival : Arrival) :
    Onward (.traffic (.arriveLocally arrival)) bridge (bridge.arriveLocally arrival) ∧
      Onward (.traffic (.arriveOnRelay arrival)) bridge (bridge.arriveOnRelay arrival) := by
  constructor
  · refine ⟨⟨rfl, rfl, rfl, rfl⟩, id, id, fun _ => ⟨rfl, rfl, rfl, ?_⟩, fun _ => ?_⟩
    · exact (List.append_nil _).symm
    · exact ⟨[.arriveLocally arrival], rfl⟩
  · refine ⟨⟨rfl, rfl, rfl, rfl⟩, id, id, fun _ => ⟨rfl, rfl, ?_, rfl⟩, fun _ => ?_⟩
    · exact (List.append_nil _).symm
    · exact ⟨[.arriveOnRelay arrival], rfl⟩

/-- What a direction does is nothing to the end of a bridge if the other goes on as before, and if
a direction that has ended does nothing. -/
theorem onward_of_direction {part : Traffic}
    (localQuiet : (Move.traffic part).arrivedLocally = none)
    (relayQuiet : (Move.traffic part).arrivedOnRelay = none)
    (keeps : Keeps bridge (bridge.step part.event))
    (outward : bridge.outward = .ended → (bridge.step part.event).outward = .ended)
    (inward : bridge.inward = .ended → (bridge.step part.event).inward = .ended)
    (fixed : bridge.Halted → bridge.step part.event = bridge) :
    Onward (.traffic part) bridge (bridge.step part.event) where
  keeps := keeps
  outward := outward
  inward := inward
  still halted := by
    rw [fixed halted]
    exact still_of_quiet localQuiet relayQuiet ..
  events _ := ⟨[part.event], rfl⟩

/-- A direction to the relay that has ended does nothing. -/
theorem outward_fixed (ended : bridge.outward = .ended) :
    (∀ now, bridge.runOutward now = bridge) ∧ ∀ result, bridge.finishOutward result = bridge := by
  simp [Bridge.runOutward, Bridge.finishOutward, ended]

/-- A direction from the relay that has ended does nothing. -/
theorem inward_fixed (ended : bridge.inward = .ended) :
    (∀ now, bridge.runInward now = bridge) ∧ ∀ result, bridge.finishInward result = bridge := by
  simp [Bridge.runInward, Bridge.finishInward, ended]

/-- A step of the direction to the relay is nothing to the end, or to the other direction. -/
theorem keeps_outwardStep {receipt : Option Receipt}
    (step : Bridge.OutwardStep bridge receipt after) :
    Keeps bridge after ∧ after.inward = bridge.inward := by
  cases step <;> exact ⟨⟨rfl, rfl, rfl, rfl⟩, rfl⟩

/-- So is a step of the direction from the relay. -/
theorem keeps_inwardStep {receipt : Option Receipt}
    (step : Bridge.InwardStep bridge receipt after) :
    Keeps bridge after ∧ after.outward = bridge.outward := by
  cases step <;> exact ⟨⟨rfl, rfl, rfl, rfl⟩, rfl⟩

/-- So is the end of a send to the relay. -/
theorem keeps_finishOutward (bridge : Bridge) (result : Except IoError Unit) :
    Keeps bridge (bridge.finishOutward result) ∧
      (bridge.finishOutward result).inward = bridge.inward := by
  unfold Bridge.finishOutward
  split <;> exact ⟨⟨rfl, rfl, rfl, rfl⟩, rfl⟩

/-- So is the end of a send on the local socket. -/
theorem keeps_finishInward (bridge : Bridge) (result : Except IoError Unit) :
    Keeps bridge (bridge.finishInward result) ∧
      (bridge.finishInward result).outward = bridge.outward := by
  unfold Bridge.finishInward
  split <;> exact ⟨⟨rfl, rfl, rfl, rfl⟩, rfl⟩

/-- What goes on at a bridge is nothing to its end. -/
theorem onward_traffic (bridge : Bridge) (part : Traffic) :
    Onward (.traffic part) bridge (bridge.step part.event) := by
  cases part with
  | arriveLocally arrival => exact (onward_arrivals bridge arrival).1
  | arriveOnRelay arrival => exact (onward_arrivals bridge arrival).2
  | runOutward now =>
    obtain ⟨keeps, other⟩ := keeps_outwardStep (Bridge.outwardStep now bridge)
    have fixed (ended : bridge.outward = .ended) := (outward_fixed ended).1 now
    exact onward_of_direction rfl rfl keeps
      (fun ended => (congrArg Bridge.outward (fixed ended)).trans ended) other.trans
      (fun halted => fixed halted.outward)
  | finishOutward result =>
    obtain ⟨keeps, other⟩ := keeps_finishOutward bridge result
    have fixed (ended : bridge.outward = .ended) := (outward_fixed ended).2 result
    exact onward_of_direction rfl rfl keeps
      (fun ended => (congrArg Bridge.outward (fixed ended)).trans ended) other.trans
      (fun halted => fixed halted.outward)
  | runInward now =>
    obtain ⟨keeps, other⟩ := keeps_inwardStep (Bridge.inwardStep now bridge)
    have fixed (ended : bridge.inward = .ended) := (inward_fixed ended).1 now
    exact onward_of_direction rfl rfl keeps other.trans
      (fun ended => (congrArg Bridge.inward (fixed ended)).trans ended)
      (fun halted => fixed halted.inward)
  | finishInward result =>
    obtain ⟨keeps, other⟩ := keeps_finishInward bridge result
    have fixed (ended : bridge.inward = .ended) := (inward_fixed ended).2 result
    exact onward_of_direction rfl rfl keeps other.trans
      (fun ended => (congrArg Bridge.inward (fixed ended)).trans ended)
      (fun halted => fixed halted.inward)

/-- The direction to the relay ends once it is told to, whatever it is doing. -/
theorem outward_ends (told : bridge.stopping = true) :
    ∃ time, ∀ now, time ≤ now → ∀ result,
      ((bridge.finishOutward result).runOutward now).runOutward now =
        { bridge with outward := .ended } := by
  cases doing : bridge.outward with
  | waiting | sending =>
    refine ⟨0, fun now _ result => ?_⟩
    simp [Bridge.finishOutward, Bridge.runOutward, doing, told]
  | resting stop =>
    refine ⟨stop, fun now late result => ?_⟩
    simp [Bridge.finishOutward, Bridge.runOutward, doing, told, late]
  | ended =>
    obtain ⟨runs, finishes⟩ := outward_fixed doing
    exact ⟨0, fun now _ result => by rw [finishes, runs, runs, ← doing]⟩

/-- The direction from the relay ends once it is told to, whatever it is doing. -/
theorem inward_ends (told : bridge.stopping = true) :
    ∃ time, ∀ now, time ≤ now → ∀ result,
      ((bridge.finishInward result).runInward now).runInward now =
        { bridge with inward := .ended } := by
  cases doing : bridge.inward with
  | waiting | sending =>
    refine ⟨0, fun now _ result => ?_⟩
    simp [Bridge.finishInward, Bridge.runInward, doing, told]
  | resting stop =>
    refine ⟨stop, fun now late result => ?_⟩
    simp [Bridge.finishInward, Bridge.runInward, doing, told, late]
  | ended =>
    obtain ⟨runs, finishes⟩ := inward_fixed doing
    exact ⟨0, fun now _ result => by rw [finishes, runs, runs, ← doing]⟩

/-! ## Calls -/

/-- A bridge is closed just if there was a call. -/
theorem Standing.closed_iff {calls : List CloseStage} (standing : Standing bridge calls) :
    bridge.closed = true ↔ calls ≠ [] := by
  cases standing with
  | uncalled unclosed => simp [unclosed]
  | called others closed => simp [closed]

/-- A call is the first and has come some way, or it has returned. -/
theorem Standing.stage {calls : List CloseStage} (standing : Standing bridge calls) {call : Nat}
    {stage : CloseStage} (found : calls[call]? = some stage) :
    stage = .returned ∨ call = 0 ∧ ∃ others, calls = stage :: others := by
  cases standing with
  | uncalled => cases found
  | called others closed told reached =>
    cases call with
    | zero =>
      cases found
      exact .inr ⟨rfl, _, rfl⟩
    | succ call =>
      rw [List.getElem?_cons_succ] at found
      exact .inl (List.eq_of_mem_replicate (List.mem_of_getElem? found))

/-- How far a call has come is told as long as nothing that it has seen changes. -/
theorem Reached.mono {stage : CloseStage} (reached : Reached bridge stage)
    (closing : after.closing = bridge.closing) (releases : after.releases = bridge.releases)
    (outward : bridge.outward = .ended → after.outward = .ended)
    (inward : bridge.inward = .ended → after.inward = .ended) : Reached after stage := by
  cases reached with
  | awaitingOutward waits unreleased =>
    exact .awaitingOutward (closing.trans waits) (releases.trans unreleased)
  | awaitingInward waits unreleased ended =>
    exact .awaitingInward (closing.trans waits) (releases.trans unreleased) (outward ended)
  | releasing gone released halted =>
    exact .releasing (closing.trans gone) (releases.trans released)
      ⟨outward halted.outward, inward halted.inward⟩
  | returned gone released halted =>
    exact .returned (closing.trans gone) (releases.trans released)
      ⟨outward halted.outward, inward halted.inward⟩
  | givenUp gone atMostOnce =>
    exact .givenUp (closing.trans gone) (releases.symm ▸ atMostOnce)

/-- The calls stand as before after a move that no call makes. -/
theorem Standing.onward {calls : List CloseStage} (standing : Standing bridge calls) {move : Move}
    (onward : Onward move bridge after) : Standing after calls := by
  obtain ⟨closed, closing, stopping, releases⟩ := onward.keeps
  cases standing with
  | uncalled unclosed idle unreleased =>
    exact .uncalled (closed.trans unclosed) (closing.trans idle) (releases.trans unreleased)
  | called others called told reached =>
    exact .called others (closed.trans called) (stopping.trans told)
      (reached.mono closing releases onward.outward onward.inward)

/-- The calls stand as before once the directions are told to stop. -/
theorem Standing.tell {calls : List CloseStage} (standing : Standing bridge calls) :
    Standing { bridge with stopping := true } calls := by
  cases standing with
  | uncalled unclosed idle unreleased => exact .uncalled unclosed idle unreleased
  | called others closed told reached =>
    exact .called others closed rfl (reached.mono rfl rfl id id)

/-- One more call has returned. -/
theorem Standing.again {calls : List CloseStage} (standing : Standing bridge calls)
    (earlier : calls ≠ []) : Standing bridge (calls ++ [.returned]) := by
  cases standing with
  | uncalled => exact absurd rfl earlier
  | called others closed told reached =>
    rw [List.cons_append, ← List.replicate_succ']
    exact .called (others + 1) closed told reached

/-- The first call has come to another stage. -/
theorem Standing.next {calls : List CloseStage} (standing : Standing bridge calls)
    {stage next : CloseStage} {others : List CloseStage} (come : calls = stage :: others)
    (closed : after.closed = bridge.closed) (stopping : after.stopping = bridge.stopping)
    (reached : Reached after next) : Standing after (next :: others) := by
  cases standing with
  | uncalled => cases come
  | called others called told _ =>
    cases come
    exact .called others (closed.trans called) (stopping.trans told) reached

/-- The first call has come as far as its stage says. -/
theorem Standing.reached {calls : List CloseStage} (standing : Standing bridge calls)
    {stage : CloseStage} (first : calls.head? = some stage) : Reached bridge stage := by
  cases standing with
  | uncalled => cases first
  | called others closed told reached =>
    cases first
    exact reached

/-- Without a call none waits for the directions, and the relay was not released. -/
theorem Standing.untouched {calls : List CloseStage} (standing : Standing bridge calls)
    (uncalled : calls = []) : bridge.closing = false ∧ bridge.releases = 0 := by
  cases standing with
  | uncalled unclosed idle unreleased => exact ⟨idle, unreleased⟩
  | called => cases uncalled

/-- After a call the directions are told to stop. -/
theorem Standing.told {calls : List CloseStage} (standing : Standing bridge calls)
    (earlier : calls ≠ []) : bridge.stopping = true := by
  cases standing with
  | uncalled => exact absurd rfl earlier
  | called others closed told reached => exact told

/-- The relay was released once at most. -/
theorem Standing.releases_le {calls : List CloseStage} (standing : Standing bridge calls) :
    bridge.releases ≤ 1 := by
  cases standing with
  | uncalled unclosed idle unreleased => omega
  | called others closed told reached => cases reached <;> omega

variable {custody : Custody}

/-- After a call or a drop the directions are told to stop. -/
theorem Orderly.stopping (orderly : Orderly custody)
    (ends : custody.calls ≠ [] ∨ custody.dropped = true) : custody.bridge.stopping = true := by
  obtain earlier | dropped := ends
  · exact orderly.standing.told earlier
  · exact orderly.told dropped

/-- A bridge is in order once the first call has come to another stage. -/
theorem Orderly.next {stage next : CloseStage} {others : List CloseStage}
    (orderly : Orderly custody) (calls : custody.calls = stage :: others)
    (closed : after.closed = custody.bridge.closed)
    (stopping : after.stopping = custody.bridge.stopping) (reached : Reached after next) :
    Orderly { custody with bridge := after, calls := next :: others } where
  standing := orderly.standing.next calls closed stopping reached
  told dropped := stopping.trans (orderly.told dropped)
  held := by simpa [calls] using orderly.held
  aborted := by simpa [calls] using orderly.aborted

/-- A move may come to nothing. -/
theorem Outcome.nothing {move : Move} (localQuiet : move.arrivedLocally = none)
    (relayQuiet : move.arrivedOnRelay = none) : Outcome custody move custody :=
  .onward (onward_self custody.bridge localQuiet relayQuiet)

namespace Custody

/-- The kinds of outcome are all that a move can come to. -/
theorem outcome (standing : Standing custody.bridge custody.calls) (move : Move) :
    Outcome custody move (custody.step move) := by
  -- A call that is not over is the first, so the moves of all others come to nothing.
  cases move with
  | traffic part => exact .onward (onward_traffic custody.bridge part)
  | close =>
    rw [step]
    split
    case isTrue => exact .nothing rfl rfl
    case isFalse notDropped =>
      have kept := eq_false_of_ne_true notDropped
      split
      case isTrue closed => exact .calledAgain (standing.closed_iff.mp closed) kept
      case isFalse unclosed =>
        have uncalled := Decidable.not_not.mp (mt standing.closed_iff.mpr unclosed)
        rw [Bridge.close, if_neg unclosed, uncalled, List.nil_append]
        exact .called uncalled kept
  | goOn call =>
    rw [step]
    split
    case h_1 waits =>
      split
      case isTrue ended =>
        obtain returned | ⟨rfl, others, calls⟩ := standing.stage waits
        · cases returned
        · rw [advance, calls]
          exact .outwardEnded calls ended
      case isFalse => exact .nothing rfl rfl
    case h_2 waits =>
      split
      case isTrue ended =>
        obtain returned | ⟨rfl, others, calls⟩ := standing.stage waits
        · cases returned
        · rw [advance, calls]
          exact .inwardEnded calls ended
      case isFalse => exact .nothing rfl rfl
    case h_3 => exact .nothing rfl rfl
  | released call result =>
    rw [step]
    split
    case isTrue waits =>
      obtain returned | ⟨rfl, others, calls⟩ := standing.stage waits
      · cases returned
      · rw [advance, calls]
        exact .returns calls result
    case isFalse => exact .nothing rfl rfl
  | giveUp call =>
    rw [step]
    split
    case isTrue waits =>
      obtain ⟨stage, found, underWay⟩ := Option.any_eq_true _ _ |>.mp waits
      obtain rfl | ⟨rfl, others, calls⟩ := standing.stage found
      · cases underWay
      · rw [advance, calls]
        exact .givenUp calls
    case isFalse => exact .nothing rfl rfl
  | drop =>
    rw [step]
    split
    case isTrue => exact .nothing rfl rfl
    case isFalse due =>
      obtain ⟨kept, idle⟩ := Bool.or_eq_false_iff.mp (eq_false_of_ne_true due)
      exact .dropped kept fun stage mem =>
        eq_false_of_ne_true (List.any_eq_false.mp idle stage mem)
  | cutOff direction =>
    rw [step]
    split
    case isTrue => exact .onward (onward_cutOff custody.bridge rfl rfl rfl direction)
    case isFalse => exact .nothing rfl rfl
  | fail direction => exact .onward (onward_cutOff custody.bridge rfl rfl rfl direction)

/-- Every move leaves a bridge in order. -/
theorem orderly_step (orderly : Orderly custody) (move : Move) : Orderly (custody.step move) := by
  have outcome := outcome orderly.standing move
  generalize custody.step move = after at outcome
  cases outcome with
  | onward onward =>
    exact ⟨orderly.standing.onward onward,
      fun dropped => onward.keeps.stopping.trans (orderly.told dropped), orderly.held,
      orderly.aborted⟩
  | called uncalled kept =>
    obtain ⟨-, unreleased⟩ := orderly.standing.untouched uncalled
    refine ⟨.called 0 rfl rfl (.awaitingOutward rfl unreleased), fun _ => rfl, ?_, ?_⟩
    · simp
    · simpa [uncalled, kept] using orderly.aborted
  | calledAgain earlier kept =>
    refine ⟨orderly.standing.again earlier, orderly.told, ?_, ?_⟩
    · simpa [earlier] using orderly.held
    · simpa [earlier] using orderly.aborted
  | outwardEnded calls ended =>
    refine orderly.next calls rfl rfl ?_
    cases orderly.standing.reached (congrArg List.head? calls) with
    | awaitingOutward waits unreleased => exact .awaitingInward waits unreleased ended
  | inwardEnded calls ended =>
    refine orderly.next calls rfl rfl ?_
    cases orderly.standing.reached (congrArg List.head? calls) with
    | awaitingInward waits unreleased outwardEnded =>
      exact .releasing rfl (congrArg (· + 1) unreleased) ⟨outwardEnded, ended⟩
  | returns calls result =>
    refine orderly.next calls rfl rfl ?_
    cases orderly.standing.reached (congrArg List.head? calls) with
    | releasing gone released halted => exact .returned gone released halted
  | givenUp calls =>
    exact orderly.next calls rfl rfl (.givenUp rfl orderly.standing.releases_le)
  | dropped kept idle =>
    refine ⟨orderly.standing.tell, fun _ => rfl, ?_, ?_⟩
    · simp
    · simpa [kept] using orderly.held

/-- Directions that have ended stay so, and forward nothing in a move. -/
theorem still_step (orderly : Orderly custody) (halted : custody.bridge.Halted) (move : Move) :
    (custody.step move).bridge.Halted ∧ Still [move] custody.bridge (custody.step move).bridge := by
  have outcome := outcome orderly.standing move
  generalize custody.step move = after at outcome
  cases outcome with
  | onward onward =>
    exact ⟨⟨onward.outward halted.outward, onward.inward halted.inward⟩, onward.still halted⟩
  | _ => exact ⟨⟨halted.outward, halted.inward⟩, still_of_quiet rfl rfl ..⟩

/-- A move that releases the relay is the first call's, once both directions have ended. -/
theorem released_step (orderly : Orderly custody) {move : Move}
    (releases : (custody.step move).bridge.releases ≠ custody.bridge.releases) :
    move = .goOn 0 ∧ custody.calls.head? = some .awaitingInward ∧ custody.bridge.Halted := by
  have outcome := outcome orderly.standing move
  generalize custody.step move = after at outcome releases
  cases outcome with
  | onward onward => exact absurd onward.keeps.releases releases
  | inwardEnded calls ended =>
    have first := congrArg List.head? calls
    cases orderly.standing.reached first with
    | awaitingInward waits unreleased outwardEnded => exact ⟨rfl, first, outwardEnded, ended⟩
  | _ => exact absurd rfl releases

/-- Only a call of close makes a call. -/
theorem uncalled_step (orderly : Orderly custody) (uncalled : custody.calls = []) {move : Move}
    (other : move ≠ .close) : (custody.step move).calls = [] := by
  have outcome := outcome orderly.standing move
  generalize custody.step move = after at outcome
  cases outcome with
  | onward | dropped => exact uncalled
  | called | calledAgain => exact absurd rfl other
  | outwardEnded calls | inwardEnded calls | returns calls | givenUp calls =>
    rw [uncalled] at calls
    cases calls

/-- A move comes to events of the bridge if everything is left to come to its own end. -/
theorem events_step (orderly : Orderly custody) {move : Move} (whole : move.breaks = false) :
    ∃ events, (custody.step move).bridge = custody.bridge.run events := by
  have outcome := outcome orderly.standing move
  generalize custody.step move = after at outcome
  cases outcome with
  | onward onward => exact onward.events whole
  | called uncalled kept =>
    refine ⟨[.close], ?_⟩
    have unclosed := mt orderly.standing.closed_iff.mp (not_not_intro uncalled)
    simp only [Bridge.run, List.foldl_cons, List.foldl_nil, Bridge.step, Bridge.close,
      if_neg unclosed]
  | inwardEnded calls ended =>
    refine ⟨[.finishClose], ?_⟩
    cases orderly.standing.reached (congrArg List.head? calls) with
    | awaitingInward waits unreleased outwardEnded =>
      simp only [Bridge.run, List.foldl_cons, List.foldl_nil, Bridge.step, Bridge.finishClose,
        Bridge.release, waits, outwardEnded, ended, and_self, if_true]
  | calledAgain | outwardEnded | returns => exact ⟨[], rfl⟩
  | givenUp | dropped => cases whole

/-! ## Runs -/

/-- Moves in two parts are made one part after the other. -/
theorem after_append (custody : Custody) (moves later : List Move) :
    custody.after (moves ++ later) = (custody.after moves).after later := List.foldl_append

/-- All moves leave a bridge in order. -/
theorem orderly_after (orderly : Orderly custody) (moves : List Move) :
    Orderly (custody.after moves) := by
  induction moves generalizing custody with
  | nil => exact orderly
  | cons move moves ih => exact ih (orderly_step orderly move)

/-- Directions that have ended stay so, and forward nothing any more. -/
theorem still_after (orderly : Orderly custody) (halted : custody.bridge.Halted)
    (moves : List Move) :
    (custody.after moves).bridge.Halted ∧
      Still moves custody.bridge (custody.after moves).bridge := by
  induction moves generalizing custody with
  | nil => exact ⟨halted, rfl, rfl, (List.append_nil _).symm, (List.append_nil _).symm⟩
  | cons move moves ih =>
    obtain ⟨halts, first⟩ := still_step orderly halted move
    obtain ⟨stays, rest⟩ := ih (orderly_step orderly move) halts
    exact ⟨stays, first.trans rest⟩

/-- There is no call as long as close is not called. -/
theorem uncalled_after (orderly : Orderly custody) (uncalled : custody.calls = [])
    {moves : List Move} (others : .close ∉ moves) : (custody.after moves).calls = [] := by
  induction moves generalizing custody with
  | nil => exact uncalled
  | cons move moves ih =>
    obtain ⟨other, rest⟩ := List.ne_and_not_mem_of_not_mem_cons others
    exact ih (orderly_step orderly move) (uncalled_step orderly uncalled other.symm) rest

/-- What becomes of a bridge in custody is what events make of the bridge, if everything is left to
come to its own end. -/
theorem events_after (orderly : Orderly custody) {moves : List Move}
    (whole : ∀ move ∈ moves, move.breaks = false) :
    ∃ events, (custody.after moves).bridge = custody.bridge.run events := by
  induction moves generalizing custody with
  | nil => exact ⟨[], rfl⟩
  | cons move moves ih =>
    obtain ⟨first, rest⟩ := List.forall_mem_cons.mp whole
    obtain ⟨events, same⟩ := events_step orderly first
    obtain ⟨later, final⟩ := ih (orderly_step orderly move) rest
    refine ⟨events ++ later, final.trans ?_⟩
    rw [same, Bridge.run, Bridge.run, Bridge.run, List.foldl_append]

/-- Errors of the relay as it is released make no difference. -/
theorem after_unharmed (custody : Custody) (moves : List Move) :
    custody.after (moves.map Move.unharmed) = custody.after moves := by
  induction moves generalizing custody with
  | nil => rfl
  | cons move moves ih =>
    have same : custody.step move.unharmed = custody.step move := by cases move <;> rfl
    rw [List.map_cons, after, List.foldl_cons, same]
    exact ih (custody.step move)

/-! ## Coming to an end -/

/-- The moves by which directions that are told to stop come to their ends: their sends are over,
whatever came of them, and their rests have passed. -/
def windDown (now : Nat) (outward inward : Except IoError Unit) : List Move :=
  [.traffic (.finishOutward outward), .traffic (.runOutward now), .traffic (.runOutward now),
    .traffic (.finishInward inward), .traffic (.runInward now), .traffic (.runInward now)]

/-- Directions that are told to stop end by these moves, and nothing else changes. -/
theorem after_windDown (custody : Custody) (told : custody.bridge.stopping = true) :
    ∃ time, ∀ now, time ≤ now → ∀ outward inward,
      custody.after (windDown now outward inward) =
        { custody with
          bridge := { custody.bridge with outward := .ended, inward := .ended } } := by
  obtain ⟨outwardTime, outwardEnds⟩ := outward_ends told
  have toldStill : { custody.bridge with outward := .ended }.stopping = true := told
  obtain ⟨inwardTime, inwardEnds⟩ := inward_ends toldStill
  refine ⟨max outwardTime inwardTime, fun now late outward inward => ?_⟩
  have first := outwardEnds now (Nat.le_trans (Nat.le_max_left ..) late) outward
  have second := inwardEnds now (Nat.le_trans (Nat.le_max_right ..) late) inward
  simp only [after, windDown, List.foldl_cons, List.foldl_nil, step, Traffic.event, Bridge.step,
    first, second]

/-- The first call comes to its end once the directions have ended. -/
theorem returns_of_halted (halted : custody.bridge.Halted)
    {stage : CloseStage} (first : custody.calls.head? = some stage)
    (underWay : stage.isUnderWay = true) (result : Except IoError Unit) :
    (custody.after [.goOn 0, .goOn 0, .released 0 result]).calls.head? = some .returned := by
  obtain ⟨others, calls⟩ := List.head?_eq_some_iff.mp first
  cases stage with
  | returned | givenUp => cases underWay
  | awaitingOutward | awaitingInward | releasing =>
    simp [after, step, advance, calls, halted.outward, halted.inward, Bridge.release]

/-- Directions that are being cut off end. -/
theorem halted_of_aborted (aborted : custody.aborted = true) :
    (custody.after [.cutOff .outward, .cutOff .inward]).bridge.Halted := by
  constructor <;> simp [after, step, aborted, Bridge.cutOff]

/-- A drop before which every call has returned, and after which both directions are cut off, is
what a drop is to the bridge. -/
theorem after_drop (orderly : Orderly custody) (kept : custody.dropped = false)
    (settled : ∀ stage ∈ custody.calls, stage = .returned) :
    (custody.after [.drop, .cutOff .outward, .cutOff .inward]).bridge = custody.bridge.drop := by
  cases calls : custody.calls with
  | nil =>
    have held := orderly.held.mpr ⟨calls, kept⟩
    obtain ⟨idle, -⟩ := orderly.standing.untouched calls
    simp [after, step, kept, calls, held, Bridge.cutOff, Bridge.drop, idle]
  | cons first others =>
    have idle : custody.calls.any (·.isUnderWay) = false := by
      rw [List.any_eq_false]
      intro stage mem
      rw [settled stage mem]
      decide
    have unheld : custody.held = false :=
      eq_false_of_ne_true fun held => by cases calls.symm.trans (orderly.held.mp held).1
    obtain rfl := settled first (calls ▸ List.mem_cons_self ..)
    cases orderly.standing.reached (congrArg List.head? calls) with
    | returned gone released halted =>
      simp [after, step, kept, idle, unheld, Bridge.drop, gone, halted.outward, halted.inward]

/-- What calls of close and a drop, in any order, make of a bridge. -/
structure ClosesOnce (start : Custody) : Prop where
  /-- The first call closes the bridge and is under way. -/
  called : ∀ moves,
    let custody := start.after moves
    custody.calls = [] → custody.dropped = false →
      (custody.step .close).bridge = custody.bridge.close ∧
        (custody.step .close).calls = [.awaitingOutward]
  /-- The relay is released at most once, and once if the first call returns. -/
  once : ∀ moves,
    let custody := start.after moves
    custody.bridge.releases ≤ 1 ∧
      (custody.calls.head? = some .returned → custody.bridge.releases = 1)
  /-- Without a call it is never released, not even by a drop. -/
  uncalled : ∀ moves, .close ∉ moves → (start.after moves).bridge.releases = 0
  /-- The first call releases it, once both directions have ended. -/
  released : ∀ moves move,
    let custody := start.after moves
    (custody.step move).bridge.releases ≠ custody.bridge.releases →
      move = .goOn 0 ∧ custody.calls.head? = some .awaitingInward ∧ custody.bridge.Halted
  /-- Once the first call has returned, or the bridge was dropped and its directions have ended,
  nothing is forwarded any more: what was waiting and what arrives goes on waiting. -/
  still : ∀ moves later,
    let custody := start.after moves
    custody.calls.head? = some .returned ∨ custody.dropped = true ∧ custody.bridge.Halted →
      let final := (start.after (moves ++ later)).bridge
      final.Halted ∧ Still later custody.bridge final
  /-- Every call but the first returns at once, without effect, and nothing becomes of it later. -/
  others : ∀ moves,
    let custody := start.after moves
    (custody.calls ≠ [] → custody.dropped = false →
      custody.step .close = { custody with calls := custody.calls ++ [.returned] }) ∧
    ∀ call, 0 < call →
      (∀ stage, custody.calls[call]? = some stage → stage = .returned) ∧
      custody.step (.goOn call) = custody ∧ custody.step (.giveUp call) = custody ∧
      ∀ result, custody.step (.released call result) = custody
  /-- An error of the relay as it is released makes no difference. -/
  unharmed : ∀ moves, start.after (moves.map Move.unharmed) = start.after moves
  /-- After a call or a drop both directions come to an end, whatever they were doing. -/
  halts : ∀ moves,
    let custody := start.after moves
    custody.calls ≠ [] ∨ custody.dropped = true →
      ∃ time, ∀ now, time ≤ now → ∀ outward inward,
        (custody.after (windDown now outward inward)).bridge.Halted
  /-- A drop before any call has both cut off. -/
  cutsOff : ∀ moves,
    let custody := start.after moves
    custody.calls = [] → custody.dropped = true →
      (custody.after [.cutOff .outward, .cutOff .inward]).bridge.Halted
  /-- The first call comes to an end after the directions, whatever comes of the release. -/
  returns : ∀ moves stage,
    let custody := start.after moves
    custody.calls.head? = some stage → stage.isUnderWay = true →
      ∃ time, ∀ now, time ≤ now → ∀ outward inward result,
        (custody.after
          (windDown now outward inward ++ [.goOn 0, .goOn 0, .released 0 result])).calls.head? =
            some .returned

/-- A call that is not the first has returned, and no move has to do with it. -/
theorem others_returned (orderly : Orderly custody) {call : Nat} (later : 0 < call) :
    (∀ stage, custody.calls[call]? = some stage → stage = .returned) ∧
      custody.step (.goOn call) = custody ∧ custody.step (.giveUp call) = custody ∧
      ∀ result, custody.step (.released call result) = custody := by
  have stages : ∀ stage, custody.calls[call]? = some stage → stage = .returned := by
    intro stage found
    obtain returned | ⟨first, -⟩ := orderly.standing.stage found
    · exact returned
    · omega
  refine ⟨stages, ?_⟩
  cases found : custody.calls[call]? with
  | none => simp [step, found]
  | some stage =>
    obtain rfl := stages stage found
    simp [step, found, CloseStage.isUnderWay]

/-- A bridge that starts is released once at most, after both directions have ended, and forwards
nothing after it was closed or dropped. -/
theorem start_closesOnce (target : Endpoint) : ClosesOnce { bridge := { target } } := by
  have start : Orderly { bridge := { target } } := by
    refine ⟨.uncalled rfl rfl rfl, ?_, ?_, ?_⟩ <;> simp
  have orderly := orderly_after start
  constructor
  case called =>
    intro moves custody uncalled kept
    have unclosed := mt (orderly moves).standing.closed_iff.mp (not_not_intro uncalled)
    rw [step, if_neg (ne_true_of_eq_false kept), if_neg unclosed, uncalled]
    exact ⟨rfl, rfl⟩
  case once =>
    intro moves custody
    refine ⟨(orderly moves).standing.releases_le, fun first => ?_⟩
    cases (orderly moves).standing.reached first with
    | returned gone released halted => exact released
  case uncalled =>
    intro moves others
    exact ((orderly moves).standing.untouched (uncalled_after start rfl others)).2
  case released => exact fun moves move releases => released_step (orderly moves) releases
  case still =>
    intro moves later custody closed
    have halted : custody.bridge.Halted := by
      obtain first | ⟨-, halted⟩ := closed
      · cases (orderly moves).standing.reached first with
        | returned gone released halted => exact halted
      · exact halted
    have still := still_after (orderly moves) halted later
    rwa [← after_append] at still
  case others =>
    intro moves custody
    refine ⟨fun earlier kept => ?_, fun call later => others_returned (orderly moves) later⟩
    have closed := (orderly moves).standing.closed_iff.mpr earlier
    rw [step, if_neg (ne_true_of_eq_false kept), if_pos closed]
  case unharmed => exact after_unharmed _
  case halts =>
    intro moves custody ends
    obtain ⟨time, windsDown⟩ := after_windDown custody ((orderly moves).stopping ends)
    refine ⟨time, fun now late outward inward => ?_⟩
    rw [windsDown now late outward inward]
    exact ⟨rfl, rfl⟩
  case cutsOff =>
    intro moves custody uncalled dropped
    exact halted_of_aborted ((orderly moves).aborted.mpr ⟨uncalled, dropped⟩)
  case returns =>
    intro moves stage custody first underWay
    have earlier : custody.calls ≠ [] := by
      intro uncalled
      rw [uncalled] at first
      cases first
    obtain ⟨time, windsDown⟩ := after_windDown custody ((orderly moves).stopping (.inl earlier))
    refine ⟨time, fun now late outward inward result => ?_⟩
    rw [after_append, windsDown now late outward inward]
    refine returns_of_halted ?_ ?_ underWay result
    · exact ⟨rfl, rfl⟩
    · exact first

/-- Two calls side by side: the second returns at once, and the first when the relay has failed to
be released. -/
example :
    let custody := Custody.after { bridge := { target := Bridge.onPort 80 } }
      ([.close, .close] ++ windDown 0 (.ok ()) (.ok ()) ++
        [.goOn 0, .goOn 0, .released 0 (.error (.bare .brokenPipe))])
    custody.calls = [.returned, .returned] ∧ custody.bridge.releases = 1 := by
  decide +kernel

end Custody

end Outbound.Relay
