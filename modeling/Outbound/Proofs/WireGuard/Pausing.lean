import Mathlib.Data.List.Induction
import Outbound.Proofs.WireGuard.Slot

/-!
# Pausing and rebinding

A rebind looks once whether the program is paused, as it is called. If it is, the rebind is over at
once; if not, it lets the network settle, waits for the listener and replaces the socket, whatever
the switch says by then. A rebind that comes to replace the socket is traced back to its call
(`Began`) from what a step may do with it (`RebindStep`). So it replaces the socket while the
program is paused just if the last use of the switch since its call was a pause (`new_heedsPauses`).
-/
namespace Outbound.WireGuard

variable {κ : Type}

/-- What a move sets the switch to. -/
def Move.setting : Move κ → Option Bool
  | set paused => some paused
  | _ => none

/-- A rebind lets the network settle from its call on before it does anything else. -/
def RebindCall.Settles (called now : Nat) : RebindCall → Prop
  | settling stop => stop = called + Bind.settleTime
  | _ => called + Bind.settleTime ≤ now

/-- A rebind that has let the network settle has done so for good. -/
theorem RebindCall.Settles.mono {called now later : Nat} {rebind : RebindCall}
    (settles : rebind.Settles called now) (time : now ≤ later) : rebind.Settles called later := by
  cases rebind with
  | settling stop => exact settles
  | _ => exact Nat.le_trans settles time

namespace Calls

/-- Where a rebind that is under way after a step comes from. -/
inductive RebindStep (before : Calls κ) (move : Move κ) (call : Nat) (rebind : RebindCall) : Prop
  /-- It is called, and the program is not paused. -/
  | begins (called : move = .rebind) (last : call = before.stages.length)
    (running : before.isPaused = false)
    (settles : rebind = .settling (before.now + Bind.settleTime))
  /-- It goes on, or stays where it was. -/
  | goesOn {former : RebindCall} (found : before.stages[call]? = some (.rebinding former))
    (settles : ∀ called, former.Settles called before.now → rebind.Settles called before.now)

/-- A rebind that is under way began among the moves so far, while the program was not paused. -/
structure Began (start : Calls κ) (earlier later : List (Move κ)) (call : Nat)
    (rebind : RebindCall) : Prop where
  /-- It is the call that was made then. -/
  last : call = (start.after earlier).stages.length
  /-- The program was not paused. -/
  running : (start.after earlier).isPaused = false
  /-- It settles from then on. -/
  settles : rebind.Settles (start.after earlier).now (start.after (earlier ++ .rebind :: later)).now

variable {calls : Calls κ} {call : Nat} {rebind : RebindCall}

/-! ## Steps -/

/-- A rebind may stay where it was. -/
theorem RebindStep.stays {move : Move κ} (found : calls.stages[call]? = some (.rebinding rebind)) :
    RebindStep calls move call rebind :=
  .goesOn found fun _ settles => settles

/-- A call is at a stage after another was made as it was before, or it is the one made. -/
theorem found_start {stage : Stage (Opened κ)}
    {turn : Stage (Opened κ) × List (Effect (Opened κ))}
    (found : (calls.start turn).1.stages[call]? = some stage) :
    calls.stages[call]? = some stage ∨ call = calls.stages.length ∧ turn.1 = stage := by
  rw [start, List.getElem?_append] at found
  split at found
  case isTrue => exact .inl found
  case isFalse later =>
    rw [List.getElem?_singleton] at found
    split at found
    · exact .inr ⟨by omega, Option.some.inj found⟩
    · cases found

/-- A call is at a stage after another went on as it was before, or it is the one that went on. -/
theorem found_advance {stage : Stage (Opened κ)} {after : Calls κ}
    (stages : after.stages = calls.stages) {other : Nat}
    {turn : Stage (Opened κ) × List (Effect (Opened κ))}
    (found : (after.advance other turn).1.stages[call]? = some stage) :
    calls.stages[call]? = some stage ∨ other = call ∧ turn.1 = stage := by
  rw [advance, stages, List.getElem?_set] at found
  split at found
  case isTrue same =>
    split at found
    · exact .inr ⟨same, Option.some.inj found⟩
    · cases found
  case isFalse => exact .inl found

/-- A call that comes to replace no socket is no rebind. -/
theorem not_rebinding {stage : Stage (Opened κ)} (plain : stage.rebinds = false) {same : Prop} :
    ¬ (same ∧ stage = .rebinding rebind) := by
  rintro ⟨-, rfl⟩
  cases plain

/-- A rebind is where it was after another call has gone on to a stage that replaces no socket. -/
theorem RebindStep.aside {move : Move κ} {after : Calls κ} (stages : after.stages = calls.stages)
    {other : Nat} {turn : Stage (Opened κ) × List (Effect (Opened κ))}
    (plain : turn.1.rebinds = false)
    (found : (after.advance other turn).1.stages[call]? = some (.rebinding rebind)) :
    RebindStep calls move call rebind :=
  .stays ((found_advance stages found).resolve_right (not_rebinding plain))

/-- A rebind is where it was after a call that opens a socket has started. -/
theorem found_startOpen {purpose : Purpose}
    (found : (calls.startOpen purpose).1.stages[call]? = some (.rebinding rebind)) :
    calls.stages[call]? = some (.rebinding rebind) := by
  rw [startOpen] at found
  split at found
  · exact (found_start found).resolve_right (not_rebinding (Purpose.rebinds_afterOpen ..))
  · exact (found_start found).resolve_right (not_rebinding rfl)

/-- What becomes of a rebind as it looks at the time. -/
theorem rebindStep_proceed {move : Move κ} {former : RebindCall}
    (waits : calls.stages[call]? = some (.rebinding former))
    (turn : (Stage.afterRebind (κ := Opened κ) call (Bind.proceed calls.now former)).1 =
      .rebinding rebind) : RebindStep calls move call rebind := by
  rcases former with stop | _ | stop | result
  case settling =>
    rw [Bind.proceed] at turn
    split at turn
    case isTrue settled =>
      cases turn
      refine .goesOn waits fun called settles => ?_
      have stops : stop = called + Bind.settleTime := settles
      rw [stops] at settled
      exact settled
    case isFalse =>
      cases turn
      exact .stays waits
  case listening =>
    cases turn
    exact .stays waits
  case resting =>
    rw [Bind.proceed] at turn
    split at turn
    · cases turn
    · cases turn
      exact .stays waits
  case «over» => cases turn

/-- What a rebind under way comes from in a step. -/
theorem rebindStep {move : Move κ}
    (found : (calls.step move).1.stages[call]? = some (.rebinding rebind)) :
    RebindStep calls move call rebind := by
  cases move with
  | «open» | send packet entropy | receive room => exact .stays (found_startOpen found)
  | close | elapse time | set paused => exact .stays found
  | rebind =>
    obtain before | ⟨last, turn⟩ := found_start found
    · exact .stays before
    · cases running : calls.isPaused with
      | true =>
        rw [running, Bind.beginRebind, if_pos rfl] at turn
        cases turn
      | false =>
        rw [running, Bind.beginRebind, if_neg Bool.false_ne_true] at turn
        cases turn
        exact .begins rfl last running rfl
  | answer other answer =>
    simp only [step] at found
    split at found
    case h_1 purpose waits =>
      have stages : { (calls.number answer).2 with bind :=
          ((calls.number answer).2.bind.finishOpen (calls.number answer).1).2 }.stages =
          calls.stages := by
        cases answer <;> rfl
      exact .aside stages (Purpose.rebinds_afterOpen ..) found
    case h_2 waits =>
      rcases answer with error | socket
      · exact .aside rfl rfl found
      · obtain before | ⟨rfl, turn⟩ := found_advance rfl found
        · exact .stays before
        · cases turn
          exact .goesOn waits fun _ settles => settles
    case h_3 => exact .stays found
  | dispatch other result =>
    simp only [step] at found
    split at found
    case h_1 =>
      split at found
      · exact .aside rfl (Stage.rebinds_afterSend ..) found
      · exact .stays found
    case h_2 => exact .stays found
  | arrive other arrival =>
    simp only [step] at found
    split at found
    case h_1 =>
      exact .aside rfl (Stage.rebinds_afterArrival ..) found
    case h_2 => exact .stays found
  | wake other =>
    simp only [step] at found
    split at found
    case h_1 => exact .stays found
    case h_2 former _ waits =>
      obtain before | ⟨rfl, turn⟩ := found_advance rfl found
      · exact .stays before
      · exact rebindStep_proceed waits turn
    case h_3 => exact .stays found
  | giveUp other => exact .aside rfl rfl found

/-- A move sets the switch if it is one that does, and time only passes. -/
theorem around_step (calls : Calls κ) (move : Move κ) :
    (calls.step move).1.switch =
        move.setting.elim calls.switch (fun paused => calls.switch.map (·.set paused)) ∧
      calls.now ≤ (calls.step move).1.now := by
  have opens : ∀ purpose, (calls.startOpen purpose).1.switch = calls.switch ∧
      calls.now ≤ (calls.startOpen purpose).1.now := by
    intro purpose
    rw [startOpen]
    split <;> exact ⟨rfl, Nat.le_refl _⟩
  cases move with
  | «open» | send packet entropy | receive room => exact opens _
  | rebind | close | giveUp call | set paused => exact ⟨rfl, Nat.le_refl _⟩
  | elapse time => exact ⟨rfl, Nat.le_add_right _ _⟩
  | answer call answer =>
    simp only [step]
    split
    · rcases answer with error | socket <;> exact ⟨rfl, Nat.le_refl _⟩
    · rcases answer with error | socket <;> exact ⟨rfl, Nat.le_refl _⟩
    · exact ⟨rfl, Nat.le_refl _⟩
  | dispatch call result =>
    simp only [step]
    split
    · split <;> exact ⟨rfl, Nat.le_refl _⟩
    · exact ⟨rfl, Nat.le_refl _⟩
  | arrive call arrival | wake call =>
    simp only [step]
    split <;> exact ⟨rfl, Nat.le_refl _⟩

/-- A bind that heeds a switch is told what it was last set to. -/
theorem isPaused_step (heeds : calls.switch.isSome = true) (move : Move κ) :
    (calls.step move).1.isPaused = move.setting.getD calls.isPaused ∧
      (calls.step move).1.switch.isSome = true := by
  obtain ⟨switch, same⟩ := Option.isSome_iff_exists.mp heeds
  rw [isPaused, (calls.around_step move).1, isPaused, same]
  cases move.setting <;> exact ⟨rfl, rfl⟩

/-! ## Runs -/

/-- A bind that heeds a switch is told what it was last set to in the course of moves. -/
theorem isPaused_after (heeds : calls.switch.isSome = true) (moves : List (Move κ)) :
    (calls.after moves).isPaused =
        (moves.filterMap Move.setting).getLast?.getD calls.isPaused ∧
      (calls.after moves).switch.isSome = true := by
  induction moves generalizing calls with
  | nil => exact ⟨rfl, heeds⟩
  | cons move moves ih =>
    obtain ⟨told, heedsStill⟩ := isPaused_step heeds move
    obtain ⟨rest, final⟩ := ih heedsStill
    refine ⟨?_, final⟩
    rw [after, List.foldl_cons, ← after, rest, told, List.filterMap_cons]
    cases move.setting with
    | none => rfl
    | some paused =>
      rw [List.getLast?_cons]
      rfl

/-- Moves up to the last one leave what the last one makes of what the others left. -/
theorem after_concat (calls : Calls κ) (moves : List (Move κ)) (move : Move κ) :
    calls.after (moves ++ [move]) = ((calls.after moves).step move).1 := by
  rw [after_append]
  rfl

/-- Every rebind under way began with its call, while the program was not paused. -/
theorem began_after {start : Calls κ} (uncalled : start.stages = []) (moves : List (Move κ))
    {call : Nat} {rebind : RebindCall}
    (found : (start.after moves).stages[call]? = some (.rebinding rebind)) :
    ∃ earlier later, moves = earlier ++ .rebind :: later ∧
      Began start earlier later call rebind := by
  -- From the last move backwards, as the rebind goes back through each to its call.
  induction moves using List.reverseRecOn generalizing call rebind with
  | nil =>
    rw [after, List.foldl_nil, uncalled] at found
    cases found
  | append_singleton moves move ih =>
    have time := ((start.after moves).around_step move).2
    rw [after_concat] at found
    rw [← after_concat] at time
    cases rebindStep found with
    | begins called last running settles =>
      subst called settles
      exact ⟨moves, [], rfl, last, running, rfl⟩
    | goesOn before further =>
      obtain ⟨earlier, later, rfl, last, running, settles⟩ := ih before
      have longer : earlier ++ .rebind :: later ++ [move] =
          earlier ++ .rebind :: (later ++ [move]) := by
        rw [List.append_assoc, List.cons_append]
      refine ⟨earlier, later ++ [move], longer, last, running, ?_⟩
      rw [← longer]
      exact (further _ settles).mono time

/-! ## Heeding pauses -/

/-- What it means for the rebinds on a bind that it heeds a switch. -/
structure HeedsPauses (start : Calls κ) : Prop where
  /-- A rebind that is called while the program is paused is over at once, without effect, and
  stays so. -/
  skipped : ∀ moves,
    let calls := start.after moves
    let call := calls.stages.length
    calls.isPaused = true →
      (calls.step .rebind).2 = [.rebound call (.ok false)] ∧
      (calls.step .rebind).1.bind = calls.bind ∧
      ∀ later, ((calls.step .rebind).1.after later).stages[call]? = some .over
  /-- Any other asks the listener as soon as it has let the network settle. -/
  begun : ∀ moves,
    let calls := start.after moves
    let call := calls.stages.length
    calls.isPaused = false →
      (calls.after [.rebind, .elapse Bind.settleTime, .wake call]).stages[call]? =
        some (.rebinding .listening)
  /-- A rebind that waits for the listener was called while the program was not paused, and has
  let the network settle. It replaces the socket with the one that it is given, and the program is
  paused then just if the last use of the switch since the call was a pause. -/
  replaces : ∀ moves call,
    let calls := start.after moves
    calls.stages[call]? = some (.rebinding .listening) →
      (∀ socket,
        (calls.step (.answer call (.ok socket))).1.bind.slot = some ⟨calls.made, socket⟩) ∧
      ∃ earlier later, moves = earlier ++ .rebind :: later ∧
        call = (start.after earlier).stages.length ∧
        (start.after earlier).isPaused = false ∧
        (start.after earlier).now + Bind.settleTime ≤ calls.now ∧
        (calls.isPaused = true ↔ (later.filterMap Move.setting).getLast? = some true)
  /-- Nothing else puts a socket in the place of another. -/
  alone : ∀ moves move existing socket,
    let calls := start.after moves
    calls.bind.slot = some existing → (calls.step move).1.bind.slot = some socket →
      socket ≠ existing →
        ∃ call answer, move = .answer call (.ok answer) ∧
          calls.stages[call]? = some (.rebinding .listening)

/-- A rebind that is called while the program is paused is over at once. -/
theorem rebind_paused (paused : calls.isPaused = true) :
    calls.step .rebind = calls.start (.over, [.rebound calls.stages.length (.ok false)]) := by
  rw [step, Bind.beginRebind, if_pos paused, Stage.afterRebind]

/-- Any other asks the listener once it has let the network settle. -/
theorem rebind_running (running : calls.isPaused = false) :
    (calls.after [.rebind, .elapse Bind.settleTime, .wake calls.stages.length]).stages[
      calls.stages.length]? = some (.rebinding .listening) := by
  simp [after, step, start, advance, Stage.afterRebind, Bind.beginRebind, Bind.proceed, running]

/-- A new bind that is given a switch heeds it as its rebinds are called. -/
theorem new_heedsPauses (endpoint : Endpoint) (policy : Policy) (reserved : Reserved)
    (switch : PauseSwitch) :
    HeedsPauses (new (κ := κ) endpoint policy reserved (some switch)) := by
  constructor
  case skipped =>
    intro moves calls call paused
    rw [rebind_paused paused]
    refine ⟨rfl, rfl, fun later => ?_⟩
    exact (silent_run List.getElem?_concat_length later).ended
  case begun => exact fun moves running => rebind_running running
  case replaces =>
    intro moves call calls waits
    constructor
    · intro socket
      simp only [step, waits]
      rfl
    · obtain ⟨earlier, later, same, last, running, settles⟩ := began_after rfl moves waits
      rw [← same] at settles
      refine ⟨earlier, later, same, last, running, settles, ?_⟩
      have given : (new (κ := κ) endpoint policy reserved (some switch)).switch.isSome = true := rfl
      obtain ⟨-, heeds⟩ := isPaused_after given earlier
      obtain ⟨told, -⟩ := isPaused_after heeds (.rebind :: later)
      rw [← after_append, ← same, running, List.filterMap_cons_none rfl] at told
      rw [told]
      cases (later.filterMap Move.setting).getLast? <;> simp
  case alone =>
    intro moves move existing socket calls filled changed other
    cases slotStep calls move with
    | kept same => exact absurd (Option.some.inj (changed.symm.trans (same.trans filled))) other
    | filled waits empty => cases filled.symm.trans empty
    | replaced waits => exact ⟨_, _, rfl, waits⟩
    | emptied empty => cases changed.symm.trans empty

/-- The program may be paused once a rebind has begun, and the rebind replaces the socket all the
same. -/
theorem replaced_while_paused :
    ¬ ∀ (endpoint : Endpoint) (policy : Policy) (reserved : Reserved) (moves : List (Move Unit))
      (move : Move Unit) (existing socket : Opened Unit),
      let calls := (new endpoint policy reserved (some {})).after moves
      calls.bind.slot = some existing → (calls.step move).1.bind.slot = some socket →
        socket ≠ existing → calls.isPaused = false := by
  intro unpaused
  have never := unpaused ⟨.v4 .localhost, 51820, 0⟩
    ⟨Policy.defaultSize, Policy.defaultSize, Policy.defaultDelay, .custom [] false⟩ ⟨0, 0, 0⟩
    [.open, .answer 0 (.ok ()), .rebind, .elapse 50, .wake 1, .set true] (.answer 1 (.ok ()))
    ⟨0, ()⟩ ⟨1, ()⟩ rfl rfl (by decide)
  cases never

end Calls

end Outbound.WireGuard
