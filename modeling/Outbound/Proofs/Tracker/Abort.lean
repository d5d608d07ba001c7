import Outbound.Proofs.Tracker.Conn
import Outbound.Stream.Script

/-!
# Aborting a connection

Until a tracked connection is aborted it is as if it were not tracked; from then on the calls that
an abort stops fail and are not made. The abort is a closing, which wakes the tasks that wait. It
may come between any two calls, and between the halves of one.
-/
namespace Outbound

open Tracker (Op Alike Sound)

namespace Service

variable {Call : Type} {Result : Call → Type} {σ : Type} {service : Service Result σ}
  {own : Option Nat} {id : Nat} {conn : Tracker × σ} {move : Move Call}

/-! ## One move -/

/-- An answer changes of the tracker no more than what is noted. -/
theorem alike_answer (own : Option Nat) (turn : Turn) (call : Call) (conn : Tracker × σ) :
    Alike conn.1 (service.answer own turn call conn).2.1 := by
  have settled := Tracker.alike_settle conn.1 own (service.slot call)
  rcases service.answer_cases own turn call conn with ⟨made, -⟩ | ⟨made, -⟩ | ⟨refused, -⟩
  · rw [made]
    exact .refl conn.1
  · rw [made]
    exact settled
  · rw [refused]
    exact settled

/-- A move is made elsewhere, or it is the connection's own and changes no more of the tracker
either. -/
theorem elsewhere_or_alike (own : Option Nat) (move : Move Call) (conn : Tracker × σ) :
    (∃ op, move = .elsewhere op) ∨
      (∀ op, move ≠ .elsewhere op) ∧ Alike conn.1 (service.next own move conn).1 := by
  cases move with
  | elsewhere op => exact .inl ⟨op, rfl⟩
  | ask turn call => exact .inr ⟨nofun, Tracker.alike_ask ..⟩
  | answer turn call => exact .inr ⟨nofun, alike_answer ..⟩
  | giveUp number => exact .inr ⟨nofun, Tracker.alike_settle ..⟩

/-- No move takes back what has been registered. -/
theorem next_le_next (conn : Tracker × σ) (move : Move Call) :
    conn.1.next ≤ (service.next own move conn).1.next := by
  rcases elsewhere_or_alike own move conn with ⟨op, rfl⟩ | ⟨-, alike⟩
  · exact Tracker.next_le_apply conn.1 op
  · exact Nat.le_of_eq alike.next.symm

theorem made_next (made : id < conn.1.next) : id < (service.next own move conn).1.next :=
  Nat.lt_of_lt_of_le made (next_le_next conn move)

/-- A move aborts a registration if it closes everything while the registration is in the table. -/
theorem isAborted_next (made : id < conn.1.next) :
    (service.next own move conn).1.isAborted id = true ↔
      conn.1.isAborted id = true ∨ move = .elsewhere .closeAll ∧ conn.1.Lists id := by
  rcases elsewhere_or_alike own move conn with ⟨op, rfl⟩ | ⟨here, alike⟩
  · have unmade : conn.1.next ≤ id → conn.1.isAborted id = false := fun unmade =>
      absurd made (Nat.not_lt.mpr unmade)
    rw [Move.elsewhere.injEq]
    exact Tracker.isAborted_apply unmade
  · rw [alike.aborted id]
    simp [here]

/-- A move leaves a registration in the table that it spares, unless it closes everything. -/
theorem lists_next (sound : conn.1.Sound)
    (bound : (service.next own move conn).1.next ≤ UInt64.size) (spared : move.Spares id)
    (open_ : move ≠ .elsewhere .closeAll) (listed : conn.1.Lists id) :
    (service.next own move conn).1.Lists id := by
  rcases elsewhere_or_alike own move conn with ⟨op, rfl⟩ | ⟨-, alike⟩
  · refine (Tracker.lists_apply sound bound).mpr (.inr ⟨listed, ?_, fun closes => ?_⟩)
    · rintro rfl
      exact spared rfl
    · exact open_ (congrArg Move.elsewhere closes)
  · rwa [Tracker.Lists, alike.live]

theorem sound_next (sound : conn.1.Sound)
    (bound : (service.next own move conn).1.next ≤ UInt64.size) :
    (service.next own move conn).1.Sound := by
  rcases elsewhere_or_alike own move conn with ⟨op, rfl⟩ | ⟨-, alike⟩
  · exact sound.apply bound
  · exact sound.alike alike

/-! ## One move after another -/

theorem after_append (first rest : List (Move Call)) :
    service.after own (first ++ rest) conn =
      service.after own rest (service.after own first conn) :=
  List.foldl_append

theorem watch_append (first rest : List (Move Call)) :
    service.watch own (first ++ rest) conn =
      service.watch own first conn ++ service.watch own rest (service.after own first conn) := by
  induction first generalizing conn with
  | nil => rfl
  | cons move first ih =>
    cases move with
    | answer turn call => exact congrArg _ ih
    | _ => exact ih

theorem next_le_after (moves : List (Move Call)) (conn : Tracker × σ) :
    conn.1.next ≤ (service.after own moves conn).1.next := by
  induction moves generalizing conn with
  | nil => exact Nat.le_refl _
  | cons move moves ih => exact Nat.le_trans (next_le_next conn move) (ih _)

theorem made_after (moves : List (Move Call)) (made : id < conn.1.next) :
    id < (service.after own moves conn).1.next :=
  Nat.lt_of_lt_of_le made (next_le_after moves conn)

/-- What is aborted stays so. -/
theorem isAborted_after (moves : List (Move Call)) (made : id < conn.1.next)
    (aborted : conn.1.isAborted id = true) :
    (service.after own moves conn).1.isAborted id = true := by
  induction moves generalizing conn with
  | nil => exact aborted
  | cons move moves ih =>
    have stays : (service.next own move conn).1.isAborted id = true :=
      (isAborted_next made).mpr (.inl aborted)
    exact ih (made_next made) stays

/-- What is not aborted has not been so before. -/
theorem unaborted_of_after {moves : List (Move Call)} (made : id < conn.1.next)
    (unaborted : (service.after own moves conn).1.isAborted id = false) :
    conn.1.isAborted id = false := by
  rw [← Bool.not_eq_true] at unaborted ⊢
  exact fun aborted => unaborted (isAborted_after moves made aborted)

/-- Moves split where the registration is aborted: if it is, by closing everything. -/
theorem exists_split (service : Service Result σ) (own : Option Nat) (moves : List (Move Call))
    (made : id < conn.1.next) (unaborted : conn.1.isAborted id = false) :
    ∃ early late, moves = early ++ late ∧
      (∀ first rest, moves = first ++ rest →
        ((service.after own first conn).1.isAborted id = true ↔ early.length < first.length)) ∧
      (late = [] ∨ ∃ rest, late = .elsewhere .closeAll :: rest ∧
        (service.after own early conn).1.Lists id) := by
  induction moves generalizing conn with
  | nil =>
    refine ⟨[], [], rfl, fun first rest split => ?_, .inl rfl⟩
    obtain ⟨rfl, -⟩ := List.append_eq_nil_iff.mp split.symm
    simp [after, unaborted]
  | cons move moves ih =>
    by_cases closes : move = .elsewhere .closeAll ∧ conn.1.Lists id
    · refine ⟨[], move :: moves, rfl, fun first rest split => ?_, .inr ⟨moves, ?_, closes.2⟩⟩
      · cases first with
        | nil => simp [after, unaborted]
        | cons head first =>
          obtain ⟨rfl, -⟩ := List.cons.inj split
          have aborted : (service.next own move conn).1.isAborted id = true :=
            (isAborted_next made).mpr (.inr closes)
          exact iff_of_true (isAborted_after first (made_next made) aborted) (Nat.zero_lt_succ _)
      · rw [closes.1]
    · have unabortedStill : (service.next own move conn).1.isAborted id = false := by
        rw [← Bool.not_eq_true, isAborted_next made, unaborted]
        simp [closes]
      obtain ⟨early, late, rfl, flag, begun⟩ := ih (made_next made) unabortedStill
      refine ⟨move :: early, late, rfl, fun first rest split => ?_, begun⟩
      cases first with
      | nil => simp [after, unaborted]
      | cons head first =>
        obtain ⟨rfl, tail⟩ := List.cons.inj split
        rw [List.length_cons, List.length_cons, Nat.add_lt_add_iff_right]
        exact flag first rest tail

/-! ## What is seen -/

/-- An answer is that of a service, and leaves the connection as that does. -/
def Answers (service : Service Result σ) (own : Option Nat) (plain : Service Result σ) (turn : Turn)
    (call : Call) (conn : Tracker × σ) : Prop :=
  ∃ later, service.answer own turn call conn =
    ((plain.make turn call conn.2).1, later, (plain.make turn call conn.2).2)

/-- A connection that is not aborted answers as if it were not tracked. -/
theorem answers_of_uncut (uncut : conn.1.isCut own = false) (turn : Turn) (call : Call) :
    service.Answers own service turn call conn := by
  rcases service.answer_cases own turn call conn with ⟨made, -⟩ | ⟨made, -⟩ | ⟨-, -, cut⟩
  · exact ⟨_, made⟩
  · exact ⟨_, made⟩
  · exact absurd (cut.symm.trans uncut) nofun

/-- One that is aborted refuses the calls that the abort stops. -/
theorem answers_of_cut (cut : conn.1.isCut own = true) (turn : Turn) (call : Call) :
    service.Answers own service.severed turn call conn := by
  rcases service.answer_cases own turn call conn with
    ⟨made, exempt | ⟨uncut, -⟩⟩ | ⟨-, uncut, -⟩ | ⟨refused, stopped, -⟩
  · have same : service.severed.make turn call conn.2 = service.make turn call conn.2 :=
      if_pos exempt
    rw [Answers, same]
    exact ⟨_, made⟩
  · exact absurd (cut.symm.trans uncut) nofun
  · exact absurd (cut.symm.trans uncut) nofun
  · have same : service.severed.make turn call conn.2 = (.failed Tracker.abortedError, conn.2) :=
      if_neg (stopped ▸ Bool.false_ne_true)
    rw [Answers, same]
    exact ⟨_, refused⟩

/-- If every answer is that of a service, so is all that is seen. -/
theorem watch_eq_trace {plain : Service Result σ} (moves : List (Move Call))
    (answers : ∀ first rest, moves = first ++ rest →
      ∀ turn call, service.Answers own plain turn call (service.after own first conn)) :
    service.watch own moves conn = plain.trace (answered moves) conn.2 ∧
      (service.after own moves conn).2 = plain.finish (answered moves) conn.2 := by
  induction moves generalizing conn with
  | nil => exact ⟨rfl, rfl⟩
  | cons move moves ih =>
    have rest := ih fun first rest split => answers (move :: first) rest (congrArg _ split)
    cases move with
    | answer turn call =>
      obtain ⟨tracker, same⟩ := answers [] _ rfl turn call
      have said : (service.answer own turn call conn).1 = (plain.make turn call conn.2).1 :=
        congrArg Prod.fst same
      have left : (service.answer own turn call conn).2.2 = (plain.make turn call conn.2).2 :=
        congrArg (·.2.2) same
      have later : service.watch own moves (service.answer own turn call conn).2 =
          plain.trace (answered moves) (plain.make turn call conn.2).2 :=
        rest.1.trans (congrArg _ left)
      refine ⟨?_, rest.2.trans (congrArg _ left)⟩
      rw [watch, answered, trace, said, left, later]
    | elsewhere op => exact rest
    | ask turn call => exact rest
    | giveUp number => exact rest

/-- A connection that is not registered is as if it were not tracked, whatever happens. -/
theorem watch_none (moves : List (Move Call)) :
    service.watch none moves conn = service.trace (answered moves) conn.2 :=
  (watch_eq_trace moves fun _ _ _ turn call => answers_of_uncut rfl turn call).1

/-- A connection that is registered is so as long as it is not aborted. -/
theorem watch_of_unaborted {moves : List (Move Call)} (made : id < conn.1.next)
    (unaborted : (service.after (some id) moves conn).1.isAborted id = false) :
    service.watch (some id) moves conn = service.trace (answered moves) conn.2 ∧
      (service.after (some id) moves conn).2 = service.finish (answered moves) conn.2 := by
  refine watch_eq_trace moves fun first rest split turn call => answers_of_uncut ?_ turn call
  rw [split, after_append] at unaborted
  exact unaborted_of_after (made_after first made) unaborted

/-- One that is aborted is severed, whatever happens. -/
theorem watch_of_aborted (moves : List (Move Call)) (made : id < conn.1.next)
    (aborted : conn.1.isAborted id = true) :
    service.watch (some id) moves conn = service.severed.trace (answered moves) conn.2 := by
  refine (watch_eq_trace moves fun first rest split turn call => answers_of_cut ?_ turn call).1
  exact isAborted_after first made aborted

/-! ## Who waits -/

/-- A task stays noted in a slot until the slot is left. -/
theorem noted_settle {tracker : Tracker} {slot : Slot} {task : Nat} {settled : Option Slot}
    (noted : (slot, task) ∈ (tracker.entry id).noted)
    (waiting : ∀ number, slot = .wait number → settled ≠ some slot) :
    (slot, task) ∈ ((tracker.settle (some id) settled).entry id).noted := by
  rcases settled with _ | _ | _ | number
  · exact noted
  · exact noted
  · exact noted
  · have differs : slot ≠ .wait number := fun same => waiting number same (congrArg some same.symm)
    have kept : (slot, task) ∈ ((tracker.entry id).leave (.wait number)).noted :=
      List.mem_filter.mpr ⟨noted, decide_eq_true differs⟩
    have left : (tracker.settle (some id) (some (.wait number))).entry id =
        (tracker.entry id).leave (.wait number) := if_pos rfl
    rwa [left]

/-- The task that asks is noted. -/
theorem noted_ask {turn : Turn} {call : Call} {slot : Slot}
    (slots : service.slot call = some slot) :
    (slot, turn.task) ∈ ((service.next (some id) (.ask turn call) conn).1.entry id).noted := by
  have noted : (service.next (some id) (.ask turn call) conn).1.entry id =
      (conn.1.entry id).note slot turn.task := by
    rw [next, slots]
    exact if_pos rfl
  rw [noted]
  exact List.mem_cons_self ..

/-- It stays noted after a move that does not abort the registration, unless another call is asked
for in its place, or the wait is over. -/
theorem noted_next {slot : Slot} {task : Nat} (made : id < conn.1.next) (spared : move.Spares id)
    (unaborted : (service.next (some id) move conn).1.isAborted id = false)
    (unasked : ∀ turn call, move = .ask turn call → service.slot call ≠ some slot)
    (unsettled : ∀ number, slot = .wait number → move ≠ .giveUp number ∧
      ∀ turn call, move = .answer turn call → service.slot call = some slot →
        (service.answer (some id) turn call conn).1 = .pending)
    (noted : (slot, task) ∈ (conn.1.entry id).noted) :
    (slot, task) ∈ ((service.next (some id) move conn).1.entry id).noted := by
  have spares : ¬(conn.1.isAborted id = true ∨ move = .elsewhere .closeAll ∧ conn.1.Lists id) := by
    rw [← isAborted_next made, unaborted]
    exact Bool.false_ne_true
  cases move with
  | elsewhere op =>
    have closes : ¬(op = .closeAll ∧ conn.1.Lists id) := fun closes =>
      spares (.inr ⟨congrArg Move.elsewhere closes.1, closes.2⟩)
    have entry : (conn.1.apply op).entry id = conn.1.entry id :=
      (Tracker.entry_apply made spared).trans (if_neg closes)
    rwa [next, entry]
  | ask turn call =>
    rw [next]
    cases slots : service.slot call with
    | none => rwa [Tracker.ask_none]
    | some other =>
      have differs : slot ≠ other := fun same => unasked turn call rfl (same ▸ slots)
      have entry : (conn.1.ask (some id) (some other) turn).entry id =
          (conn.1.entry id).note other turn.task := if_pos rfl
      rw [entry]
      exact List.mem_cons_of_mem _ (List.mem_filter.mpr ⟨noted, decide_eq_true differs⟩)
  | answer turn call =>
    rw [next]
    rcases service.answer_cases (some id) turn call conn with
      ⟨made, -⟩ | ⟨made, -, complete⟩ | ⟨-, -, cut⟩
    · rwa [made]
    · rw [made]
      refine noted_settle noted fun number same settles => complete ?_
      have pending := (unsettled number same).2 turn call rfl settles
      rwa [made] at pending
    · exact absurd (.inl cut) spares
  | giveUp number =>
    have kept : (slot, task) ∈
        ((conn.1.settle (some id) (some (.wait number))).entry id).noted := by
      refine noted_settle noted fun other same settles => ?_
      obtain rfl : slot = .wait number := (Option.some.inj settles).symm
      exact (unsettled number rfl).1 rfl
    exact kept

/-- It stays noted as long as the registration is not aborted, no other call is asked for in its
place, and the wait is not over. -/
theorem noted_after {slot : Slot} {task : Nat} (moves : List (Move Call))
    (made : id < conn.1.next) (spared : ∀ move ∈ moves, move.Spares id)
    (unaborted : (service.after (some id) moves conn).1.isAborted id = false)
    (unasked : ∀ turn call, .ask turn call ∈ moves → service.slot call ≠ some slot)
    (unsettled : ∀ number, slot = .wait number → .giveUp number ∉ moves ∧
      ∀ response ∈ service.watch (some id) moves conn,
        service.slot response.1.call = some slot → response.1.answer = .pending)
    (noted : (slot, task) ∈ (conn.1.entry id).noted) :
    (slot, task) ∈ ((service.after (some id) moves conn).1.entry id).noted := by
  induction moves generalizing conn with
  | nil => exact noted
  | cons move moves ih =>
    have unabortedYet : (service.next (some id) move conn).1.isAborted id = false :=
      unaborted_of_after (made_next made) unaborted
    have seen : ∀ response ∈ service.watch (some id) moves (service.next (some id) move conn),
        response ∈ service.watch (some id) (move :: moves) conn := by
      intro response mem
      cases move with
      | answer turn call => exact List.mem_cons_of_mem _ mem
      | _ => exact mem
    have notedNext : (slot, task) ∈ ((service.next (some id) move conn).1.entry id).noted := by
      refine noted_next made (spared move List.mem_cons_self) unabortedYet
        (fun turn call same => unasked turn call (same ▸ List.mem_cons_self))
        (fun number same => ?_) noted
      obtain ⟨kept, pending⟩ := unsettled number same
      refine ⟨(List.ne_of_not_mem_cons kept).symm, ?_⟩
      rintro turn call rfl slots
      exact pending _ List.mem_cons_self slots
    refine ih (made_next made) (fun other mem => spared other (List.mem_cons_of_mem _ mem))
      unaborted (fun turn call mem => unasked turn call (List.mem_cons_of_mem _ mem))
      (fun number same => ?_) notedNext
    obtain ⟨kept, pending⟩ := unsettled number same
    exact ⟨List.not_mem_of_not_mem_cons kept, fun response mem =>
      pending response (seen response mem)⟩

/-- A task that waits is noted. -/
theorem noted_of_waits {slot : Slot} {task : Nat} {moves : List (Move Call)}
    (made : id < conn.1.next) (spared : ∀ move ∈ moves, move.Spares id)
    (unaborted : (service.after (some id) moves conn).1.isAborted id = false)
    (waits : service.Waits id moves conn slot task) :
    (slot, task) ∈ ((service.after (some id) moves conn).1.entry id).noted := by
  obtain ⟨first, turn, call, last, rfl, slots, rfl, unasked, unsettled⟩ := waits
  have asked : (slot, turn.task) ∈
      ((service.after (some id) (first ++ [.ask turn call]) conn).1.entry id).noted := by
    rw [after_append]
    exact noted_ask slots
  rw [List.append_cons] at spared unaborted ⊢
  rw [after_append] at unaborted ⊢
  exact noted_after last (made_after _ made)
    (fun move mem => spared move (List.mem_append_right _ mem)) unaborted unasked unsettled asked

/-! ## The abort -/

/-- Nothing has closed everything while a registration was in the table, if it is not aborted. -/
theorem unclosed_of_unaborted {moves : List (Move Call)} (sound : conn.1.Sound)
    (bound : (service.after own moves conn).1.next ≤ UInt64.size)
    (spared : ∀ move ∈ moves, move.Spares id) (listed : conn.1.Lists id)
    (unaborted : (service.after own moves conn).1.isAborted id = false) :
    .elsewhere .closeAll ∉ moves := by
  induction moves generalizing conn with
  | nil => exact List.not_mem_nil
  | cons move moves ih =>
    have made : id < conn.1.next := sound.made_of_lists listed
    have boundNext : (service.next own move conn).1.next ≤ UInt64.size :=
      Nat.le_trans (next_le_after moves _) bound
    have open_ : move ≠ .elsewhere .closeAll := by
      rintro rfl
      have aborted : (service.next own (.elsewhere .closeAll) conn).1.isAborted id = true :=
        (isAborted_next made).mpr (.inr ⟨rfl, listed⟩)
      have yet := unaborted_of_after (made_next made) unaborted
      exact Bool.false_ne_true (yet.symm.trans aborted)
    have listedNext : (service.next own move conn).1.Lists id :=
      lists_next sound boundNext (spared move List.mem_cons_self) open_ listed
    refine List.not_mem_cons_of_ne_of_not_mem open_.symm ?_
    exact ih (sound_next sound boundNext) bound
      (fun other mem => spared other (List.mem_cons_of_mem _ mem)) listedNext unaborted

/-- What happens early and late on a registered connection, before its abort and from then on. -/
structure Severance (service : Service Result σ) (id : Nat) (conn : Tracker × σ)
    (early late : List (Move Call)) : Prop where
  /-- It is aborted by the first that happens late, and not before. -/
  aborted : ∀ first rest, early ++ late = first ++ rest →
    ((service.after (some id) first conn).1.isAborted id = true ↔ early.length < first.length)
  /-- Early calls are those of the service, late ones those of a severed service. -/
  calls : service.watch (some id) (early ++ late) conn = service.trace (answered early) conn.2 ++
    service.severed.trace (answered late) (service.finish (answered early) conn.2)
  /-- The abort is a closing, and it wakes every task that waits. -/
  abort : late = [] ∨ ∃ rest, late = .elsewhere .closeAll :: rest ∧
    ∀ slot task, service.Waits id early conn slot task →
      task ∈ (service.after (some id) early conn).1.closeAll.woken
  /-- As long as keys have not come round, it is the first closing. -/
  earliest : (service.after (some id) (early ++ late) conn).1.next ≤ UInt64.size →
    .elsewhere .closeAll ∉ early

/-- Whatever happens, a registered connection is severed at most once. -/
theorem exists_severance (service : Service Result σ) (moves : List (Move Call))
    (made : id < conn.1.next) (unaborted : conn.1.isAborted id = false) (listed : conn.1.Lists id)
    (sound : conn.1.next ≤ UInt64.size → conn.1.Sound) (spared : ∀ move ∈ moves, move.Spares id) :
    ∃ early late, moves = early ++ late ∧ service.Severance id conn early late := by
  obtain ⟨early, late, rfl, flag, begun⟩ :=
    exists_split service (some id) moves made unaborted
  have unabortedEarly : (service.after (some id) early conn).1.isAborted id = false := by
    rw [← Bool.not_eq_true, flag early late rfl]
    exact Nat.lt_irrefl _
  have sparedEarly : ∀ move ∈ early, move.Spares id := fun move mem =>
    spared move (List.mem_append_left _ mem)
  refine ⟨early, late, rfl, flag, ?calls, ?abort, ?earliest⟩
  case calls =>
    obtain ⟨transparent, left⟩ := watch_of_unaborted made unabortedEarly
    have severed : service.watch (some id) late (service.after (some id) early conn) =
        service.severed.trace (answered late) (service.after (some id) early conn).2 := by
      rcases begun with rfl | ⟨rest, rfl, there⟩
      · rfl
      · -- The closing itself answers nothing, and what follows it finds the registration aborted.
        have madeThen : id < (service.after (some id) early conn).1.next := made_after early made
        have aborted : (service.next (some id) (.elsewhere .closeAll)
            (service.after (some id) early conn)).1.isAborted id = true :=
          (isAborted_next madeThen).mpr (.inr ⟨rfl, there⟩)
        exact watch_of_aborted rest (made_next madeThen) aborted
    rw [watch_append, transparent, severed, left]
  case abort =>
    rcases begun with none | ⟨rest, begins, there⟩
    · exact .inl none
    · refine .inr ⟨rest, begins, fun slot task waits => Tracker.woken_closeAll there ?_⟩
      exact List.mem_map_of_mem (noted_of_waits made sparedEarly unabortedEarly waits)
  case earliest =>
    intro bound
    rw [after_append] at bound
    have boundEarly : (service.after (some id) early conn).1.next ≤ UInt64.size :=
      Nat.le_trans (next_le_after late _) bound
    have soundStart : conn.1.Sound := sound (Nat.le_trans (next_le_after early conn) boundEarly)
    exact unclosed_of_unaborted soundStart boundEarly sparedEarly listed unabortedEarly

/-- How the calls on a connection go that is made after things have happened to a tracker, whatever
happens then. -/
structure Conduct (service : Service Result σ)
    (poll : Option Nat → Turn → (call : Call) → Tracker × σ → Answer (Result call) × Tracker × σ)
    (history : List Op) (state : σ) (moves : List (Move Call)) : Prop where
  /-- A call is asked for and then answered. -/
  whole : ∀ own turn call conn,
    poll own turn call conn = service.answer own turn call (service.next own (.ask turn call) conn)
  /-- A connection that is made while tracking is off is never severed. -/
  untracked : (Tracker.run history {}).enabled = false →
    (Tracker.run history {}).register.1 = none ∧
      service.watch none moves ((Tracker.run history {}).register.2, state) =
        service.trace (answered moves) state
  /-- One that is made while it is on is severed by its abort. -/
  tracked : (Tracker.run history {}).enabled = true →
    ∃ id early late, (Tracker.run history {}).register.1 = some id ∧ moves = early ++ late ∧
      service.Severance id ((Tracker.run history {}).register.2, state) early late

/-- A connection goes as its calls do, if they are asked for and then answered. -/
theorem conduct_of_whole
    {poll : Option Nat → Turn → (call : Call) → Tracker × σ → Answer (Result call) × Tracker × σ}
    (whole : ∀ own turn call conn, poll own turn call conn =
      service.answer own turn call (service.next own (.ask turn call) conn))
    (history : List Op) (state : σ) (moves : List (Move Call))
    (spared : (Tracker.run history {}).enabled = true →
      ∀ move ∈ moves, move.Spares (Tracker.run history {}).next) :
    service.Conduct poll history state moves := by
  refine ⟨whole, fun off => ?_, fun on => ?_⟩
  · have unregistered : (Tracker.run history {}).register = (none, Tracker.run history {}) := by
      rw [Tracker.register, off, if_neg Bool.false_ne_true]
    exact ⟨congrArg Prod.fst unregistered, watch_none moves⟩
  · have registered : (Tracker.run history {}).register.1 = some (Tracker.run history {}).next := by
      rw [Tracker.register, on, if_pos rfl]
    have sound : ((Tracker.run history {}).apply .register).next ≤ UInt64.size →
        ((Tracker.run history {}).apply .register).Sound := fun bound =>
      (Tracker.sound_new.run (Nat.le_trans (Tracker.next_le_apply _ _) bound)).apply bound
    have made : (Tracker.run history {}).next <
        ((Tracker.run history {}).apply .register).next := by
      rw [Tracker.apply_register_of_on on]
      exact Nat.lt_succ_self _
    have unaborted : ((Tracker.run history {}).apply .register).isAborted
        (Tracker.run history {}).next = false := by
      rw [Tracker.apply_register_of_on on]
      exact congrArg Registration.aborted (if_pos rfl)
    have listed : ((Tracker.run history {}).apply .register).Lists
        (Tracker.run history {}).next := by
      rw [Tracker.apply_register_of_on on]
      exact List.mem_cons_self
    let conn : Tracker × σ := ((Tracker.run history {}).apply .register, state)
    have severed : ∃ early late, moves = early ++ late ∧
        service.Severance (Tracker.run history {}).next conn early late :=
      exists_severance service moves made unaborted listed sound (spared on)
    obtain ⟨early, late, split, severance⟩ := severed
    exact ⟨_, early, late, registered, split, severance⟩

end Service

/-- A connection that is made while tracking is off is for ever as if it were not tracked. One that
is made while it is on is so until it is aborted, which happens when everything is closed; from then
on every call fails and is not made, except that a stream is shut down still and a send that has
begun goes on. Whoever waits is woken by the abort. This holds of streams and of channels. -/
theorem Tracker.abort_severs {σ τ : Type} (inner : Stream σ) (socket : Channel τ)
    (history : List Op) (state : σ) (queue : τ) (calls : List (Move Call))
    (requests : List (Move Request))
    (sparedCalls : (run history {}).enabled = true →
      ∀ move ∈ calls, move.Spares (run history {}).next)
    (sparedRequests : (run history {}).enabled = true →
      ∀ move ∈ requests, move.Spares (run history {}).next) :
    inner.service.Conduct (fun own turn call => (stream own inner).answer turn call)
        history state calls ∧
      socket.service.Conduct (fun own turn request => socket.answer own turn request)
        history queue requests :=
  ⟨Service.conduct_of_whole inner.answer_tracked history state calls sparedCalls,
    Service.conduct_of_whole socket.answer_tracked history queue requests sparedRequests⟩

/-- A read is put off, and everything is closed between the halves of a write, which is refused
though the stream would take it. A receive is put off, and is refused when it is asked for again; a
send that has begun goes on. -/
theorem Tracker.abort_severs_parked :
    let inner : Stream Script := Script.transport.toStream
    let socket : Channel (List Bytes) :=
      { send := fun _ datagram queue => (.done datagram.length, queue ++ [datagram])
        receive := fun _ room queue =>
          match queue with
          | [] => (.pending, [])
          | datagram :: queue => (.done (datagram.take room), queue) }
    let history : List Op := [.register, .setEnabled true]
    let calls : List (Move Call) :=
      [.ask ⟨0, 1⟩ (.read 4), .answer ⟨0, 1⟩ (.read 4), .ask ⟨0, 2⟩ .flush, .answer ⟨0, 2⟩ .flush,
        .ask ⟨0, 3⟩ (.write [7]), .elsewhere .closeAll, .answer ⟨0, 3⟩ (.write [7]),
        .answer ⟨1, 3⟩ .shutdown]
    let requests : List (Move Request) :=
      [.ask ⟨0, 4⟩ (.receive 0 8), .answer ⟨0, 4⟩ (.receive 0 8), .elsewhere .register,
        .elsewhere .closeAll, .answer ⟨1, 5⟩ (.resume [9]), .ask ⟨1, 4⟩ (.receive 0 8),
        .answer ⟨1, 4⟩ (.receive 0 8)]
    let start : Script := { reads := [.pending] }
    (∀ move ∈ calls, move.Spares (run history {}).next) ∧
      (∀ move ∈ requests, move.Spares (run history {}).next) ∧
      (inner.service.Conduct (fun own turn call => (stream own inner).answer turn call)
          history start calls ∧
        socket.service.Conduct (fun own turn request => socket.answer own turn request)
          history [] requests) ∧
      (inner.service.after (some 0) (calls.take 5)
        ((run history {}).register.2, start)).1.closeAll.woken = [3, 1] ∧
      (socket.service.after (some 0) (requests.take 3)
        ((run history {}).register.2, [])).1.closeAll.woken = [4] := by
  intro inner socket history calls requests start
  have sparedCalls : ∀ move ∈ calls, move.Spares (run history {}).next := by decide
  have sparedRequests : ∀ move ∈ requests, move.Spares (run history {}).next := by decide
  exact ⟨sparedCalls, sparedRequests,
    abort_severs inner socket history start [] calls requests (fun _ => sparedCalls)
      fun _ => sparedRequests, rfl, rfl⟩

end Outbound
