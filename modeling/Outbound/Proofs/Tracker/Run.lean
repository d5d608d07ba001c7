import Outbound.Tracker

/-!
# Runs of a tracker

What can happen to a tracker, one thing after another: tracking is switched, connections are
registered and dropped, all are closed, and calls on connections leave notes. Closing goes over the
table entry by entry; here stands what it comes to.
-/
namespace Outbound.Tracker

/-- What happens to a tracker. -/
inductive Op where
  /-- Tracking is turned on or off. -/
  | setEnabled (on : Bool)
  /-- A connection is to be registered. -/
  | register
  /-- A registration is dropped. -/
  | drop (id : Nat)
  /-- All connections are aborted. -/
  | closeAll
  /-- A call on a connection notes its task. -/
  | note (id : Nat) (slot : Slot) (task : Nat)
  /-- A wait on a connection is over. -/
  | leave (id : Nat) (slot : Slot)
  deriving DecidableEq

/-- The tracker after something has happened. Only what has been registered can be dropped. -/
def apply (tracker : Tracker) : Op → Tracker
  | .setEnabled on => tracker.setEnabled on
  | .register => tracker.register.2
  | .drop id => if id < tracker.next then tracker.drop id else tracker
  | .closeAll => tracker.closeAll.tracker
  | .note id slot task => tracker.update id (·.note slot task)
  | .leave id slot => tracker.update id (·.leave slot)

/-- The tracker after one thing after another has happened. -/
def run (ops : List Op) (tracker : Tracker) : Tracker := ops.foldl apply tracker

/-- A registration is in the table. -/
def Lists (tracker : Tracker) (id : Nat) : Prop := id ∈ tracker.live.map Prod.snd

instance (tracker : Tracker) (id : Nat) : Decidable (tracker.Lists id) :=
  inferInstanceAs (Decidable (id ∈ tracker.live.map Prod.snd))

@[simp] theorem run_nil (tracker : Tracker) : run [] tracker = tracker := rfl

@[simp] theorem run_cons (op : Op) (ops : List Op) (tracker : Tracker) :
    run (op :: ops) tracker = run ops (tracker.apply op) := rfl

theorem run_append (early late : List Op) (tracker : Tracker) :
    run (early ++ late) tracker = run late (run early tracker) :=
  List.foldl_append

/-! ## Closing -/

/-- Going over a table counts its entries. -/
theorem closed_foldl (conns : List (UInt64 × Nat)) (closing : Closing) :
    (conns.foldl Closing.abort closing).closed = closing.closed + conns.length := by
  induction conns generalizing closing with
  | nil => rfl
  | cons conn conns ih =>
    have one : (closing.abort conn).closed = closing.closed + 1 := rfl
    rw [List.foldl_cons, ih, List.length_cons]
    omega

/-- It neither switches tracking nor registers. -/
theorem settings_foldl (conns : List (UInt64 × Nat)) (closing : Closing) :
    (conns.foldl Closing.abort closing).tracker.enabled = closing.tracker.enabled ∧
      (conns.foldl Closing.abort closing).tracker.next = closing.tracker.next := by
  induction conns generalizing closing with
  | nil => exact ⟨rfl, rfl⟩
  | cons conn conns ih => exact ih (closing.abort conn)

/-- It leaves no entry under a key that it has come to. -/
theorem live_foldl (conns : List (UInt64 × Nat)) (closing : Closing) :
    (conns.foldl Closing.abort closing).tracker.live =
      closing.tracker.live.filter fun conn => conn.1 ∉ conns.map Prod.fst := by
  induction conns generalizing closing with
  | nil =>
    have all : ∀ conn ∈ closing.tracker.live,
        decide (conn.1 ∉ ([] : List (UInt64 × Nat)).map Prod.fst) = true := by simp
    exact (List.filter_eq_self.mpr all).symm
  | cons conn conns ih =>
    rw [List.foldl_cons, ih]
    simp only [Closing.abort, remove, update, List.filter_filter, List.map_cons, List.mem_cons,
      not_or, Bool.decide_and, Bool.and_comm]

/-- An aborted registration that is aborted again is as before. -/
theorem abort_abort (registration : Registration) :
    registration.abort.abort = registration.abort := rfl

/-- It aborts the registrations that it comes to, and no other. -/
theorem entry_foldl (conns : List (UInt64 × Nat)) (closing : Closing) (id : Nat) :
    (conns.foldl Closing.abort closing).tracker.entry id =
      if id ∈ conns.map Prod.snd then (closing.tracker.entry id).abort
      else closing.tracker.entry id := by
  induction conns generalizing closing with
  | nil => rfl
  | cons conn conns ih =>
    rw [List.foldl_cons, ih]
    have visited : (closing.abort conn).tracker.entry id =
        if id = conn.2 then (closing.tracker.entry conn.2).abort else closing.tracker.entry id :=
      rfl
    by_cases here : id = conn.2
    · subst here
      have head : conn.2 ∈ (conn :: conns).map Prod.snd := List.mem_cons_self ..
      rw [visited, if_pos rfl, abort_abort, ite_self, if_pos head]
    · have tail : id ∈ (conn :: conns).map Prod.snd ↔ id ∈ conns.map Prod.snd := by
        simp [here]
      rw [visited, if_neg here]
      simp only [tail]

/-- No task that is woken is left out later. -/
theorem woken_foldl_of_woken (conns : List (UInt64 × Nat)) (closing : Closing) {task : Nat}
    (woken : task ∈ closing.woken) : task ∈ (conns.foldl Closing.abort closing).woken := by
  induction conns generalizing closing with
  | nil => exact woken
  | cons conn conns ih => exact ih _ (List.mem_append_left _ woken)

/-- The tasks of every registration that it comes to are woken. -/
theorem woken_foldl (conns : List (UInt64 × Nat)) (closing : Closing) {id task : Nat}
    (listed : id ∈ conns.map Prod.snd) (noted : task ∈ (closing.tracker.entry id).tasks) :
    task ∈ (conns.foldl Closing.abort closing).woken := by
  induction conns generalizing closing with
  | nil => cases listed
  | cons conn conns ih =>
    rw [List.foldl_cons]
    by_cases here : id = conn.2
    · subst here
      exact woken_foldl_of_woken conns _ (List.mem_append_right _ noted)
    · have later : id ∈ conns.map Prod.snd := by
        rcases List.mem_cons.mp listed with same | later
        · exact absurd same here
        · exact later
      have unmoved : (closing.abort conn).tracker.entry id = closing.tracker.entry id :=
        if_neg here
      exact ih _ later (unmoved ▸ noted)

variable (tracker : Tracker)

/-- Closing counts what is in the table. -/
theorem closed_closeAll : tracker.closeAll.closed = tracker.count :=
  (closed_foldl tracker.live { tracker }).trans (Nat.zero_add _)

/-- Closing empties the table. -/
@[simp] theorem live_closeAll : tracker.closeAll.tracker.live = [] := by
  rw [closeAll, live_foldl, List.filter_eq_nil_iff]
  intro conn mem keyAbsent
  exact of_decide_eq_true keyAbsent (List.mem_map_of_mem mem)

/-- Closing does not switch tracking. -/
@[simp] theorem enabled_closeAll : tracker.closeAll.tracker.enabled = tracker.enabled :=
  (settings_foldl tracker.live { tracker }).1

/-- Closing registers nothing. -/
@[simp] theorem next_closeAll : tracker.closeAll.tracker.next = tracker.next :=
  (settings_foldl tracker.live { tracker }).2

/-- Closing aborts what is in the table. -/
theorem entry_closeAll (id : Nat) : tracker.closeAll.tracker.entry id =
    if tracker.Lists id then (tracker.entry id).abort else tracker.entry id :=
  entry_foldl tracker.live { tracker } id

/-- Closing wakes the tasks noted in what is in the table. -/
theorem woken_closeAll {tracker : Tracker} {id task : Nat} (listed : tracker.Lists id)
    (noted : task ∈ (tracker.entry id).tasks) : task ∈ tracker.closeAll.woken :=
  woken_foldl tracker.live { tracker } listed noted

end Outbound.Tracker
