import Outbound.Proofs.Tracker.Run

/-!
# The books of a tracker

A tracker's table is measured by what has happened: a registration is held from its making until it
is dropped or everything is closed, and it is aborted if everything was closed while it was held.
The table goes by keys that come round again, so this holds for as many registrations as there are
keys.
-/
namespace Outbound.Tracker

/-! ## What has happened -/

/-- What happens after the making of the registration with a number, counted from now; none if it
is not made. -/
def since : Bool → Nat → List Op → Option (List Op)
  | _, _, [] => none
  | _, number, .setEnabled on :: ops => since on number ops
  | true, 0, .register :: ops => some ops
  | true, number + 1, .register :: ops => since true number ops
  | enabled, number, _ :: ops => since enabled number ops

/-- A registration is neither dropped nor is everything closed. -/
def Kept (id : Nat) (ops : List Op) : Prop := .drop id ∉ ops ∧ .closeAll ∉ ops

/-- Everything is closed before a registration is dropped. -/
def Reached (id : Nat) (ops : List Op) : Prop :=
  ∃ before after, ops = before ++ .closeAll :: after ∧ .drop id ∉ before

/-- A registration has been made while tracking was on, and was neither dropped nor caught by a
closing since. -/
def Held (ops : List Op) (id : Nat) : Prop :=
  ∃ later, since false id ops = some later ∧ Kept id later

/-- A registration has been made while tracking was on, and everything was closed since and before
it was dropped. -/
def Caught (ops : List Op) (id : Nat) : Prop :=
  ∃ later, since false id ops = some later ∧ Reached id later

/-! ## One thing -/

/-- Keys differ as long as they have not come round. -/
theorem key_inj {one other : Nat} (oneBound : one < UInt64.size) (otherBound : other < UInt64.size)
    (same : key one = key other) : one = other := by
  have values : (key one).toNat = (key other).toNat := congrArg UInt64.toNat same
  rwa [key, key, UInt64.toNat_ofNat_of_lt' oneBound, UInt64.toNat_ofNat_of_lt' otherBound] at values

/-- What holds of a tracker whose keys have not come round. -/
structure Sound (tracker : Tracker) : Prop where
  /-- Every registration in the table stands under its key. -/
  keyed : ∀ conn ∈ tracker.live, conn.1 = key conn.2
  /-- It has been made. -/
  made : ∀ conn ∈ tracker.live, conn.2 < tracker.next
  /-- None is there twice. -/
  distinct : (tracker.live.map Prod.snd).Nodup
  /-- None is aborted before it is made. -/
  fresh : ∀ id, tracker.next ≤ id → tracker.isAborted id = false

variable {tracker : Tracker} {op : Op} {id : Nat}

theorem Sound.made_of_lists (sound : tracker.Sound) (listed : tracker.Lists id) :
    id < tracker.next := by
  obtain ⟨conn, mem, rfl⟩ := List.mem_map.mp listed
  exact sound.made conn mem

/-- Letting go of a key takes its registration out of the table, and no other. -/
theorem lists_remove (sound : tracker.Sound) (bound : tracker.next ≤ UInt64.size) {other : Nat}
    (otherBound : other < UInt64.size) :
    (tracker.remove (key other)).Lists id ↔ tracker.Lists id ∧ id ≠ other := by
  constructor
  · intro listed
    obtain ⟨conn, mem, rfl⟩ := List.mem_map.mp listed
    obtain ⟨inTable, kept⟩ := List.mem_filter.mp mem
    have differs : conn.1 ≠ key other := of_decide_eq_true kept
    rw [sound.keyed conn inTable] at differs
    exact ⟨List.mem_map_of_mem inTable, fun same => differs (congrArg key same)⟩
  · rintro ⟨listed, differs⟩
    obtain ⟨conn, inTable, rfl⟩ := List.mem_map.mp listed
    have connBound : conn.2 < UInt64.size := Nat.lt_of_lt_of_le (sound.made conn inTable) bound
    have kept : conn.1 ≠ key other := by
      rw [sound.keyed conn inTable]
      exact fun same => differs (key_inj connBound otherBound same)
    exact List.mem_map_of_mem (List.mem_filter.mpr ⟨inTable, decide_eq_true kept⟩)

/-- While tracking is off nothing is registered. -/
theorem apply_register_of_off (off : tracker.enabled = false) :
    tracker.apply .register = tracker := by
  rw [apply, register, off, if_neg Bool.false_ne_true]

/-- While it is on, the next registration is made. -/
theorem apply_register_of_on (on : tracker.enabled = true) :
    tracker.apply .register =
      { tracker with
        next := tracker.next + 1
        live := (key tracker.next, tracker.next) :: (tracker.remove (key tracker.next)).live
        entry := fun id => if id = tracker.next then {} else tracker.entry id } := by
  rw [apply, register, on, if_pos rfl]

/-- Only switching and registering change whether tracking is on and how many there are. -/
theorem settings_cases (tracker : Tracker) (op : Op) :
    (∃ on, op = .setEnabled on) ∨ op = .register ∨
      (∀ on, op ≠ .setEnabled on) ∧ op ≠ .register ∧
        (tracker.apply op).enabled = tracker.enabled ∧ (tracker.apply op).next = tracker.next := by
  cases op with
  | setEnabled on => exact .inl ⟨on, rfl⟩
  | register => exact .inr (.inl rfl)
  | drop other =>
    refine .inr (.inr ⟨nofun, nofun, ?_⟩)
    rw [apply]
    split <;> exact ⟨rfl, rfl⟩
  | closeAll =>
    exact .inr (.inr ⟨nofun, nofun, enabled_closeAll tracker, next_closeAll tracker⟩)
  | note other slot task => exact .inr (.inr ⟨nofun, nofun, rfl, rfl⟩)
  | leave other slot => exact .inr (.inr ⟨nofun, nofun, rfl, rfl⟩)

/-- Registrations are counted up. -/
theorem next_le_apply (tracker : Tracker) (op : Op) : tracker.next ≤ (tracker.apply op).next := by
  rcases settings_cases tracker op with ⟨on, rfl⟩ | rfl | ⟨-, -, -, kept⟩
  · exact Nat.le_refl _
  · cases enabled : tracker.enabled with
    | false => exact Nat.le_of_eq (congrArg next (apply_register_of_off enabled)).symm
    | true =>
      rw [apply_register_of_on enabled]
      exact Nat.le_succ _
  · exact Nat.le_of_eq kept.symm

/-- What is in the table after something has happened: what was registered by it, and what was
there and has neither been dropped nor caught. -/
theorem lists_apply (sound : tracker.Sound) (bound : (tracker.apply op).next ≤ UInt64.size) :
    (tracker.apply op).Lists id ↔ (op = .register ∧ tracker.enabled = true ∧ id = tracker.next) ∨
      tracker.Lists id ∧ op ≠ .drop id ∧ op ≠ .closeAll := by
  have boundBefore : tracker.next ≤ UInt64.size := Nat.le_trans (next_le_apply tracker op) bound
  cases op with
  | setEnabled on => simp [apply, setEnabled, Lists]
  | register =>
    cases enabled : tracker.enabled with
    | false => simp [apply_register_of_off enabled]
    | true =>
      rw [apply_register_of_on enabled] at bound ⊢
      have nextBound : tracker.next < UInt64.size := bound
      have rest : (tracker.remove (key tracker.next)).Lists id ↔
          tracker.Lists id ∧ id ≠ tracker.next := lists_remove sound boundBefore nextBound
      have differs : tracker.Lists id → id ≠ tracker.next := fun listed =>
        Nat.ne_of_lt (sound.made_of_lists listed)
      simp only [Lists, List.map_cons, List.mem_cons] at rest differs ⊢
      grind
  | drop other =>
    rw [apply]
    split
    · next made =>
      have otherBound : other < UInt64.size := Nat.lt_of_lt_of_le made boundBefore
      rw [drop, lists_remove sound boundBefore otherBound]
      simp only [reduceCtorEq, false_and, false_or, ne_eq, Op.drop.injEq, not_false_eq_true,
        and_true]
      exact and_congr_right fun _ => not_congr eq_comm
    · next unmade =>
      have differs : tracker.Lists id → other ≠ id := by
        rintro listed rfl
        exact unmade (sound.made_of_lists listed)
      simp only [reduceCtorEq, false_and, false_or, ne_eq, Op.drop.injEq, not_false_eq_true,
        and_true]
      exact ⟨fun listed => ⟨listed, differs listed⟩, And.left⟩
  | closeAll => simp [apply, Lists]
  | note other slot task => simp [apply, update, Lists]
  | leave other slot => simp [apply, update, Lists]

/-- What is aborted after something has happened: what was so before, and at a closing what was in
the table. -/
theorem isAborted_apply (fresh : tracker.next ≤ id → tracker.isAborted id = false) :
    (tracker.apply op).isAborted id = true ↔
      tracker.isAborted id = true ∨ op = .closeAll ∧ tracker.Lists id := by
  cases op with
  | setEnabled on => simp [apply, setEnabled, isAborted]
  | register =>
    cases enabled : tracker.enabled with
    | false => simp [apply_register_of_off enabled]
    | true =>
      rw [apply_register_of_on enabled]
      by_cases new : id = tracker.next
      · have unaborted := fresh (Nat.le_of_eq new.symm)
        rw [isAborted, new] at unaborted
        simp [isAborted, new, unaborted]
      · simp [isAborted, new]
  | drop other =>
    rw [apply]
    split
    · simp [drop, remove, isAborted]
    · simp
  | closeAll =>
    rw [apply, isAborted, entry_closeAll]
    by_cases listed : tracker.Lists id
    · simp [listed, Registration.abort]
    · simp [listed, isAborted]
  | note other slot task =>
    by_cases same : id = other
    · simp [apply, update, isAborted, same, Registration.note, Registration.leave]
    · simp [apply, update, isAborted, same]
  | leave other slot =>
    by_cases same : id = other
    · simp [apply, update, isAborted, same, Registration.leave]
    · simp [apply, update, isAborted, same]

/-- The table loses entries, or gets the next one. -/
theorem live_apply (tracker : Tracker) (op : Op) : ∃ rest : List (UInt64 × Nat),
    rest.Sublist tracker.live ∧ ((tracker.apply op).live = rest ∨
      (tracker.apply op).live = (key tracker.next, tracker.next) :: rest) := by
  cases op with
  | setEnabled on => exact ⟨_, List.Sublist.refl _, .inl rfl⟩
  | register =>
    cases enabled : tracker.enabled with
    | false => exact ⟨_, List.Sublist.refl _, .inl (congrArg live (apply_register_of_off enabled))⟩
    | true => exact ⟨_, List.filter_sublist, .inr (congrArg live (apply_register_of_on enabled))⟩
  | drop other =>
    rw [apply]
    split
    · exact ⟨_, List.filter_sublist, .inl rfl⟩
    · exact ⟨_, List.Sublist.refl _, .inl rfl⟩
  | closeAll => exact ⟨[], List.nil_sublist _, .inl (live_closeAll tracker)⟩
  | note other slot task => exact ⟨_, List.Sublist.refl _, .inl rfl⟩
  | leave other slot => exact ⟨_, List.Sublist.refl _, .inl rfl⟩

/-- Whatever happens, a tracker stays sound. -/
theorem Sound.apply (sound : tracker.Sound) (bound : (tracker.apply op).next ≤ UInt64.size) :
    (tracker.apply op).Sound := by
  have counted : tracker.next ≤ (tracker.apply op).next := next_le_apply tracker op
  obtain ⟨rest, sublist, table⟩ := live_apply tracker op
  constructor
  case keyed =>
    intro conn mem
    rcases table with same | new
    · exact sound.keyed conn (sublist.subset (same ▸ mem))
    · rcases List.mem_cons.mp (new ▸ mem) with rfl | old
      · rfl
      · exact sound.keyed conn (sublist.subset old)
  case made =>
    intro conn mem
    rcases (lists_apply sound bound).mp (List.mem_map_of_mem mem) with ⟨rfl, on, new⟩ | ⟨old, -⟩
    · rw [new, apply_register_of_on on]
      exact Nat.lt_succ_self _
    · exact Nat.lt_of_lt_of_le (sound.made_of_lists old) counted
  case distinct =>
    have old : (rest.map Prod.snd).Nodup := sound.distinct.sublist (sublist.map _)
    rcases table with same | new
    · rwa [same]
    · rw [new, List.map_cons, List.nodup_cons]
      refine ⟨fun mem => ?_, old⟩
      have listed : tracker.Lists tracker.next := (sublist.map _).subset mem
      exact Nat.lt_irrefl _ (sound.made_of_lists listed)
  case fresh =>
    intro id unmade
    have unmadeBefore : tracker.next ≤ id := Nat.le_trans counted unmade
    rw [← Bool.not_eq_true, isAborted_apply (sound.fresh id)]
    rintro (before | ⟨-, listed⟩)
    · exact Bool.false_ne_true ((sound.fresh id unmadeBefore).symm.trans before)
    · exact Nat.not_lt.mpr unmadeBefore (sound.made_of_lists listed)

/-! ## One thing after another -/

/-- A new tracker is sound. -/
theorem sound_new : Sound {} where
  keyed _ mem := nomatch mem
  made _ mem := nomatch mem
  distinct := List.nodup_nil
  fresh _ _ := rfl

/-- Registrations are counted up. -/
theorem next_le_run (ops : List Op) (tracker : Tracker) :
    tracker.next ≤ (run ops tracker).next := by
  induction ops generalizing tracker with
  | nil => exact Nat.le_refl _
  | cons op ops ih => exact Nat.le_trans (next_le_apply tracker op) (ih (tracker.apply op))

theorem Sound.run {ops : List Op} (sound : tracker.Sound)
    (bound : (run ops tracker).next ≤ UInt64.size) : (run ops tracker).Sound := by
  induction ops generalizing tracker with
  | nil => exact sound
  | cons op ops ih =>
    have boundFirst : (tracker.apply op).next ≤ UInt64.size :=
      Nat.le_trans (next_le_run ops _) bound
    exact ih (sound.apply boundFirst) bound

/-- Everything is closed before a registration is dropped, if it is closed at once, or if the
registration is not dropped at once and everything is closed later. -/
theorem reached_cons {ops : List Op} :
    Reached id (op :: ops) ↔ op = .closeAll ∨ op ≠ .drop id ∧ Reached id ops := by
  constructor
  · rintro ⟨before, after, split, undropped⟩
    cases before with
    | nil => exact .inl (List.cons.inj split).1
    | cons first before =>
      obtain ⟨rfl, rest⟩ := List.cons.inj split
      have differs : op ≠ .drop id := (List.ne_of_not_mem_cons undropped).symm
      exact .inr ⟨differs, before, after, rest, List.not_mem_of_not_mem_cons undropped⟩
  · rintro (rfl | ⟨differs, before, after, rfl, undropped⟩)
    · exact ⟨[], ops, rfl, List.not_mem_nil⟩
    · exact ⟨op :: before, after, rfl,
        List.not_mem_cons_of_ne_of_not_mem (Ne.symm differs) undropped⟩

/-- A registration that has been made stays in the table as long as it is kept. -/
theorem lists_run {ops : List Op} (sound : tracker.Sound)
    (bound : (run ops tracker).next ≤ UInt64.size) (made : id < tracker.next) :
    (run ops tracker).Lists id ↔ tracker.Lists id ∧ Kept id ops := by
  induction ops generalizing tracker with
  | nil => simp [Kept]
  | cons op ops ih =>
    have boundFirst : (tracker.apply op).next ≤ UInt64.size :=
      Nat.le_trans (next_le_run ops _) bound
    have madeStill : id < (tracker.apply op).next :=
      Nat.lt_of_lt_of_le made (next_le_apply tracker op)
    have old : id ≠ tracker.next := Nat.ne_of_lt made
    rw [run_cons, ih (sound.apply boundFirst) bound madeStill, lists_apply sound boundFirst]
    simp only [old, and_false, false_or, Kept, List.mem_cons, not_or, ne_eq]
    grind

/-- A registration that has been made is aborted if it was so before or is reached. -/
theorem isAborted_run {ops : List Op} (sound : tracker.Sound)
    (bound : (run ops tracker).next ≤ UInt64.size) (made : id < tracker.next) :
    (run ops tracker).isAborted id = true ↔
      tracker.isAborted id = true ∨ tracker.Lists id ∧ Reached id ops := by
  induction ops generalizing tracker with
  | nil => simp [Reached]
  | cons op ops ih =>
    have boundFirst : (tracker.apply op).next ≤ UInt64.size :=
      Nat.le_trans (next_le_run ops _) bound
    have madeStill : id < (tracker.apply op).next :=
      Nat.lt_of_lt_of_le made (next_le_apply tracker op)
    have old : id ≠ tracker.next := Nat.ne_of_lt made
    rw [run_cons, ih (sound.apply boundFirst) bound madeStill, isAborted_apply (sound.fresh id),
      lists_apply sound boundFirst, reached_cons]
    simp only [old, and_false, false_or]
    grind

/-- The registration with a number is made now, or it is still to be made after the first thing
that happens. -/
theorem since_cons (unmade : tracker.next ≤ id) (op : Op) (ops : List Op) :
    (op = .register ∧ tracker.enabled = true ∧ id = tracker.next ∧
        since tracker.enabled (id - tracker.next) (op :: ops) = some ops) ∨
      (tracker.apply op).next ≤ id ∧ since tracker.enabled (id - tracker.next) (op :: ops) =
        since (tracker.apply op).enabled (id - (tracker.apply op).next) ops := by
  rcases settings_cases tracker op with ⟨on, rfl⟩ | rfl | ⟨switches, registers, enabled, next⟩
  · exact .inr ⟨unmade, rfl⟩
  · cases enabled : tracker.enabled with
    | false =>
      rw [apply_register_of_off enabled, enabled]
      exact .inr ⟨unmade, rfl⟩
    | true =>
      rcases Nat.eq_or_lt_of_le unmade with same | later
      · refine .inl ⟨rfl, rfl, same.symm, ?_⟩
        rw [same, Nat.sub_self, since]
      · have number : id - tracker.next = id - (tracker.next + 1) + 1 := by omega
        rw [apply_register_of_on enabled, number]
        exact .inr ⟨later, by rw [since, enabled]⟩
  · have passed : since tracker.enabled (id - tracker.next) (op :: ops) =
        since tracker.enabled (id - tracker.next) ops := by
      cases op with
      | setEnabled on => exact absurd rfl (switches on)
      | register => exact absurd rfl registers
      | _ => rfl
    rw [enabled, next, passed]
    exact .inr ⟨unmade, rfl⟩

/-- A registration that is still to be made is in the table if it is made and kept since. -/
theorem lists_run_of_unmade {ops : List Op} (sound : tracker.Sound)
    (bound : (run ops tracker).next ≤ UInt64.size) (unmade : tracker.next ≤ id) :
    (run ops tracker).Lists id ↔
      ∃ later, since tracker.enabled (id - tracker.next) ops = some later ∧ Kept id later := by
  induction ops generalizing tracker with
  | nil =>
    have unlisted : ¬tracker.Lists id := fun listed =>
      Nat.not_lt.mpr unmade (sound.made_of_lists listed)
    simp [unlisted, since]
  | cons op ops ih =>
    have boundFirst : (tracker.apply op).next ≤ UInt64.size :=
      Nat.le_trans (next_le_run ops _) bound
    have soundFirst : (tracker.apply op).Sound := sound.apply boundFirst
    rcases since_cons unmade op ops with ⟨registers, on, new, made⟩ | ⟨unmadeStill, later⟩
    · have listed : (tracker.apply op).Lists id :=
        (lists_apply sound boundFirst).mpr (.inl ⟨registers, on, new⟩)
      rw [made, run_cons, lists_run soundFirst bound (soundFirst.made_of_lists listed)]
      simp [listed]
    · rw [later]
      exact ih soundFirst bound unmadeStill

/-- A registration that is still to be made is aborted if it is made and reached since. -/
theorem isAborted_run_of_unmade {ops : List Op} (sound : tracker.Sound)
    (bound : (run ops tracker).next ≤ UInt64.size) (unmade : tracker.next ≤ id) :
    (run ops tracker).isAborted id = true ↔
      ∃ later, since tracker.enabled (id - tracker.next) ops = some later ∧ Reached id later := by
  induction ops generalizing tracker with
  | nil => simp [sound.fresh id unmade, since]
  | cons op ops ih =>
    have boundFirst : (tracker.apply op).next ≤ UInt64.size :=
      Nat.le_trans (next_le_run ops _) bound
    have soundFirst : (tracker.apply op).Sound := sound.apply boundFirst
    rcases since_cons unmade op ops with ⟨registers, on, new, made⟩ | ⟨unmadeStill, later⟩
    · have listed : (tracker.apply op).Lists id :=
        (lists_apply sound boundFirst).mpr (.inl ⟨registers, on, new⟩)
      have unaborted : ¬(tracker.apply op).isAborted id := by
        rw [isAborted_apply (sound.fresh id), sound.fresh id unmade, registers]
        simp
      rw [made, run_cons, isAborted_run soundFirst bound (soundFirst.made_of_lists listed)]
      simp [listed, unaborted]
    · rw [later]
      exact ih soundFirst bound unmadeStill

/-- Whether tracking is on and how many there are depends on the same of before. -/
theorem settings_run {other : Tracker} (ops : List Op) (enabled : tracker.enabled = other.enabled)
    (next : tracker.next = other.next) :
    (run ops tracker).enabled = (run ops other).enabled ∧
      (run ops tracker).next = (run ops other).next := by
  induction ops generalizing tracker other with
  | nil => exact ⟨enabled, next⟩
  | cons op ops ih =>
    have first : (tracker.apply op).enabled = (other.apply op).enabled ∧
        (tracker.apply op).next = (other.apply op).next := by
      rcases settings_cases tracker op with ⟨on, rfl⟩ | rfl | ⟨switches, registers, kept⟩
      · exact ⟨rfl, next⟩
      · cases on : other.enabled with
        | false =>
          rw [apply_register_of_off on, apply_register_of_off (enabled.trans on)]
          exact ⟨enabled, next⟩
        | true =>
          rw [apply_register_of_on on, apply_register_of_on (enabled.trans on)]
          exact ⟨enabled, congrArg (· + 1) next⟩
      · rcases settings_cases other op with ⟨on, same⟩ | same | ⟨-, -, keptOther⟩
        · exact absurd same (switches on)
        · exact absurd same registers
        · rw [kept.1, kept.2, keptOther.1, keptOther.2]
          exact ⟨enabled, next⟩
    exact ih first.1 first.2

/-! ## The books -/

/-- What a new tracker says after things have happened to it. -/
structure Books (ops : List Op) : Prop where
  /-- The table holds what has been registered and neither dropped nor caught since. -/
  listed : ∀ id, (run ops {}).Lists id ↔ Held ops id
  /-- The count is how many these are. -/
  counted : ∃ held : List Nat, held.Nodup ∧ (∀ id, id ∈ held ↔ Held ops id) ∧
    (run ops {}).count = held.length
  /-- Closing everything gives the count, -/
  closed : (run ops {}).closeAll.closed = (run ops {}).count
  /-- and leaves nothing. -/
  emptied : (run ops {}).closeAll.tracker.count = 0
  /-- What was caught by a closing is aborted, and nothing else. -/
  aborted : ∀ id, (run ops {}).isAborted id = true ↔ Caught ops id
  /-- To what is registered after a closing it is as if there had been none. -/
  unaffected : ∀ before after, ops = before ++ .closeAll :: after →
    ∀ id, (run before {}).next ≤ id →
      ((run ops {}).Lists id ↔ (run (before ++ after) {}).Lists id) ∧
        (run ops {}).isAborted id = (run (before ++ after) {}).isAborted id
  /-- Dropping a registration, aborted or not, leaves every other as it is. -/
  apart : ∀ id other, other ≠ id →
    ((run (ops ++ [.drop id]) {}).Lists other ↔ (run ops {}).Lists other) ∧
      (run (ops ++ [.drop id]) {}).isAborted other = (run ops {}).isAborted other

/-- To what is registered later a closing makes no difference. -/
theorem closeAll_run_of_unmade {ops : List Op} (sound : tracker.Sound)
    (bound : (run (.closeAll :: ops) tracker).next ≤ UInt64.size) (unmade : tracker.next ≤ id) :
    ((run (.closeAll :: ops) tracker).Lists id ↔ (run ops tracker).Lists id) ∧
      (run (.closeAll :: ops) tracker).isAborted id = (run ops tracker).isAborted id := by
  have same : (run (.closeAll :: ops) tracker).next = (run ops tracker).next :=
    (settings_run ops (enabled_closeAll tracker) (next_closeAll tracker)).2
  have boundWithout : (run ops tracker).next ≤ UInt64.size := same ▸ bound
  -- It is not made by the closing, and what follows finds the settings that were there before.
  have passed : since tracker.enabled (id - tracker.next) (.closeAll :: ops) =
      since tracker.enabled (id - tracker.next) ops := rfl
  constructor
  · rw [lists_run_of_unmade sound bound unmade, passed,
      ← lists_run_of_unmade sound boundWithout unmade]
  · rw [Bool.eq_iff_iff, isAborted_run_of_unmade sound bound unmade, passed,
      ← isAborted_run_of_unmade sound boundWithout unmade]

/-- Whatever happens to a tracker, its books are right, for as many registrations as there are
keys. -/
theorem books_kept (ops : List Op) (bound : (run ops {}).next ≤ UInt64.size) : Books ops := by
  have sound : (run ops {}).Sound := sound_new.run bound
  have listed : ∀ id, (run ops {}).Lists id ↔ Held ops id := fun id =>
    lists_run_of_unmade sound_new bound (Nat.zero_le id)
  constructor
  case listed => exact listed
  case counted =>
    exact ⟨(run ops {}).live.map Prod.snd, sound.distinct, listed, (List.length_map ..).symm⟩
  case closed => exact closed_closeAll _
  case emptied => exact congrArg List.length (live_closeAll _)
  case aborted => exact fun id => isAborted_run_of_unmade sound_new bound (Nat.zero_le id)
  case unaffected =>
    rintro before after rfl id unmade
    rw [run_append] at bound ⊢
    have soundBefore : (run before {}).Sound :=
      sound_new.run (Nat.le_trans (next_le_run _ _) bound)
    rw [run_append]
    exact closeAll_run_of_unmade soundBefore bound unmade
  case apart =>
    intro id other differs
    have boundAfter : ((run ops {}).apply (.drop id)).next ≤ UInt64.size := by
      rcases settings_cases (run ops {}) (.drop id) with ⟨on, same⟩ | same | ⟨-, -, -, kept⟩
      · cases same
      · cases same
      · rwa [kept]
    rw [run_append, run_cons, run_nil]
    constructor
    · rw [lists_apply sound boundAfter]
      simp [differs.symm]
    · rw [Bool.eq_iff_iff, isAborted_apply (sound.fresh other)]
      simp

/-- Of three registrations one is made while tracking is off, one is dropped after it was caught,
and one is made after the closing. -/
theorem books_kept_toggled :
    Books [.register, .setEnabled true, .register, .setEnabled false, .closeAll, .setEnabled true,
      .register, .drop 0] :=
  books_kept _ (by decide)

end Outbound.Tracker
