import Outbound.Proofs.Tls.Regular
import Outbound.Stream.Script

/-!
# Emissions in bounds

An emission is moved on by two counters. A poll cuts what it offers out of the records by them, and
takes a record to be out, or all of them, just where a counter meets the end. So `emitInPlace`, which
looks at nothing beforehand, is left with nothing once a counter is past its end. That never happens
(`emitInPlace_eq`), since between two calls an emission is sound; and a poll is `Sincere` in what it
offers and answers.
-/
namespace Outbound

/-- A transport that takes no more octets than it is offered. -/
structure Transport.Modest {σ : Type} (transport : Transport σ) : Prop where
  /-- A write counts octets of its buffer. -/
  write : ∀ turn octets state count,
    (transport.write turn octets state).1 = .done count → count ≤ octets.length

/-- A scripted transport is modest. -/
theorem Script.modest_transport : Script.transport.Modest where
  write turn octets script count taken := by
    have counted : (Script.write turn octets script).1 = .done count := taken
    rw [Script.write] at counted
    cases writes : script.writes with
    | nil =>
      rw [writes] at counted
      cases counted
      exact Nat.le_refl _
    | cons reply others =>
      rw [writes] at counted
      rcases reply with (_ | most) | _ | error
      · cases counted
        exact Nat.le_refl _
      · cases counted
        exact Nat.min_le_right _ _
      · cases counted
      · cases counted

/-- The octets that are taken of an emission by a contact. -/
def Contact.taken : Contact → Bytes
  | .send octets (.done count) => octets.take count
  | _ => []

namespace Tls

namespace Emission

/-! ## Counters -/

/-- Take note of sent octets of a record of some length. The record is out if its length is just what
has been sent of it. -/
def note (emission : Emission) (policy : Policy) (now length count : Nat) (entropy : Entropy) :
    Emission × Entropy :=
  let sent := emission.offset + count
  if sent = length then
    let next := { emission with index := emission.index + 1, offset := 0 }
    if next.index < next.fragments && !policy.sleep.isZero then
      let (delay, entropy) := policy.sleep.draw entropy
      ({ next with pause := some (now + delay) }, entropy)
    else (next, entropy)
  else ({ emission with offset := sent }, entropy)

/-- What the counters leave to send: records, and places of the current one, its end among them. -/
def room (emission : Emission) : Nat × Nat :=
  (emission.records.size - emission.index,
    (emission.records.getD emission.index []).length + 1 - emission.offset)

/-- Taking note of at least one octet leaves less to send. -/
theorem room_note {emission : Emission} (inside : emission.index < emission.records.size)
    (within : emission.offset ≤ emission.records[emission.index].length) (policy : Policy)
    (now count : Nat) (entropy : Entropy) :
    Prod.Lex (· < ·) (· < ·)
      (emission.note policy now emission.records[emission.index].length (count + 1) entropy).1.room
      emission.room := by
  have current : emission.records.getD emission.index [] = emission.records[emission.index] :=
    current_eq inside
  simp only [note]
  split
  · split
    · exact .left _ _ (by simp only; omega)
    · exact .left _ _ (by simp only; omega)
  · exact .right _ (by simp only [current]; omega)

/-- An advance takes note of octets that the record has by the same counters. -/
theorem note_eq_advance {emission : Emission} {count : Nat}
    (within : emission.offset + count ≤ emission.current.length) (policy : Policy) (now : Nat)
    (entropy : Entropy) :
    emission.note policy now emission.current.length count entropy =
      emission.advance policy now count entropy := by
  rw [current] at within ⊢
  by_cases out : emission.offset + count = (emission.records.getD emission.index []).length
  · simp only [note, advance, if_pos out, if_neg (Nat.not_lt_of_le (Nat.le_of_eq out.symm))]
  · have less : emission.offset + count < (emission.records.getD emission.index []).length := by
      omega
    simp only [note, advance, if_neg out, if_pos less]

/-! ## Sincere polls -/

/-- A contact offers the rest of a record, which is not empty. -/
def Offers (emission : Emission) (contact : Contact) : Prop :=
  ∃ octets answer, contact = .send octets answer ∧ octets ≠ [] ∧
    ∃ record ∈ emission.records.toList, octets <:+ record

/-- A poll of an emission never offers nothing, and is right about what has been taken: it fails
where nothing is, and succeeds just where all is out by then. -/
structure Sincere (emission : Emission) (contacts : List Contact) (answer : Answer Nat) : Prop where
  /-- It offers the rest of a record every time. -/
  offers : ∀ contact ∈ contacts, emission.Offers contact
  /-- It fails if nothing is taken of what it offers. -/
  stalls : ∀ octets, .send octets (.done 0) ∈ contacts → answer = .failed Fragmenter.stalledError
  /-- It succeeds just if all is out that there is to send. -/
  succeeds : ∀ count, answer = .done count ↔ count = emission.origin.length ∧
    emission.sent ++ contacts.flatMap Contact.taken = emission.image
  /-- The last it does then is to have the end of the last record taken. -/
  last : ∀ count, answer = .done count → ∃ early octets record,
    contacts = early ++ [.send octets (.done octets.length)] ∧
      emission.records.toList.getLast? = some record ∧ octets <:+ record

variable {emission : Emission} {contacts : List Contact} {answer : Answer Nat}

/-- What is left of the current record of a sound emission is not empty. -/
theorem offers_current (sound : emission.Sound) (reply : Answer Nat) :
    emission.Offers (.send (emission.current.drop emission.offset) reply) := by
  have short := sound.offset_lt
  have mem : emission.current ∈ emission.records.toList := by
    rw [current_eq sound.index_lt]
    exact Array.getElem_mem_toList _
  refine ⟨_, reply, rfl, fun empty => ?_, emission.current, mem, List.drop_suffix _ _⟩
  have none := List.drop_eq_nil_iff.mp empty
  omega

/-- A poll that does not succeed, and of which nothing is taken, is sincere if its contacts are. -/
theorem sincere_of_untaken (sound : emission.Sound)
    (offers : ∀ contact ∈ contacts, emission.Offers contact)
    (stalls : ∀ octets, .send octets (.done 0) ∈ contacts →
      answer = .failed Fragmenter.stalledError)
    (untaken : contacts.flatMap Contact.taken = []) (undone : ∀ count, answer ≠ .done count) :
    emission.Sincere contacts answer where
  offers := offers
  stalls := stalls
  succeeds count := by
    constructor
    · intro done
      exact absurd done (undone count)
    · rintro ⟨-, out⟩
      have short := sent_prefix sound
      rw [untaken, List.append_nil] at out
      exact absurd out short.2
  last count done := absurd done (undone count)

/-- A poll that offers nothing. -/
theorem sincere_nil (sound : emission.Sound) (undone : ∀ count, answer ≠ .done count) :
    emission.Sincere [] answer :=
  sincere_of_untaken sound (fun contact mem => by cases mem) (fun octets mem => by cases mem) rfl
    undone

/-- A poll of which the transport takes nothing at all. -/
theorem sincere_one {reply : Answer Nat} (sound : emission.Sound)
    (stalls : reply = .done 0 → answer = .failed Fragmenter.stalledError)
    (untaken : (Contact.send (emission.current.drop emission.offset) reply).taken = [])
    (undone : ∀ count, answer ≠ .done count) :
    emission.Sincere [.send (emission.current.drop emission.offset) reply] answer := by
  refine sincere_of_untaken sound (List.forall_mem_singleton.mpr (offers_current sound reply)) ?_ ?_
    undone
  · intro octets mem
    exact stalls (Contact.send.inj (List.mem_singleton.mp mem)).2.symm
  · rw [List.flatMap_singleton, untaken]

/-- A poll of which the first contact has some octets taken, and some are left. -/
theorem sincere_cons {later : Emission} {count : Nat} (sound : emission.Sound)
    (sameRecords : later.records = emission.records) (sameOrigin : later.origin = emission.origin)
    (sent : later.sent =
      emission.sent ++ (emission.current.drop emission.offset).take (count + 1))
    (sincere : later.Sincere contacts answer) :
    emission.Sincere
      (.send (emission.current.drop emission.offset) (.done (count + 1)) :: contacts) answer where
  offers := by
    refine List.forall_mem_cons.mpr ⟨offers_current sound _, fun contact mem => ?_⟩
    rw [Offers, ← sameRecords]
    exact sincere.offers contact mem
  stalls octets mem := by
    rcases List.mem_cons.mp mem with same | mem
    · cases same
    · exact sincere.stalls octets mem
  succeeds given := by
    have sameImage : later.image = emission.image := congrArg (·.toList.flatten) sameRecords
    rw [sincere.succeeds given, sameOrigin, sameImage, sent, List.flatMap_cons, List.append_assoc]
    rfl
  last given done := by
    obtain ⟨early, octets, record, rfl, final, suffix⟩ := sincere.last given done
    rw [sameRecords] at final
    exact ⟨_ :: early, octets, record, rfl, final, suffix⟩

/-- A poll that has the rest of the last record taken. -/
theorem sincere_last {count : Nat} (sound : emission.Sound)
    (final : emission.index + 1 = emission.records.size)
    (all : (emission.current.drop emission.offset).length = count + 1) :
    emission.Sincere [.send (emission.current.drop emission.offset) (.done (count + 1))]
      (.done emission.origin.length) where
  offers := List.forall_mem_singleton.mpr (offers_current sound _)
  stalls octets mem := by cases List.mem_singleton.mp mem
  succeeds given := by
    have out : emission.sent ++ [Contact.send (emission.current.drop emission.offset)
        (.done (count + 1))].flatMap Contact.taken = emission.image := by
      have none : emission.records.toList.drop (emission.index + 1) = [] :=
        List.drop_eq_nil_of_le (Nat.le_of_eq final.symm)
      have whole := image_eq_sent_append sound
      rw [none, List.flatten_nil, List.append_nil] at whole
      rw [whole, List.flatMap_singleton, Contact.taken, ← all, List.take_length]
    constructor
    · intro done
      cases done
      exact ⟨rfl, out⟩
    · rintro ⟨rfl, -⟩
      rfl
  last given _ := by
    refine ⟨[], _, emission.current, by rw [all]; rfl, ?_, List.drop_suffix _ _⟩
    have inside : emission.records.toList.length - 1 = emission.index := by
      rw [Array.length_toList, ← final, Nat.add_sub_cancel]
    rw [List.getLast?_eq_getElem?, inside, Array.getElem?_toList, current_eq sound.index_lt]
    exact Array.getElem?_eq_getElem sound.index_lt

/-- An emission of which all is out was sending its last record, and no less than its rest has been
taken. -/
theorem last_of_out (sound : emission.Sound) {policy : Policy} {now count : Nat} {entropy : Entropy}
    (out : (emission.advance policy now count entropy).1.index = emission.records.size) :
    emission.index + 1 = emission.records.size ∧
      (emission.current.drop emission.offset).length ≤ count := by
  by_cases within : emission.offset + count < emission.current.length
  · rw [advance_within within] at out
    exact absurd out (Nat.ne_of_lt sound.index_lt)
  · have past := (advance_past within policy now entropy).2
    rw [List.length_drop]
    omega

end Emission

namespace Fragmenter

variable {σ : Type} {transport : Transport σ} {turn : Turn}

/-- A poll of a sound emission on an open link is sincere. -/
theorem exists_sincere_emit (modest : transport.Modest) {fragmenter : Fragmenter}
    {emission : Emission} (opened : fragmenter.link = .opened) (sound : emission.Sound) (state : σ)
    (log : List Contact) :
    ∃ contacts,
      (emit (transport.watched .send) turn fragmenter emission (state, log)).2.2.2 =
          log ++ contacts ∧
        emission.Sincere contacts
          (emit (transport.watched .send) turn fragmenter emission (state, log)).1 := by
  have soundResumed := Emission.sound_resume sound
  rw [emit_of_sound opened sound]
  split
  · exact ⟨[], (List.append_nil log).symm, Emission.sincere_nil sound fun _ same => by cases same⟩
  · rw [Transport.watched_write]
    have counted := modest.write turn (emission.current.drop emission.offset) state
    generalize transport.write turn (emission.current.drop emission.offset) state = outcome
      at counted
    obtain ⟨reply, next⟩ := outcome
    cases reply with
    | pending =>
      exact ⟨_, rfl, Emission.sincere_one sound (fun same => by cases same) rfl
        fun _ same => by cases same⟩
    | failed error =>
      exact ⟨_, rfl, Emission.sincere_one sound (fun same => by cases same) rfl
        fun _ same => by cases same⟩
    | done count =>
      cases count with
      | zero =>
        exact ⟨_, rfl, Emission.sincere_one sound (fun _ => rfl) rfl fun _ same => by cases same⟩
      | succ count =>
        have fits := counted (count + 1) rfl
        obtain ⟨sameRecords, sameOrigin, ⟨later, sent⟩ | ⟨out, unpaused, image⟩⟩ :=
          Emission.advance_sound soundResumed rfl fragmenter.policy turn.now count
            fragmenter.entropy
        · -- The transport took an octet, so less is left to send: the recursion is on that.
          obtain ⟨contacts, made, sincere⟩ := exists_sincere_emit modest
            (show { fragmenter with
              phase := .emitting emission.resume
              entropy := (emission.resume.advance fragmenter.policy turn.now (count + 1)
                fragmenter.entropy).2 }.link = .opened from opened) later next
            (log ++ [.send (emission.current.drop emission.offset) (.done (count + 1))])
          refine ⟨_ :: contacts, ?_, Emission.sincere_cons sound sameRecords sameOrigin sent sincere⟩
          rw [← List.append_cons] at made
          exact made
        · obtain ⟨final, all⟩ := Emission.last_of_out soundResumed out
          have whole := Nat.le_antisymm all fits
          dsimp only
          rw [emit_of_out (out.trans (by rw [sameRecords])) unpaused, sameOrigin]
          exact ⟨_, rfl, Emission.sincere_last sound final whole⟩
termination_by emission.left
decreasing_by exact Emission.left_advance emission.resume _ _ _ _ sound.index_lt

/-! ## Polls in place -/

/-- Poll an emission by its counters alone. Nothing is left by a poll that cuts out of the records
what they do not have. -/
def emitInPlace (transport : Transport σ) (turn : Turn) (fragmenter : Fragmenter)
    (emission : Emission) (state : σ) : Option (Answer Nat × Fragmenter × σ) :=
  if emission.isPaused turn.now then
    some (.pending, { fragmenter with phase := .emitting emission }, state)
  else if emission.index = emission.records.size then
    some (.done emission.origin.length, { fragmenter with phase := .inspecting }, state)
  else
    let emission' := emission.resume
    match ensureOpen transport turn { fragmenter with phase := .emitting emission' } state with
    | (.pending, fragmenter, state) => some (.pending, fragmenter, state)
    | (.failed error, fragmenter, state) => some (.failed error, fragmenter, state)
    | (.done (), fragmenter, state) =>
      if inside : emission.index < emission.records.size then
        let record := emission.records[emission.index]
        if within : emission.offset ≤ record.length then
          match transport.write turn (record.drop emission.offset) state with
          | (.pending, state) => some (.pending, fragmenter, state)
          | (.failed error, state) => some (.failed error, fragmenter.fail error, state)
          | (.done 0, state) => some (.failed stalledError, fragmenter.fail stalledError, state)
          | (.done (count + 1), state) =>
            emitInPlace transport turn
              { fragmenter with
                entropy := (emission'.note fragmenter.policy turn.now record.length (count + 1)
                  fragmenter.entropy).2 }
              (emission'.note fragmenter.policy turn.now record.length (count + 1)
                fragmenter.entropy).1 state
        else none
      else none
termination_by emission.room
decreasing_by exact emission'.room_note inside within _ _ _ _

/-- Write a buffer while no emission is on its way; an emission is polled in place. -/
def writeFreshInPlace (transport : Transport σ) (turn : Turn) (buffer : Bytes)
    (fragmenter : Fragmenter) (state : σ) : Option (Answer Nat × Fragmenter × σ) :=
  match ensureOpen transport turn fragmenter state with
  | (.pending, fragmenter, state) => some (.pending, fragmenter, state)
  | (.failed error, fragmenter, state) => some (.failed error, fragmenter, state)
  | (.done (), fragmenter, state) =>
    if buffer = [] then some (.done 0, fragmenter, state)
    else
      match inspect buffer with
      | .clientHello header body rest =>
        let (emission, entropy) :=
          Emission.start fragmenter.policy header body rest buffer fragmenter.entropy
        emitInPlace transport turn { fragmenter with entropy } emission state
      | _ =>
        some (writeThrough transport turn buffer { fragmenter with phase := .passthrough } state)

/-- Write a buffer; emissions are polled in place. -/
def writeInPlace (transport : Transport σ) (turn : Turn) (buffer : Bytes) (fragmenter : Fragmenter)
    (state : σ) : Option (Answer Nat × Fragmenter × σ) :=
  match fragmenter.phase with
  | .inspecting => writeFreshInPlace transport turn buffer fragmenter state
  | .passthrough => some (writeThrough transport turn buffer fragmenter state)
  | .emitting emission => do
    match ← emitInPlace transport turn fragmenter emission state with
    | (.done count, fragmenter, state) =>
      if emission.origin = buffer then some (.done count, fragmenter, state)
      else writeFreshInPlace transport turn buffer fragmenter state
    | (answer, fragmenter, state) => some (answer, fragmenter, state)

/-- An emission that is all out. -/
theorem emitInPlace_of_out {fragmenter : Fragmenter} {emission : Emission}
    (out : emission.index = emission.records.size) (unpaused : emission.pause = none) (state : σ) :
    emitInPlace transport turn fragmenter emission state =
      some (emit transport turn fragmenter emission state) := by
  have awake : ¬ emission.isPaused turn.now = true := by
    rw [Emission.isPaused, unpaused]
    exact Bool.false_ne_true
  rw [emitInPlace, if_neg awake, if_pos out, emit_of_out out unpaused]

/-- On a link that is open or over, a sound emission is polled in place as it is polled, and no slice
is out of range. -/
theorem emitInPlace_eq (modest : transport.Modest) {fragmenter : Fragmenter} {emission : Emission}
    (past : fragmenter.link ≠ .connecting) (sound : emission.Sound) (state : σ) :
    emitInPlace transport turn fragmenter emission state =
      some (emit transport turn fragmenter emission state) := by
  have soundResumed := Emission.sound_resume sound
  have unspent : ¬ emission.index = emission.records.size := Nat.ne_of_lt sound.index_lt
  rw [emitInPlace]
  rcases opened_or_refusal past with opened | ⟨error, refusal⟩
  · rw [emit_of_sound opened sound]
    by_cases paused : emission.isPaused turn.now = true
    · rw [if_pos paused, if_pos paused]
    · rw [if_neg paused, if_neg paused, if_neg unspent]
      have record := Emission.current_eq sound.index_lt
      have short := sound.offset_lt
      rw [record] at short
      dsimp only
      rw [ensureOpen_of_opened (by exact opened)]
      dsimp only
      rw [dif_pos sound.index_lt, dif_pos (Nat.le_of_lt short), ← record]
      have counted := modest.write turn (emission.current.drop emission.offset) state
      generalize transport.write turn (emission.current.drop emission.offset) state = outcome
        at counted
      obtain ⟨reply, next⟩ := outcome
      cases reply with
      | pending => rfl
      | failed error => rfl
      | done count =>
        cases count with
        | zero => rfl
        | succ count =>
          have fits := counted (count + 1) rfl
          rw [List.length_drop] at fits
          have within : emission.resume.offset + (count + 1) ≤ emission.resume.current.length := by
            show emission.offset + (count + 1) ≤ emission.current.length
            omega
          have noted : emission.resume.note fragmenter.policy turn.now emission.current.length
              (count + 1) fragmenter.entropy =
                emission.resume.advance fragmenter.policy turn.now (count + 1) fragmenter.entropy :=
            Emission.note_eq_advance within _ _ _
          dsimp only
          rw [noted]
          obtain ⟨sameRecords, -, ⟨later, -⟩ | ⟨out, unpaused, -⟩⟩ :=
            Emission.advance_sound soundResumed rfl fragmenter.policy turn.now count
              fragmenter.entropy
          -- The transport took an octet, so less is left to send: the recursion is on that.
          · exact emitInPlace_eq modest (by exact past) later next
          · exact emitInPlace_of_out (out.trans (by rw [sameRecords])) unpaused next
  · rw [emit_of_refusal refusal sound]
    by_cases paused : emission.isPaused turn.now = true
    · rw [if_pos paused, if_pos paused]
    · rw [if_neg paused, if_neg paused, if_neg unspent]
      dsimp only
      rw [ensureOpen_of_refusal (by exact refusal)]
termination_by emission.left
decreasing_by exact Emission.left_advance emission.resume _ _ _ _ sound.index_lt

/-- A poll of counters that have left their record reaches out of it. -/
example : emitInPlace Script.transport ⟨0, 0⟩ (opened ⟨.fixed 2, .fixed 5, false⟩ ⟨id, 0⟩)
    ⟨#[[22, 3]], 1, 0, 3, none, [22]⟩ {} = none := by
  rw [emitInPlace]
  rfl

/-- A link that lets a call through is open. -/
theorem opened_of_ensureOpen {fragmenter later : Fragmenter} {state next : σ}
    (ready : ensureOpen transport turn fragmenter state = (.done (), later, next)) :
    later.link = .opened := by
  rw [ensureOpen] at ready
  cases link : fragmenter.link with
  | connecting =>
    rw [link] at ready
    dsimp only at ready
    generalize transport.connect turn state = outcome at ready
    obtain ⟨answer, after⟩ := outcome
    cases answer with
    | pending => cases ready
    | done result =>
      cases ready
      rfl
    | failed error => cases ready
  | opened =>
    rw [link] at ready
    cases ready
    exact link
  | failed error =>
    rw [link] at ready
    cases ready
  | closed =>
    rw [link] at ready
    cases ready

/-- A write while no emission is on its way is made in place as it is made. -/
theorem writeFreshInPlace_eq (modest : transport.Modest) (turn : Turn) (buffer : Bytes)
    (fragmenter : Fragmenter) (state : σ) :
    writeFreshInPlace transport turn buffer fragmenter state =
      some (writeFresh transport turn buffer fragmenter state) := by
  rw [writeFreshInPlace, writeFresh, whenOpen]
  rcases ready : ensureOpen transport turn fragmenter state with ⟨answer, later, next⟩
  cases answer with
  | pending => rfl
  | failed error => rfl
  | done result =>
    have past : later.link ≠ .connecting := by
      rw [opened_of_ensureOpen ready]
      exact fun same => by cases same
    dsimp only
    by_cases empty : buffer = []
    · rw [if_pos empty, if_pos empty]
    · rw [if_neg empty, if_neg empty]
      cases inspected : inspect buffer with
      | clientHello header body rest =>
        have sound := Emission.sound_start inspected later.policy later.entropy
        exact emitInPlace_eq modest (by exact past) sound next
      | notClientHello => rfl
      | incomplete => rfl

/-- A write on a regular fragmenter is made in place as it is made. -/
theorem writeInPlace_eq (modest : transport.Modest) (turn : Turn) (buffer : Bytes)
    {fragmenter : Fragmenter} (regular : Regular fragmenter) (state : σ) :
    writeInPlace transport turn buffer fragmenter state =
      some (write transport turn buffer fragmenter state) := by
  rw [writeInPlace, write]
  cases phase : fragmenter.phase with
  | inspecting => exact writeFreshInPlace_eq modest turn buffer fragmenter state
  | passthrough => rfl
  | emitting emission =>
    dsimp only
    rw [emitInPlace_eq modest (regular.past phase) (regular.sound emission phase)]
    rcases emit transport turn fragmenter emission state with ⟨answer, later, next⟩
    cases answer with
    | pending => rfl
    | failed error => rfl
    | done count =>
      show (if emission.origin = buffer then _ else _) = some (if emission.origin = buffer then _ else _)
      by_cases same : emission.origin = buffer
      · rw [if_pos same, if_pos same]
      · rw [if_neg same, if_neg same]
        exact writeFreshInPlace_eq modest turn buffer later next

/-! ## Runs -/

/-- Whatever calls are made one after another, they leave a regular fragmenter. -/
theorem regular_finish {fragmenter : Fragmenter} (regular : Regular fragmenter)
    (calls : List (Turn × Call)) (state : σ) :
    Regular ((stream transport).finish calls (fragmenter, state)).1 := by
  induction calls generalizing fragmenter state with
  | nil => exact regular
  | cons first calls ih => exact ih (regular_answer first.2 regular state) _

/-- What holds of the polls of an emission that is on its way: they stay in bounds, and are right
about what is taken. -/
structure Polls (transport : Transport σ) (fragmenter : Fragmenter) (emission : Emission) :
    Prop where
  /-- Polled by its counters alone it comes to the same, and no slice is out of range. -/
  inPlace : ∀ turn state, emitInPlace transport turn fragmenter emission state =
    some (emit transport turn fragmenter emission state)
  /-- Every poll is sincere. -/
  sincere : ∀ turn state log, ∃ contacts,
    (emit (transport.watched .send) turn fragmenter emission (state, log)).2.2.2 =
        log ++ contacts ∧
      emission.Sincere contacts (emit transport turn fragmenter emission state).1

/-- The polls of a sound emission past the connecting. -/
theorem polls_of_sound (modest : transport.Modest) {fragmenter : Fragmenter} {emission : Emission}
    (past : fragmenter.link ≠ .connecting) (sound : emission.Sound) :
    Polls transport fragmenter emission where
  inPlace turn state := emitInPlace_eq modest past sound state
  sincere turn state log := by
    have same := @forget_emit _ transport turn .send fragmenter emission state log
    rw [← same, forget]
    rcases opened_or_refusal past with opened | ⟨error, refusal⟩
    · exact exists_sincere_emit modest opened sound state log
    · refine ⟨[], ?_, Emission.sincere_nil sound ?_⟩
      · rw [emit_of_refusal refusal sound, List.append_nil]
        split
        · rfl
        · rfl
      · rw [emit_of_refusal refusal sound]
        split
        · exact fun _ same => by cases same
        · exact fun _ same => by cases same

/-- Between two calls, whatever calls were made before and however the transport answered them, a
fragmenter is regular. So every poll of the emission that is on its way, and every poll of one that a
write has just begun, stays in bounds, offers some octets whenever it offers any, and succeeds when
the last octet of the last record is taken and not before; and a write is made by the counters alone
just as it is made. -/
theorem emissions_in_bounds (transport : Transport σ) (modest : transport.Modest) (policy : Policy)
    (entropy : Entropy) {fragmenter : Fragmenter}
    (made : fragmenter = opened policy entropy ∨ fragmenter = connecting policy entropy)
    (calls : List (Turn × Call)) (state : σ) :
    let (reached, state) := (stream transport).finish calls (fragmenter, state)
    Regular reached ∧
      (∀ emission, reached.phase = .emitting emission → Polls transport reached emission) ∧
      (∀ buffer header body rest, inspect buffer = .clientHello header body rest →
        ∀ later : Fragmenter, later.link = .opened →
          let (emission, entropy) :=
            Emission.start later.policy header body rest buffer later.entropy
          Polls transport { later with entropy } emission) ∧
      ∀ turn buffer, writeInPlace transport turn buffer reached state =
        some (write transport turn buffer reached state) := by
  have regularMade : Regular fragmenter := by
    rcases made with rfl | rfl
    · exact regular_opened policy entropy
    · exact regular_connecting policy entropy
  have regular := @regular_finish _ transport fragmenter regularMade calls state
  refine ⟨regular, ?_, ?_, fun turn buffer => writeInPlace_eq modest turn buffer regular _⟩
  · intro emission sending
    exact polls_of_sound modest (regular.past sending) (regular.sound emission sending)
  · intro buffer header body rest opens later opened
    have past : later.link ≠ .connecting := by
      rw [opened]
      exact fun same => by cases same
    exact polls_of_sound modest (by exact past) (Emission.sound_start opens _ _)

/-- A transport takes a part of the first fragment, is not ready for the rest of it, and is shut down:
the emission that is left stays sound, and is polled in bounds whichever buffer is written then. -/
theorem emissions_in_bounds_interrupted :
    let policy : Policy := ⟨.fixed 2, .fixed 5, false⟩
    let hello : Bytes := [22, 3, 1, 0, 4, 1, 0, 0, 0]
    let slow : Script := { writes := [.done (some 3), .pending] }
    let emission : Emission :=
      ⟨#[[22, 3, 1, 0, 2, 1, 0], [22, 3, 1, 0, 2, 0, 0]], 2, 0, 3, none, hello⟩
    let (reached, state) := (stream Script.transport).finish
      [(⟨0, 0⟩, .write hello), (⟨1, 0⟩, .shutdown)] (opened policy ⟨id, 0⟩, slow)
    Script.transport.Modest ∧ reached.link = .closed ∧ reached.phase = .emitting emission ∧
      emission.Sound ∧ Polls Script.transport reached emission ∧
      writeInPlace Script.transport ⟨2, 0⟩ [1] reached state =
        some (write Script.transport ⟨2, 0⟩ [1] reached state) := by
  intro policy hello slow emission
  have bounds := emissions_in_bounds Script.transport Script.modest_transport policy ⟨id, 0⟩
    (.inl rfl) [(⟨0, 0⟩, .write hello), (⟨1, 0⟩, .shutdown)] slow
  have opens : inspect hello = .clientHello ⟨22, 769, 4⟩ [1, 0, 0, 0] [] := by decide
  have begun : (Emission.start policy ⟨22, 769, 4⟩ [1, 0, 0, 0] [] hello ⟨id, 0⟩).1 =
      { emission with offset := 0 } := by
    decide +kernel
  have sound := Emission.sound_start opens policy ⟨id, 0⟩
  rw [begun] at sound
  have partway : emission.Sound :=
    { sound with offset_lt := by decide, paused := fun kept => absurd rfl kept }
  have written : ∃ entropy, write Script.transport ⟨0, 0⟩ hello (opened policy ⟨id, 0⟩) slow =
      (.pending, ⟨policy, .opened, .emitting emission, entropy⟩,
        { taken := #[(0, [22, 3, 1])], woken := #[0] }) := by
    show ∃ entropy, writeFresh Script.transport ⟨0, 0⟩ hello (opened policy ⟨id, 0⟩) slow = _
    rw [writeFresh, whenOpen_of_opened rfl, if_neg (by decide), opens]
    dsimp only [opened]
    rw [begun, emit_of_sound rfl sound]
    exact ⟨_, (emit_of_sound rfl partway _).trans rfl⟩
  obtain ⟨entropy, written⟩ := written
  have left : (stream Script.transport).finish [(⟨0, 0⟩, .write hello), (⟨1, 0⟩, .shutdown)]
      (opened policy ⟨id, 0⟩, slow) = (⟨policy, .closed, .emitting emission, entropy⟩,
        { taken := #[(0, [22, 3, 1])], shutdownCalls := 1, woken := #[0] }) := by
    show (shutdown Script.transport ⟨1, 0⟩
      (write Script.transport ⟨0, 0⟩ hello (opened policy ⟨id, 0⟩) slow).2.1
      (write Script.transport ⟨0, 0⟩ hello (opened policy ⟨id, 0⟩) slow).2.2).2 = _
    rw [written]
    rfl
  rw [left] at bounds ⊢
  exact ⟨Script.modest_transport, rfl, rfl, partway, bounds.2.1 emission rfl,
    bounds.2.2.2 ⟨2, 0⟩ [1]⟩

end Fragmenter

end Tls

end Outbound
