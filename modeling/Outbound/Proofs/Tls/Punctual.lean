import Mathlib.Algebra.GroupWithZero.Nat
import Outbound.Proofs.Tls.Pacing
import Outbound.Stream.Await

/-!
# Writes over a transport that is always ready

Over a transport that is always ready the pauses are all that a write waits for: it is answered
when they are over, one after another.
-/
namespace Outbound.Tls

open Pace (Position Ending Poll Stage Run)

/-! ## Over a transport that is always ready -/

/-- The pauses of pieces. -/
def Piece.pauses (pieces : List Piece) : List Nat := pieces.filterMap Piece.pause

/-- A piece without a pause adds none. -/
theorem Piece.pauses_none (octets : Bytes) (pieces : List Piece) :
    pauses (⟨none, octets⟩ :: pieces) = pauses pieces := rfl

/-- A piece with a pause adds it. -/
theorem Piece.pauses_some (delay : Nat) (octets : Bytes) (pieces : List Piece) :
    pauses (⟨some delay, octets⟩ :: pieces) = delay :: pauses pieces := rfl

/-- The pauses of the pieces after a first fragment are one draw for each other fragment. -/
theorem Policy.pauses_following (policy : Policy) (fragments trailing : List Bytes)
    (entropy : Entropy) :
    (Piece.pauses (policy.following fragments trailing entropy).1).length ≤ fragments.length ∧
      (Piece.pauses (policy.following fragments trailing entropy).1).sum =
        (policy.sleep.draws fragments.length entropy).1.sum := by
  induction fragments generalizing entropy with
  | nil =>
    have none : Piece.pauses (trailing.map (Piece.mk none)) = [] := by
      rw [Piece.pauses, List.filterMap_map, List.filterMap_eq_nil_iff]
      exact fun octets mem => rfl
    rw [following_nil, none]
    exact ⟨Nat.le_refl 0, rfl⟩
  | cons fragment fragments ih =>
    rw [following_cons, List.length_cons, Range.draws]
    by_cases zero : policy.sleep.isZero = true
    · have drawn := Range.draw_of_isZero zero entropy
      obtain ⟨count, sum⟩ := ih entropy
      rw [gap, if_pos zero, drawn]
      dsimp only
      rw [Piece.pauses_none, List.sum_cons, Nat.zero_add]
      exact ⟨Nat.le_succ_of_le count, sum⟩
    · obtain ⟨count, sum⟩ := ih (policy.sleep.draw entropy).2
      rw [gap, if_neg zero]
      dsimp only
      rw [Piece.pauses_some, List.sum_cons, List.sum_cons, List.length_cons, sum]
      exact ⟨Nat.succ_le_succ count, rfl⟩

namespace Pace

/-- When all will be out if the transport is always ready. -/
def Position.due (now : Nat) : Position → Nat
  | pausing since delay _ later => max now (since + delay) + (Piece.pauses later).sum
  | sending _ later => now + (Piece.pauses later).sum

/-- How many pauses have not begun. -/
def Position.waits : Position → Nat
  | pausing _ _ _ later => (Piece.pauses later).length
  | sending _ later => (Piece.pauses later).length

/-- A piece that is begun now is due with its pause. -/
theorem Position.due_start (now : Nat) (piece : Piece) (later : List Piece) :
    (start now piece later).due now = now + (Piece.pauses (piece :: later)).sum := by
  obtain ⟨pause, octets⟩ := piece
  cases pause with
  | none => rfl
  | some delay =>
    rw [Piece.pauses_some, List.sum_cons]
    show max now (now + delay) + (Piece.pauses later).sum = _
    omega

/-- A poll that finds the transport ready sends all that is left, or goes on to the next pause. -/
theorem Poll.of_ready {now : Nat} {position : Position} {contacts : List Contact} {ending : Ending}
    (poll : Poll now position contacts ending)
    (taken : ∀ contact ∈ contacts, ∃ octets count, contact = .send octets (.done (count + 1)))
    (admitted : ∀ error later, ending ≠ .refused error later)
    (ripe : ∀ stop, position.alarm = some stop → stop ≤ now) :
    ending = .out ∧ position.due now = now ∨
      ∃ later stop, ending = .held later ∧ later.alarm = some stop ∧ now < stop ∧
        later.due stop = position.due now ∧ later.waits < position.waits := by
  induction poll with
  | early since delay octets later before =>
    have reached := ripe (since + delay) rfl
    omega
  | resume since delay octets later contacts ending reached poll ih =>
    have resumed := ih taken admitted fun stop alarm => by cases alarm
    have due : (Position.pausing since delay octets later).due now =
        (Position.sending octets later).due now := by
      simp only [Position.due]
      omega
    rw [due]
    exact resumed
  | wait octets later =>
    obtain ⟨_, _, same⟩ := List.forall_mem_singleton.mp taken
    cases same
  | refuse error octets later => exact absurd rfl (admitted error _)
  | fail error octets later =>
    obtain ⟨_, _, same⟩ := List.forall_mem_singleton.mp taken
    cases same
  | stall octets later =>
    obtain ⟨_, _, same⟩ := List.forall_mem_singleton.mp taken
    cases same
  | part octets later count contacts ending less poll ih =>
    exact ih (List.forall_mem_cons.mp taken).2 admitted fun stop alarm => by cases alarm
  | next octets piece later count contacts ending all poll ih =>
    have begun := ih (List.forall_mem_cons.mp taken).2 admitted
    have due : (Position.sending octets (piece :: later)).due now =
        (Position.start now piece later).due now := (Position.due_start now piece later).symm
    rw [due]
    obtain ⟨pause, octetsNext⟩ := piece
    cases pause with
    | none => exact begun fun stop alarm => by cases alarm
    | some delay =>
      have fewer : (Position.pausing now delay octetsNext later).waits <
          (Position.sending octets (⟨some delay, octetsNext⟩ :: later)).waits :=
        Nat.lt_succ_self _
      -- A pause of no time is over at once; any other is what the poll comes to.
      by_cases instant : delay = 0
      · have ripeNext : ∀ stop, (Position.pausing now delay octetsNext later).alarm = some stop →
            stop ≤ now := by
          intro stop alarm
          have same : now + delay = stop := Option.some.inj alarm
          omega
        rcases begun ripeNext with out | ⟨held, stop, ended, alarm, after, dueHeld, less⟩
        · exact .inl out
        · exact .inr ⟨held, stop, ended, alarm, after, dueHeld, Nat.lt_trans less fewer⟩
      · have waiting : ending = .held (.pausing now delay octetsNext later) := by
          cases poll with
          | early since delay octets later before => rfl
          | resume since delay octets later contacts ending reached poll => omega
        refine .inr ⟨_, now + delay, waiting, rfl, by omega, ?_, fewer⟩
        show max (now + delay) (now + delay) + _ = max now (now + delay) + _
        omega
  | last octets count all => exact .inl ⟨rfl, rfl⟩

end Pace

namespace Fragmenter

variable {σ : Type} {transport : Transport σ} {turn : Turn}

/-- The emission that is on its way at a stage. -/
theorem Place.exists_emission {fragmenter : Fragmenter} {origin : Bytes} {position : Position}
    {left : Entropy} (place : Place fragmenter (.emitting origin position left)) :
    ∃ emission, fragmenter.phase = .emitting emission ∧ emission.origin = origin ∧
      emission.Placed fragmenter.policy fragmenter.entropy left position := by
  generalize reached : Stage.emitting origin position left = stage at place
  cases place with
  | idle unsent => cases reached
  | emitting emission found final phase placed =>
    cases reached
    exact ⟨emission, phase, rfl, placed⟩
  | broken phase => cases reached

/-- An emission over a transport that is always ready: all of it goes out, or all up to the next
pause. -/
theorem emit_of_ready (ready : transport.Ready) {fragmenter : Fragmenter} {emission : Emission}
    {position : Position} {left : Entropy} (opened : fragmenter.link = .opened)
    (sound : emission.Sound)
    (placed : emission.Placed fragmenter.policy fragmenter.entropy left position)
    (ripe : ∀ stop, position.alarm = some stop → stop ≤ turn.now) (state : σ) :
    ∃ answer next last, emit transport turn fragmenter emission state = (answer, next, last) ∧
      (answer = .done emission.origin.length ∧ position.due turn.now = turn.now ∨
        answer = .pending ∧ next.link = .opened ∧ ∃ later positionLater stop,
          next.phase = .emitting later ∧ later.Sound ∧ later.origin = emission.origin ∧
          later.Placed next.policy next.entropy left positionLater ∧
          positionLater.alarm = some stop ∧ turn.now < stop ∧
          positionLater.due stop = position.due turn.now ∧
          positionLater.waits < position.waits) := by
  obtain ⟨contacts, ending, polled⟩ :=
    @exists_polled_of_opened _ transport turn fragmenter emission position left opened sound placed
      state []
  have regular := regular_emit transport turn sound opened state
  rw [← @forget_emit _ transport turn .send fragmenter emission state []] at regular ⊢
  generalize emit (transport.watched .send) turn fragmenter emission (state, []) = outcome
    at polled regular
  obtain ⟨answer, next, last, seen⟩ := outcome
  have taken : ∀ contact ∈ contacts, ∃ octets count,
      contact = .send octets (.done (count + 1)) := by
    intro contact mem
    obtain ⟨octets, asking, offered, rfl⟩ := polled.asked contact mem
    obtain ⟨count, took⟩ := ready.write turn octets asking offered
    exact ⟨octets, count, by rw [took]⟩
  have admitted : ∀ error later, ending ≠ .refused error later := by
    intro error later same
    have refusal := polled.refused error later same
    rw [opened] at refusal
    cases refusal
  have answered : answer = ending.answer emission.origin := polled.answer
  refine ⟨answer, next, last, rfl, ?_⟩
  rcases polled.poll.of_ready taken admitted ripe with
    ⟨rfl, due⟩ | ⟨later, stop, rfl, alarm, after, due, fewer⟩
  · exact .inl ⟨answered, due⟩
  · have link : next.link = fragmenter.link := polled.link fun error same => by cases same
    obtain ⟨emissionLater, phase, origin, placedLater⟩ := polled.place.exists_emission
    exact .inr ⟨answered, link.trans opened, emissionLater, later, stop, phase,
      regular.sound emissionLater phase, origin, placedLater, alarm, after, due, fewer⟩

/-- A write that finds an emission of its own buffer sends that on. -/
theorem write_of_retry {fragmenter : Fragmenter} {emission : Emission}
    (phase : fragmenter.phase = .emitting emission) (state : σ) :
    write transport turn emission.origin fragmenter state =
      emit transport turn fragmenter emission state := by
  rw [write, phase]
  dsimp only
  rcases emit transport turn fragmenter emission state with ⟨answer, next, last⟩
  cases answer with
  | pending => rfl
  | done count => exact if_pos rfl
  | failed error => rfl

/-- Writes of a buffer, repeated until they are answered, over a transport that is always ready:
the answer comes when the emission that the first of them sends on is due. -/
theorem call_of_ready (ready : transport.Ready) (task rounds : Nat) {now : Nat}
    {fragmenter sender : Fragmenter} {emission : Emission} {position : Position} {left : Entropy}
    {state middle : σ}
    (first : write transport ⟨now, task⟩ emission.origin fragmenter state =
      emit transport ⟨now, task⟩ sender emission middle)
    (opened : sender.link = .opened) (sound : emission.Sound)
    (placed : emission.Placed sender.policy sender.entropy left position)
    (ripe : ∀ stop, position.alarm = some stop → stop ≤ now) (enough : position.waits < rounds) :
    ∃ after, Await.call (fun now => (stream transport).write ⟨now, task⟩ emission.origin)
        (fun state => state.1.alarm) none rounds now (fragmenter, state) =
      (.done emission.origin.length, position.due now, after) := by
  induction rounds generalizing now fragmenter sender emission position state middle with
  | zero => omega
  | succ rounds ih =>
    obtain ⟨answer, next, last, emitted, outcome⟩ :=
      @emit_of_ready _ transport ⟨now, task⟩ ready sender emission position left opened sound placed
        ripe middle
    have polled : (stream transport).write ⟨now, task⟩ emission.origin (fragmenter, state) =
        (answer, next, last) := first.trans emitted
    rw [Await.call, polled]
    rcases outcome with ⟨rfl, due⟩ | ⟨rfl, openedLater, later, positionLater, stop, phase, soundLater,
      origin, placedLater, alarm, after, due, fewer⟩
    · dsimp only
      rw [show position.due now = now from due]
      exact ⟨_, rfl⟩
    · have woken : next.alarm = some stop := by
        rw [Fragmenter.alarm, phase]
        exact placedLater.alarm_eq.trans alarm
      have resumed : Await.nextTime now (some stop) none = stop := by
        have later : now < stop := after
        show max now stop = stop
        omega
      have retried := @write_of_retry _ transport ⟨stop, task⟩ next later phase last
      have ripeLater : ∀ found, positionLater.alarm = some found → found ≤ stop := by
        intro found same
        rw [alarm] at same
        exact Nat.le_of_eq (Option.some.inj same).symm
      obtain ⟨final, called⟩ := ih retried openedLater soundLater placedLater ripeLater (by omega)
      rw [origin] at called
      dsimp only
      rw [woken, resumed]
      refine ⟨final, ?_⟩
      rw [← show positionLater.due stop = position.due now from due]
      exact called

/-- A write that is looked at over a transport that is always ready is cut at once. -/
theorem exists_write_of_ready (ready : transport.Ready) {fragmenter : Fragmenter}
    {buffer body rest : Bytes} {header : RecordHeader}
    (unended : fragmenter.link = .opened ∨ fragmenter.link = .connecting)
    (looking : fragmenter.phase = .inspecting)
    (opens : inspect buffer = .clientHello header body rest) (state : σ) :
    ∃ middle, write transport turn buffer fragmenter state =
      emit transport turn
        { fragmenter with
          link := .opened
          entropy := (Emission.start fragmenter.policy header body rest buffer
            fragmenter.entropy).2 }
        (Emission.start fragmenter.policy header body rest buffer fragmenter.entropy).1 middle := by
  have nonempty : buffer ≠ [] := (Emission.sound_start opens fragmenter.policy
    fragmenter.entropy).origin_ne
  rw [write, looking]
  dsimp only
  rw [writeFresh]
  rcases unended with opened | connecting
  · rw [whenOpen_of_opened opened]
    dsimp only
    rw [if_neg nonempty, opens, looking, ← opened]
    exact ⟨state, rfl⟩
  · have connected := ready.connect turn state
    rw [whenOpen, ensureOpen, connecting]
    dsimp only
    generalize transport.connect turn state = connection at connected
    obtain ⟨answer, next⟩ := connection
    obtain rfl : answer = .done () := connected
    dsimp only
    rw [if_neg nonempty, opens, looking]
    exact ⟨next, rfl⟩

/-- The pace of a fragmented stream. Whatever calls are made on a fragmenter, made for a connected
stream or for one that is still connecting, and however the transport answers, the run keeps to the
pace of its policy, and the pauses it keeps are those that the stream shows. Over a transport that
is always ready, a write that is cut into some fragments is answered after one draw for each of
them but the first. -/
theorem pauses_between_fragments {fragmenter : Fragmenter} (transport : Transport σ)
    (policy : Policy) (entropy : Entropy)
    (made : fragmenter = opened policy entropy ∨ fragmenter = connecting policy entropy)
    (calls : List (Turn × Call)) (state : σ) :
    (journal transport calls (fragmenter, state)).map (fun entry => (entry.exchange, entry.alarm)) =
      ((stream transport).trace calls (fragmenter, state)).map
        (fun (exchange, after) => (exchange, after.1.alarm)) ∧
    (∃ last, Run policy (journal transport calls (fragmenter, state)) (.idle entropy) last) ∧
    ∀ (found : Fragmenter) (buffer body rest : Bytes) (header : RecordHeader)
      (task rounds now : Nat) (state : σ),
      transport.Ready → (found.link = .opened ∨ found.link = .connecting) →
      found.phase = .inspecting → inspect buffer = .clientHello header body rest →
      let fragments := (Emission.chunks found.policy body found.entropy).length
      let planned := (Plan.chunks body.length found.policy.size (Emission.name found.policy body)
        found.entropy).2
      let delays := (found.policy.sleep.draws (fragments - 1) planned).1
      fragments ≤ rounds →
      delays.length = fragments - 1 ∧
      (∀ delay ∈ delays,
        found.policy.sleep.min.toNat ≤ delay ∧ delay ≤ found.policy.sleep.max.toNat) ∧
      ∃ after, Await.call (fun now => (stream transport).write ⟨now, task⟩ buffer)
          (fun state => state.1.alarm) none rounds now (found, state) =
        (.done buffer.length, now + delays.sum, after) := by
  have regular : Regular fragmenter := by
    rcases made with rfl | rfl
    · exact regular_opened policy entropy
    · exact regular_connecting policy entropy
  have place : Place fragmenter (.idle entropy) := by
    rcases made with rfl | rfl
    · exact .idle fun emission sending => by cases sending
    · exact .idle fun emission sending => by cases sending
  have samePolicy : fragmenter.policy = policy := by
    rcases made with rfl | rfl
    · rfl
    · rfl
  refine ⟨journal_eq_trace calls fragmenter state, ?_, ?_⟩
  · obtain ⟨last, run⟩ := @exists_run_journal _ transport calls fragmenter _ regular place state
    rw [samePolicy] at run
    exact ⟨last, run⟩
  · intro found buffer body rest header task rounds now state ready unended looking opens
    dsimp only
    intro enough
    obtain ⟨middle, first⟩ := @exists_write_of_ready _ transport ⟨now, task⟩ ready found buffer body
      rest header unended looking opens state
    obtain ⟨fragment, others, later, left, fragments, paced, placed⟩ :=
      exists_placed_start opens found.policy found.entropy
    have sound := Emission.sound_start opens found.policy found.entropy
    have count := congrArg List.length fragments
    rw [List.length_map, List.length_cons] at count
    have pauses := found.policy.pauses_following others (Emission.trailing rest)
      (Plan.chunks body.length found.policy.size (Emission.name found.policy body)
        found.entropy).2
    rw [paced] at pauses
    obtain ⟨fewer, sum⟩ := pauses
    have waits : (Position.sending fragment later).waits < rounds := by
      show (Piece.pauses later).length < rounds
      dsimp only at fewer
      omega
    obtain ⟨after, called⟩ := call_of_ready ready task rounds first rfl sound placed
      (fun stop alarm => by cases alarm) waits
    refine ⟨Range.length_draws _ _ _, Range.mem_of_draws _ _ _, after, ?_⟩
    rw [count, Nat.add_sub_cancel, ← sum]
    exact called

/-- A transport that takes whatever it is offered, and counts the octets. -/
def sink : Transport Nat where
  write _ octets taken := (.done octets.length, taken + octets.length)
  read _ _ taken := (.done [], taken)
  flush _ taken := (.done (), taken)
  shutdown _ taken := (.done (), taken)
  connect _ taken := (.done (), taken)

/-- It is always ready. -/
theorem ready_sink : sink.Ready where
  connect _ _ := rfl
  write _ octets _ nonempty := by
    have positive := List.length_pos_iff.mpr nonempty
    have taken : octets.length = octets.length - 1 + 1 := by omega
    exact ⟨octets.length - 1, congrArg Answer.done taken⟩

/-- A message cut in two, with one octet behind it, and pauses of five. A caller that comes back in
the middle of the pause keeps to the pace, and one that comes back when it is woken is answered
after five. -/
theorem pauses_between_fragments_halves :
    let policy : Policy := ⟨.fixed 2, .fixed 5, false⟩
    let fragmenter := connecting policy ⟨id, 0⟩
    let hello : Bytes := [22, 3, 1, 0, 4, 1, 0, 0, 0, 23]
    let calls := [(⟨0, 0⟩, .write hello), (⟨3, 0⟩, .write hello), (⟨5, 0⟩, .write hello)]
    (fragmenter = opened policy ⟨id, 0⟩ ∨ fragmenter = connecting policy ⟨id, 0⟩) ∧
      (∃ last, Run policy (journal sink calls (fragmenter, 0)) (.idle ⟨id, 0⟩) last) ∧
      inspect hello = .clientHello ⟨22, 769, 4⟩ [1, 0, 0, 0] [23] ∧
      (Emission.chunks policy [1, 0, 0, 0] ⟨id, 0⟩).length ≤ 2 ∧
      ∃ after, Await.call (fun now => (stream sink).write ⟨now, 0⟩ hello)
        (fun state => state.1.alarm) none 2 0 (fragmenter, 0) = (.done 10, 5, after) := by
  intro policy fragmenter hello calls
  have paced := pauses_between_fragments sink policy ⟨id, 0⟩ (.inr rfl) calls 0
  have opens : inspect hello = .clientHello ⟨22, 769, 4⟩ [1, 0, 0, 0] [23] := by decide
  have halves : (Emission.chunks policy [1, 0, 0, 0] ⟨id, 0⟩).length ≤ 2 := by decide +kernel
  obtain ⟨-, -, after, called⟩ := paced.2.2 fragmenter hello [1, 0, 0, 0] [23] ⟨22, 769, 4⟩ 0 2 0 0
    ready_sink (.inr rfl) rfl opens halves
  have total : 0 + (policy.sleep.draws ((Emission.chunks policy [1, 0, 0, 0] ⟨id, 0⟩).length - 1)
      (Plan.chunks 4 policy.size (Emission.name policy [1, 0, 0, 0]) ⟨id, 0⟩).2).1.sum = 5 := by
    decide +kernel
  refine ⟨.inr rfl, paced.2.1, opens, halves, after, ?_⟩
  exact called.trans (congrArg (fun time => (Outcome.done 10, time, after)) total)

end Fragmenter

end Outbound.Tls
