import Outbound.Proofs.Tls.Pace
import Outbound.Proofs.Tls.Regular

/-!
# Polls of an emission

An emission between two calls is `Placed`: the pieces that are left of it are those of the pace,
with the pauses that are still to be drawn. Every poll of a placed emission keeps to the pace, and
leaves the fragmenter placed where the poll ends.
-/
namespace Outbound.Tls

open Pace (Position Ending Poll Stage)

/-! ## The pieces that are left -/

/-- The pause before a fragment that follows a fragment. -/
def Policy.gap (policy : Policy) (entropy : Entropy) : Option Nat × Entropy :=
  if policy.sleep.isZero then (none, entropy)
  else (some (policy.sleep.draw entropy).1, (policy.sleep.draw entropy).2)

/-- The first of several pauses, and the others. -/
theorem Policy.gaps_succ (policy : Policy) (count : Nat) (entropy : Entropy) :
    policy.gaps (count + 1) entropy =
      ((policy.gap entropy).1 :: (policy.gaps count (policy.gap entropy).2).1,
        (policy.gaps count (policy.gap entropy).2).2) := by
  by_cases zero : policy.sleep.isZero = true
  · simp only [gaps, gap, if_pos zero, List.replicate_succ]
  · simp only [gaps, gap, if_neg zero, Range.draws, List.map_cons]

/-- The pieces after a fragment when another fragment is the first of them. -/
theorem Policy.following_cons (policy : Policy) (fragment : Bytes) (fragments trailing : List Bytes)
    (entropy : Entropy) :
    policy.following (fragment :: fragments) trailing entropy =
      (⟨(policy.gap entropy).1, fragment⟩ ::
          (policy.following fragments trailing (policy.gap entropy).2).1,
        (policy.following fragments trailing (policy.gap entropy).2).2) := by
  simp only [following, List.length_cons, gaps_succ, List.zipWith_cons_cons, List.cons_append]

/-- The pieces after the last fragment. -/
theorem Policy.following_nil (policy : Policy) (trailing : List Bytes) (entropy : Entropy) :
    policy.following [] trailing entropy = (trailing.map (Piece.mk none), entropy) := by
  by_cases zero : policy.sleep.isZero = true
  · simp only [following, gaps, List.length_nil, if_pos zero, List.replicate_zero,
      List.zipWith_nil_left, List.nil_append]
  · simp only [following, gaps, List.length_nil, if_neg zero, Range.draws, List.map_nil,
      List.zipWith_nil_left, List.nil_append]

namespace Emission

/-- The pieces after the record being sent, and the randomness left once their pauses are drawn. -/
def Ahead (policy : Policy) (emission : Emission) (entropy : Entropy) (later : List Piece)
    (left : Entropy) : Prop :=
  ∃ fragments trailing, emission.records.toList.drop (emission.index + 1) = fragments ++ trailing ∧
    fragments.length = emission.fragments - (emission.index + 1) ∧
    policy.following fragments trailing entropy = (later, left)

/-- Where an emission stands. -/
inductive Placed (policy : Policy) (emission : Emission) (entropy left : Entropy) :
    Position → Prop where
  /-- The rest of the current record is offered next. -/
  | sending (later : List Piece) (unpaused : emission.pause = none)
      (ahead : Ahead policy emission entropy later left) :
      Placed policy emission entropy left (.sending (emission.current.drop emission.offset) later)
  /-- The current record is begun after a pause. -/
  | pausing (since delay : Nat) (later : List Piece) (paused : emission.pause = some (since + delay))
      (ahead : Ahead policy emission entropy later left) :
      Placed policy emission entropy left (.pausing since delay emission.current later)

variable {policy : Policy} {emission : Emission} {entropy left : Entropy} {later : List Piece}

/-- A pause of the pieces is a pause of the emission. -/
theorem Placed.alarm_eq {position : Position}
    (placed : Placed policy emission entropy left position) : emission.pause = position.alarm := by
  cases placed with
  | sending later unpaused ahead => exact unpaused
  | pausing since delay later paused ahead => exact paused

/-- Once a record is out the next one is begun, and a pause is drawn if it is a fragment. -/
theorem advance_past_gap {count : Nat} (unpaused : emission.pause = none)
    (past : ¬ emission.offset + count < emission.current.length) (now : Nat) :
    emission.advance policy now count entropy =
      if emission.index + 1 < emission.fragments then
        ({ emission with
            index := emission.index + 1
            offset := 0
            pause := (policy.gap entropy).1.map (now + ·) },
          (policy.gap entropy).2)
      else ({ emission with index := emission.index + 1, offset := 0 }, entropy) := by
  rw [current] at past
  simp only [advance, if_neg past, Policy.gap]
  by_cases fragment : emission.index + 1 < emission.fragments
  · by_cases zero : policy.sleep.isZero = true
    · simp [fragment, zero, unpaused]
    · simp [fragment, zero]
  · simp [fragment]

/-- The record that is sent next, and the records after it. -/
theorem current_of_drop {octets : Bytes} {others : List Bytes}
    (records : emission.records.toList.drop emission.index = octets :: others) :
    emission.current = octets ∧ emission.records.toList.drop (emission.index + 1) = others := by
  have found : emission.records.toList[emission.index]? = some octets := by
    rw [← List.head?_drop, records, List.head?_cons]
  constructor
  · rw [current, Array.getD_eq_getD_getElem?, ← Array.getElem?_toList, found, Option.getD_some]
  · rw [← List.tail_drop, records, List.tail_cons]

/-- An emission that is about to begin a record, after a pause if it is to keep one. -/
theorem placed_start {piece : Piece} {now : Nat} (fresh : emission.offset = 0)
    (record : emission.current = piece.octets)
    (paused : emission.pause = piece.pause.map (now + ·))
    (ahead : Ahead policy emission entropy later left) :
    Placed policy emission entropy left (.start now piece later) := by
  rw [Position.start, ← record]
  cases pause : piece.pause with
  | none =>
    rw [pause, Option.map_none] at paused
    have placed := Placed.sending later paused ahead
    rw [fresh, List.drop_zero] at placed
    exact placed
  | some delay =>
    rw [pause, Option.map_some] at paused
    exact .pausing now delay later paused ahead

/-- Once a record is out it was the last one, or the next piece is about to begin. -/
theorem placed_advance {count : Nat} (unpaused : emission.pause = none)
    (past : ¬ emission.offset + count < emission.current.length)
    (ahead : Ahead policy emission entropy later left) (now : Nat) :
    (later = [] ∧ emission.records.size ≤ emission.index + 1 ∧
        (emission.advance policy now count entropy).2 = left) ∨
      ∃ piece pieces, later = piece :: pieces ∧ emission.index + 1 < emission.records.size ∧
        Placed policy (emission.advance policy now count entropy).1
          (emission.advance policy now count entropy).2 left (.start now piece pieces) := by
  obtain ⟨fragments, trailing, split, enough, paced⟩ := ahead
  have sizes := congrArg List.length split
  simp only [List.length_drop, List.length_append, Array.length_toList] at sizes
  rw [advance_past_gap unpaused past now]
  cases fragments with
  | nil =>
    have lastFragment : ¬ emission.index + 1 < emission.fragments := by
      rw [List.length_nil] at enough
      omega
    rw [if_neg lastFragment]
    rw [Policy.following_nil] at paced
    obtain ⟨rfl, rfl⟩ := Prod.mk.inj paced
    cases trailing with
    | nil =>
      rw [List.length_nil] at sizes
      exact .inl ⟨rfl, by omega, rfl⟩
    | cons octets trailing =>
      rw [List.length_cons] at sizes
      let next := { emission with index := emission.index + 1, offset := 0 }
      have record : next.current = octets ∧ next.records.toList.drop (next.index + 1) = trailing :=
        current_of_drop split
      have noMore : next.fragments - (next.index + 1) = 0 := by
        show emission.fragments - (emission.index + 1 + 1) = 0
        omega
      have ahead : Ahead policy next entropy (trailing.map (Piece.mk none)) entropy :=
        ⟨[], trailing, record.2, noMore.symm, Policy.following_nil policy trailing entropy⟩
      exact .inr ⟨⟨none, octets⟩, _, rfl, by omega, placed_start rfl record.1 unpaused ahead⟩
  | cons octets fragments =>
    rw [List.length_cons] at sizes enough
    have moreFragments : emission.index + 1 < emission.fragments := by omega
    rw [if_pos moreFragments]
    rw [Policy.following_cons] at paced
    obtain ⟨rfl, rfl⟩ := Prod.mk.inj paced
    let next := { emission with
      index := emission.index + 1
      offset := 0
      pause := (policy.gap entropy).1.map (now + ·) }
    have record : next.current = octets ∧
        next.records.toList.drop (next.index + 1) = fragments ++ trailing := current_of_drop split
    have enoughLater : fragments.length = next.fragments - (next.index + 1) := by
      show fragments.length = emission.fragments - (emission.index + 1 + 1)
      omega
    have ahead : Ahead policy next (policy.gap entropy).2
        (policy.following fragments trailing (policy.gap entropy).2).1
        (policy.following fragments trailing (policy.gap entropy).2).2 :=
      ⟨fragments, trailing, record.2, enoughLater, rfl⟩
    exact .inr ⟨_, _, rfl, by omega, placed_start rfl record.1 rfl ahead⟩

/-- An emission whose pause is over offers what is left of its current record. -/
theorem ahead_resume {position : Position} {now : Nat} (sound : emission.Sound)
    (placed : Placed policy emission entropy left position)
    (awake : ¬ emission.isPaused now = true) :
    ∃ later, Ahead policy emission entropy later left ∧ ∀ contacts ending,
      Poll now (.sending (emission.current.drop emission.offset) later) contacts ending →
        Poll now position contacts ending := by
  cases placed with
  | sending later unpaused ahead => exact ⟨later, ahead, fun contacts ending poll => poll⟩
  | pausing since delay later paused ahead =>
    have fresh : emission.offset = 0 := by
      apply And.left
      apply sound.paused
      rw [paused]
      exact Option.some_ne_none _
    have reached : since + delay ≤ now := by
      rw [isPaused, paused, decide_eq_true_eq] at awake
      omega
    refine ⟨later, ahead, fun contacts ending poll => ?_⟩
    rw [fresh, List.drop_zero] at poll
    exact .resume since delay emission.current later contacts ending reached poll

/-- Octets that the transport takes: they were the last ones and all is out, or the emission goes on
from where they leave it. -/
theorem placed_taken (sound : emission.Sound) (unpaused : emission.pause = none)
    (ahead : Ahead policy emission entropy later left) (now count : Nat) :
    (∃ position, (emission.advance policy now (count + 1) entropy).1.Sound ∧
        Placed policy (emission.advance policy now (count + 1) entropy).1
          (emission.advance policy now (count + 1) entropy).2 left position ∧
        ∀ contacts ending, Poll now position contacts ending →
          Poll now (.sending (emission.current.drop emission.offset) later)
            (.send (emission.current.drop emission.offset) (.done (count + 1)) :: contacts) ending) ∨
      ((emission.advance policy now (count + 1) entropy).1.index =
          (emission.advance policy now (count + 1) entropy).1.records.size ∧
        (emission.advance policy now (count + 1) entropy).1.pause = none ∧
        (emission.advance policy now (count + 1) entropy).2 = left ∧
        Poll now (.sending (emission.current.drop emission.offset) later)
          [.send (emission.current.drop emission.offset) (.done (count + 1))] .out) := by
  have offered : (emission.current.drop emission.offset).length =
      emission.current.length - emission.offset := List.length_drop
  obtain ⟨sameRecords, -, soundOrOut⟩ := advance_sound sound unpaused policy now count entropy
  by_cases within : emission.offset + (count + 1) < emission.current.length
  · have advanced := advance_within within policy now entropy
    rw [advanced] at soundOrOut ⊢
    have soundLater := soundOrOut.resolve_right fun out => Nat.ne_of_lt sound.index_lt out.1
    let next := { emission with offset := emission.offset + (count + 1) }
    have placed : Placed policy next entropy left
        (.sending (next.current.drop next.offset) later) := .sending later unpaused ahead
    refine .inl ⟨_, soundLater.1, placed, fun contacts ending poll => ?_⟩
    refine .part _ later count contacts ending (by omega) ?_
    rw [List.drop_drop]
    exact poll
  · have past := (advance_past within policy now entropy).2
    rcases placed_advance unpaused within ahead now with
      ⟨rfl, small, spent⟩ | ⟨piece, pieces, rfl, more, placed⟩
    · have out := soundOrOut.resolve_left fun soundLater => by
        have inside := soundLater.1.index_lt
        rw [past, sameRecords] at inside
        omega
      refine .inr ⟨?_, out.2.1, spent, .last _ count (by omega)⟩
      rw [sameRecords]
      exact out.1
    · have soundLater := soundOrOut.resolve_right fun out => by
        have reached := out.1
        rw [past] at reached
        omega
      refine .inl ⟨_, soundLater.1, placed, fun contacts ending poll => ?_⟩
      exact .next _ piece pieces count contacts ending (by omega) poll

end Emission

/-! ## Polls -/

namespace Fragmenter

variable {σ : Type} {transport : Transport σ} {turn : Turn}

/-- Where a fragmenter stands at a stage. -/
inductive Place (fragmenter : Fragmenter) : Stage → Prop where
  /-- No emission is on its way. -/
  | idle (unsent : ∀ emission, fragmenter.phase ≠ .emitting emission) :
      Place fragmenter (.idle fragmenter.entropy)
  /-- An emission is on its way. -/
  | emitting (emission : Emission) (position : Position) (left : Entropy)
      (phase : fragmenter.phase = .emitting emission)
      (placed : emission.Placed fragmenter.policy fragmenter.entropy left position) :
      Place fragmenter (.emitting emission.origin position left)
  /-- An emission has failed. -/
  | broken (phase : fragmenter.phase = .passthrough) : Place fragmenter .broken

/-- The pause that a fragmenter keeps is the one of its stage. -/
theorem Place.alarm_eq {fragmenter : Fragmenter} {stage : Stage} (place : Place fragmenter stage) :
    fragmenter.alarm = stage.alarm := by
  cases place with
  | idle unsent =>
    cases phase : fragmenter.phase with
    | inspecting =>
      rw [alarm, phase]
      rfl
    | passthrough =>
      rw [alarm, phase]
      rfl
    | emitting emission => exact absurd phase (unsent emission)
  | emitting emission position left phase placed =>
    rw [alarm, phase]
    exact placed.alarm_eq
  | broken phase =>
    rw [alarm, phase]
    rfl

/-- A contact offers some octet and has the answer of the transport. -/
def Asked (transport : Transport σ) (turn : Turn) (contact : Contact) : Prop :=
  ∃ octets state, octets ≠ [] ∧ contact = .send octets (transport.write turn octets state).1

/-- What a poll of an emission comes to. -/
structure Polled (transport : Transport σ) (turn : Turn) (fragmenter : Fragmenter)
    (emission : Emission) (position : Position) (left : Entropy) (log : List Contact)
    (outcome : Answer Nat × Fragmenter × σ × List Contact) (contacts : List Contact)
    (ending : Ending) : Prop where
  /-- The poll keeps to the pace. -/
  poll : Poll turn.now position contacts ending
  /-- Its contacts are made. -/
  made : outcome.2.2.2 = log ++ contacts
  /-- They are writes to the transport. -/
  asked : ∀ contact ∈ contacts, Asked transport turn contact
  /-- The answer is the one of the ending. -/
  answer : outcome.1 = ending.answer emission.origin
  /-- The policy is kept. -/
  policy : outcome.2.1.policy = fragmenter.policy
  /-- The fragmenter stands where the ending leaves it. -/
  place : Place outcome.2.1 (ending.stage emission.origin left)
  /-- Only a failure changes the link. -/
  link : (∀ error, ending ≠ .broken error) → outcome.2.1.link = fragmenter.link
  /-- Only a link that is over refuses. -/
  refused : ∀ error later, ending = .refused error later → fragmenter.link.refusal = some error

/-- A contact before those of a poll. -/
theorem Polled.cons {fragmenter next : Fragmenter} {emission later : Emission}
    {position positionLater : Position} {left : Entropy} {log contacts : List Contact}
    {outcome : Answer Nat × Fragmenter × σ × List Contact} {ending : Ending} {contact : Contact}
    (polled : Polled transport turn next later positionLater left (log ++ [contact]) outcome contacts
      ending)
    (samePolicy : next.policy = fragmenter.policy) (sameLink : next.link = fragmenter.link)
    (sameOrigin : later.origin = emission.origin)
    (asked : Asked transport turn contact)
    (poll : Poll turn.now position (contact :: contacts) ending) :
    Polled transport turn fragmenter emission position left log outcome (contact :: contacts)
      ending where
  poll := poll
  made := by rw [polled.made, List.append_assoc, List.singleton_append]
  asked := List.forall_mem_cons.mpr ⟨asked, polled.asked⟩
  answer := by rw [polled.answer, sameOrigin]
  policy := polled.policy.trans samePolicy
  place := by
    rw [← sameOrigin]
    exact polled.place
  link unbroken := (polled.link unbroken).trans sameLink
  refused error position same := by
    rw [← sameLink]
    exact polled.refused error position same

/-- A poll before a pause is over leaves everything as it is. -/
theorem polled_early {fragmenter : Fragmenter} {emission : Emission} {position : Position}
    {left : Entropy} (placed : emission.Placed fragmenter.policy fragmenter.entropy left position)
    (paused : emission.isPaused turn.now = true) (state : σ) (log : List Contact) :
    Polled transport turn fragmenter emission position left log
      (.pending, { fragmenter with phase := .emitting emission }, state, log) []
      (.held position) where
  poll := by
    rw [Emission.isPaused] at paused
    cases placed with
    | sending later unpaused ahead =>
      rw [unpaused] at paused
      cases paused
    | pausing since delay later kept ahead =>
      rw [kept] at paused
      exact .early since delay emission.current later (of_decide_eq_true paused)
  made := (List.append_nil log).symm
  asked := fun contact mem => by cases mem
  answer := rfl
  policy := rfl
  place := .emitting emission position left rfl placed
  link := fun _ => rfl
  refused := fun error later same => by cases same

/-- A poll of an emission on an open link keeps to the pace. -/
theorem exists_polled_of_opened {fragmenter : Fragmenter} {emission : Emission} {position : Position}
    {left : Entropy} (opened : fragmenter.link = .opened) (sound : emission.Sound)
    (placed : emission.Placed fragmenter.policy fragmenter.entropy left position) (state : σ)
    (log : List Contact) :
    ∃ contacts ending, Polled transport turn fragmenter emission position left log
      (emit (transport.watched .send) turn fragmenter emission (state, log)) contacts ending := by
  have soundResumed : emission.resume.Sound := Emission.sound_resume sound
  rw [emit_of_sound opened sound]
  by_cases paused : emission.isPaused turn.now = true
  · rw [if_pos paused]
    exact ⟨_, _, polled_early placed paused state log⟩
  · rw [if_neg paused]
    obtain ⟨later, ahead, begun⟩ := Emission.ahead_resume sound placed paused
    have offered : emission.current.drop emission.offset ≠ [] := by
      have inside := sound.offset_lt
      rw [ne_eq, List.drop_eq_nil_iff]
      omega
    rw [Transport.watched_write]
    rcases wrote : transport.write turn (emission.current.drop emission.offset) state with
      ⟨answer, next⟩
    have asked : Asked transport turn (.send (emission.current.drop emission.offset) answer) :=
      ⟨_, state, offered, by rw [wrote]⟩
    have askedAlone := List.forall_mem_singleton.mpr asked
    cases answer with
    | pending =>
      refine ⟨_, _, begun _ _ (.wait _ later), rfl, askedAlone, rfl, rfl, ?_, fun _ => rfl, ?_⟩
      · exact .emitting emission.resume _ left rfl (.sending later rfl ahead)
      · exact fun error later same => by cases same
    | failed error =>
      refine ⟨_, _, begun _ _ (.fail error _ later), rfl, askedAlone, rfl, rfl, .broken rfl, ?_, ?_⟩
      · exact fun unbroken => absurd rfl (unbroken error)
      · exact fun error later same => by cases same
    | done count =>
      cases count with
      | zero =>
        refine ⟨_, _, begun _ _ (.stall _ later), rfl, askedAlone, rfl, rfl, .broken rfl, ?_, ?_⟩
        · exact fun unbroken => absurd rfl (unbroken stalledError)
        · exact fun error later same => by cases same
      | succ count =>
        dsimp only
        have sameOrigin := (Emission.advance_sound soundResumed rfl fragmenter.policy turn.now count
          fragmenter.entropy).2.1
        rcases Emission.placed_taken soundResumed rfl ahead turn.now count with
          ⟨position, soundLater, placedLater, poll⟩ | ⟨out, unpaused, spent, poll⟩
        -- The transport took an octet, so less is left to send: the recursion is on that.
        · obtain ⟨contacts, ending, polled⟩ := exists_polled_of_opened
            (show { fragmenter with
              phase := .emitting emission.resume
              entropy := (emission.resume.advance fragmenter.policy turn.now (count + 1)
                fragmenter.entropy).2 }.link = .opened from opened)
            soundLater placedLater next (log ++ [.send (emission.current.drop emission.offset)
              (.done (count + 1))])
          exact ⟨_, ending, polled.cons rfl rfl sameOrigin asked
            (begun _ _ (poll contacts ending polled.poll))⟩
        · rw [emit_of_out out unpaused]
          have answered := congrArg (fun origin : Bytes => Answer.done origin.length) sameOrigin
          refine ⟨_, _, begun _ _ poll, rfl, askedAlone, answered, rfl, ?_, fun _ => rfl, ?_⟩
          · rw [Ending.stage, ← spent]
            exact .idle fun emission sending => by cases sending
          · exact fun error later same => by cases same
termination_by emission.left
decreasing_by exact Emission.left_advance emission.resume _ _ _ _ sound.index_lt

/-- So does a poll of an emission on a link that is over. -/
theorem exists_polled_of_refusal {fragmenter : Fragmenter} {emission : Emission}
    {position : Position} {left : Entropy} {error : IoError}
    (refusal : fragmenter.link.refusal = some error) (sound : emission.Sound)
    (placed : emission.Placed fragmenter.policy fragmenter.entropy left position) (state : σ)
    (log : List Contact) :
    ∃ contacts ending, Polled transport turn fragmenter emission position left log
      (emit (transport.watched .send) turn fragmenter emission (state, log)) contacts ending := by
  rw [emit_of_refusal refusal sound]
  by_cases paused : emission.isPaused turn.now = true
  · rw [if_pos paused]
    exact ⟨_, _, polled_early placed paused state log⟩
  · rw [if_neg paused]
    obtain ⟨later, ahead, begun⟩ := Emission.ahead_resume sound placed paused
    refine ⟨[], _, begun _ _ (.refuse error _ later), (List.append_nil log).symm, ?_, rfl, rfl, ?_,
      fun _ => rfl, ?_⟩
    · exact fun contact mem => by cases mem
    · exact .emitting emission.resume _ left rfl (.sending later rfl ahead)
    · intro found position same
      cases same
      exact refusal

/-- A poll of an emission keeps to the pace. -/
theorem exists_polled_emit {fragmenter : Fragmenter} {emission : Emission} {position : Position}
    {left : Entropy} (past : fragmenter.link ≠ .connecting) (sound : emission.Sound)
    (placed : emission.Placed fragmenter.policy fragmenter.entropy left position) (state : σ)
    (log : List Contact) :
    ∃ contacts ending, Polled transport turn fragmenter emission position left log
      (emit (transport.watched .send) turn fragmenter emission (state, log)) contacts ending := by
  rcases opened_or_refusal past with opened | ⟨error, refusal⟩
  · exact exists_polled_of_opened opened sound placed state log
  · exact exists_polled_of_refusal refusal sound placed state log

/-- A new emission stands at the start of its first fragment. -/
theorem exists_placed_start {buffer body rest : Bytes} {header : RecordHeader}
    (opens : inspect buffer = .clientHello header body rest) (policy : Policy)
    (entropy : Entropy) :
    ∃ first others later left,
      (Emission.chunks policy body entropy).map
          (fun chunk => Plan.record header (chunk.slice body)) = first :: others ∧
        policy.following others (Emission.trailing rest)
          (Plan.chunks body.length policy.size (Emission.name policy body) entropy).2 =
            (later, left) ∧
        (Emission.start policy header body rest buffer entropy).1.Placed policy
          (Emission.start policy header body rest buffer entropy).2 left (.sending first later) := by
  let emission := (Emission.start policy header body rest buffer entropy).1
  let planned := (Plan.chunks body.length policy.size (Emission.name policy body) entropy).2
  have records : emission.records.toList = _ :=
    Emission.toList_records_start policy header body rest buffer entropy
  have count : emission.fragments = _ :=
    Emission.fragments_start policy header body rest buffer entropy
  have positive : 0 < emission.fragments := (Emission.sound_start opens policy entropy).fragments_pos
  cases cut : (Emission.chunks policy body entropy).map
      (fun chunk => Plan.record header (chunk.slice body)) with
  | nil =>
    have lengths := congrArg List.length cut
    rw [List.length_map, List.length_nil] at lengths
    omega
  | cons first others =>
    have lengths := congrArg List.length cut
    rw [List.length_map, List.length_cons] at lengths
    rw [cut] at records
    have record : emission.current = first ∧
        emission.records.toList.drop 1 = others ++ Emission.trailing rest :=
      Emission.current_of_drop records
    have enough : others.length = emission.fragments - 1 := by omega
    have ahead : emission.Ahead policy planned
        (policy.following others (Emission.trailing rest) planned).1
        (policy.following others (Emission.trailing rest) planned).2 :=
      ⟨others, Emission.trailing rest, record.2, enough, rfl⟩
    have placed : emission.Placed policy planned _ (.sending emission.current _) :=
      .sending _ rfl ahead
    rw [record.1] at placed
    exact ⟨first, others, _, _, rfl, rfl, placed⟩

end Fragmenter

end Outbound.Tls
