import Outbound.Proofs.Tls.Polling

/-!
# Runs that keep to the pace

Whatever calls are made on a fragmenter and however its transport answers, the run keeps to the
pace (`Pace.Run`): between two fragments of a buffer there is one pause, of one draw, and there is
no other pause. Only writes offer anything of an emission; any other call is `Apart`.
-/
namespace Outbound.Tls

open Pace (Position Ending Poll Stage Quiet Write Step Run)

namespace Fragmenter

variable {σ α : Type} {transport : Transport σ} {turn : Turn}

/-! ## Calls that offer nothing of an emission -/

/-- A call offers nothing of an emission and changes nothing but the link. -/
def Apart (fragmenter : Fragmenter) (log : List Contact)
    (outcome : Answer α × Fragmenter × σ × List Contact) : Prop :=
  ∃ contacts link, Quiet contacts ∧ outcome.2.1 = { fragmenter with link } ∧
    outcome.2.2.2 = log ++ contacts

/-- No contact. -/
theorem quiet_nil : Quiet [] := fun contact mem => by cases mem

/-- A contact that offers nothing of an emission. -/
theorem quiet_one {contact : Contact} (other : contact.isSend = false) : Quiet [contact] :=
  List.forall_mem_singleton.mpr other

/-- A change of the link moves no emission. -/
theorem Place.with_link {fragmenter : Fragmenter} {stage : Stage} (place : Place fragmenter stage)
    (link : Link) : Place { fragmenter with link } stage := by
  cases place with
  | idle unsent => exact .idle unsent
  | emitting emission position left phase placed =>
    exact .emitting emission position left phase placed
  | broken phase => exact .broken phase

/-- Contacts that drive the connecting on offer nothing of an emission. -/
theorem quiet_of_connects {contacts : List Contact}
    (connects : ∀ contact ∈ contacts, ∃ answer, contact = .connect answer) : Quiet contacts := by
  intro contact mem
  obtain ⟨answer, rfl⟩ := connects contact mem
  rfl

/-- A call that waits for the connecting is apart if it is so once the link is open. -/
theorem apart_whenOpen (offer : Bytes → Answer Nat → Contact)
    {call : Fragmenter → σ × List Contact → Answer α × Fragmenter × σ × List Contact}
    {fragmenter : Fragmenter}
    (apart : ∀ state log, Apart { fragmenter with link := .opened } log
      (call { fragmenter with link := .opened } (state, log)))
    (state : σ) (log : List Contact) :
    Apart fragmenter log
      (whenOpen (transport.watched offer) turn fragmenter (state, log) call) := by
  obtain ⟨front, connects, outcome⟩ :=
    whenOpen_watched transport turn offer call fragmenter state log
  have quiet := quiet_of_connects connects
  rcases outcome with ⟨answer, link, next, unmade⟩ | ⟨next, made⟩
  · rw [unmade]
    exact ⟨front, link, quiet, rfl, rfl⟩
  · rw [made]
    obtain ⟨contacts, link, quietToo, same, seen⟩ := apart next (log ++ front)
    refine ⟨front ++ contacts, link, List.forall_mem_append.mpr ⟨quiet, quietToo⟩, same, ?_⟩
    rw [seen, List.append_assoc]

/-- A buffer that is let through is apart. -/
theorem apart_writeThrough {fragmenter : Fragmenter} (buffer : Bytes)
    (phase : fragmenter.phase = .passthrough) (state : σ) (log : List Contact) :
    Apart fragmenter log
      (writeThrough (transport.watched .pass) turn buffer fragmenter (state, log)) := by
  apply apart_whenOpen
  intro state log
  rw [Transport.watched_write]
  rcases transport.write turn buffer state with ⟨answer, next⟩
  cases answer with
  | pending => exact ⟨_, .opened, quiet_one rfl, rfl, rfl⟩
  | done count => exact ⟨_, .opened, quiet_one rfl, rfl, rfl⟩
  | failed error =>
    refine ⟨_, .failed error, quiet_one rfl, ?_, rfl⟩
    show Fragmenter.mk fragmenter.policy (.failed error) .passthrough fragmenter.entropy = _
    rw [← phase]

/-- A shutdown is apart. -/
theorem apart_shutdown (fragmenter : Fragmenter) (state : σ) (log : List Contact) :
    Apart fragmenter log (shutdown (transport.watched .pass) turn fragmenter (state, log)) := by
  have unmoved : ∀ link, Apart fragmenter log
      ((.done (), { fragmenter with link }, state, log) :
        Answer Unit × Fragmenter × σ × List Contact) :=
    fun link => ⟨[], link, quiet_nil, rfl, (List.append_nil log).symm⟩
  rw [shutdown]
  cases link : fragmenter.link with
  | connecting => exact unmoved .closed
  | opened =>
    dsimp only
    rw [Transport.watched_shutdown]
    rcases transport.shutdown turn state with ⟨answer, next⟩
    cases answer with
    | pending => exact ⟨_, fragmenter.link, quiet_one rfl, rfl, rfl⟩
    | done result => exact ⟨_, .closed, quiet_one rfl, rfl, rfl⟩
    | failed error => exact ⟨_, .closed, quiet_one rfl, rfl, rfl⟩
  | failed error => exact unmoved fragmenter.link
  | closed => exact unmoved fragmenter.link

/-! ## Writes -/

/-- A write keeps to the pace. -/
def Paced (turn : Turn) (buffer : Bytes) (fragmenter : Fragmenter) (stage : Stage)
    (log : List Contact) (outcome : Answer Nat × Fragmenter × σ × List Contact) : Prop :=
  ∃ contacts later, outcome.2.2.2 = log ++ contacts ∧
    Write fragmenter.policy turn.now buffer contacts outcome.1 stage later ∧
    outcome.2.1.policy = fragmenter.policy ∧ Place outcome.2.1 later

/-- A write that offers nothing of an emission while none is on its way. -/
theorem Apart.paced {fragmenter : Fragmenter} {buffer : Bytes} {log : List Contact}
    {outcome : Answer Nat × Fragmenter × σ × List Contact} (apart : Apart fragmenter log outcome)
    (unsent : ∀ emission, fragmenter.phase ≠ .emitting emission) :
    Paced turn buffer fragmenter (.idle fragmenter.entropy) log outcome := by
  obtain ⟨contacts, link, quiet, same, seen⟩ := apart
  refine ⟨contacts, _, seen, .aside fragmenter.entropy contacts outcome.1 quiet, ?_, ?_⟩
  · rw [same]
  · rw [same]
    exact .idle unsent

/-- A write while no emission is on its way keeps to the pace. -/
theorem paced_writeFreshBy {fragmenter : Fragmenter} (buffer : Bytes)
    (unsent : ∀ emission, fragmenter.phase ≠ .emitting emission) (state : σ)
    (log : List Contact) :
    Paced turn buffer fragmenter (.idle fragmenter.entropy) log
      (writeFreshBy (transport.watched .send) (transport.watched .pass) turn buffer fragmenter
        (state, log)) := by
  rw [writeFreshBy]
  obtain ⟨front, connects, outcome⟩ := whenOpen_watched transport turn .pass _ fragmenter state log
  have quiet := quiet_of_connects connects
  rcases outcome with ⟨answer, link, next, unmade⟩ | ⟨next, made⟩
  · rw [unmade]
    have apart : Apart fragmenter log ((answer, { fragmenter with link }, next, log ++ front) :
        Answer Nat × Fragmenter × σ × List Contact) := ⟨front, link, quiet, rfl, rfl⟩
    exact apart.paced unsent
  · rw [made]
    dsimp only
    by_cases empty : buffer = []
    · rw [if_pos empty]
      have apart : Apart fragmenter log ((.done 0, { fragmenter with link := .opened }, next,
          log ++ front) : Answer Nat × Fragmenter × σ × List Contact) :=
        ⟨front, .opened, quiet, rfl, rfl⟩
      exact apart.paced unsent
    · rw [if_neg empty]
      have through : Paced turn buffer fragmenter (.idle fragmenter.entropy) log
          (writeThrough (transport.watched .pass) turn buffer
            { fragmenter with link := .opened, phase := .passthrough } (next, log ++ front)) := by
        let turned := { fragmenter with link := .opened, phase := .passthrough }
        obtain ⟨contacts, link, quietToo, same, seen⟩ :=
          @apart_writeThrough _ transport turn turned buffer rfl next (log ++ front)
        have quietBoth : Quiet (front ++ contacts) := List.forall_mem_append.mpr ⟨quiet, quietToo⟩
        refine ⟨front ++ contacts, _, ?_, .aside fragmenter.entropy _ _ quietBoth, ?_, ?_⟩
        · rw [seen, List.append_assoc]
        · rw [same]
        · rw [same]
          have idle : Place turned (.idle fragmenter.entropy) :=
            .idle fun emission sending => by cases sending
          exact idle.with_link link
      cases opens : inspect buffer with
      | notClientHello => exact through
      | incomplete => exact through
      | clientHello header body rest =>
        obtain ⟨first, others, later, left, fragments, paced, placed⟩ :=
          exists_placed_start opens fragmenter.policy fragmenter.entropy
        have sound := Emission.sound_start opens fragmenter.policy fragmenter.entropy
        obtain ⟨contacts, ending, polled⟩ := exists_polled_of_opened
          (show { fragmenter with
            link := .opened
            entropy := (Emission.start fragmenter.policy header body rest buffer
              fragmenter.entropy).2 }.link = .opened from rfl) sound placed next (log ++ front)
        refine ⟨front ++ contacts, ending.stage buffer left, ?_, ?_, polled.policy, polled.place⟩
        · rw [polled.made, List.append_assoc]
        · rw [polled.answer]
          exact .cut fragmenter.entropy header body rest first others later left front contacts
            ending quiet opens fragments paced polled.poll

/-- A write while an emission is on its way keeps to the pace. -/
theorem paced_emitting {fragmenter : Fragmenter} {emission : Emission} {position : Position}
    {left : Entropy} (buffer : Bytes) (past : fragmenter.link ≠ .connecting)
    (sound : emission.Sound) (phase : fragmenter.phase = .emitting emission)
    (placed : emission.Placed fragmenter.policy fragmenter.entropy left position) (state : σ)
    (log : List Contact) :
    Paced turn buffer fragmenter (.emitting emission.origin position left) log
      (writeBy (transport.watched .send) (transport.watched .pass) turn buffer fragmenter
        (state, log)) := by
  obtain ⟨contacts, ending, polled⟩ :=
    @exists_polled_emit _ transport turn _ _ _ _ past sound placed state log
  obtain ⟨poll, made, -, answered, policy, place, -, -⟩ := polled
  rw [writeBy, phase]
  dsimp only
  generalize emit (transport.watched .send) turn fragmenter emission (state, log) = outcome
    at made answered policy place
  obtain ⟨answer, later, next, seen⟩ := outcome
  obtain rfl : answer = ending.answer emission.origin := answered
  obtain rfl : seen = log ++ contacts := made
  cases ending with
  | out =>
    dsimp only [Ending.answer]
    by_cases same : emission.origin = buffer
    · rw [if_pos same]
      exact ⟨contacts, _, rfl, .carry _ position left contacts .out poll fun _ => same, policy,
        place⟩
    · rw [if_neg same]
      obtain ⟨unsent⟩ := place
      obtain ⟨more, after, seen, write, policyToo, placeToo⟩ :=
        @paced_writeFreshBy _ transport turn later buffer unsent next (log ++ contacts)
      have policy : later.policy = fragmenter.policy := policy
      rw [policy] at write policyToo
      refine ⟨contacts ++ more, after, ?_, ?_, policyToo, placeToo⟩
      · rw [seen, List.append_assoc]
      · exact .overtake _ position _ contacts more _ after same poll write
  -- Any other ending answers the call, whichever buffer it was made from.
  | held later =>
    exact ⟨contacts, _, rfl, .carry _ position left contacts (.held later) poll
      (fun out => by cases out), policy, place⟩
  | refused error later =>
    exact ⟨contacts, _, rfl, .carry _ position left contacts (.refused error later) poll
      (fun out => by cases out), policy, place⟩
  | broken error =>
    exact ⟨contacts, _, rfl, .carry _ position left contacts (.broken error) poll
      (fun out => by cases out), policy, place⟩

/-- Every write keeps to the pace. -/
theorem paced_writeBy {fragmenter : Fragmenter} {stage : Stage} (buffer : Bytes)
    (regular : Regular fragmenter) (place : Place fragmenter stage) (state : σ)
    (log : List Contact) :
    Paced turn buffer fragmenter stage log
      (writeBy (transport.watched .send) (transport.watched .pass) turn buffer fragmenter
        (state, log)) := by
  cases place with
  | idle unsent =>
    rw [writeBy]
    cases phase : fragmenter.phase with
    | inspecting => exact paced_writeFreshBy buffer unsent state log
    | passthrough => exact (apart_writeThrough buffer phase state log).paced unsent
    | emitting emission => exact absurd phase (unsent emission)
  | emitting emission position left phase placed =>
    exact paced_emitting buffer (regular.past phase) (regular.sound emission phase) phase placed state log
  | broken phase =>
    rw [writeBy, phase]
    obtain ⟨contacts, link, quiet, same, seen⟩ :=
      @apart_writeThrough _ transport turn fragmenter buffer phase state log
    refine ⟨contacts, .broken, seen, .late contacts _ quiet, ?_, ?_⟩
    · rw [same]
    · rw [same]
      exact .broken phase

/-! ## Runs -/

/-- Every call keeps to the pace. -/
theorem exists_step_answer {fragmenter : Fragmenter} {stage : Stage} (call : Call)
    (regular : Regular fragmenter) (place : Place fragmenter stage) (state : σ)
    (log : List Contact) :
    let (answer, later, _, seen) := (watched transport).answer turn call (fragmenter, state, log)
    ∃ contacts after, seen = log ++ contacts ∧
      Step fragmenter.policy turn.now ⟨call, answer⟩ contacts stage after ∧
      later.policy = fragmenter.policy ∧ Place later after := by
  have other : ∀ {outcome : Answer call.Result × Fragmenter × σ × List Contact},
      (∀ buffer, call ≠ .write buffer) → Apart fragmenter log outcome →
      ∃ contacts after, outcome.2.2.2 = log ++ contacts ∧
        Step fragmenter.policy turn.now ⟨call, outcome.1⟩ contacts stage after ∧
        outcome.2.1.policy = fragmenter.policy ∧ Place outcome.2.1 after := by
    intro outcome different apart
    obtain ⟨contacts, link, quiet, same, seen⟩ := apart
    refine ⟨contacts, stage, seen, .other _ contacts stage different quiet, ?_, ?_⟩
    · rw [same]
    · rw [same]
      exact place.with_link link
  cases call with
  | write buffer =>
    obtain ⟨contacts, after, seen, write, policy, place⟩ :=
      @paced_writeBy _ transport turn fragmenter stage buffer regular place state log
    exact ⟨contacts, after, seen, .write buffer _ contacts stage after write, policy, place⟩
  | read room =>
    apply other (fun buffer same => by cases same)
    apply apart_whenOpen .pass
    exact fun state log => ⟨_, .opened, quiet_one rfl, rfl, rfl⟩
  | flush =>
    apply other (fun buffer same => by cases same)
    apply apart_whenOpen .pass
    exact fun state log => ⟨_, .opened, quiet_one rfl, rfl, rfl⟩
  | shutdown =>
    apply other (fun buffer same => by cases same)
    exact apart_shutdown fragmenter state log

/-- A run keeps to the pace, whatever is called and whatever the transport answers. -/
theorem exists_run_journal (calls : List (Turn × Call)) {fragmenter : Fragmenter} {stage : Stage}
    (regular : Regular fragmenter) (place : Place fragmenter stage) (state : σ) :
    ∃ last, Run fragmenter.policy (journal transport calls (fragmenter, state)) stage last := by
  induction calls generalizing fragmenter stage state with
  | nil => exact ⟨stage, .nil stage⟩
  | cons first calls ih =>
    obtain ⟨turn, call⟩ := first
    have step := @exists_step_answer _ transport turn fragmenter stage call regular place state []
    have regularLater := @regular_watched_answer _ transport turn fragmenter call regular state []
    rw [journal]
    generalize (watched transport).answer turn call (fragmenter, state, []) = outcome
      at step regularLater
    obtain ⟨answer, later, next, seen⟩ := outcome
    obtain ⟨contacts, after, rfl, step, policy, placeLater⟩ := step
    obtain ⟨last, run⟩ := ih regularLater placeLater next
    rw [policy] at run
    exact ⟨last, .cons _ _ stage after last step placeLater.alarm_eq run⟩

/-- A journal tells the run of the fragmented stream. -/
theorem journal_eq_trace (calls : List (Turn × Call)) (fragmenter : Fragmenter) (state : σ) :
    (journal transport calls (fragmenter, state)).map (fun entry => (entry.exchange, entry.alarm)) =
      ((stream transport).trace calls (fragmenter, state)).map
        (fun (exchange, after) => (exchange, after.1.alarm)) := by
  induction calls generalizing fragmenter state with
  | nil => rfl
  | cons first calls ih =>
    obtain ⟨turn, call⟩ := first
    have same := @forget_answer _ transport turn call fragmenter state []
    rw [journal, Stream.trace, ← same]
    rcases (watched transport).answer turn call (fragmenter, state, []) with
      ⟨answer, later, next, seen⟩
    exact congrArg _ (ih later next)

end Fragmenter

end Outbound.Tls
