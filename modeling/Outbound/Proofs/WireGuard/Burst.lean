import Mathlib.Algebra.GroupWithZero.Nat
import Outbound.Proofs.WireGuard.Alone
import Outbound.Proofs.WireGuard.Filler

/-!
# The trace of a transmission

What a transmission hands to its outlet is drawn beforehand: a `Burst` of fillers if its packet
opens a handshake, and then the packet, disguised. Of these datagrams it hands over all up to the
first that cannot be sent (`Handing`), each after the pauses of those before it.
-/
namespace Outbound.WireGuard

variable {σ : Type}

/-! ## What is handed over -/

/-- A datagram that was handed to an outlet. -/
structure Handed where
  /-- The time. -/
  now : Nat
  /-- The datagram. -/
  datagram : Bytes
  /-- Where it goes. -/
  target : Endpoint
  /-- Whether it was sent. -/
  result : Except IoError Unit

/-- An outlet that keeps what it is handed. -/
def Outlet.recorded (outlet : Outlet σ) : Outlet (σ × List Handed) where
  send now datagram target state :=
    let (result, next) := outlet.send now datagram target state.1
    (result, next, state.2 ++ [⟨now, datagram, target, result⟩])

/-- How long the pauses after datagrams are together. -/
def Post.pauses (posts : List Post) : Nat := (posts.map Post.pause).sum

/-- The pause of the first datagram, and those of the others. -/
theorem Post.pauses_cons (post : Post) (posts : List Post) :
    pauses (post :: posts) = post.pause + pauses posts := by
  rw [pauses, List.map_cons, List.sum_cons, pauses]

/-- What it takes for datagrams handed over from some time on to be the front part of those that are
due, cut after the first that cannot be sent. -/
structure Handing (target : Endpoint) (due : List Post) (now : Nat) (handed : List Handed)
    (result : Except IoError Unit) (final : Nat) : Prop where
  /-- The datagrams are those that are due, in order, as far as they go. -/
  front : handed.map (·.datagram) <+: due.map (·.datagram)
  /-- All go to the target. -/
  target : ∀ one ∈ handed, one.target = target
  /-- Each is handed over after the pauses of those before it, and no other. -/
  times : ∀ place one, handed[place]? = some one → one.now = now + Post.pauses (due.take place)
  /-- The result is a success if all that are handed over are sent, and only then. -/
  succeeded : result = .ok () ↔ ∀ one ∈ handed, one.result = .ok ()
  /-- Then all that are due are handed over, and nothing is waited for but the pauses. -/
  whole : result = .ok () → handed.length = due.length ∧ final = now + Post.pauses due
  /-- A failure is that of the last datagram handed over, and the first; nothing is waited for
  after it. -/
  failed : ∀ error, result = .error error → ∃ earlier last, handed = earlier ++ [last] ∧
    last.result = .error error ∧ (∀ one ∈ earlier, one.result = .ok ()) ∧ final = last.now

/-- Nothing is due. -/
theorem handing_nil (target : Endpoint) (now : Nat) : Handing target [] now [] (.ok ()) now where
  front := List.prefix_refl []
  target := fun one mem => by cases mem
  times := fun place one found => by cases found
  succeeded := ⟨fun _ one mem => (by cases mem), fun _ => rfl⟩
  whole := fun _ => ⟨rfl, rfl⟩
  failed := fun error same => by cases same

/-- The first datagram cannot be sent. -/
theorem handing_error (target : Endpoint) (post : Post) (posts : List Post) (now : Nat)
    (error : IoError) :
    Handing target (post :: posts) now [⟨now, post.datagram, target, .error error⟩] (.error error)
      now where
  front := (List.prefix_cons_inj post.datagram).mpr List.nil_prefix
  target := List.forall_mem_singleton.mpr rfl
  times := by
    intro place one found
    cases place with
    | zero =>
      cases found
      rfl
    | succ place => cases found
  succeeded := by
    constructor
    · intro same
      cases same
    · intro sent
      cases List.forall_mem_singleton.mp sent
  whole := fun same => by cases same
  failed := by
    intro found same
    cases same
    exact ⟨[], _, rfl, rfl, fun one mem => (by cases mem), rfl⟩

/-- The first datagram is sent, and the others are handed over after its pause. -/
theorem Handing.cons {target : Endpoint} {post : Post} {posts : List Post} {now final : Nat}
    {handed : List Handed} {result : Except IoError Unit}
    (handing : Handing target posts (now + post.pause) handed result final) :
    Handing target (post :: posts) now (⟨now, post.datagram, target, .ok ()⟩ :: handed) result
      final where
  front := (List.prefix_cons_inj post.datagram).mpr handing.front
  target := List.forall_mem_cons.mpr ⟨rfl, handing.target⟩
  times := by
    intro place one found
    cases place with
    | zero =>
      cases found
      rfl
    | succ place =>
      have later := handing.times place one found
      rw [List.take_succ_cons, Post.pauses_cons]
      omega
  succeeded := by
    rw [handing.succeeded, List.forall_mem_cons]
    exact ⟨fun sent => ⟨rfl, sent⟩, fun sent => sent.2⟩
  whole := by
    intro success
    have whole := handing.whole success
    rw [Post.pauses_cons, List.length_cons, List.length_cons]
    omega
  failed := by
    intro error failure
    obtain ⟨earlier, last, same, wrong, sent, final⟩ := handing.failed error failure
    refine ⟨⟨now, post.datagram, target, .ok ()⟩ :: earlier, last, ?_, wrong,
      List.forall_mem_cons.mpr ⟨rfl, sent⟩, final⟩
    rw [same]
    rfl

/-- Datagrams sent one after another are handed over so, and keeping them changes nothing. -/
theorem Outlet.handing_sendAll (outlet : Outlet σ) (target : Endpoint) (posts : List Post)
    (now : Nat) (state : σ) (log : List Handed) :
    ∃ handed result final last,
      outlet.sendAll target posts now state = (result, final, last) ∧
      outlet.recorded.sendAll target posts now (state, log) =
        (result, final, last, log ++ handed) ∧
      Handing target posts now handed result final := by
  induction posts generalizing now state log with
  | nil =>
    refine ⟨[], .ok (), now, state, rfl, ?_, handing_nil target now⟩
    rw [List.append_nil]
    rfl
  | cons post posts ih =>
    have kept : outlet.recorded.send now post.datagram target (state, log) =
        ((outlet.send now post.datagram target state).1,
          (outlet.send now post.datagram target state).2,
          log ++ [⟨now, post.datagram, target, (outlet.send now post.datagram target state).1⟩]) :=
      rfl
    rw [sendAll, sendAll, kept]
    rcases outlet.send now post.datagram target state with ⟨error | sent, next⟩
    · exact ⟨_, _, _, _, rfl, rfl, handing_error target post posts now error⟩
    · obtain ⟨handed, result, final, last, plain, recorded, handing⟩ := ih (now + post.pause) next
        (log ++ [⟨now, post.datagram, target, .ok ()⟩])
      refine ⟨_, result, final, last, plain, ?_, handing.cons⟩
      rw [List.append_assoc, List.singleton_append] at recorded
      exact recorded

/-! ## What is due -/

namespace Policy

/-- A datagram that can be a filler: its size is in the range of sizes, of which zero counts as one,
and it starts with an octet of the pool, if there is one. -/
def Fills (policy : Policy) (datagram : Bytes) : Prop :=
  max 1 policy.size.min.toNat ≤ datagram.length ∧ datagram.length ≤ max 1 policy.size.max.toNat ∧
    (policy.mode.header ≠ [] → ∃ first body, datagram = first :: body ∧ first ∈ policy.mode.header)

/-- A filler drawn is one. -/
theorem fills_filler (policy : Policy) (entropy : Entropy) :
    policy.Fills (policy.filler entropy).1 := by
  obtain ⟨first, body, drawn, leads, size, least, greatest, length⟩ :=
    filler_allowed policy entropy
  rw [drawn]
  refine ⟨?_, ?_, fun chosen => ⟨first, body, rfl, leads.resolve_left chosen⟩⟩
  · rw [List.length_cons]
    omega
  · rw [List.length_cons]
    omega

/-- What it takes for datagrams to be a burst of so many fillers. -/
structure Burst (policy : Policy) (count : Nat) (posts : List Post) : Prop where
  /-- There are so many. -/
  number : posts.length = count
  /-- Each is a filler. -/
  fills : ∀ post ∈ posts, policy.Fills post.datagram
  /-- Between two of them there is no pause if the range of pauses holds no number but zero. -/
  unpaused : policy.delay.isZero = true → ∀ post ∈ posts, post.pause = 0
  /-- Otherwise there is one, of one draw. -/
  paused : policy.delay.isZero = false →
    ∀ post ∈ posts.dropLast, ∃ outcome, post.pause = (policy.delay.draw outcome).1
  /-- After the last one there is none. -/
  last : ∀ post, posts.getLast? = some post → post.pause = 0

/-- No fillers. -/
theorem burst_nil (policy : Policy) : policy.Burst 0 [] where
  number := rfl
  fills := fun post mem => by cases mem
  unpaused := fun _ post mem => by cases mem
  paused := fun _ post mem => by cases mem
  last := fun post found => by cases found

/-- One filler before a burst: it has a pause if there is another one after it. -/
theorem Burst.cons {policy : Policy} {count : Nat} {posts : List Post} {post : Post}
    (burst : policy.Burst count posts) (fills : policy.Fills post.datagram)
    (unpaused : policy.delay.isZero = true → post.pause = 0)
    (paused : policy.delay.isZero = false → 0 < count →
      ∃ outcome, post.pause = (policy.delay.draw outcome).1)
    (last : count = 0 → post.pause = 0) :
    policy.Burst (count + 1) (post :: posts) where
  number := congrArg (· + 1) burst.number
  fills := List.forall_mem_cons.mpr ⟨fills, burst.fills⟩
  unpaused := fun zero => List.forall_mem_cons.mpr ⟨unpaused zero, burst.unpaused zero⟩
  paused := by
    intro nonzero
    have number := burst.number
    have others := burst.paused nonzero
    cases posts with
    | nil => exact fun found mem => by cases mem
    | cons next posts =>
      rw [List.length_cons] at number
      exact List.forall_mem_cons.mpr ⟨paused nonzero (by omega), others⟩
  last := by
    intro found same
    have number := burst.number
    have others := burst.last found
    cases posts with
    | nil =>
      cases same
      exact last number.symm
    | cons next posts => exact others same

/-- Fillers drawn are a burst. -/
theorem burst_fillerPosts (policy : Policy) (count : Nat) (entropy : Entropy) :
    policy.Burst count (policy.fillerPosts count entropy).1 := by
  induction count generalizing entropy with
  | zero => exact policy.burst_nil
  | succ left ih =>
    rw [fillerPosts]
    apply (ih _).cons (policy.fills_filler entropy)
    · intro zero
      dsimp only
      rw [zero, Bool.not_true, Bool.and_false]
      rfl
    · intro nonzero more
      dsimp only
      rw [nonzero, decide_eq_true more]
      exact ⟨_, rfl⟩
    · rintro rfl
      rfl

/-- How many fillers go before a packet. -/
def burstCount (policy : Policy) (packet : Bytes) (entropy : Entropy) : Nat :=
  if policy.count.max ≠ 0 ∧ classify packet = some .initiation then (policy.count.draw entropy).1
  else 0

/-- The fillers before a packet are a burst of so many. -/
theorem burst_burstPosts (policy : Policy) (packet : Bytes) (entropy : Entropy) :
    policy.Burst (policy.burstCount packet entropy) (policy.burstPosts packet entropy).1 := by
  have sends : (policy.sendsFillers && classify packet == some .initiation) = true ↔
      policy.count.max ≠ 0 ∧ classify packet = some .initiation := by
    rw [sendsFillers, Range.isZero, Bool.and_eq_true, Bool.not_eq_true', beq_eq_false_iff_ne,
      beq_iff_eq]
  rw [burstCount, burstPosts]
  by_cases initiation : policy.count.max ≠ 0 ∧ classify packet = some .initiation
  · rw [if_pos initiation, if_pos (sends.mpr initiation)]
    exact policy.burst_fillerPosts _ _
  · rw [if_neg initiation, if_neg (mt sends.mp initiation)]
    exact policy.burst_nil

/-- The trace of a transmission. Whatever is drawn and whichever sends fail, what is handed over is
a burst of as many fillers as are drawn for a packet that opens a handshake, and none for any other,
and then the packet, disguised, up to the first datagram that cannot be sent. Keeping the trace
changes nothing. -/
theorem transmit_trace (policy : Policy) (reserved : Reserved) (outlet : Outlet σ)
    (target : Endpoint) (packet : Bytes) (now : Nat) (entropy : Entropy) (state : σ) :
    let sent := policy.transmit reserved outlet.recorded target packet now entropy (state, [])
    let (fillers, left) := policy.burstPosts packet entropy
    let disguised := (policy.disguise reserved packet left).1
    (policy.transmit reserved outlet target packet now entropy state).outcome =
        (sent.result, sent.now, sent.state.1) ∧
      policy.Burst (policy.burstCount packet entropy) fillers ∧
      Handing target (fillers ++ [⟨disguised, 0⟩]) now sent.state.2 sent.result sent.now := by
  have plain := policy.transmit_posts outlet target reserved packet now entropy state
  have recorded := policy.transmit_posts outlet.recorded target reserved packet now entropy
    (state, [])
  obtain ⟨handed, result, final, last, sentPlain, sentRecorded, handing⟩ :=
    outlet.handing_sendAll target (policy.posts reserved packet entropy) now state []
  rw [sentPlain] at plain
  rw [sentRecorded, List.nil_append] at recorded
  have burst := policy.burst_burstPosts packet entropy
  rw [posts] at handing
  dsimp only
  rw [plain]
  generalize policy.transmit reserved outlet.recorded target packet now entropy (state, []) = sent
    at recorded
  obtain ⟨foundResult, foundNow, foundEntropy, foundState⟩ := sent
  cases recorded
  exact ⟨rfl, burst, handing⟩

end Policy

end Outbound.WireGuard
