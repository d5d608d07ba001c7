import Outbound.Proofs.WireGuard.Filler
import Outbound.Proofs.WireGuard.InPlace
import Outbound.WireGuard.Calls

/-!
# What is received

Receive calls sift what arrives. A datagram that is restored is returned by the call that it
arrives for, any other is passed over, and an error ends the call that meets it. What an arrival
comes to (`Policy.outcome?`) has nothing to do with those before it, nor with what the buffer held;
so calls return what the arrivals come to, in order, whether they are made one after another
(`receiveEach_sifted`) or side by side (`sifted_run`).
-/
namespace Outbound

/-- Whether there is room for all of an arrival. -/
def Arrival.Fits : Arrival → (room : Nat) → Prop
  | datagram bytes _, room => bytes.length ≤ room
  | failure _, _ => True

/-- There is room for an arrival in more room. -/
theorem Arrival.Fits.mono {arrival : Arrival} {size room : Nat} (fits : arrival.Fits size)
    (more : size ≤ room) : arrival.Fits room := by
  cases arrival with
  | datagram bytes source => exact Nat.le_trans fits more
  | failure error => trivial

namespace WireGuard

variable {κ : Type}

namespace Policy

variable {policy : Policy} {room : Nat} {arrival : Arrival} {queue : List Arrival}

/-! ## One call -/

/-- What an arrival comes to, if it is not passed over. -/
def outcome? (policy : Policy) : Arrival → Option (Except IoError Received)
  | .datagram bytes source =>
    (policy.restore bytes).map fun (type, restored) => .ok ⟨type, restored, source⟩
  | .failure error => some (.error error)

/-- A datagram comes to a message just if it is restored to it. -/
theorem outcome_eq_ok_iff {bytes : Bytes} {source : Endpoint} {received : Received} :
    policy.outcome? (.datagram bytes source) = some (.ok received) ↔
      policy.restore bytes = some (received.type, received.bytes) ∧
        received.bytes.length = bytes.length ∧ received.source = source := by
  rw [outcome?, Option.map_eq_some_iff]
  constructor
  · rintro ⟨⟨type, restored⟩, made, same⟩
    cases same
    exact ⟨made, (restoration_of_restore made).length, rfl⟩
  · rintro ⟨made, -, rfl⟩
    exact ⟨_, made, rfl⟩

/-- A datagram that is not restored comes to nothing. -/
theorem outcome_of_dropped {bytes : Bytes} (dropped : policy.restore bytes = none)
    (source : Endpoint) : policy.outcome? (.datagram bytes source) = none := by
  rw [outcome?, dropped, Option.map_none]

/-- An arrival that comes to nothing is passed over. -/
theorem receive_of_passed (fits : arrival.Fits room) (passed : policy.outcome? arrival = none)
    (queue : List Arrival) :
    policy.receive room (arrival :: queue) = policy.receive room queue := by
  cases arrival with
  | failure error => cases passed
  | datagram bytes source =>
    refine receive_of_dropped ?_ source queue
    rw [List.take_of_length_le fits]
    exact Option.map_eq_none_iff.mp passed

/-- What an arrival comes to is returned, and what arrives after it is left. -/
theorem receive_of_outcome {result : Except IoError Received} (fits : arrival.Fits room)
    (found : policy.outcome? arrival = some result) (queue : List Arrival) :
    policy.receive room (arrival :: queue) = (some result, queue) := by
  cases arrival with
  | failure error =>
    cases found
    rfl
  | datagram bytes source =>
    obtain ⟨⟨type, restored⟩, made, same⟩ := Option.map_eq_some_iff.mp found
    cases same
    refine receive_of_restored ?_ source queue
    rw [List.take_of_length_le fits]
    exact made

/-- A call passes over all that comes to nothing. -/
theorem receive_append (passed : ∀ arrival ∈ queue, arrival.Fits room ∧
    policy.outcome? arrival = none) (later : List Arrival) :
    policy.receive room (queue ++ later) = policy.receive room later := by
  induction queue with
  | nil => rfl
  | cons arrival queue ih =>
    obtain ⟨⟨fits, nothing⟩, others⟩ := List.forall_mem_cons.mp passed
    rw [List.cons_append, receive_of_passed fits nothing, ih others]

/-- A call returns the first of what the arrivals come to, and leaves the others. -/
theorem receive_sifted (fits : ∀ arrival ∈ queue, arrival.Fits room) :
    (policy.receive room queue).1.toList = (queue.filterMap policy.outcome?).take 1 ∧
      (policy.receive room queue).2.filterMap policy.outcome? =
        (queue.filterMap policy.outcome?).drop 1 := by
  induction queue with
  | nil => exact ⟨rfl, rfl⟩
  | cons arrival queue ih =>
    obtain ⟨first, others⟩ := List.forall_mem_cons.mp fits
    cases found : policy.outcome? arrival with
    | none =>
      rw [receive_of_passed first found, List.filterMap_cons_none found]
      exact ih others
    | some result =>
      rw [receive_of_outcome first found, List.filterMap_cons_some found]
      exact ⟨rfl, rfl⟩

/-- The first arrival ends a call by itself, or the call goes on as if it had not been there. -/
theorem receive_cons (policy : Policy) (room : Nat) (arrival : Arrival) (queue : List Arrival) :
    policy.receive room (arrival :: queue) =
      match (policy.receive room [arrival]).1 with
      | some result => (some result, queue)
      | none => policy.receive room queue := by
  cases arrival with
  | failure error => rfl
  | datagram bytes source =>
    simp only [receive]
    cases policy.restore (bytes.take room) <;> rfl

/-! ## A peer that shares the policy -/

/-- Arrivals that carry messages: genuine packets in disguise, in order, and in between any
datagrams that are not restored. -/
inductive Carries (policy : Policy) : List Received → List Arrival → Prop
  /-- Nothing arrives. -/
  | nothing : Carries policy [] []
  /-- A genuine packet arrives, in disguise. -/
  | genuine {messages : List Received} {queue : List Arrival} (reserved : Reserved)
      (entropy : Entropy) (message : Received)
      (genuine : classify message.bytes = some message.type)
      (unreserved : (message.bytes.drop 1).take 3 = [0, 0, 0])
      (carries : Carries policy messages queue) :
      Carries policy (message :: messages)
        (.datagram (policy.disguise reserved message.bytes entropy).1 message.source :: queue)
  /-- A datagram arrives that is not restored. -/
  | other {messages : List Received} {queue : List Arrival} (bytes : Bytes) (source : Endpoint)
      (dropped : policy.restore bytes = none) (carries : Carries policy messages queue) :
      Carries policy messages (.datagram bytes source :: queue)

/-- Arrivals come to the messages that they carry. -/
theorem Carries.outcomes {messages : List Received} (carries : policy.Carries messages queue) :
    queue.filterMap policy.outcome? = messages.map .ok := by
  induction carries with
  | nothing => rfl
  | genuine reserved entropy message genuine unreserved _ ih =>
    have comes : policy.outcome?
        (.datagram (policy.disguise reserved message.bytes entropy).1 message.source) =
          some (.ok message) := by
      rw [outcome?, restore_of_genuine reserved entropy genuine unreserved, Option.map_some]
    rw [List.filterMap_cons_some comes, ih, List.map_cons]
  | other bytes source dropped _ ih =>
    rw [List.filterMap_cons_none (outcome_of_dropped dropped source), ih]

end Policy

/-! ## The buffer of a call -/

/-- What a call returns of a message whose octets it leaves in its buffer. -/
structure Notice where
  /-- Its kind. -/
  type : MessageType
  /-- How many octets it has. -/
  size : Nat
  /-- Who sent it. -/
  source : Endpoint
  deriving DecidableEq

/-- What a call returns of a message, without its octets. -/
def Received.notice (received : Received) : Notice where
  type := received.type
  size := received.bytes.length
  source := received.source

namespace Policy

/-- Receive into a buffer: each datagram is put at the start of it, as far as it fits, and restored
there. Gives what is returned, the buffer and what has not arrived yet; nothing if a write is a
fault. -/
def receiveInto (policy : Policy) (buffer : Bytes) :
    List Arrival → Option (Option (Except IoError Notice) × Bytes × List Arrival)
  | [] => some (none, buffer, [])
  | .failure error :: queue => some (some (.error error), buffer, queue)
  | .datagram bytes source :: queue => do
    let packet := bytes.take buffer.length
    let (type, front) ← policy.restoreInPlace packet
    let buffer := front ++ buffer.drop packet.length
    match type with
    | some type => some (some (.ok ⟨type, packet.length, source⟩), buffer, queue)
    | none => policy.receiveInto buffer queue

/-- A buffer keeps its length when octets at its start are replaced by as many others. -/
theorem length_overwrite {packet front buffer : Bytes} (fits : packet.length ≤ buffer.length)
    (same : front.length = packet.length) :
    (front ++ buffer.drop packet.length).length = buffer.length := by
  rw [List.length_append, List.length_drop]
  omega

/-- A call that receives into a buffer, whatever is in it, returns and leaves what one does that is
given as much room. No write is a fault. -/
theorem receiveInto_eq (policy : Policy) (buffer : Bytes) (queue : List Arrival) :
    let (result, left) := policy.receive buffer.length queue
    ∃ final, policy.receiveInto buffer queue =
        some (result.map (Except.map Received.notice), final, left) ∧
      final.length = buffer.length ∧
      ∀ received, result = some (.ok received) → received.bytes <+: final := by
  induction queue generalizing buffer with
  | nil => exact ⟨buffer, rfl, rfl, fun _ found => by cases found⟩
  | cons arrival queue ih =>
    cases arrival with
    | failure error => exact ⟨buffer, rfl, rfl, fun _ found => by cases found⟩
    | datagram bytes source =>
      have fits : (bytes.take buffer.length).length ≤ buffer.length := List.length_take_le ..
      cases restored : policy.restore (bytes.take buffer.length) with
      | none =>
        have kept := length_overwrite fits rfl
        have later := ih (bytes.take buffer.length ++ buffer.drop (bytes.take buffer.length).length)
        rw [kept] at later
        simp only [receiveInto, restoreInPlace_of_none restored, receive_of_dropped restored,
          Option.bind_eq_bind, Option.bind_some]
        exact later
      | some pair =>
        obtain ⟨type, packet⟩ := pair
        have same := (restoration_of_restore restored).length
        simp only [receiveInto, restoreInPlace_of_some restored, receive_of_restored restored,
          Option.bind_eq_bind, Option.bind_some]
        refine ⟨_, ?_, length_overwrite fits same, ?_⟩
        · rw [← same]
          rfl
        · intro received found
          cases found
          exact List.prefix_append ..

end Policy

/-! ## Calls one after another -/

namespace Effect

/-- What is received from a socket. -/
def arrival? : Effect κ → Option Arrival
  | receives _ _ arrival => some arrival
  | _ => none

/-- What a receive call returns. -/
def result? : Effect κ → Option (Except IoError Received)
  | received _ result => some result
  | _ => none

/-- What a call receives and returns can be told from what comes of it. -/
theorem filterMap_handed (call : Nat) (socket : κ) (taken : List Arrival)
    (results : List (Except IoError Received)) :
    (taken.map (receives call socket) ++ results.map (received call)).filterMap arrival? = taken ∧
      (taken.map (receives call socket) ++ results.map (received call)).filterMap result? =
        results := by
  simp [List.filterMap_append, List.filterMap_map, Function.comp_def, arrival?, result?]

end Effect

namespace Calls

/-- Hand a call what is queued on its socket, one arrival after another, for as long as it receives.
Gives the calls afterwards, what comes of it and what is left of the queue. -/
def handOver (calls : Calls κ) (call : Nat) :
    List Arrival → Calls κ × List (Effect (Opened κ)) × List Arrival
  | [] => (calls, [], [])
  | arrival :: queue =>
    match calls.stages[call]? with
    | some (.receiving _ _) =>
      let (calls, now) := calls.step (.arrive call arrival)
      let (calls, later, left) := calls.handOver call queue
      (calls, now ++ later, left)
    | _ => (calls, [], arrival :: queue)

/-- Make receive calls with so much room each, one after another, and hand each what is queued.
Gives what comes of it and what is left of the queue. -/
def receiveEach (calls : Calls κ) :
    (rooms : List Nat) → List Arrival → List (Effect (Opened κ)) × List Arrival
  | [], queue => ([], queue)
  | room :: rooms, queue =>
    let (begun, started) := calls.step (.receive room)
    let (ended, handed, left) := begun.handOver calls.stages.length queue
    let (later, left) := ended.receiveEach rooms left
    (started ++ handed ++ later, left)

/-- A call that is over is handed nothing. -/
theorem handOver_over {calls : Calls κ} {call : Nat} (ended : calls.stages[call]? = some .over)
    (queue : List Arrival) : calls.handOver call queue = (calls, [], queue) := by
  cases queue with
  | nil => rfl
  | cons arrival queue => simp only [handOver, ended]

/-- What comes of an arrival for a call that receives: the call is over if the arrival ends it, and
goes on otherwise. -/
theorem step_arrive {calls : Calls κ} {call room : Nat} {socket : Opened κ}
    (waits : calls.stages[call]? = some (.receiving socket room)) (arrival : Arrival) :
    ∃ next effects, calls.step (.arrive call arrival) = (next, effects) ∧
      next.bind = calls.bind ∧
      match (calls.bind.policy.receive room [arrival]).1 with
      | some result => next.stages[call]? = some .over ∧
          effects = [.receives call socket arrival, .received call result]
      | none => next.stages[call]? = some (.receiving socket room) ∧
          effects = [.receives call socket arrival] := by
  obtain ⟨bound, _⟩ := List.getElem?_eq_some_iff.mp waits
  simp only [step, waits, Stage.afterArrival]
  rcases calls.bind.policy.receive room [arrival] with ⟨_ | result, left⟩
  · exact ⟨_, _, rfl, rfl, List.getElem?_set_self bound, rfl⟩
  · exact ⟨_, _, rfl, rfl, List.getElem?_set_self bound, rfl⟩

/-- A call that receives is handed what it takes to receive a message, and returns it. -/
theorem handOver_receiving {calls : Calls κ} {call room : Nat} {socket : Opened κ}
    (waits : calls.stages[call]? = some (.receiving socket room)) (queue : List Arrival) :
    let (result, left) := calls.bind.policy.receive room queue
    ∃ next taken, queue = taken ++ left ∧ next.bind = calls.bind ∧
      calls.handOver call queue = (next,
        taken.map (.receives call socket) ++ result.toList.map (.received call), left) := by
  induction queue generalizing calls with
  | nil => exact ⟨calls, [], rfl, rfl, rfl⟩
  | cons arrival queue ih =>
    obtain ⟨next, effects, stepped, bind, comes⟩ := step_arrive waits arrival
    have handed : calls.handOver call (arrival :: queue) =
        ((next.handOver call queue).1, effects ++ (next.handOver call queue).2.1,
          (next.handOver call queue).2.2) := by
      simp only [handOver, waits, stepped]
    rw [Policy.receive_cons, handed]
    cases found : (calls.bind.policy.receive room [arrival]).1 with
    | none =>
      rw [found] at comes
      obtain ⟨still, rfl⟩ := comes
      have later := ih still
      rw [bind] at later
      obtain ⟨last, taken, same, kept, handed⟩ := later
      rw [handed]
      exact ⟨last, arrival :: taken, congrArg (arrival :: ·) same, kept, rfl⟩
    | some result =>
      rw [found] at comes
      obtain ⟨ended, rfl⟩ := comes
      rw [handOver_over ended]
      exact ⟨next, [arrival], rfl, bind, rfl⟩

/-- On a bind with a socket, a receive call starts to receive from it. -/
theorem step_receive {calls : Calls κ} {socket : Opened κ} (filled : calls.bind.slot = some socket)
    (room : Nat) :
    ∃ next, calls.step (.receive room) = (next, [.opens calls.stages.length (.ok socket)]) ∧
      next.bind = calls.bind ∧
      next.stages[calls.stages.length]? = some (.receiving socket room) := by
  simp only [step, startOpen, Bind.opened?, filled]
  exact ⟨_, rfl, rfl, List.getElem?_concat_length⟩

/-- On a bind with a socket, a receive call takes what it needs off the queue, and calls after it go
on with what it leaves. -/
theorem receiveEach_cons {calls : Calls κ} {socket : Opened κ}
    (filled : calls.bind.slot = some socket) (room : Nat) (rooms : List Nat)
    (queue : List Arrival) :
    let (result, left) := calls.bind.policy.receive room queue
    ∃ (next : Calls κ) (now : List (Effect (Opened κ))),
      next.bind = calls.bind ∧ now.filterMap Effect.arrival? ++ left = queue ∧
      now.filterMap Effect.result? = result.toList ∧
      calls.receiveEach (room :: rooms) queue =
        (now ++ (next.receiveEach rooms left).1, (next.receiveEach rooms left).2) := by
  obtain ⟨begun, started, bind, waits⟩ := step_receive filled room
  obtain ⟨next, taken, same, kept, handed⟩ := handOver_receiving waits queue
  rw [bind] at same kept handed
  obtain ⟨arrivals, results⟩ := Effect.filterMap_handed calls.stages.length socket taken
    (calls.bind.policy.receive room queue).1.toList
  refine ⟨next, .opens calls.stages.length (.ok socket) :: _, kept, ?_, results, ?_⟩
  · exact (congrArg (· ++ _) arrivals).trans same.symm
  · simp only [receiveEach, started, handed]
    rfl

/-- On a bind with a socket, a receive call returns what it finds on the queue, and leaves what is
after it. -/
theorem receiveEach_singleton {calls : Calls κ} {socket : Opened κ}
    (filled : calls.bind.slot = some socket) (room : Nat) (queue : List Arrival) :
    (calls.receiveEach [room] queue).1.filterMap Effect.result? =
        (calls.bind.policy.receive room queue).1.toList ∧
      (calls.receiveEach [room] queue).2 = (calls.bind.policy.receive room queue).2 := by
  obtain ⟨next, now, -, -, results, received⟩ := receiveEach_cons filled room [] queue
  rw [received]
  exact ⟨(congrArg _ (List.append_nil now)).trans results, rfl⟩

/-- On a bind with a socket, receive calls made one after another return what the arrivals come to,
in order, and leave the others for later calls. -/
theorem receiveEach_sifted {calls : Calls κ} {socket : Opened κ}
    (filled : calls.bind.slot = some socket) {rooms : List Nat} {queue : List Arrival}
    (fits : ∀ room ∈ rooms, ∀ arrival ∈ queue, arrival.Fits room) :
    let (effects, left) := calls.receiveEach rooms queue
    let outcomes := queue.filterMap calls.bind.policy.outcome?
    effects.filterMap Effect.arrival? ++ left = queue ∧
      effects.filterMap Effect.result? = outcomes.take rooms.length ∧
      left.filterMap calls.bind.policy.outcome? = outcomes.drop rooms.length := by
  induction rooms generalizing calls queue with
  | nil => exact ⟨rfl, rfl, rfl⟩
  | cons room rooms ih =>
    obtain ⟨first, others⟩ := List.forall_mem_cons.mp fits
    obtain ⟨next, now, kept, taken, returned, received⟩ := receiveEach_cons filled room rooms queue
    obtain ⟨found, remain⟩ := calls.bind.policy.receive_sifted first
    have fitting : ∀ other ∈ rooms,
        ∀ arrival ∈ (calls.bind.policy.receive room queue).2, arrival.Fits other := by
      intro other mem arrival among
      exact others other mem arrival (taken ▸ List.mem_append_right _ among)
    have later := ih (kept ▸ filled) fitting
    rw [kept] at later
    obtain ⟨whole, results, rest⟩ := later
    rw [received, List.length_cons]
    refine ⟨?_, ?_, ?_⟩
    · rw [List.filterMap_append, List.append_assoc, whole, taken]
    · rw [List.filterMap_append, returned, found, results, remain, Nat.add_comm, List.take_add]
    · rw [rest, remain, List.drop_drop, Nat.add_comm]

/-- A datagram that has no size of a message is passed over for the one after it, whose reserved
octets are cleared. -/
example (socket : Opened κ) (source : Endpoint) (later : Arrival) :
    let policy : Policy := ⟨.fixed 0, .fixed 10, .fixed 0, .named .m2⟩
    let calls : Calls κ :=
      { bind := { endpoint := source, policy, reserved := ⟨0, 0, 0⟩, slot := some socket } }
    let other := .datagram (List.replicate 40 0xEE) source
    let message := .datagram (4 :: 9 :: List.replicate 46 0) source
    calls.receiveEach [256] [other, message, later] =
      ([.opens 0 (.ok socket), .receives 0 socket other, .receives 0 socket message,
        .received 0 (.ok ⟨.transport, 4 :: List.replicate 47 0, source⟩)], [later]) := rfl

end Calls

/-! ## Calls side by side -/

/-- Whether a call has so much room if it is to receive. -/
def Stage.Roomy (size : Nat) : Stage κ → Prop
  | opening (.receiving room) | receiving _ room => size ≤ room
  | _ => True

/-- Whether so much room is enough for a move: no call is made that has less, nothing larger
arrives, and no socket is refused. -/
def Move.Fits (size : Nat) : Move κ → Prop
  | receive room => size ≤ room
  | arrive _ arrival => arrival.Fits size
  | answer _ (.error _) => False
  | _ => True

/-- Calls return what comes of what they receive, and nothing else. -/
def Policy.Sifted (policy : Policy) (effects : List (Effect κ)) : Prop :=
  effects.filterMap Effect.result? =
    (effects.filterMap Effect.arrival?).filterMap policy.outcome?

/-- What comes of earlier moves, and then of later ones. -/
theorem Policy.Sifted.append {policy : Policy} {earlier later : List (Effect κ)}
    (first : policy.Sifted earlier) (second : policy.Sifted later) :
    policy.Sifted (earlier ++ later) := by
  unfold Sifted at *
  rw [List.filterMap_append, List.filterMap_append, List.filterMap_append, first, second]

/-- A turn of a call with enough room. -/
structure Sifting (policy : Policy) (size : Nat) (turn : Stage κ × List (Effect κ)) : Prop where
  /-- It still has enough room. -/
  roomy : turn.1.Roomy size
  /-- It returns what comes of what it receives. -/
  sifted : policy.Sifted turn.2

namespace Sifting

variable {policy : Policy} {size : Nat}

/-- A call that was given a socket. -/
theorem afterOpen (call now : Nat) {purpose : Purpose}
    (roomy : (Stage.opening purpose : Stage κ).Roomy size) (socket : κ) :
    Sifting policy size (purpose.afterOpen call now (.ok socket)) := by
  rcases purpose with _ | (_ | ⟨post, posts⟩) | room
  · exact ⟨trivial, rfl⟩
  · exact ⟨trivial, rfl⟩
  · exact ⟨trivial, rfl⟩
  · exact ⟨roomy, rfl⟩

/-- A call that has sent a datagram. -/
theorem afterSend (call now : Nat) (socket : κ) (post : Post) (posts : List Post)
    (result : Except IoError Unit) :
    Sifting policy size (Stage.afterSend call now socket post posts result) := by
  rcases result with error | _
  · exact ⟨trivial, rfl⟩
  · cases posts <;> exact ⟨trivial, rfl⟩

/-- A call that something arrives for. -/
theorem afterArrival (call : Nat) (socket : κ) {room : Nat} {arrival : Arrival}
    (roomy : size ≤ room) (fits : arrival.Fits size) :
    Sifting policy size (Stage.afterArrival policy call socket room arrival) := by
  have fits : arrival.Fits room := fits.mono roomy
  rw [Stage.afterArrival]
  cases found : policy.outcome? arrival with
  | none =>
    have silent : [arrival].filterMap policy.outcome? = [] := List.filterMap_cons_none found
    rw [Policy.receive_of_passed fits found]
    exact ⟨roomy, silent.symm⟩
  | some result =>
    have comes : [arrival].filterMap policy.outcome? = [result] := List.filterMap_cons_some found
    rw [Policy.receive_of_outcome fits found]
    exact ⟨trivial, comes.symm⟩

/-- A call that replaces the socket. -/
theorem afterRebind (call : Nat) (rebind : RebindCall) :
    Sifting (κ := κ) policy size (Stage.afterRebind call rebind) := by
  cases rebind <;> exact ⟨trivial, rfl⟩

end Sifting

namespace Calls

/-- A step of calls with enough room. -/
structure Sifts (calls : Calls κ) (size : Nat) (next : Calls κ)
    (effects : List (Effect (Opened κ))) : Prop where
  /-- Packets are disguised as before. -/
  policy : next.bind.policy = calls.bind.policy
  /-- The calls still have enough room. -/
  roomy : ∀ stage ∈ next.stages, stage.Roomy size
  /-- They return what comes of what they receive. -/
  sifted : calls.bind.policy.Sifted effects

variable {calls : Calls κ} {size : Nat}

/-- No call takes a turn. -/
theorem sifts_idle (roomy : ∀ stage ∈ calls.stages, stage.Roomy size) {next : Calls κ}
    (policy : next.bind.policy = calls.bind.policy) (stages : next.stages = calls.stages) :
    Sifts calls size next [] where
  policy := policy
  roomy := stages ▸ roomy
  sifted := rfl

/-- A call starts. -/
theorem sifts_start (roomy : ∀ stage ∈ calls.stages, stage.Roomy size)
    {turn : Stage (Opened κ) × List (Effect (Opened κ))}
    (sifting : Sifting calls.bind.policy size turn) :
    Sifts calls size (calls.start turn).1 (calls.start turn).2 where
  policy := rfl
  roomy := List.forall_mem_append.mpr ⟨roomy, List.forall_mem_singleton.mpr sifting.roomy⟩
  sifted := sifting.sifted

/-- A call goes on. -/
theorem sifts_advance (roomy : ∀ stage ∈ calls.stages, stage.Roomy size) {next : Calls κ}
    (policy : next.bind.policy = calls.bind.policy) (stages : next.stages = calls.stages)
    {call : Nat} {turn : Stage (Opened κ) × List (Effect (Opened κ))}
    (sifting : Sifting calls.bind.policy size turn) :
    Sifts calls size (next.advance call turn).1 (next.advance call turn).2 where
  policy := policy
  roomy := by
    intro stage mem
    obtain earlier | rfl := List.mem_or_eq_of_mem_set mem
    · exact roomy stage (stages ▸ earlier)
    · exact sifting.roomy
  sifted := sifting.sifted

/-- A call that opens a socket starts. -/
theorem sifts_startOpen (roomy : ∀ stage ∈ calls.stages, stage.Roomy size) {purpose : Purpose}
    (fits : (Stage.opening purpose : Stage (Opened κ)).Roomy size) :
    Sifts calls size (calls.startOpen purpose).1 (calls.startOpen purpose).2 := by
  rw [startOpen]
  split
  · exact sifts_start roomy (.afterOpen _ _ fits _)
  · exact sifts_start roomy ⟨fits, rfl⟩

/-- An open that the listener answers with a socket gives one, and disguises packets as before. -/
theorem finishOpen_ok (bind : Bind κ) (socket : κ) :
    ∃ given next, bind.finishOpen (.ok socket) = (.ok given, next) ∧ next.policy = bind.policy := by
  rw [Bind.finishOpen]
  cases bind.slot <;> exact ⟨_, _, rfl, rfl⟩

/-- Every step of calls with enough room is one. -/
theorem sifts_step (roomy : ∀ stage ∈ calls.stages, stage.Roomy size) {move : Move κ}
    (fits : move.Fits size) : Sifts calls size (calls.step move).1 (calls.step move).2 := by
  cases move with
  | «open» => exact sifts_startOpen roomy trivial
  | send packet entropy => exact sifts_startOpen roomy trivial
  | receive room => exact sifts_startOpen roomy fits
  | rebind => exact sifts_start roomy (.afterRebind _ _)
  | close => exact sifts_idle roomy rfl rfl
  | answer call answer =>
    rcases answer with error | socket
    · cases fits
    simp only [step]
    split
    case h_1 purpose waits =>
      have waiting := roomy _ (List.mem_of_getElem? waits)
      obtain ⟨given, bind, opened, policy⟩ := finishOpen_ok calls.bind ⟨calls.made, socket⟩
      simp only [number, opened]
      exact sifts_advance roomy policy (by rfl) (.afterOpen _ _ waiting _)
    case h_2 waits => exact sifts_advance roomy (by rfl) (by rfl) (.afterRebind _ _)
    case h_3 => exact sifts_idle roomy rfl rfl
  | dispatch call result =>
    simp only [step]
    split
    case h_1 start socket post posts waits =>
      split
      · exact sifts_advance roomy rfl rfl (.afterSend _ _ _ _ _ _)
      · exact sifts_idle roomy rfl rfl
    case h_2 => exact sifts_idle roomy rfl rfl
  | arrive call arrival =>
    simp only [step]
    split
    case h_1 socket room waits =>
      have waiting := roomy _ (List.mem_of_getElem? waits)
      exact sifts_advance roomy rfl rfl (.afterArrival _ _ waiting fits)
    case h_2 => exact sifts_idle roomy rfl rfl
  | wake call =>
    simp only [step]
    split
    case h_1 => exact sifts_idle roomy rfl rfl
    case h_2 => exact sifts_advance roomy rfl rfl (.afterRebind _ _)
    case h_3 => exact sifts_idle roomy rfl rfl
  | giveUp call => exact sifts_advance roomy rfl rfl ⟨trivial, rfl⟩
  | elapse time => exact sifts_idle roomy rfl rfl
  | set paused => exact sifts_idle roomy rfl rfl

/-- Calls with enough room, side by side, return what comes of what they receive, in order, and
nothing else. -/
theorem sifted_run (roomy : ∀ stage ∈ calls.stages, stage.Roomy size) {moves : List (Move κ)}
    (fits : ∀ move ∈ moves, move.Fits size) :
    calls.bind.policy.Sifted (calls.effects moves) := by
  induction moves generalizing calls with
  | nil => rfl
  | cons move moves ih =>
    obtain ⟨now, later⟩ := List.forall_mem_cons.mp fits
    have step := sifts_step roomy now
    have rest := ih step.roomy later
    rw [step.policy] at rest
    exact step.sifted.append rest

/-! ## Receipt in order -/

/-- What receive calls on a bind return, and what they leave. -/
structure ReceivesInOrder (calls : Calls κ) : Prop where
  /-- On a bind with a socket, calls made one after another return what the arrivals come to, each
  once and in order, as far as there are calls for it. Each arrival is received or left, and what is
  left is for later calls. -/
  successive : ∀ socket, calls.bind.slot = some socket → ∀ rooms queue,
    (∀ room ∈ rooms, ∀ arrival ∈ queue, arrival.Fits room) →
      let (effects, left) := calls.receiveEach rooms queue
      let outcomes := queue.filterMap calls.bind.policy.outcome?
      effects.filterMap Effect.arrival? ++ left = queue ∧
        effects.filterMap Effect.result? = outcomes.take rooms.length ∧
        left.filterMap calls.bind.policy.outcome? = outcomes.drop rooms.length
  /-- A datagram comes to a message just if it is restored: to the octets and of the kind that are
  restored, of its own length and from its own source. -/
  restored : ∀ bytes source received,
    calls.bind.policy.outcome? (.datagram bytes source) = some (.ok received) ↔
      calls.bind.policy.restore bytes = some (received.type, received.bytes) ∧
        received.bytes.length = bytes.length ∧ received.source = source
  /-- An error of the socket is returned as it is, and no datagram after it is taken. -/
  failure : ∀ socket, calls.bind.slot = some socket → ∀ room passed error later,
    (∀ arrival ∈ passed, arrival.Fits room ∧ calls.bind.policy.outcome? arrival = none) →
      let (effects, left) := calls.receiveEach [room] (passed ++ .failure error :: later)
      effects.filterMap Effect.result? = [.error error] ∧ left = later
  /-- What a peer sends that shares the policy comes back as it was, whatever else arrives that is
  not restored. -/
  peer : ∀ socket, calls.bind.slot = some socket → ∀ rooms messages queue,
    calls.bind.policy.Carries messages queue → messages.length ≤ rooms.length →
    (∀ room ∈ rooms, ∀ arrival ∈ queue, arrival.Fits room) →
      (calls.receiveEach rooms queue).1.filterMap Effect.result? = messages.map .ok
  /-- A call that receives into a buffer, whatever is in it, and restores each datagram there,
  returns the same: the message is at the start of the buffer, and no write is a fault. -/
  inPlace : ∀ socket, calls.bind.slot = some socket → ∀ buffer queue,
    let (effects, left) := calls.receiveEach [buffer.length] queue
    ∃ result final,
      calls.bind.policy.receiveInto buffer queue =
        some (result.map (Except.map Received.notice), final, left) ∧
      effects.filterMap Effect.result? = result.toList ∧ final.length = buffer.length ∧
      ∀ received, result = some (.ok received) → received.bytes <+: final
  /-- Calls side by side return what comes of what they receive, in order, whatever else is done on
  the bind. -/
  sideBySide : ∀ size, (∀ stage ∈ calls.stages, stage.Roomy size) →
    ∀ moves : List (Move κ), (∀ move ∈ moves, move.Fits size) →
      calls.bind.policy.Sifted (calls.effects moves)

/-- Receive calls filter what arrives, and keep its order. -/
theorem receivesInOrder (calls : Calls κ) : calls.ReceivesInOrder where
  successive socket filled rooms queue fits := receiveEach_sifted filled fits
  restored bytes source received := Policy.outcome_eq_ok_iff
  failure socket filled room passed error later nothing := by
    obtain ⟨results, left⟩ := receiveEach_singleton filled room (passed ++ .failure error :: later)
    rw [Policy.receive_append nothing] at results left
    exact ⟨results, left⟩
  peer socket filled rooms messages queue carries enough fits := by
    obtain ⟨-, results, -⟩ := receiveEach_sifted filled fits
    rw [results, carries.outcomes, List.take_of_length_le]
    rwa [List.length_map]
  inPlace socket filled buffer queue := by
    obtain ⟨results, left⟩ := receiveEach_singleton filled buffer.length queue
    obtain ⟨final, received, length, start⟩ := calls.bind.policy.receiveInto_eq buffer queue
    exact ⟨_, final, left ▸ received, results, length, start⟩
  sideBySide size roomy moves fits := sifted_run roomy fits

end Calls

end WireGuard

end Outbound
