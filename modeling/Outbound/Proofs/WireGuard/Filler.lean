import Outbound.Proofs.Draws
import Outbound.Proofs.WireGuard.Disguise
import Outbound.WireGuard.Bind

/-!
# Fillers at the receiver

A filler is any string of octets whose size and first octet the policy allows (`exists_filler_iff`).
A receiver drops it unless it has the size of a message and starts as one may; so it is the sizes
and the pool of first octets that decide whether fillers are told from messages.
-/
namespace Outbound.WireGuard.Policy

variable {policy : Policy}

/-! ## What a filler can be -/

/-- A size that a filler can have. -/
def FillerSize (policy : Policy) (size : Nat) : Prop :=
  ∃ drawn, policy.size.min.toNat ≤ drawn ∧ drawn ≤ policy.size.max.toNat ∧ size = max 1 drawn

/-- An octet that a filler can start with. -/
def Leads (policy : Policy) (first : UInt8) : Prop :=
  policy.mode.header = [] ∨ first ∈ policy.mode.header

/-- An octet picked to start with can be one. -/
theorem leads_lead (policy : Policy) (entropy : Entropy) : policy.Leads (policy.lead entropy).1 := by
  by_cases empty : policy.mode.header = []
  · exact .inl empty
  · exact .inr (Entropy.pick_mem empty entropy)

/-- A filler starts with an octet allowed and has a size allowed. -/
theorem filler_allowed (policy : Policy) (entropy : Entropy) :
    ∃ first body, (policy.filler entropy).1 = first :: body ∧ policy.Leads first ∧
      policy.FillerSize (body.length + 1) := by
  rw [filler]
  rcases drawn : policy.size.draw entropy with ⟨size, later⟩
  obtain ⟨least, greatest⟩ := policy.size.draw_mem entropy
  rw [drawn] at least greatest
  refine ⟨_, _, rfl, leads_lead policy _, size, least, greatest, ?_⟩
  rw [Entropy.length_bytes]
  omega

/-- The strings that are fillers for some outcome of the draws: every first octet and every size
allowed, with any octets after the first. -/
theorem exists_filler_iff {first : UInt8} {body : Bytes} :
    (∃ entropy, (policy.filler entropy).1 = first :: body) ↔
      policy.Leads first ∧ policy.FillerSize (body.length + 1) := by
  constructor
  · rintro ⟨entropy, drawn⟩
    obtain ⟨first', body', drawn', leads, size⟩ := filler_allowed policy entropy
    rw [drawn'] at drawn
    cases drawn
    exact ⟨leads, size⟩
  · rintro ⟨leads, drawn, least, greatest, size⟩
    obtain ⟨start, draw⟩ := policy.size.exists_draw least greatest
    obtain ⟨choice, pick⟩ := Entropy.exists_pick leads
    -- The words in the order of the draws: the size, the octets after the first, the first octet.
    refine ⟨.ofWords (start ++ (body.map UInt8.toNat ++ [choice])) 0, ?_⟩
    have left : max 1 drawn - 1 = body.length := by omega
    have chosen : (start ++ (body.map UInt8.toNat ++ [choice])).getD
        (start.length + body.length) 0 = choice := by
      rw [List.getD_append_right _ _ _ _ (by omega), Nat.add_sub_cancel_left,
        List.getD_append_right _ _ _ _ (Nat.le_of_eq (List.length_map _)), List.length_map, Nat.sub_self]
      rfl
    rw [filler, draw]
    dsimp only
    rw [left, Entropy.bytes_ofWords]
    exact congrArg (· :: body) (pick _ chosen)

/-! ## What a receiver makes of it -/

/-- Fillers can be told from messages: wherever one can have the size of a message, the type octet
counts, and no filler starts with that of the message. -/
def Discernible (policy : Policy) : Prop :=
  ∀ (size : Nat) (type : MessageType), policy.FillerSize size → type.sizeMatches size = true →
    policy.replacesType size = false ∧ ¬ policy.Leads type.byte

/-- A mode that leaves genuine packets alone tells fillers by their first octet, whatever their
sizes, if it allows some octets only and none of them is that of a message. -/
theorem discernible_of_foreign (unchanged : policy.mode.modifies = false)
    (chosen : policy.mode.header ≠ []) (foreign : ∀ type : MessageType,
      type.byte ∉ policy.mode.header) : policy.Discernible := by
  intro size type _ _
  constructor
  · rw [replacesType, unchanged, Bool.false_and]
  · rintro (empty | mem)
    · exact chosen empty
    · exact foreign type mem

example : Discernible ⟨.fixed 1, defaultSize, defaultDelay, .named .m4⟩ :=
  discernible_of_foreign rfl (by decide) fun type => by cases type <;> decide

/-- A string that is not taken for any message is not restored. -/
theorem restore_eq_none_iff {packet : Bytes} :
    policy.restore packet = none ↔ ∀ type, policy.recognise packet ≠ some type := by
  rw [restore, Option.map_eq_none_iff, Option.eq_none_iff_forall_ne_some]

/-- Fillers that can be told from messages are dropped. -/
theorem restore_filler (discernible : policy.Discernible) (entropy : Entropy) :
    policy.restore (policy.filler entropy).1 = none := by
  obtain ⟨first, body, drawn, leads, size⟩ := filler_allowed policy entropy
  rw [drawn, restore_eq_none_iff]
  intro type recognised
  obtain ⟨fits, known⟩ := recognise_eq_some_iff.mp recognised
  obtain ⟨kept, foreign⟩ := discernible _ type size fits
  obtain replaced | same := known
  · rw [List.length_cons, kept] at replaced
    cases replaced
  · rw [List.head?_cons, Option.some_inj] at same
    exact foreign (same ▸ leads)

/-- Fillers that cannot be told from messages: one of them is restored. -/
theorem exists_filler_restored (confusable : ¬ policy.Discernible) :
    ∃ entropy, policy.restore (policy.filler entropy).1 ≠ none := by
  unfold Discernible at confusable
  push Not at confusable
  obtain ⟨size, type, drawn, fits, known⟩ := confusable
  obtain ⟨body, rfl⟩ : ∃ body : Bytes, size = body.length + 1 := by
    obtain ⟨value, -, -, rfl⟩ := drawn
    refine ⟨List.replicate (max 1 value - 1) 0, ?_⟩
    rw [List.length_replicate]
    omega
  -- Where the type octet is not replaced, the filler that is mistaken starts with it.
  have mistaken : ∃ first, policy.Leads first ∧
      (policy.replacesType (body.length + 1) = true ∨ first = type.byte) := by
    cases replaced : policy.replacesType (body.length + 1) with
    | true => exact ⟨_, leads_lead policy ⟨id, 0⟩, .inl rfl⟩
    | false => exact ⟨type.byte, known replaced, .inr rfl⟩
  obtain ⟨first, leads, wrong⟩ := mistaken
  obtain ⟨entropy, filler⟩ := exists_filler_iff.mpr ⟨leads, drawn⟩
  refine ⟨entropy, fun dropped => ?_⟩
  rw [filler, restore_eq_none_iff] at dropped
  apply dropped type
  rw [recognise_eq_some_iff, List.head?_cons, Option.some_inj]
  exact ⟨fits, wrong⟩

/-! ## What is received -/

/-- What a peer that shares the policy sends: fillers and disguised genuine packets. -/
inductive Sends (policy : Policy) : Bytes → Prop
  /-- A filler. -/
  | filler (entropy : Entropy) : Sends policy (policy.filler entropy).1
  /-- A genuine packet. -/
  | genuine (reserved : Reserved) (packet : Bytes) (entropy : Entropy) (type : MessageType)
      (genuine : classify packet = some type)
      (unreserved : (packet.drop 1).take 3 = [0, 0, 0]) :
      Sends policy (policy.disguise reserved packet entropy).1

/-- A datagram that is not restored is passed over. -/
theorem receive_of_dropped {room : Nat} {bytes : Bytes}
    (dropped : policy.restore (bytes.take room) = none) (source : Endpoint)
    (arrivals : List Arrival) :
    policy.receive room (.datagram bytes source :: arrivals) = policy.receive room arrivals := by
  rw [receive, dropped]

/-- A datagram that is restored is received. -/
theorem receive_of_restored {room : Nat} {bytes packet : Bytes} {type : MessageType}
    (restored : policy.restore (bytes.take room) = some (type, packet)) (source : Endpoint)
    (arrivals : List Arrival) :
    policy.receive room (.datagram bytes source :: arrivals) =
      (some (.ok ⟨type, packet, source⟩), arrivals) := by
  rw [receive, restored]

/-- Fillers that can be told from messages are passed over, so what is received is a genuine
packet that has arrived. -/
theorem genuine_of_receive (discernible : policy.Discernible) {room : Nat}
    {arrivals later : List Arrival} {received : Received}
    (peer : ∀ bytes source, .datagram bytes source ∈ arrivals →
      policy.Sends bytes ∧ bytes.length ≤ room)
    (found : policy.receive room arrivals = (some (.ok received), later)) :
    classify received.bytes = some received.type ∧
      ∃ reserved entropy, .datagram (policy.disguise reserved received.bytes entropy).1
        received.source ∈ arrivals := by
  induction arrivals with
  | nil => cases found
  | cons arrival arrivals ih =>
    cases arrival with
    | failure error => cases found
    | datagram bytes source =>
      obtain ⟨sends, fits⟩ := peer bytes source (List.mem_cons_self ..)
      have whole : bytes.take room = bytes := List.take_of_length_le fits
      cases sends with
      | filler entropy =>
        have dropped := restore_filler discernible entropy
        rw [receive_of_dropped (by rw [whole, dropped])] at found
        obtain ⟨genuine, reserved, entropy, mem⟩ := ih
          (fun bytes source mem => peer bytes source (List.mem_cons_of_mem _ mem)) found
        exact ⟨genuine, reserved, entropy, List.mem_cons_of_mem _ mem⟩
      | genuine reserved packet entropy type genuine unreserved =>
        have restored : policy.restore (policy.disguise reserved packet entropy).1 =
            some (type, packet) := restore_of_genuine reserved entropy genuine unreserved
        rw [receive_of_restored (by rw [whole, restored])] at found
        cases found
        exact ⟨genuine, reserved, entropy, List.mem_cons_self ..⟩

/-- Fillers do not reach the device just if they can be told from messages. Then each of them is
dropped, a receive passes over it, and what is received of a peer that shares the policy is a
genuine packet; otherwise some filler is restored and received. -/
theorem fillers_dropped_iff (policy : Policy) :
    ((∀ entropy, policy.restore (policy.filler entropy).1 = none) ↔ policy.Discernible) ∧
    ((∀ entropy room source arrivals, (policy.filler entropy).1.length ≤ room →
        policy.receive room (.datagram (policy.filler entropy).1 source :: arrivals) =
          policy.receive room arrivals) ↔ policy.Discernible) ∧
    (policy.Discernible → ∀ room arrivals received later,
      (∀ bytes source, .datagram bytes source ∈ arrivals →
        policy.Sends bytes ∧ bytes.length ≤ room) →
      policy.receive room arrivals = (some (.ok received), later) →
      classify received.bytes = some received.type ∧
        ∃ reserved entropy, .datagram (policy.disguise reserved received.bytes entropy).1
          received.source ∈ arrivals) := by
  refine ⟨⟨fun dropped => ?_, restore_filler⟩, ⟨fun passed => ?_, ?_⟩, ?_⟩
  · apply Classical.byContradiction
    intro confusable
    obtain ⟨entropy, restored⟩ := exists_filler_restored confusable
    exact restored (dropped entropy)
  · apply Classical.byContradiction
    intro confusable
    obtain ⟨entropy, restored⟩ := exists_filler_restored confusable
    obtain ⟨⟨type, packet⟩, found⟩ := Option.ne_none_iff_exists'.mp restored
    have whole : (policy.filler entropy).1.take (policy.filler entropy).1.length =
        (policy.filler entropy).1 := List.take_length
    have received := passed entropy _ ⟨.v4 .localhost, 51820, 0⟩ [] (Nat.le_refl _)
    rw [receive_of_restored (whole.symm ▸ found)] at received
    cases received
  · intro discernible entropy room source arrivals fits
    apply receive_of_dropped
    rw [List.take_of_length_le fits]
    exact restore_filler discernible entropy
  · intro discernible room arrivals received later peer found
    exact genuine_of_receive discernible peer found

/-- Fillers with the settings that apply where only their number is given: one of 48 octets is
taken for transport data. -/
theorem filler_restored_defaultSize :
    ¬ ∀ options policy, ofOptions options = .ok policy → policy.sendsFillers = true →
      ∀ entropy, policy.restore (policy.filler entropy).1 = none := by
  intro dropped
  have made : ofOptions { count := "1" } =
      .ok ⟨.fixed 1, defaultSize, defaultDelay, .named .m1⟩ := by rfl
  have restored := dropped _ _ made (by decide) ⟨fun _ => 8, 0⟩
  have kept : (restore ⟨.fixed 1, defaultSize, defaultDelay, .named .m1⟩
      (filler ⟨.fixed 1, defaultSize, defaultDelay, .named .m1⟩ ⟨fun _ => 8, 0⟩).1).isSome := by
    decide
  rw [restored] at kept
  cases kept

end Outbound.WireGuard.Policy
