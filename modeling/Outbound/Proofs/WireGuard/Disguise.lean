import Outbound.WireGuard.Disguise

/-!
# Disguise and restoration

Where the type octet of a packet is replaced, its kind is recovered from its size alone. That
works since no two kinds share a size other than the one at which the octet is never replaced:
`recognise_eq_some_iff` says what a receiver takes a packet for, and `restore_disguise` that a
genuine packet comes back as it was.
-/
namespace Outbound.WireGuard

/-! ## Kinds by octet and by size -/

/-- A type octet names just the kind that it is written for. -/
theorem MessageType.ofByte?_eq_some_iff {byte : UInt8} {type : MessageType} :
    ofByte? byte = some type ↔ byte = type.byte := by
  constructor
  · intro named
    unfold ofByte? at named
    split at named
    · cases named
      assumption
    · split at named
      · cases named
        assumption
      · split at named
        · cases named
          assumption
        · split at named
          · cases named
            assumption
          · cases named
  · rintro rfl
    exact ofByte?_byte type

/-- The type octet is trusted if the size agrees. -/
theorem classify_eq_some_iff {packet : Bytes} {type : MessageType} :
    classify packet = some type ↔
      packet.head? = some type.byte ∧ type.sizeMatches packet.length = true := by
  cases packet with
  | nil => simp [classify]
  | cons first rest =>
    rw [classify, Option.filter_eq_some_iff, MessageType.ofByte?_eq_some_iff, List.head?_cons,
      Option.some_inj]

/-- Two kinds share no size but that of a cookie reply. -/
theorem MessageType.eq_of_sizeMatches {type other : MessageType} {size : Nat}
    (fits : type.sizeMatches size = true) (fitsOther : other.sizeMatches size = true)
    (unshared : size ≠ cookieReplySize) : type = other := by
  unfold cookieReplySize at unshared
  -- Of the fixed sizes only that of a cookie reply is 32 and a multiple of 16.
  cases type <;> cases other <;> grind [sizeMatches]

/-- A kind named by a size has this size, which is not the shared one. -/
theorem sizeMatches_of_classifyBySize {size : Nat} {type : MessageType}
    (named : classifyBySize size = some type) :
    type.sizeMatches size = true ∧ size ≠ cookieReplySize := by
  unfold classifyBySize at named
  split at named
  case isTrue same =>
    cases named
    subst same
    decide
  case isFalse =>
    split at named
    case isTrue same =>
      cases named
      subst same
      decide
    case isFalse =>
      split at named
      case isTrue => cases named
      case isFalse unshared =>
        split at named
        case isTrue fits =>
          cases named
          exact ⟨fits, unshared⟩
        case isFalse => cases named

/-- A size of a kind names some kind, unless it is the shared one. -/
theorem classifyBySize_ne_none {size : Nat} {type : MessageType}
    (fits : type.sizeMatches size = true) (unshared : size ≠ cookieReplySize) :
    classifyBySize size ≠ none := by
  unfold classifyBySize
  cases type with
  | initiation => simp [beq_iff_eq.mp fits]
  | response => simp [beq_iff_eq.mp fits]
  | cookieReply => exact absurd (beq_iff_eq.mp fits) unshared
  | transport =>
    rw [if_neg unshared, if_pos fits]
    split
    · exact Option.some_ne_none _
    · split <;> exact Option.some_ne_none _

/-- A size names the kind that has it, unless it is the shared one. -/
theorem classifyBySize_eq_some_iff {size : Nat} {type : MessageType} :
    classifyBySize size = some type ↔
      type.sizeMatches size = true ∧ size ≠ cookieReplySize := by
  constructor
  · exact sizeMatches_of_classifyBySize
  · rintro ⟨fits, unshared⟩
    obtain ⟨other, named⟩ := Option.ne_none_iff_exists'.mp (classifyBySize_ne_none fits unshared)
    have fitsOther := (sizeMatches_of_classifyBySize named).1
    rw [named, MessageType.eq_of_sizeMatches fits fitsOther unshared]

namespace Policy

variable {policy : Policy} {packet : Bytes} {type : MessageType}

/-- A type octet is replaced by a mode that changes packets, and never at the shared size. -/
theorem replacesType_eq_true_iff {size : Nat} :
    policy.replacesType size = true ↔ policy.mode.modifies = true ∧ size ≠ cookieReplySize := by
  rw [replacesType, Bool.and_eq_true, bne_iff_ne]

/-- What a receiver takes a packet for: a kind of its size, whose octet it starts with wherever
that octet is not replaced. -/
theorem recognise_eq_some_iff : policy.recognise packet = some type ↔
    type.sizeMatches packet.length = true ∧
      (policy.replacesType packet.length = true ∨ packet.head? = some type.byte) := by
  unfold recognise
  by_cases replaced : policy.replacesType packet.length = true
  · have unshared := (replacesType_eq_true_iff.mp replaced).2
    rw [if_pos replaced, classifyBySize_eq_some_iff]
    exact ⟨fun fits => ⟨fits.1, .inl replaced⟩, fun fits => ⟨fits.1, unshared⟩⟩
  · rw [if_neg replaced, classify_eq_some_iff]
    exact ⟨fun named => ⟨named.2, .inr named.1⟩,
      fun named => ⟨named.2.resolve_left replaced, named.1⟩⟩

/-! ## The round trip -/

/-- The octet that a packet of some kind and size is sent with. -/
def sentByte (policy : Policy) (size : Nat) (byte : UInt8) (entropy : Entropy) : UInt8 :=
  if policy.replacesType size then (policy.lead entropy).1 else byte

/-- A disguise changes the first four octets and leaves the others. -/
theorem disguise_cons (reserved : Reserved) (byte a b c : UInt8) (rest : Bytes)
    (entropy : Entropy) :
    (policy.disguise reserved (byte :: a :: b :: c :: rest) entropy).1 =
      policy.sentByte (rest.length + 4) byte entropy :: (reserved.bytes ++ rest) := by
  simp only [disguise, mark, sentByte, List.length_cons]
  split <;> rfl

/-- What is restored starts with the octet of its kind and three zeros. -/
theorem restore_cons (first a b c : UInt8) (rest : Bytes)
    (fits : type.sizeMatches (rest.length + 4) = true)
    (known : policy.replacesType (rest.length + 4) = true ∨ first = type.byte) :
    policy.restore (first :: a :: b :: c :: rest) =
      some (type, type.byte :: 0 :: 0 :: 0 :: rest) := by
  have recognised : policy.recognise (first :: a :: b :: c :: rest) = some type := by
    rw [recognise_eq_some_iff, List.head?_cons, Option.some_inj]
    exact ⟨fits, known⟩
  rw [restore, recognised]
  rfl

/-- A genuine packet without reserved octets starts with the octet of its kind and three zeros. -/
theorem eq_cons_of_classify (genuine : classify packet = some type)
    (unreserved : (packet.drop 1).take 3 = [0, 0, 0]) :
    ∃ rest, packet = type.byte :: 0 :: 0 :: 0 :: rest ∧
      type.sizeMatches (rest.length + 4) = true := by
  obtain ⟨first, fits⟩ := classify_eq_some_iff.mp genuine
  match packet with
  | [] => cases first
  | byte :: a :: b :: c :: rest =>
    cases Option.some.inj first
    simp only [List.drop_one, List.tail_cons, List.take_succ_cons, List.take_zero,
      List.cons.injEq, and_true] at unreserved
    obtain ⟨rfl, rfl, rfl⟩ := unreserved
    exact ⟨rest, rfl, fits⟩
  | [_] => cases unreserved
  | [_, _] => cases unreserved
  | [_, _, _] => cases unreserved

/-- A disguised genuine packet is restored. -/
theorem restore_of_genuine (reserved : Reserved) (entropy : Entropy)
    (genuine : classify packet = some type)
    (unreserved : (packet.drop 1).take 3 = [0, 0, 0]) :
    policy.restore (policy.disguise reserved packet entropy).1 = some (type, packet) := by
  obtain ⟨rest, rfl, fits⟩ := eq_cons_of_classify genuine unreserved
  have known : policy.replacesType (rest.length + 4) = true ∨
      policy.sentByte (rest.length + 4) type.byte entropy = type.byte := by
    by_cases replaced : policy.replacesType (rest.length + 4) = true
    · exact .inl replaced
    · exact .inr (if_neg replaced)
  rw [disguise_cons]
  exact restore_cons _ _ _ _ rest fits known

/-- Restoring undoes a disguise. A genuine packet that is disguised with whatever reserved octets
and whatever first octet is drawn comes back as it was, and is taken for what it is; under the
disguise it has its size and differs from itself in the first four octets at most. -/
theorem restore_disguise (policy : Policy) (reserved : Reserved) (entropy : Entropy)
    (genuine : classify packet = some type)
    (unreserved : (packet.drop 1).take 3 = [0, 0, 0]) :
    policy.restore (policy.disguise reserved packet entropy).1 = some (type, packet) ∧
      (policy.disguise reserved packet entropy).1.length = packet.length ∧
      (policy.disguise reserved packet entropy).1.drop 4 = packet.drop 4 := by
  refine ⟨restore_of_genuine reserved entropy genuine unreserved, ?_⟩
  obtain ⟨rest, rfl, -⟩ := eq_cons_of_classify genuine unreserved
  rw [disguise_cons]
  exact ⟨rfl, rfl⟩

/-- A transport message of 96 octets whose type octet is replaced by that of a response. -/
theorem restore_disguise_transport :
    let policy : Policy := ⟨.fixed 0, .fixed 0, .fixed 0, .custom [2] true⟩
    let packet : Bytes := 4 :: List.replicate 95 0
    classify packet = some .transport ∧ (packet.drop 1).take 3 = [0, 0, 0] ∧
      (policy.disguise ⟨7, 8, 9⟩ packet ⟨id, 0⟩).1.take 4 = [2, 7, 8, 9] ∧
      policy.restore (policy.disguise ⟨7, 8, 9⟩ packet ⟨id, 0⟩).1 = some (.transport, packet) :=
  ⟨by decide, by decide, by decide, (restore_disguise _ _ _ (by decide) (by decide)).1⟩

end Policy

end Outbound.WireGuard
