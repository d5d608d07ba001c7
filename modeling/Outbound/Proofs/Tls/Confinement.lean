import Outbound.Proofs.Tls.Cursor
import Outbound.Proofs.Tls.Window

/-!
# The search stays in its message

A ClientHello declares how long it is, and the search for its host name keeps to that: what stands
behind the message makes no difference to what is found, faults and places included, and as long as
the message is not all there, it is told to be cut short. Walked by places, the search reads no place
that the buffer does not have, and comes to an end.
-/
namespace Outbound.Tls.ServerName

/-- A buffer starts with a ClientHello of the length declared in it, and has all of it. -/
inductive Declares : Bytes → Nat → Prop where
  /-- The octets after the header are enough. -/
  | whole (high middle low : UInt8) (rest : Bytes)
      (enough : Bytes.word24 high middle low ≤ rest.length) :
      Declares (clientHelloType :: high :: middle :: low :: rest) (Bytes.word24 high middle low)

/-- Behind a header only the octets that it counts are searched, if they are there. -/
theorem locate_of_counted {octets rest : Bytes} {length : Nat}
    (counted : (Window.mk 1 octets).word24 .handshakeLength = .ok (length, ⟨4, rest⟩)) :
    locate (clientHelloType :: octets) =
      if rest.length < length then
        .error (.truncated .handshakeBody 4 length rest.length)
      else inMessage ⟨4, rest.take length⟩ := by
  simp only [locate, Window.word8_cons, counted, bind, Except.bind, ne_eq, not_true_eq_false,
    if_false, Nat.zero_add, Window.part]
  by_cases short : rest.length < length
  · rw [if_pos short, if_pos short]
    rfl
  · rw [if_neg short, if_neg short]

/-- Behind the header of a ClientHello only the octets declared are searched, if they are there. -/
theorem locate_header (high middle low : UInt8) (rest : Bytes) :
    locate (clientHelloType :: high :: middle :: low :: rest) =
      if rest.length < Bytes.word24 high middle low then
        .error (.truncated .handshakeBody 4 (Bytes.word24 high middle low) rest.length)
      else inMessage ⟨4, rest.take (Bytes.word24 high middle low)⟩ :=
  locate_of_counted rfl

variable {body : Bytes} {length : Nat}

/-- A message without what stands behind it is all there. -/
theorem declares_take (declares : Declares body length) :
    Declares (body.take (4 + length)) length := by
  obtain ⟨high, middle, low, rest, enough⟩ := declares
  have front : ∀ count, (clientHelloType :: high :: middle :: low :: rest).take (4 + count) =
      clientHelloType :: high :: middle :: low :: rest.take count := by
    intro count
    rw [Nat.add_comm]
    rfl
  rw [front]
  exact .whole high middle low _ (Nat.le_of_eq (List.length_take_of_le enough).symm)

/-- What stands behind a message makes no difference. -/
theorem locate_append (declares : Declares body length) (more : Bytes) :
    locate (body ++ more) = locate body := by
  obtain ⟨high, middle, low, rest, enough⟩ := declares
  show locate (clientHelloType :: high :: middle :: low :: (rest ++ more)) = _
  have longer : (rest ++ more).length = rest.length + more.length := List.length_append
  rw [locate_header, locate_header, if_neg (by omega), if_neg (by omega),
    List.take_append_of_le_length enough]

/-- A message is told to be cut short, with all its octets counted, as long as it is not all there. -/
theorem exists_truncated_of_take (declares : Declares body length) {count : Nat}
    (short : count < 4 + length) :
    ∃ field offset needed available,
      locate (body.take count) = .error (.truncated field offset needed available) ∧
        offset + available = count := by
  obtain ⟨high, middle, low, rest, enough⟩ := declares
  rcases count with _ | _ | _ | _ | count
  · exact ⟨.handshakeType, 0, 1, 0, rfl, rfl⟩
  · exact ⟨.handshakeLength, 1, 3, 0, rfl, rfl⟩
  · exact ⟨.handshakeLength, 1, 3, 1, rfl, rfl⟩
  · exact ⟨.handshakeLength, 1, 3, 2, rfl, rfl⟩
  · have front : (rest.take count).length = count := List.length_take_of_le (by omega)
    refine ⟨.handshakeBody, 4, Bytes.word24 high middle low, count, ?_, Nat.add_comm 4 count⟩
    show locate (clientHelloType :: high :: middle :: low :: rest.take count) = _
    rw [locate_header, if_pos (by omega), front]

/-- The search for the host name comes to an end, is right about what is cut short, and reads nothing
outside the message. On every buffer a walk by places neither goes astray nor needs more rounds than
there are octets and one, and ends as the search does. A part is told to be cut short only if it
needs more than is there, and what is there lies in the buffer. Where a ClientHello is all there,
whatever is put behind it changes nothing, nor does leaving out what stood there; and any buffer that
ends before the ClientHello does is told to be cut short, with all its octets counted. -/
theorem locate_confined (body : Bytes) :
    (∀ rounds, body.length < rounds → walk body rounds = (locate body).mapError .fault) ∧
    (∀ field offset needed available,
      locate body = .error (.truncated field offset needed available) →
        available < needed ∧ offset + available ≤ body.length) ∧
    ∀ length, Declares body length →
      (∀ more, locate (body ++ more) = locate body) ∧
      locate (body.take (4 + length)) = locate body ∧
      ∀ count < 4 + length, ∃ field offset needed available,
        locate (body.take count) = .error (.truncated field offset needed available) ∧
          offset + available = count := by
  refine ⟨fun rounds allowed => (agrees_walk allowed).eq_mapError, ?_, ?_⟩
  · intro field offset needed available failed
    exact (agrees_walk (Nat.lt_succ_self _)).accurate failed
  · intro length declares
    refine ⟨locate_append declares, ?_, fun count short => exists_truncated_of_take declares short⟩
    have whole := locate_append (declares_take declares) (body.drop (4 + length))
    rw [List.take_append_drop] at whole
    exact whole.symm

/-- A ClientHello that is cut short by its own length, with an octet behind it that would fit, is
told to be so whatever else follows. -/
theorem locate_confined_shortHello :
    Declares [1, 0, 0, 2, 3, 3, 0] 2 ∧
      ∀ more, locate ([1, 0, 0, 2, 3, 3, 0] ++ more) = .error (.truncated .random 6 32 0) := by
  have declares : Declares [1, 0, 0, 2, 3, 3, 0] 2 := .whole 0 0 2 [3, 3, 0] (by decide)
  have searched : locate [1, 0, 0, 2, 3, 3, 0] = inMessage ⟨4, [3, 3]⟩ :=
    (locate_header 0 0 2 [3, 3, 0]).trans (if_neg (by decide))
  refine ⟨declares, fun more => ?_⟩
  rw [((locate_confined [1, 0, 0, 2, 3, 3, 0]).2.2 2 declares).1 more, searched]
  rfl

end Outbound.Tls.ServerName
