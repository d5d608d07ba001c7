import Outbound.Proofs.Tls.Span
import Outbound.Tls.Plan

/-!
# What a plan cuts

The chunks of a plan tile the message, whatever is drawn. A host name that can be cut gives a
plan in three stretches: the chunks before the name, its two pieces, and the chunks after it.
Any other plan is the general division of the whole message.
-/
namespace Outbound.Tls

namespace Plan

variable {length start stop : Nat} {name : Span}

/-- Dividing a stretch adds spans that tile it. -/
theorem exists_tile_divide (size : Range) (chunks : Array Span) (entropy : Entropy)
    (ordered : start ≤ stop) :
    ∃ spans, (divide size start stop chunks entropy).1.toList = chunks.toList ++ spans ∧
      Span.tile start stop spans = true := by
  fun_induction divide size start stop chunks entropy with
  | case1 start chunks entropy more drawn entropy' _ next ih =>
    have forwards : start < next ∧ next ≤ stop := by omega
    obtain ⟨spans, divided, tiled⟩ := ih forwards.2
    refine ⟨⟨start, next⟩ :: spans, ?_, Span.tile_cons.mpr ⟨rfl, forwards.1, tiled⟩⟩
    rw [divided, Array.toList_push, List.append_assoc, List.singleton_append]
  | case2 start chunks entropy done =>
    refine ⟨[], (List.append_nil _).symm, ?_⟩
    simp only [Span.tile, beq_iff_eq]
    omega

/-- A plan without a host name to cut is the general division of the message. -/
theorem chunks_of_uncuttable {found : Option Span} (size : Range) (entropy : Entropy)
    (uncuttable : cuttable length found = none) :
    chunks length size found entropy = divide size 0 length #[] entropy := by
  rw [chunks, uncuttable]

/-- A host name that can be cut lies in the message and has at least two octets. -/
theorem cuttable_eq_some {found : Option Span} (cut : cuttable length found = some name) :
    found = some name ∧ name.stop ≤ length ∧ 2 ≤ name.length := by
  obtain ⟨same, long⟩ := Option.filter_eq_some_iff.mp cut
  exact ⟨same, of_decide_eq_true long⟩

/-- A plan with a host name to cut has the two pieces of the name between chunks that tile what
is before it and chunks that tile what is after it. -/
theorem chunks_of_cuttable {found : Option Span} (size : Range) (entropy : Entropy)
    (cuttable : cuttable length found = some name) :
    ∃ before cut after, (chunks length size found entropy).1.toList =
        before ++ ([⟨name.start, cut⟩, ⟨cut, name.stop⟩] ++ after) ∧
      name.start < cut ∧ cut < name.stop ∧
      Span.tile 0 name.start before = true ∧ Span.tile name.stop length after = true := by
  obtain ⟨-, inside, long⟩ := cuttable_eq_some cuttable
  rw [Span.length] at long
  rw [chunks, cuttable]
  obtain ⟨cut, cutEntropy, drawn⟩ :
      ∃ cut left, entropy.between (name.start + 1) (name.stop - 1) = (cut, left) := ⟨_, _, rfl⟩
  have bounds := Entropy.between_mem (show name.start + 1 ≤ name.stop - 1 by omega) entropy
  rw [drawn] at bounds
  obtain ⟨before, beforeDivided, beforeTiled⟩ :=
    exists_tile_divide size #[] cutEntropy (Nat.zero_le name.start)
  obtain ⟨after, afterDivided, afterTiled⟩ := exists_tile_divide size
    (((divide size 0 name.start #[] cutEntropy).1.push ⟨name.start, cut⟩).push ⟨cut, name.stop⟩)
    (divide size 0 name.start #[] cutEntropy).2 inside
  refine ⟨before, cut, after, ?_, by omega, by omega, beforeTiled, afterTiled⟩
  simp only [drawn, afterDivided, Array.toList_push, beforeDivided, List.nil_append,
    List.append_assoc, List.cons_append]

/-- The chunks of a plan tile the message. -/
theorem tile_chunks (length : Nat) (size : Range) (found : Option Span) (entropy : Entropy) :
    Span.tile 0 length (chunks length size found entropy).1.toList = true := by
  cases cut : cuttable length found with
  | none =>
    obtain ⟨spans, divided, tiled⟩ := exists_tile_divide size #[] entropy (Nat.zero_le length)
    rw [chunks_of_uncuttable size entropy cut, divided]
    exact tiled
  | some name =>
    obtain ⟨before, middle, after, planned, first, second, beforeTiled, afterTiled⟩ :=
      chunks_of_cuttable size entropy cut
    rw [planned]
    have pieces : Span.tile name.start name.stop [⟨name.start, middle⟩, ⟨middle, name.stop⟩] =
        true := by
      simp [Span.tile, first, second]
    exact Span.tile_append beforeTiled (Span.tile_append pieces afterTiled)

/-- The records of a plan carry the octets of its chunks. -/
theorem toList_records (header : RecordHeader) (body : Bytes) (chunks : Array Span) :
    (records header body chunks).toList =
      chunks.toList.map fun chunk => record header (chunk.slice body) := by
  simp [records, Span.slice, Span.length, Array.toList_map]

end Plan

end Outbound.Tls
