import Mathlib.Data.List.GetD
import Mathlib.Tactic.Push
import Outbound.Range

/-!
# Draws

What is drawn from a range is a member of it, one word or none for each draw. Every member of a
range, every string of octets and every octet of a pool is drawn from some sequence of words, and a
sequence may go on with another one after so many words; so whatever can be drawn by itself can be
drawn before anything else.
-/
namespace Outbound

/-! ## Members drawn one after another -/

/-- So many members of a range, drawn one after another. -/
def Range.draws (range : Range) : Nat → Entropy → List Nat × Entropy
  | 0, entropy => ([], entropy)
  | count + 1, entropy =>
    let (first, entropy) := range.draw entropy
    let (others, entropy) := range.draws count entropy
    (first :: others, entropy)

/-- As many are drawn as are asked for. -/
@[simp] theorem Range.length_draws (range : Range) (count : Nat) (entropy : Entropy) :
    (range.draws count entropy).1.length = count := by
  induction count generalizing entropy with
  | zero => rfl
  | succ count ih => exact congrArg (· + 1) (ih (range.draw entropy).2)

/-- Each of them is a member. -/
theorem Range.mem_of_draws (range : Range) (count : Nat) (entropy : Entropy) :
    ∀ drawn ∈ (range.draws count entropy).1,
      range.min.toNat ≤ drawn ∧ drawn ≤ range.max.toNat := by
  induction count generalizing entropy with
  | zero => exact fun drawn mem => by cases mem
  | succ count ih =>
    exact List.forall_mem_cons.mpr ⟨range.draw_mem entropy, ih (range.draw entropy).2⟩

/-- A range that holds no number but zero gives zero, and takes no word. -/
theorem Range.draw_of_isZero {range : Range} (zero : range.isZero = true) (entropy : Entropy) :
    range.draw entropy = (0, entropy) := by
  have most : range.max.toNat = 0 := by
    rw [isZero, beq_iff_eq] at zero
    rw [zero]
    rfl
  have least : range.min.toNat = 0 := by
    have ordered := UInt64.le_iff_toNat_le.mp range.ordered
    omega
  rw [draw, most, least, Entropy.between_self]

/-! ## What can be drawn -/

/-- The sequence of some words, and zeros after them. -/
def Entropy.ofWords (words : List Nat) (used : Nat) : Entropy where
  word place := words.getD place 0
  used := used

/-- Every member of a range can be drawn: by a first word, or by none. -/
theorem Range.exists_draw (range : Range) {value : Nat} (least : range.min.toNat ≤ value)
    (greatest : value ≤ range.max.toNat) :
    ∃ first : List Nat, ∀ words,
      range.draw (.ofWords (first ++ words) 0) = (value, .ofWords (first ++ words) first.length) := by
  by_cases single : range.max.toNat ≤ range.min.toNat
  · refine ⟨[], fun words => ?_⟩
    rw [draw, Entropy.between, if_pos single, show range.min.toNat = value by omega]
    rfl
  · refine ⟨[value - range.min.toNat], fun words => ?_⟩
    have small : value - range.min.toNat < range.max.toNat - range.min.toNat + 1 := by omega
    have drawn : range.min.toNat + (value - range.min.toNat) = value := by omega
    rw [draw, Entropy.between, if_neg single]
    simp only [Entropy.next, Entropy.ofWords, List.singleton_append, List.getD_cons_zero,
      Nat.mod_eq_of_lt small, drawn, Nat.zero_add, List.length_singleton]

/-- Every string of octets can be drawn. -/
theorem Entropy.bytes_ofWords (first : List Nat) (body : Bytes) (words : List Nat) :
    (Entropy.ofWords (first ++ (body.map UInt8.toNat ++ words)) first.length).bytes body.length =
      (body, .ofWords (first ++ (body.map UInt8.toNat ++ words)) (first.length + body.length)) := by
  have drawn : (List.range body.length).map (fun place => UInt8.ofNat
      ((first ++ (body.map UInt8.toNat ++ words)).getD (first.length + place) 0)) = body := by
    apply List.ext_getElem
    · rw [List.length_map, List.length_range]
    · intro place _ bound
      have within : place < (body.map UInt8.toNat).length := by rwa [List.length_map]
      rw [List.getElem_map, List.getElem_range, List.getD_append_right _ _ _ _ (by omega),
        Nat.add_sub_cancel_left, List.getD_append _ _ _ _ within, List.getD_eq_getElem _ _ within,
        List.getElem_map, UInt8.ofNat_toNat]
  exact Prod.ext drawn rfl

/-- Every octet of a pool can be picked, and any octet if the pool is empty. -/
theorem Entropy.exists_pick {pool : Bytes} {octet : UInt8} (allowed : pool = [] ∨ octet ∈ pool) :
    ∃ choice, ∀ entropy : Entropy, entropy.word entropy.used = choice →
      (entropy.pick pool).1 = octet := by
  obtain rfl | mem := allowed
  · refine ⟨octet.toNat, fun entropy chosen => ?_⟩
    rw [pick, List.getElem?_nil]
    simp only [byte, next, chosen, UInt8.ofNat_toNat]
  · obtain ⟨place, bound, rfl⟩ := List.getElem_of_mem mem
    refine ⟨place, fun entropy chosen => ?_⟩
    simp only [pick, next, chosen, Nat.mod_eq_of_lt bound, List.getElem?_eq_getElem bound]

/-! ## Sequences that agree -/

/-- Two sequences have the same words ahead, as far as the first one is read up to `stop`. -/
def Entropy.Agree (stop : Nat) (one two : Entropy) : Prop :=
  ∀ ahead, one.used + ahead < stop → two.word (two.used + ahead) = one.word (one.used + ahead)

/-- A draw takes one word or none. -/
theorem Range.used_draw (range : Range) (entropy : Entropy) :
    (range.draw entropy).2.used =
      entropy.used + if range.max.toNat ≤ range.min.toNat then 0 else 1 := by
  rw [draw, Entropy.between]
  split
  · rfl
  · rfl

/-- The next `count` words of one sequence, and after them those of another. -/
def Entropy.follow (count : Nat) (one two : Entropy) : Entropy where
  word place :=
    if place < count then one.word (one.used + place) else two.word (two.used + (place - count))

/-- The words of the first sequence come first. -/
theorem Entropy.word_follow_front {count place : Nat} (one two : Entropy) (within : place < count) :
    (follow count one two).word place = one.word (one.used + place) :=
  if_pos within

/-- The words of the second sequence come after them. -/
theorem Entropy.word_follow_back (count place : Nat) (one two : Entropy) :
    (follow count one two).word (count + place) = two.word (two.used + place) := by
  have beyond : ¬ count + place < count := by omega
  have left : count + place - count = place := by omega
  simp only [follow, if_neg beyond, left]

/-- Every value of an interval can be drawn: by one word, or by none if there is no other value. -/
theorem Entropy.exists_between {low high value : Nat} (least : low ≤ value)
    (greatest : value ≤ high) :
    ∃ count word, ∀ later, between low high (follow count ⟨fun _ => word, 0⟩ later) =
      (value, { follow count ⟨fun _ => word, 0⟩ later with used := count }) := by
  by_cases single : high ≤ low
  · have only : value = low := by omega
    refine ⟨0, 0, fun later => ?_⟩
    rw [between, if_pos single, only]
    rfl
  · have small : value - low < high - low + 1 := by omega
    have drawn : low + (value - low) = value := by omega
    refine ⟨1, value - low, fun later => ?_⟩
    have word : (follow 1 ⟨fun _ => value - low, 0⟩ later).word 0 = value - low :=
      word_follow_front _ _ Nat.one_pos
    have start : (follow 1 ⟨fun _ => value - low, 0⟩ later).used = 0 := rfl
    simp only [between, if_neg single, next, start, word, Nat.mod_eq_of_lt small, drawn]

/-- Sequences that agree on the words of a draw give the same draw, and go on as far. -/
theorem Range.draw_of_agree (range : Range) {one two : Entropy}
    (agree : Entropy.Agree (range.draw one).2.used one two) :
    (range.draw two).1 = (range.draw one).1 ∧
      (range.draw two).2.used + one.used = two.used + (range.draw one).2.used := by
  have taken := range.used_draw one
  have takenToo := range.used_draw two
  refine ⟨?_, by omega⟩
  by_cases single : range.max.toNat ≤ range.min.toNat
  · simp only [draw, Entropy.between, if_pos single]
  · rw [if_neg single] at taken
    have word : two.word two.used = one.word one.used := agree 0 (by omega)
    simp only [draw, Entropy.between, if_neg single, Entropy.next, word]

end Outbound
