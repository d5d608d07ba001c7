import Outbound.Bytes

/-!
# Random outcomes

Everything random is drawn from a sequence of words that is fixed beforehand and counted as it
is used. A function of an `Entropy` is therefore a function of the outcome, and a statement
about every random outcome is a statement about every sequence of words.
-/
namespace Outbound

/-- A sequence of random words and how many of them are spent. -/
structure Entropy where
  /-- The word drawn at each place. -/
  word : Nat → Nat
  /-- Words drawn so far. -/
  used : Nat := 0

namespace Entropy

/-- The sequence of a seed, for a program that has no better source: seed and place are mixed
into words that look unrelated. -/
def ofSeed (seed : Nat) : Entropy where
  word place :=
    let state : UInt64 :=
      (UInt64.ofNat seed * 1000003 + UInt64.ofNat place + 1) * 0x9E3779B97F4A7C15
    let state := (state ^^^ (state >>> 30)) * 0xBF58476D1CE4E5B9
    let state := (state ^^^ (state >>> 27)) * 0x94D049BB133111EB
    ((state ^^^ (state >>> 31)) >>> 2).toNat

/-- The next word and what is left. -/
def next (entropy : Entropy) : Nat × Entropy :=
  (entropy.word entropy.used, { entropy with used := entropy.used + 1 })

/-- A value of the interval from `low` to `high`, ends included. An interval of one value is
settled without a draw; any other takes exactly one word. -/
def between (low high : Nat) (entropy : Entropy) : Nat × Entropy :=
  if high ≤ low then (low, entropy)
  else (low + entropy.next.1 % (high - low + 1), entropy.next.2)

/-- One octet. -/
def byte (entropy : Entropy) : UInt8 × Entropy :=
  (UInt8.ofNat entropy.next.1, entropy.next.2)

/-- A string of `count` octets. -/
def bytes (count : Nat) (entropy : Entropy) : Bytes × Entropy :=
  ((List.range count).map fun place => UInt8.ofNat (entropy.word (entropy.used + place)),
    { entropy with used := entropy.used + count })

/-- Two sequences that share no word: every other one of what is left. -/
def split (entropy : Entropy) : Entropy × Entropy :=
  ({ word := fun place => entropy.word (entropy.used + 2 * place) },
    { word := fun place => entropy.word (entropy.used + 2 * place + 1) })

/-- A fair coin. -/
def coin (entropy : Entropy) : Bool × Entropy :=
  (entropy.next.1 % 2 == 1, entropy.next.2)

/-- One octet of a pool, or any octet when the pool is empty. -/
def pick (pool : Bytes) (entropy : Entropy) : UInt8 × Entropy :=
  match pool[entropy.next.1 % pool.length]? with
  | some byte => (byte, entropy.next.2)
  | none => entropy.byte

/-- A draw lies in its interval. -/
theorem between_mem {low high : Nat} (ordered : low ≤ high) (entropy : Entropy) :
    low ≤ (entropy.between low high).1 ∧ (entropy.between low high).1 ≤ high := by
  unfold between
  split
  · exact ⟨Nat.le_refl _, ordered⟩
  · have := Nat.mod_lt entropy.next.1 (show 0 < high - low + 1 by omega)
    simp only
    omega

/-- An interval of one value draws nothing. -/
theorem between_self (value : Nat) (entropy : Entropy) :
    entropy.between value value = (value, entropy) := by
  simp [between]

/-- A string drawn has the length asked for. -/
@[simp] theorem length_bytes (count : Nat) (entropy : Entropy) :
    (entropy.bytes count).1.length = count := by
  simp [bytes]

/-- An octet picked from a pool that has any is one of them. -/
theorem pick_mem {pool : Bytes} (h : pool ≠ []) (entropy : Entropy) :
    (entropy.pick pool).1 ∈ pool := by
  have bound : entropy.next.1 % pool.length < pool.length :=
    Nat.mod_lt _ (List.length_pos_iff.mpr h)
  simp [pick, List.getElem?_eq_getElem bound]

end Entropy

end Outbound
