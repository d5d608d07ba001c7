import Outbound.Bytes
import Outbound.Tls.Span

/-!
# Slices and tilings

The octets of a span, and what a tiling makes of a buffer: its spans lie in the stretch they
tile, their octets in order are the octets of the stretch, and every place of the stretch
belongs to one of them.
-/
namespace Outbound.Tls.Span

/-- The octets of a span. -/
def slice (span : Span) (bytes : Bytes) : Bytes := (bytes.drop span.start).take span.length

/-- The places of some octets that start at `start`. -/
def covering (start : Nat) (bytes : Bytes) : Span := ⟨start, start + bytes.length⟩

/-- Whether two spans share a place. -/
def meets (span other : Span) : Bool :=
  decide (span.start < other.stop ∧ other.start < span.stop)

/-- The octets in the places that some octets take up are those octets. -/
theorem slice_covering (front bytes back : Bytes) :
    (covering front.length bytes).slice (front ++ (bytes ++ back)) = bytes := by
  simp [slice, covering, length]

/-- A span that lies in a buffer has as many octets as places. -/
theorem length_slice {span : Span} {bytes : Bytes} (inside : span.stop ≤ bytes.length) :
    (span.slice bytes).length = span.length := by
  simp only [slice, length, List.length_take, List.length_drop]
  omega

/-- The octets of a span are those of its two halves. -/
theorem slice_split (bytes : Bytes) {start middle stop : Nat} (first : start ≤ middle)
    (second : middle ≤ stop) :
    (mk start stop).slice bytes =
      (mk start middle).slice bytes ++ (mk middle stop).slice bytes := by
  have total : stop - start = (middle - start) + (stop - middle) := by omega
  have place : middle = start + (middle - start) := by omega
  simp only [slice, length]
  rw [total, List.take_add, List.drop_drop, ← place]

/-- The spans of a tiling lie in the stretch and are not empty. -/
theorem bounds_of_mem_tile {start stop : Nat} {spans : List Span}
    (tiled : tile start stop spans = true) {span : Span} (mem : span ∈ spans) :
    start ≤ span.start ∧ span.start < span.stop ∧ span.stop ≤ stop := by
  induction spans generalizing start with
  | nil => cases mem
  | cons head spans ih =>
    obtain ⟨first, nonempty, rest⟩ := tile_cons.mp tiled
    have later := le_of_tile rest
    rcases List.mem_cons.mp mem with rfl | mem
    · omega
    · have := ih rest mem
      omega

/-- The octets of the spans of a tiling, in order, are the octets of the stretch. -/
theorem flatten_slices {start stop : Nat} {spans : List Span} (bytes : Bytes)
    (tiled : tile start stop spans = true) :
    (spans.map fun span => span.slice bytes).flatten = (mk start stop).slice bytes := by
  induction spans generalizing start with
  | nil =>
    have same : start = stop := by simpa [tile] using tiled
    simp [slice, length, same]
  | cons span spans ih =>
    obtain ⟨first, nonempty, rest⟩ := tile_cons.mp tiled
    rw [List.map_cons, List.flatten_cons, ih rest, ← first,
      slice_split bytes (Nat.le_of_lt nonempty) (le_of_tile rest)]

/-- The whole of a buffer is its own slice. -/
theorem slice_whole (bytes : Bytes) : (mk 0 bytes.length).slice bytes = bytes := by
  simp [slice, length]

/-- A stretch that is not empty is tiled by at least one span. -/
theorem ne_nil_of_tile {start stop : Nat} {spans : List Span} (nonempty : start < stop)
    (tiled : tile start stop spans = true) : spans ≠ [] := by
  rintro rfl
  have same : start = stop := by simpa [tile] using tiled
  omega

/-- Spans in front of a stretch share no place with it. -/
theorem filter_meets_before {start : Nat} {spans : List Span} {name : Span}
    (tiled : tile start name.start spans = true) : spans.filter (·.meets name) = [] := by
  apply List.filter_eq_nil_iff.mpr
  intro span mem
  have := bounds_of_mem_tile tiled mem
  simp only [meets, decide_eq_true_eq]
  omega

/-- Spans behind a stretch share no place with it. -/
theorem filter_meets_after {stop : Nat} {spans : List Span} {name : Span}
    (tiled : tile name.stop stop spans = true) : spans.filter (·.meets name) = [] := by
  apply List.filter_eq_nil_iff.mpr
  intro span mem
  have := bounds_of_mem_tile tiled mem
  simp only [meets, decide_eq_true_eq]
  omega

end Outbound.Tls.Span
