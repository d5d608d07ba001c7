/-!
# Spans

A span is a stretch of places in a buffer, from `start` up to and without `stop`. Spans `tile` a
longer stretch when they follow one another through it without a gap.
-/
namespace Outbound.Tls

/-- Places from `start` up to and without `stop`. -/
structure Span where
  /-- The first place. -/
  start : Nat
  /-- The place after the last. -/
  stop : Nat
  deriving DecidableEq, Inhabited

namespace Span

/-- How many places a span has. -/
def length (span : Span) : Nat := span.stop - span.start

/-- Whether spans follow one another without a gap from `start` up to `stop`, and none is
empty. -/
def tile : Nat → Nat → List Span → Bool
  | start, stop, [] => start == stop
  | start, stop, span :: spans =>
    span.start == start && span.start < span.stop && tile span.stop stop spans

/-- One more span at the front. -/
theorem tile_cons {start stop : Nat} {span : Span} {spans : List Span} :
    tile start stop (span :: spans) = true ↔
      span.start = start ∧ span.start < span.stop ∧ tile span.stop stop spans = true := by
  simp [tile, and_assoc]

/-- Spans that tile a stretch and spans that tile the next one tile both. -/
theorem tile_append {start middle stop : Nat} {front back : List Span}
    (h : tile start middle front = true) (h' : tile middle stop back = true) :
    tile start stop (front ++ back) = true := by
  induction front generalizing start with
  | nil =>
    have : start = middle := by simpa [tile] using h
    exact this ▸ h'
  | cons span spans ih =>
    obtain ⟨first, nonempty, rest⟩ := tile_cons.mp h
    exact tile_cons.mpr ⟨first, nonempty, ih rest⟩

/-- Spans tile forwards only. -/
theorem le_of_tile {start stop : Nat} {spans : List Span} (h : tile start stop spans = true) :
    start ≤ stop := by
  induction spans generalizing start with
  | nil =>
    have : start = stop := by simpa [tile] using h
    omega
  | cons span spans ih =>
    obtain ⟨first, nonempty, rest⟩ := tile_cons.mp h
    have := ih rest
    omega

end Span

end Outbound.Tls
