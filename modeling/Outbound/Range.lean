import Outbound.Decimal
import Outbound.Entropy
import Outbound.Error

/-!
# Ranges of numbers

A range is an interval of machine words, ends included, written `N` when it holds one number
and `N-M` otherwise. `Range.parse` accepts exactly the texts of that form and names the first
fault of any other.
-/
namespace Outbound

/-- An interval of words, ends included. -/
structure Range where
  /-- The least member. -/
  min : UInt64
  /-- The greatest member. -/
  max : UInt64
  /-- No range is empty. -/
  ordered : min ≤ max
  deriving DecidableEq

/-- Why a text is no range. -/
inductive RangeFault where
  /-- The text is empty. -/
  | empty
  /-- A bound is not a string of digits. -/
  | notNumber (bound : String)
  /-- A bound does not fit in a word. -/
  | tooLarge (bound : String)
  /-- A second separator follows the second bound. -/
  | extraPart
  /-- The upper bound is below the lower one. -/
  | inverted (min max : UInt64)
  deriving DecidableEq

/-- The wording of a fault. -/
def RangeFault.message : RangeFault → String
  | empty => "empty input"
  | notNumber bound => s!"'{bound}' is not a non-negative integer"
  | tooLarge bound => s!"'{bound}': number too large to fit in target type"
  | extraPart => "expected \"N\" or \"N-M\""
  | inverted min max =>
    s!"upper bound value ({max}) must be greater than or equal to lower bound value ({min})"

namespace Range

/-- The range that holds one number. -/
def fixed (value : UInt64) : Range := ⟨value, value, UInt64.le_refl value⟩

instance : Inhabited Range := ⟨fixed 0⟩

/-- The range between two bounds, unless they are the wrong way round. -/
def between (min max : UInt64) : Except RangeFault Range :=
  if h : min ≤ max then .ok ⟨min, max, h⟩ else .error (.inverted min max)

/-- The range between two bounds given in either order. -/
def ofBounds (a b : UInt64) : Range :=
  if h : a ≤ b then ⟨a, b, h⟩ else ⟨b, a, (UInt64.le_total a b).resolve_left h⟩

/-- The text of a pair of bounds. -/
def boundsText (min max : UInt64) : String :=
  Decimal.text min.toNat ++ "-" ++ Decimal.text max.toNat

/-- The range between two bounds; the error quotes them in the form of a range. -/
def new (min max : UInt64) : Except Error Range :=
  (between min max).mapError fun fault => .invalidRange (boundsText min max) fault.message

/-- The text of a range. -/
def text (range : Range) : String :=
  if range.min = range.max then Decimal.text range.min.toNat
  else boundsText range.min range.max

/-- A bound: digits whose value fits in a word. -/
def readBound (bound : List Char) : Except RangeFault UInt64 :=
  if bound.isEmpty || bound.any (fun c => !decide (Decimal.IsDigit c)) then
    .error (.notNumber (String.ofList bound))
  else if Decimal.value bound < UInt64.size then .ok (UInt64.ofNat (Decimal.value bound))
  else .error (.tooLarge (String.ofList bound))

/-- Whether a character belongs to the bound it is met in. -/
def inBound (c : Char) : Bool := c != '-'

/-- A range from its characters. The first bound is checked before the second, both before a
part too many, and their order last. -/
def read (characters : List Char) : Except RangeFault Range :=
  if characters = [] then .error .empty
  else do
    let min ← readBound (characters.takeWhile inBound)
    match characters.dropWhile inBound with
    | [] => .ok (fixed min)
    | _ :: others =>
      let max ← readBound (others.takeWhile inBound)
      if others.dropWhile inBound = [] then between min max else .error .extraPart

/-- A range from its text. The error quotes the whole text. -/
def parse (text : String) : Except Error Range :=
  (read text.toList).mapError fun fault => .invalidRange text fault.message

/-- Whether a range holds no number but zero. -/
def isZero (range : Range) : Bool := range.max == 0

/-- Whether a range holds a number. -/
def contains (range : Range) (value : UInt64) : Bool :=
  decide (range.min ≤ value ∧ value ≤ range.max)

/-- A member of a range. A range of one number draws nothing. -/
def draw (range : Range) (entropy : Entropy) : Nat × Entropy :=
  entropy.between range.min.toNat range.max.toNat

/-- A draw is a member. -/
theorem draw_mem (range : Range) (entropy : Entropy) :
    range.min.toNat ≤ (range.draw entropy).1 ∧ (range.draw entropy).1 ≤ range.max.toNat :=
  Entropy.between_mem (UInt64.le_iff_toNat_le.mp range.ordered) entropy

end Range

end Outbound
