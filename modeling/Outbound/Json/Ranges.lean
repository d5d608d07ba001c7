import Outbound.Json.Codec
import Outbound.Range

/-!
# Ranges in JSON

A range stands in a document as the string of its text.
-/
namespace Outbound.Range

/-- Why a document holds no range. -/
inductive DocumentFault where
  /-- It is not one string. -/
  | notText
  /-- The string it starts with spells no range. -/
  | notRange
  deriving DecidableEq

/-- The document of a range. -/
def toDocument (range : Range) : String := (Json.Value.text range.text).render

/-- The range of a document. Whether the string spells a range is decided before what follows
it is looked at. -/
def ofDocument (document : String) : Except DocumentFault Range :=
  match Json.readFirst document.toList with
  | some (.string (some content), rest) =>
    match parse content with
    | .error _ => .error .notRange
    | .ok range => if Json.Reader.skip rest = [] then .ok range else .error .notText
  | _ => .error .notText

end Outbound.Range
