import Outbound.Json.Codec

/-!
# Settings of handshake shaping
-/
namespace Outbound

open Json (Codec Members)

/-- How the first handshake message is shaped by whoever builds it. -/
structure ShapingOptions where
  /-- Whether letters of the host name change case at random. -/
  mixedCaseSni : Bool := false
  /-- The name of a kind of padding. -/
  paddingMode : String := ""
  /-- The sizes of the padding, a range of bytes; empty for none. -/
  paddingSize : String := ""
  /-- A host name carried in the padding. -/
  paddingSni : String := ""
  deriving DecidableEq, Inhabited

namespace ShapingOptions

/-- The fields in order. -/
def names : List String := ["mixedcase_sni", "padding_mode", "padding_size", "padding_sni"]

/-- The members of the JSON form. -/
def members (options : ShapingOptions) : Members :=
  Members.write "mixedcase_sni" .bool options.mixedCaseSni ++
  Members.write "padding_mode" .text options.paddingMode ++
  Members.write "padding_size" .text options.paddingSize ++
  Members.write "padding_sni" .text options.paddingSni

/-- The JSON form. -/
def codec : Codec ShapingOptions where
  write options := .record options.members
  read value := do
    let members ← Members.of names value
    let mixedCaseSni ← members.field "mixedcase_sni" .bool false
    let paddingMode ← members.field "padding_mode" .text ""
    let paddingSize ← members.field "padding_size" .text ""
    let paddingSni ← members.field "padding_sni" .text ""
    some { mixedCaseSni, paddingMode, paddingSize, paddingSni }

end ShapingOptions

end Outbound
