import Outbound.Options.TlsFragment
import Outbound.Range

/-!
# The policy of fragmenting

A policy is the checked form of the settings: ranges instead of texts, and a size that can be
drawn above zero.
-/
namespace Outbound.Tls

/-- How a handshake record is cut. -/
structure Policy where
  /-- The sizes of pieces, in bytes. -/
  size : Range
  /-- The pauses between records, in milliseconds. -/
  sleep : Range
  /-- Whether one cut falls inside the host name. -/
  sniSplit : Bool
  deriving DecidableEq

namespace Policy

/-- The policy of some settings, whether or not they are enabled. -/
def ofOptions (options : TlsFragmentOptions) : Except Error Policy := do
  let size ← (Range.parse options.size).mapError (Error.forKey "tls_fragment.size")
  if size.isZero then
    .error (.configValue "tls_fragment.size" "fragment size must be non-zero")
  else do
    let sleep ←
      if options.sleep.isEmpty then .ok (Range.fixed 0)
      else (Range.parse options.sleep).mapError (Error.forKey "tls_fragment.sleep")
    .ok { size, sleep, sniSplit := options.sniSplit }

/-- The policy of settings that are present and enabled. -/
def ofEnabled : Option TlsFragmentOptions → Except Error (Option Policy)
  | some options => if options.enabled then (ofOptions options).map some else .ok none
  | none => .ok none

end Policy

end Outbound.Tls

namespace Outbound.TlsFragmentOptions

/-- Refuse enabled settings that give no policy. -/
def validate (options : TlsFragmentOptions) : Except Error Unit :=
  if options.enabled then (Tls.Policy.ofOptions options).map fun _ => () else .ok ()

end Outbound.TlsFragmentOptions
