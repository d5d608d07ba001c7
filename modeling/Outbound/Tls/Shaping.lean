import Outbound.Options.Shaping
import Outbound.Range
import Outbound.Tls.HostName

/-!
# Shaping a handshake

Helpers for whoever builds the first handshake message: host names in mixed case, and padding
extensions of random size.
-/
namespace Outbound.Tls

/-- How padding is filled. -/
inductive PaddingMode where
  /-- With random octets. -/
  | random
  /-- With zeros. -/
  | zero
  deriving DecidableEq, Inhabited

/-- The padding mode of a name. -/
def PaddingMode.parse (name : String) : Except Error PaddingMode :=
  if name = "" ∨ name = "random" then .ok .random
  else if name = "hello_padding" then .ok .zero
  else .error (.configValue "tls_tricks.padding_mode" s!"unknown padding mode '{name}'")

namespace Padding

/-- The type of a padding extension. -/
def extensionType : UInt16 := 0x0015

/-- The type and the length of a padding extension; a length too great to be stated is stated as
the greatest. -/
def header (length : Nat) : Bytes :=
  Bytes.word16Bytes extensionType ++ Bytes.word16Bytes (UInt16.ofNat (min length 65535))

/-- A padding extension of so many zeros. -/
def zero (length : Nat) : Bytes := header length ++ List.replicate length 0

/-- A padding extension of so many random octets. -/
def random (length : Nat) (entropy : Entropy) : Bytes × Entropy :=
  let (body, entropy) := entropy.bytes length
  (header length ++ body, entropy)

end Padding

/-- The other case of an ASCII letter. -/
def otherCase (c : Char) : Char := if c.isUpper then c.toLower else c.toUpper

/-- Characters whose ASCII letters change case with the fall of a coin. -/
def mixCharacters : List Char → Entropy → List Char × Entropy
  | [], entropy => ([], entropy)
  | c :: rest, entropy =>
    let (flip, entropy) := if c.isAlpha then entropy.coin else (false, entropy)
    let (others, entropy) := mixCharacters rest entropy
    ((if flip then otherCase c else c) :: others, entropy)

/-- A text whose ASCII letters change case with the fall of a coin. -/
def mixCase (text : String) (entropy : Entropy) : String × Entropy :=
  let (characters, entropy) := mixCharacters text.toList entropy
  (String.ofList characters, entropy)

/-- How a handshake is shaped. -/
structure Shaping where
  /-- Whether letters of the host name change case. -/
  mixedCaseSni : Bool
  /-- How padding is filled and how long it is, if there is any. -/
  padding : Option (PaddingMode × Range)
  /-- A host name carried in the padding. -/
  paddingSni : Option String
  deriving DecidableEq

namespace Shaping

/-- The greatest body that an extension can declare. -/
def maxPadding : UInt64 := 65535

/-- The padding of some settings. -/
def paddingOf (options : ShapingOptions) : Except Error (Option (PaddingMode × Range)) :=
  if options.paddingSize.isEmpty then .ok none
  else do
    let size ← (Range.parse options.paddingSize).mapError (Error.forKey "tls_tricks.padding_size")
    if maxPadding < size.max then
      .error (.configValue "tls_tricks.padding_size" "padding must fit in a TLS extension")
    else do
      let mode ← PaddingMode.parse options.paddingMode
      .ok (some (mode, size))

/-- The host name that padding carries. -/
def paddingSniOf (options : ShapingOptions) : Except Error (Option String) :=
  if options.paddingSni.isEmpty then .ok none
  else
    match HostName.sni? options.paddingSni with
    | some host => .ok (some host)
    | none => .error (.configValue "tls_tricks.padding_sni" "padding SNI must be a host name")

/-- The shaping of some settings. -/
def ofOptions (options : ShapingOptions) : Except Error Shaping := do
  let padding ← paddingOf options
  let paddingSni ← paddingSniOf options
  .ok { mixedCaseSni := options.mixedCaseSni, padding, paddingSni }

/-- The server name to send for a server. -/
def serverName (shaping : Shaping) (server : String) (entropy : Entropy) :
    Option String × Entropy :=
  match HostName.sni? server with
  | none => (none, entropy)
  | some host =>
    if shaping.mixedCaseSni then
      let (mixed, entropy) := mixCase host entropy
      (some mixed, entropy)
    else (some host, entropy)

/-- A padding extension of a freshly drawn size. -/
def drawPadding (shaping : Shaping) (entropy : Entropy) : Option Bytes × Entropy :=
  match shaping.padding with
  | none => (none, entropy)
  | some (mode, size) =>
    let (length, entropy) := size.draw entropy
    match mode with
    | .zero => (some (Padding.zero length), entropy)
    | .random =>
      let (extension, entropy) := Padding.random length entropy
      (some extension, entropy)

end Shaping

end Outbound.Tls
