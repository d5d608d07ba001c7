import Outbound.Json.Reader

/-!
# Settings as JSON values

A codec writes a type of settings as a value and reads it back. A record is written as an
object; it is read from an object in which no known key is repeated and unknown keys are
ignored, or from an array of its fields in order, of which the last may be left out. Absent
fields take their defaults.
-/
namespace Outbound.Json

/-- A writer and a reader of one type of settings. -/
structure Codec (α : Type) where
  /-- The value written. -/
  write : α → Value
  /-- The settings that a value holds. -/
  read : Value → Option α

namespace Codec

variable {α : Type}

/-- Reading what was written gives the settings back. -/
def Lawful (codec : Codec α) : Prop := ∀ settings, codec.read (codec.write settings) = some settings

/-- The settings that a text holds. -/
def parse (codec : Codec α) (text : String) : Option α := Json.parse text >>= codec.read

/-- The text of settings. -/
def render (codec : Codec α) (settings : α) : String := (codec.write settings).render

/-- Text. -/
def text : Codec String where
  write content := .text content
  read
    | .string content => content
    | _ => none

/-- A truth value. -/
def bool : Codec Bool where
  write value := .bool value
  read
    | .bool value => some value
    | _ => none

/-- A number that fits in sixteen bits. -/
def word16 : Codec UInt16 where
  write word := .nat word.toNat
  read
    | .nat value => if value < UInt16.size then some (UInt16.ofNat value) else none
    | _ => none

/-- A number that fits in thirty-two bits. -/
def word32 : Codec UInt32 where
  write word := .nat word.toNat
  read
    | .nat value => if value < UInt32.size then some (UInt32.ofNat value) else none
    | _ => none

/-- A number that fits in sixty-four bits. -/
def word64 : Codec UInt64 where
  write word := .nat word.toNat
  read
    | .nat value => if value < UInt64.size then some (UInt64.ofNat value) else none
    | _ => none

/-- A type that is written as text. -/
def spelled (spell : α → String) (read : String → Option α) : Codec α where
  write settings := .text (spell settings)
  read
    | .string (some content) => read content
    | _ => none

end Codec

/-- The members of a record. -/
abbrev Members := List (String × Value)

namespace Members

variable {α : Type}

/-- The members of an object whose keys all hold text, if no known key is repeated. -/
def ofObject (names : List String) (members : List (Option String × Value)) : Option Members := do
  let members ← members.mapM fun member => member.1.map fun key => (key, member.2)
  if ((members.map Prod.fst).filter (· ∈ names)).Nodup then some members else none

/-- The members of a record with the fields `names`, from an object or an array. -/
def of (names : List String) : Value → Option Members
  | .object members => ofObject names members
  | .array items => if items.length ≤ names.length then some (names.zip items) else none
  | _ => none

/-- A field that takes a default when absent. -/
def field (members : Members) (name : String) (codec : Codec α) (absent : α) : Option α :=
  match members.lookup name with
  | none => some absent
  | some value => codec.read value

/-- A field that may be absent, which `null` says too. -/
def optional (members : Members) (name : String) (codec : Codec α) : Option (Option α) :=
  match members.lookup name with
  | none => some none
  | some .null => some none
  | some value => (codec.read value).map some

/-- The member of a field that is always written. -/
def write (name : String) (codec : Codec α) (settings : α) : Members :=
  [(name, codec.write settings)]

/-- The member of a field that is left out when absent. -/
def writeOptional (name : String) (codec : Codec α) (settings : Option α) : Members :=
  (settings.map fun present => (name, codec.write present)).toList

end Members

end Outbound.Json
