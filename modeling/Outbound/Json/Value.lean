import Outbound.Hex
import Outbound.Json.Real

/-!
# JSON values and their text

A value keeps what settings depend on: a number written with digits alone is a `nat`, any other
is a `real`. The content of a string is absent when one of its escapes denotes half a
character, since such a string is grammatical and holds no text.
-/
namespace Outbound.Json

/-- A JSON value. -/
inductive Value where
  | null
  | bool (value : Bool)
  | nat (value : Nat)
  | real (value : Real)
  | string (content : Option String)
  | array (items : List Value)
  | object (members : List (Option String × Value))

namespace Value

instance : Inhabited Value := ⟨null⟩

/-- The value of a text. -/
def text (content : String) : Value := string (some content)

/-- An object whose keys are texts. -/
def record (members : List (String × Value)) : Value :=
  object (members.map fun member => (some member.1, member.2))

/-- The member of an object, `null` if there is none. -/
def get (value : Value) (key : String) : Value :=
  match value with
  | object members => (members.lookup (some key)).getD null
  | _ => null

/-- The content of a string. -/
def asText? : Value → Option String
  | string content => content
  | _ => none

/-- The items of an array, none if the value is no array. -/
def items : Value → List Value
  | array items => items
  | _ => []

/-- Whether a value is `null`. -/
def isNull : Value → Bool
  | null => true
  | _ => false

/-- Whether a value is `true`. -/
def isTrue : Value → Bool
  | bool value => value
  | _ => false

/-- An object with more members, whose keys are texts. -/
def extend (value : Value) (more : List (String × Value)) : Value :=
  match value with
  | object members => object (members ++ more.map fun member => (some member.1, member.2))
  | other => other

/-- One character of a string: quotes, backslashes and control characters are escaped. -/
def escape (c : Char) : List Char :=
  if c = '"' then ['\\', '"']
  else if c = '\\' then ['\\', '\\']
  else if c = '\x08' then ['\\', 'b']
  else if c = '\x0c' then ['\\', 'f']
  else if c = '\n' then ['\\', 'n']
  else if c = '\r' then ['\\', 'r']
  else if c = '\t' then ['\\', 't']
  else if c.toNat < 32 then
    ['\\', 'u', '0', '0', Hex.digit (c.toNat / 16), Hex.digit (c.toNat % 16)]
  else [c]

/-- The text of a string. Absent content is half a character. -/
def quote : Option String → List Char
  | some content => '"' :: (content.toList.flatMap escape ++ ['"'])
  | none => "\"\\ud800\"".toList

mutual

/-- The text of a value, without blanks. -/
def print : Value → List Char
  | null => "null".toList
  | bool true => "true".toList
  | bool false => "false".toList
  | nat value => Decimal.digits value
  | real value => value.print
  | string content => quote content
  | array [] => ['[', ']']
  | array (item :: items) => '[' :: (print item ++ printItems items)
  | object [] => ['\x7b', '\x7d']
  | object ((key, value) :: members) =>
    '\x7b' :: (quote key ++ ':' :: (print value ++ printMembers members))

/-- The items after the first, and the closing bracket. -/
def printItems : List Value → List Char
  | [] => [']']
  | item :: items => ',' :: (print item ++ printItems items)

/-- The members after the first, and the closing brace. -/
def printMembers : List (Option String × Value) → List Char
  | [] => ['\x7d']
  | (key, value) :: members =>
    ',' :: (quote key ++ ':' :: (print value ++ printMembers members))

end

/-- The text of a value. -/
def render (value : Value) : String := String.ofList value.print

mutual

/-- How deep arrays and objects are nested. -/
def depth : Value → Nat
  | array items => depthItems items + 1
  | object members => depthMembers members + 1
  | _ => 0

/-- The greatest depth of some items. -/
def depthItems : List Value → Nat
  | [] => 0
  | item :: items => max (depth item) (depthItems items)

/-- The greatest depth of some members. -/
def depthMembers : List (Option String × Value) → Nat
  | [] => 0
  | (_, value) :: members => max (depth value) (depthMembers members)

end

mutual

/-- Whether every string holds text and every number is in range. -/
def isSound : Value → Bool
  | string content => content.isSome
  | nat value => !(Real.ofNumeral false (Decimal.digits value) [] 0).overflows
  | real value => !value.overflows
  | array items => areSound items
  | object members => areSoundMembers members
  | _ => true

/-- Whether every item is sound. -/
def areSound : List Value → Bool
  | [] => true
  | item :: items => isSound item && areSound items

/-- Whether every key holds text and every value is sound. -/
def areSoundMembers : List (Option String × Value) → Bool
  | [] => true
  | (key, value) :: members => key.isSome && isSound value && areSoundMembers members

end

end Value

end Outbound.Json
