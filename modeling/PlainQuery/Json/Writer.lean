import PlainQuery.Json.Basic
import PlainQuery.Number.Layout

/-!
# Writing documents

`Json.render` writes a document without white space.  Strings escape quotes, backslashes and control
characters and nothing else; doubles are written in the layout `Number.Layout.document`.
-/

namespace PlainQuery.Json

/-- One character inside a written string. -/
def writeChar (c : Char) : List Char :=
  if c == '"' then ['\\', '"']
  else if c == '\\' then ['\\', '\\']
  else if c == '\x08' then ['\\', 'b']
  else if c == '\x0c' then ['\\', 'f']
  else if c == '\n' then ['\\', 'n']
  else if c == '\r' then ['\\', 'r']
  else if c == '\t' then ['\\', 't']
  else if c.toNat < 0x20 then
    let digits := Nat.toDigits 16 c.toNat
    '\\' :: 'u' :: (List.replicate (4 - digits.length) '0' ++ digits)
  else [c]

/-- A string between quotes. -/
def writeString (text : String) : List Char := '"' :: (text.toList.flatMap writeChar ++ ['"'])

/-- A number. -/
def writeNumeral : Numeral → List Char
  | .integer value => (toString value).toList
  | .double value => (Number.Layout.document.write value).toList

mutual

/-- The text of a document. -/
def writeChars : Json → List Char
  | .null => "null".toList
  | .bool value => (if value then "true" else "false").toList
  | .number value => writeNumeral value
  | .string value => writeString value
  | .array [] => ['[', ']']
  | .array (item :: items) => '[' :: (writeChars item ++ writeItems items)
  | .object [] => ['\x7b', '\x7d']
  | .object (member :: members) => '\x7b' :: (writeMember member ++ writeMembers members)

/-- The text of the items after the first, and the end of the list. -/
def writeItems : List Json → List Char
  | [] => [']']
  | item :: items => ',' :: (writeChars item ++ writeItems items)

/-- The text of a member. -/
def writeMember : String × Json → List Char
  | (key, value) => writeString key ++ ':' :: writeChars value

/-- The text of the members after the first, and the end of the object. -/
def writeMembers : List (String × Json) → List Char
  | [] => ['\x7d']
  | member :: members => ',' :: (writeMember member ++ writeMembers members)

end

/-- The text of a document. -/
def render (value : Json) : String := String.ofList (writeChars value)

end PlainQuery.Json
