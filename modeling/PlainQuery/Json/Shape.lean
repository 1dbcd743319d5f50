import PlainQuery.Json.Skim
import PlainQuery.Json.Writer
import PlainQuery.Text.Escaped

/-!
# Reading documents of a given shape

A `Shape` says which document is expected.  `Shape.read` reads a text as such a document and reports
the first fault in the order of the text, be it one of writing or of shape.  Members that a record
does not have are passed over.  A record may also be written as the list of its fields.
-/

namespace PlainQuery.Json

/-- What kind of document is expected. -/
inductive Shape where
  | text
  /-- A truth value or `null`; a field of this shape may be missing. -/
  | optionalFlag
  | list (item : Shape)
  /-- A record with its title in messages and its fields. -/
  | record (title : String) (fields : List (String × Shape))

namespace Shape

/-- A field of this shape may be missing. -/
def mayBeMissing : Shape → Bool
  | optionalFlag => true
  | _ => false

/-- What a message says is expected. -/
def expectation : Shape → String
  | text => "a string"
  | optionalFlag => "a boolean"
  | list _ => "a sequence"
  | record title _ => title

/-- What a message says is found in place of something else. -/
def findingOf : Json → String
  | .null => "null"
  | .bool value => if value then "boolean `true`" else "boolean `false`"
  | .number (.integer value) => "integer `" ++ toString value ++ "`"
  | .number (.double value) => "floating point `" ++ Number.Layout.document.write value ++ "`"
  | .string value => "string " ++ Text.escaped value
  | .array _ => "sequence"
  | .object _ => "map"

/-- The fault of a text that begins with a value of another shape, or with no value. -/
def mismatch (shape : Shape) (text : List Char) : Fault :=
  match text with
  | [] => .endInValue
  | '[' :: _ => .wrongKind (findingOf (.array [])) shape.expectation
  | '\x7b' :: _ => .wrongKind (findingOf (.object [])) shape.expectation
  | c :: rest =>
    match readScalar c rest with
    | .ok (value, _) => .wrongKind (findingOf value) shape.expectation
    | .error fault => fault

/-! ## Missing fields -/

/-- The members with `null` for each field that was not written. -/
def fillMissing (members : Fields Json) : List (String × Shape) → Except Fault (Fields Json)
  | [] => .ok members
  | (name, shape) :: later =>
    if (members.get? name).isSome then fillMissing members later
    else if shape.mayBeMissing then fillMissing (members.insert name .null) later
    else .error (.missingField name)

/-- A record with the number of its fields, as it is expected in a list. -/
def countedTitle (title : String) (count : Nat) : String :=
  title ++ " with " ++ toString count ++ (if count == 1 then " element" else " elements")

/-- The members with `null` for each field after the end of the list. -/
def fillPositions (title : String) (count : Nat) (members : Fields Json) :
    List (String × Shape) → Except Fault (Fields Json)
  | [] => .ok members
  | (name, shape) :: later =>
    if shape.mayBeMissing then fillPositions title count (members.insert name .null) later
    else .error (.wrongLength (count - later.length - 1) (countedTitle title count))

/-- Passes over the end of a list that has all its items. -/
def closeList (text : List Char) : Except Fault (List Char) :=
  match skipSpace text with
  | [] => .error .endInList
  | ']' :: rest => .ok rest
  | ',' :: rest =>
    match skipSpace rest with
    | ']' :: _ => .error .trailingComma
    | _ => .error .trailingCharacters
  | _ => .error .trailingCharacters

/-! ## Reading -/

mutual

/-- Reads a value of the shape. -/
def readValue (steps : Nat) (shape : Shape) (text : List Char) : Except Fault (Json × List Char) :=
  match steps with
  | 0 => .error .endInValue
  | steps + 1 =>
    match shape, skipSpace text with
    | .text, '"' :: rest => do
      let (value, rest) ← scanString rest
      pure (.string value, rest)
    | .optionalFlag, 'n' :: rest => do pure (.null, ← scanWord "ull".toList rest)
    | .optionalFlag, 't' :: rest => do pure (.bool true, ← scanWord "rue".toList rest)
    | .optionalFlag, 'f' :: rest => do pure (.bool false, ← scanWord "alse".toList rest)
    | .list item, '[' :: rest => do
      let (items, rest) ← readItems steps item true rest
      pure (.array items, rest)
    | .record _ fields, '\x7b' :: rest => do
      let (members, rest) ← readMembers steps fields [] true rest
      pure (.object members, rest)
    | .record title fields, '[' :: rest => do
      let (members, rest) ← readPositions steps title fields.length [] fields rest
      pure (.object members, rest)
    | shape, rest => .error (shape.mismatch rest)

/-- Reads the items of a list up to its end. -/
def readItems (steps : Nat) (item : Shape) (first : Bool) (text : List Char) :
    Except Fault (List Json × List Char) :=
  match steps with
  | 0 => .error .endInList
  | steps + 1 => do
    let (more, rest) ← nextItem first text
    if more then
      let (value, rest) ← readValue steps item rest
      let (values, rest) ← readItems steps item false rest
      pure (value :: values, rest)
    else pure ([], rest)

/-- Reads the members of a record up to its end. -/
def readMembers (steps : Nat) (fields : List (String × Shape)) (members : Fields Json)
    (first : Bool) (text : List Char) : Except Fault (Fields Json × List Char) :=
  match steps with
  | 0 => .error .endInObject
  | steps + 1 => do
    let (more, rest) ← nextKey first text
    if more then
      let (key, rest) ← scanString rest
      match fields.lookup key with
      | none =>
        let rest ← scanColon rest
        let rest ← skipValue rest
        readMembers steps fields members false rest
      | some shape =>
        -- only members that the record does not have may be repeated
        if (members.get? key).isSome then .error (.duplicateField key)
        else
          let rest ← scanColon rest
          let (value, rest) ← readValue steps shape rest
          readMembers steps fields (members.insert key value) false rest
    else pure (← fillMissing members fields, rest)

/-- Reads the fields of a record that is written as a list, `later` being those still to come. -/
def readPositions (steps : Nat) (title : String) (count : Nat) (members : Fields Json)
    (later : List (String × Shape)) (text : List Char) : Except Fault (Fields Json × List Char) :=
  match steps with
  | 0 => .error .endInList
  | steps + 1 =>
    match later with
    | [] => do pure (members, ← closeList text)
    | (name, shape) :: others => do
      -- no field has been read yet in front of the first item
      let (more, rest) ← nextItem members.isEmpty text
      if more then
        let (value, rest) ← readValue steps shape rest
        readPositions steps title count (members.insert name value) others rest
      else pure (← fillPositions title count members later, rest)

end

/-- Reads a whole text as a document of the shape. -/
def read (shape : Shape) (text : String) : Except Fault Json := do
  let (value, rest) ← readValue (stepsFor text.toList) shape text.toList
  readEnd rest
  pure value

end Shape

end PlainQuery.Json
