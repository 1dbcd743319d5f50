import PlainQuery.Json.Basic

/-!
# Records in documents

A record is written as an object with a member for each field.  It is read from such an object,
where other members are ignored, or from a list of the fields in their order.  `record?` checks that
the fields which must be there are there; the functions after it read single fields.
-/

namespace PlainQuery.Json

/-- What holds of a field that is not written. -/
inductive Presence where
  /-- The record is refused. -/
  | required
  /-- The field is absent; in a list it has to be written as `null`. -/
  | optional
  /-- The field has its default value. -/
  | defaulted
deriving DecidableEq

/-- The fields of a record, by name. -/
def record? (shape : List (String × Presence)) : Json → Option (Fields Json)
  | .object members =>
    if shape.all fun field => field.2 != .required || (Fields.get? members field.1).isSome then
      some members
    else none
  | .array items =>
    let unwritten := shape.drop items.length
    if items.length ≤ shape.length && unwritten.all fun field => field.2 == .defaulted then
      some (Fields.ofList ((shape.map Prod.fst).zip items))
    else none
  | _ => none

/-- Reads each item of a list. -/
def listOf? {α : Type} (read : Json → Option α) (value : Json) : Option (List α) :=
  value.items?.bind fun items => items.mapM read

/-- Reads a field that must be there. -/
def field? {α : Type} (read : Json → Option α) (name : String) (fields : Fields Json) : Option α :=
  (fields.get? name).bind read

/-- Reads a field that may be missing or `null`. -/
def optionalField? {α : Type} (read : Json → Option α) (name : String) (fields : Fields Json) :
    Option (Option α) :=
  match fields.get? name with
  | none => some none
  | some .null => some none
  | some value => (read value).map some

/-- Reads a field that has a default value. -/
def defaultedField? {α : Type} (read : Json → Option α) (default : α) (name : String)
    (fields : Fields Json) : Option α :=
  match fields.get? name with
  | none => some default
  | some value => read value

end PlainQuery.Json
