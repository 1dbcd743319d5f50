import PlainQuery.Json.Basic
import PlainQuery.Json.Writer
import PlainQuery.Sql.Identifier

/-!
# Placeholders and their values

A planned statement refers to its values by name, as in `:f_1`.  `bindNames` replaces the names by
question marks and lists the values in the order in which the database expects them.  Inside quoted
identifiers nothing is replaced, and `::` starts no name.
-/

namespace PlainQuery.Sql

/-- What a numbered placeholder stands for. -/
inductive Stem where
  | member
  | pattern
  | operand
deriving DecidableEq, Repr

/-- The name of a value in a statement. -/
inductive Placeholder where
  | numbered (stem : Stem) (number : Nat)
  | dateStart
  | dateEnd
  | limit
deriving DecidableEq, Repr

namespace Placeholder

/-- What the name of a numbered placeholder begins with. -/
def stemText : Stem → List Char
  | .member => "in_".toList
  | .pattern => "like_".toList
  | .operand => "f_".toList

/-- The name of a placeholder. -/
def nameChars : Placeholder → List Char
  | numbered stem number => stemText stem ++ Nat.toDigits 10 number
  | dateStart => "date_start".toList
  | dateEnd => "date_end".toList
  | limit => "limit".toList

/-- The name of a placeholder as a string. -/
def name (placeholder : Placeholder) : String := String.ofList placeholder.nameChars

/-- The placeholder as it stands in a statement. -/
def write (placeholder : Placeholder) : List Char := ':' :: placeholder.nameChars

end Placeholder

/-! ## Arguments -/

/-- A value handed to the database. -/
inductive Argument where
  | null
  | boolean (value : Bool)
  /-- A whole number below `2 ^ 63`. -/
  | bigint (value : Int)
  /-- A whole number from `2 ^ 63`. -/
  | ubigint (value : Int)
  | double (value : Number.Double)
  | text (value : String)
deriving DecidableEq, Repr, Inhabited

/-- The argument that a document becomes; lists and objects become their text. -/
def Argument.ofJson : Json → Argument
  | .null => null
  | .bool value => boolean value
  | .number (.integer value) =>
    if value < 9223372036854775808 then bigint value else ubigint value
  | .number (.double value) => double value
  | .string value => text value
  | value => text value.render

/-- A placeholder without a value. -/
structure MissingArgument where
  name : String
deriving DecidableEq, Repr

/-- The wording of the problem. -/
def MissingArgument.message (missing : MissingArgument) : String :=
  "No value bound for placeholder :" ++ missing.name

/-! ## Binding -/

/-- The characters a name may begin with. -/
def startsName (c : Char) : Bool := c.isAlpha || c == '_'

/-- A colon here begins a placeholder: the next character begins a name. -/
def beforeName : List Char → Bool
  | [] => false
  | c :: _ => startsName c

/-- Where the binder stands in a text. -/
structure BindState where
  /-- Inside a quoted identifier. -/
  quoted : Bool := false
  /-- Directly after a colon. -/
  afterColon : Bool := false
  /-- Inside the name of a placeholder. -/
  naming : Bool := false

/-- Replaces the placeholders in the rest of a text. -/
def bindFrom (parameters : Fields Json) (state : BindState) :
    List Char → Except MissingArgument (List Char × List Argument)
  | [] => .ok ([], [])
  | c :: rest =>
    if state.naming && isWordChar c then bindFrom parameters { naming := true } rest
    else if !state.quoted && c == ':' && !state.afterColon && beforeName rest then
      let name := String.ofList (rest.takeWhile isWordChar)
      match Fields.get? parameters name with
      | none => .error ⟨name⟩
      | some value => do
        let (text, arguments) ← bindFrom parameters { naming := true } rest
        pure ('?' :: text, Argument.ofJson value :: arguments)
    else do
      let quoted := if c == '"' then !state.quoted else state.quoted
      let (text, arguments) ←
        bindFrom parameters { quoted := quoted, afterColon := c == ':' } rest
      pure (c :: text, arguments)

/-- The text with a question mark for each placeholder, and the arguments in the order of the marks.
-/
def bindNames (sql : String) (parameters : Fields Json) :
    Except MissingArgument (String × List Argument) := do
  let (text, arguments) ← bindFrom parameters {} sql.toList
  pure (String.ofList text, arguments)

end PlainQuery.Sql
