import PlainQuery.Fields
import PlainQuery.Number.Floating

/-!
# Documents

A `Json` value is a document as models, configuration files and the database exchange it.  Numbers
keep apart whole numbers and doubles, and the members of an object are in the order of their names.
The functions `…?` look at one shape of a value and give nothing for the others.
-/

namespace PlainQuery

/-- A number of a document: whole, or a finite double. -/
inductive Json.Numeral where
  | integer (value : Int)
  | double (value : Number.Double)
deriving DecidableEq, Repr

/-- A document. -/
inductive Json where
  | null
  | bool (value : Bool)
  | number (value : Json.Numeral)
  | string (value : String)
  | array (items : List Json)
  | object (members : List (String × Json))
deriving Repr, Inhabited

namespace Json

/-- The largest whole number a document can hold. -/
def maxInteger : Int := 18446744073709551615

/-- The smallest whole number a document can hold. -/
def minInteger : Int := -9223372036854775808

/-- The number as a double, rounded if it has too many bits. -/
def Numeral.toDouble : Numeral → Number.Double
  | .integer value => Number.Floating.ofInt value
  | .double value => value

/-- The value is absent. -/
def isNull : Json → Bool
  | .null => true
  | _ => false

/-- The text of a string. -/
def string? : Json → Option String
  | .string value => some value
  | _ => none

/-- The truth value. -/
def bool? : Json → Option Bool
  | .bool value => some value
  | _ => none

/-- The value of a number as a double. -/
def double? : Json → Option Number.Double
  | .number value => some value.toDouble
  | _ => none

/-- The value of a whole number that is not negative. -/
def natural? : Json → Option Nat
  | .number (.integer value) => if 0 ≤ value then some value.toNat else none
  | _ => none

/-- The items of a list. -/
def items? : Json → Option (List Json)
  | .array items => some items
  | _ => none

/-- The members of an object. -/
def members? : Json → Option (Fields Json)
  | .object members => some members
  | _ => none

/-- The member `key` of an object. -/
def member? (key : String) (value : Json) : Option Json :=
  value.members?.bind fun members => Fields.get? members key

/-- The object of the given members, put into order. -/
def ofMembers (members : List (String × Json)) : Json := .object (Fields.ofList members)

/-- The document of a natural number. -/
def ofNat (n : Nat) : Json := .number (.integer n)

/-- The document of an optional value, absence being `null`. -/
def ofOption {α : Type} (toJson : α → Json) : Option α → Json
  | none => .null
  | some value => toJson value

/-- The list of strings. -/
def ofStrings (texts : List String) : Json := .array (texts.map .string)

end Json

end PlainQuery
