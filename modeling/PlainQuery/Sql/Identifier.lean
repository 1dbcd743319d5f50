import PlainQuery.Text.Pieces
import PlainQuery.Text.Quoted

/-!
# Identifiers

An `Identifier` is a name reduced to the letters A–Z, a–z, the digits and the underscore; only such
names are written into a statement.  A name of a catalog, which may hold any character, is written
with `quoteName` instead, its quotes doubled.
-/

namespace PlainQuery.Sql

/-- The characters of identifiers. -/
def isWordChar (c : Char) : Bool := c.isAlphanum || c == '_'

/-- A name that holds identifier characters only. -/
structure Identifier where
  text : List Char
  safe : ∀ c ∈ text, isWordChar c = true
deriving DecidableEq

namespace Identifier

/-- The identifier left of a name. -/
def ofName (name : String) : Identifier where
  text := name.toList.filter isWordChar
  safe := fun _ hmem => (List.mem_filter.mp hmem).2

/-- Nothing is left of the name. -/
def isEmpty (identifier : Identifier) : Bool := identifier.text.isEmpty

/-- The identifier between double quotes. -/
def quoted (identifier : Identifier) : List Char := '"' :: (identifier.text ++ ['"'])

/-- The identifier as a string. -/
def name (identifier : Identifier) : String := String.ofList identifier.text

end Identifier

/-- A name without all characters that identifiers do not have. -/
def sanitize (name : String) : String := (Identifier.ofName name).name

/-- The identifier left of a name, if anything is left. -/
def identifier? (name : String) : Option Identifier :=
  let identifier := Identifier.ofName name
  if identifier.isEmpty then none else some identifier

/-! ## Names of the catalog -/

/-- A name between double quotes, each quote inside it written twice. -/
def quoteName (name : String) : String :=
  String.ofList (Text.quoted '"' name.toList)

end PlainQuery.Sql
