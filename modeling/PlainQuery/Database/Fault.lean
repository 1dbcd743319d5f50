import PlainQuery.Result.Execution

/-!
# Why a database refuses a statement
-/

namespace PlainQuery

/-- Why a database refuses a statement. -/
inductive DatabaseFault where
  /-- The text is no statement, or there are too few or too many arguments. -/
  | unreadable
  | unknownTable (name : String)
  | unknownColumn (name : String)
  | ambiguousColumn (name : String)
  /-- The column has no single value in a group of rows. -/
  | ungroupedColumn (name : String)
  /-- The calculation is not possible for the type of the column. -/
  | wrongOperand (function type : String)
  /-- The text is no value of the needed type. -/
  | notConvertible (text : String)
  /-- The limit is no natural number. -/
  | wrongLimit
deriving DecidableEq, Repr

namespace DatabaseFault

/-- A name in a message. -/
def named (name : String) : String := "\"" ++ name ++ "\""

/-- The wording of the problem. -/
def message : DatabaseFault → String
  | unreadable => "Parser Error: syntax error"
  | unknownTable name => "Catalog Error: Table with name " ++ name ++ " does not exist!"
  | unknownColumn name =>
    "Binder Error: Referenced column " ++ named name ++ " not found in FROM clause!"
  | ambiguousColumn name => "Binder Error: Ambiguous reference to column name " ++ named name
  | ungroupedColumn name =>
    "Binder Error: column " ++ named name ++ " must appear in the GROUP BY clause"
  | wrongOperand function type =>
    "Binder Error: No function matches the given name and argument types " ++ function ++
      "(" ++ type ++ ")"
  | notConvertible text => "Conversion Error: Could not convert string '" ++ text ++ "'"
  | wrongLimit => "Binder Error: The limit is no natural number"

end DatabaseFault

end PlainQuery
