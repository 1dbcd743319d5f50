import PlainQuery.Text.CaseMap

/-!
# Functions and operators

The calculations and comparisons that a statement may use.  Each is found by its name, whose case
and spacing do not matter; no other name is known.
-/

namespace PlainQuery.Sql

/-- A calculation over the rows of a query. -/
inductive AggregateFunction where
  | count
  | countDistinct
  | sum
  | avg
  | max
  | min
deriving DecidableEq, Repr

namespace AggregateFunction

/-- The function of the given name. -/
def ofName? (name : String) : Option AggregateFunction :=
  match Text.keyword name with
  | "COUNT" => some .count
  | "COUNT DISTINCT" => some .countDistinct
  | "COUNT_DISTINCT" => some .countDistinct
  | "SUM" => some .sum
  | "AVG" => some .avg
  | "MAX" => some .max
  | "MIN" => some .min
  | _ => none

/-- The word that calls the function. -/
def word : AggregateFunction → String
  | count => "COUNT"
  | countDistinct => "COUNT"
  | sum => "SUM"
  | avg => "AVG"
  | max => "MAX"
  | min => "MIN"

/-- What the name of an unnamed result begins with. -/
def stem : AggregateFunction → String
  | count => "count"
  | countDistinct => "count_distinct"
  | sum => "sum"
  | avg => "avg"
  | max => "max"
  | min => "min"

end AggregateFunction

/-- A comparison of a column with one value. -/
inductive Comparison where
  | equal
  | notEqual
  /-- The other spelling of "not equal". -/
  | unequal
  | greater
  | less
  | greaterOrEqual
  | lessOrEqual
deriving DecidableEq, Repr

/-- The sign of a comparison. -/
def Comparison.sign : Comparison → String
  | equal => "="
  | notEqual => "!="
  | unequal => "<>"
  | greater => ">"
  | less => "<"
  | greaterOrEqual => ">="
  | lessOrEqual => "<="

/-- An operator of a condition. -/
inductive Operator where
  | compare (comparison : Comparison)
  | like (ignoresCase : Bool)
  | membership (negated : Bool)
  | nullTest (negated : Bool)
  | between
deriving DecidableEq, Repr

namespace Operator

/-- The operator of the given name. -/
def ofName? (name : String) : Option Operator :=
  match Text.keyword name with
  | "=" => some (.compare .equal)
  | "!=" => some (.compare .notEqual)
  | "<>" => some (.compare .unequal)
  | ">" => some (.compare .greater)
  | "<" => some (.compare .less)
  | ">=" => some (.compare .greaterOrEqual)
  | "<=" => some (.compare .lessOrEqual)
  | "LIKE" => some (.like false)
  | "ILIKE" => some (.like true)
  | "IN" => some (.membership false)
  | "NOT IN" => some (.membership true)
  | "IS NULL" => some (.nullTest false)
  | "IS NOT NULL" => some (.nullTest true)
  | "BETWEEN" => some .between
  | _ => none

/-- The operator as it stands in a statement. -/
def word : Operator → String
  | compare comparison => comparison.sign
  | like false => "LIKE"
  | like true => "ILIKE"
  | membership false => "IN"
  | membership true => "NOT IN"
  | nullTest false => "IS NULL"
  | nullTest true => "IS NOT NULL"
  | between => "BETWEEN"

end Operator

/-- The direction of an order. -/
inductive Direction where
  | ascending
  | descending
deriving DecidableEq, Repr

namespace Direction

/-- The direction of the given name; everything but `ASC` is descending. -/
def ofName (name : String) : Direction :=
  if Text.equalIgnoringCase (Text.trim name) "ASC" then ascending else descending

/-- The direction as it stands in a statement. -/
def word : Direction → String
  | ascending => "ASC"
  | descending => "DESC"

end Direction

end PlainQuery.Sql
