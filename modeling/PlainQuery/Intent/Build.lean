import PlainQuery.Intent.Basic
import PlainQuery.Intent.Reply
import PlainQuery.Number.Decimal

/-!
# Building intents

`Intent.ofCandidate` builds an intent from an object of loose shape, such as a model replies with.
Texts are trimmed, what is missing or of the wrong kind gets its default, and entries of lists that
make no sense are left out.  Whatever the object is, the intent built from it is nearly in a normal
form: no name has blanks at its ends, a limit is positive, and the confidence lies between zero and
one.

Names are not empty either, with two exceptions.  A join hint is kept when some of its four names
are missing, and those are empty.  And a bare text in the list of orders is trimmed but not looked
at any further (`orderTermOf?`), so a blank one becomes an order by a column without a name.
-/

namespace PlainQuery

namespace Intent

open Number (Double Floating)

/-- The confidence of an intent that states none. -/
def defaultConfidence : Double := Floating.ofRatio false 1 2

/-- The confidence moved into the range from zero to one. -/
def clampConfidence (confidence : Double) : Double :=
  Floating.clamp (.zero false) (.ofNat 1) confidence

/-- The trimmed text, if anything is left of it. -/
def filled? (text : String) : Option String :=
  let trimmed := Text.trim text
  if trimmed.isEmpty then none else some trimmed

/-- The trimmed text of a member, if there is any. -/
def text? (members : Fields Json) (key : String) : Option String :=
  (members.get? key).bind fun value => value.string?.bind filled?

/-- The texts of a member: those in a list, or a single one. -/
def texts (members : Fields Json) (key : String) : List String :=
  match members.get? key with
  | some (.array items) => items.filterMap fun item => item.string?.bind filled?
  | some (.string single) => (filled? single).toList
  | _ => []

/-- The objects in a list. -/
def objects (members : Fields Json) (key : String) : List (Fields Json) :=
  (((members.get? key).bind Json.items?).getD []).filterMap Json.members?

/-- The aggregation that an object asks for. -/
def aggregationOf (members : Fields Json) : Aggregation where
  function := (text? members "func").getD "COUNT"
  column := (text? members "column").getD "*"
  label := text? members "alias"

/-- The filter that an object asks for, if it names a column. -/
def filterOf? (members : Fields Json) : Option Filter :=
  (text? members "column").map fun column =>
    { column
      operator := (text? members "operator").getD "="
      value := (members.get? "value").getD .null }

/-- The join hint in an object. -/
def joinHintOf (members : Fields Json) : JoinHint where
  leftTable := (text? members "table1").getD ""
  leftColumn := (text? members "col1").getD ""
  rightTable := (text? members "table2").getD ""
  rightColumn := (text? members "col2").getD ""

/-- The direction of an order that states none. -/
def defaultDirection : String := "DESC"

/-- The order that an item asks for: a column alone, or an object. -/
def orderTermOf? : Json → Option OrderTerm
  | .string column => some ⟨Text.trim column, defaultDirection⟩
  | .object members =>
    (text? members "column").map fun column =>
      ⟨column, (text? members "direction").getD defaultDirection⟩
  | _ => none

/-- The largest limit. -/
def maxLimit : Nat := 18446744073709551615

/-- The whole number that a value denotes, if it is not negative.  Doubles without fractional part
count as whole numbers, and texts are read as numerals. -/
def wholeNumber? : Json → Option Nat
  | .number (.integer value) => if 0 ≤ value then some value.toNat else none
  | .number (.double value) =>
    if value.isIntegral && !value.negative && !value.isZero then
      some (Nat.min value.wholePart maxLimit)
    else none
  | .string text =>
    (Number.natural? (Text.strip text.toList)).filter fun count => count ≤ maxLimit
  | _ => none

/-- The limit that a value asks for. -/
def limitOf? (value : Json) : Option Nat := (wholeNumber? value).filter fun count => 0 < count

/-- The range of dates in a value, if it has a bound. -/
def dateRangeOf? (value : Json) : Option DateRange := do
  let members ← value.members?
  let startDate := text? members "start_date"
  let endDate := text? members "end_date"
  if startDate.isNone && endDate.isNone then none
  else pure { startDate, endDate, period := (text? members "period_description").getD "" }

/-- The confidence that a value states, or the default. -/
def confidenceOf (value : Option Json) : Double :=
  match value.bind Json.double? with
  | some confidence => clampConfidence confidence
  | none => defaultConfidence

/-- The intent that an object asks for. -/
def ofMembers (members : Fields Json) (question : String) : Intent where
  tables := texts members "tables"
  selectColumns := texts members "select_columns"
  aggregations := (objects members "aggregations").map aggregationOf
  filters := (objects members "filters").filterMap filterOf?
  joins := (objects members "joins").map joinHintOf
  groupBy := texts members "group_by"
  orderBy := (((members.get? "order_by").bind Json.items?).getD []).filterMap orderTermOf?
  limit := (members.get? "limit").bind limitOf?
  dateRange := (members.get? "date_range").bind dateRangeOf?
  confidence := confidenceOf (members.get? "confidence")
  reasoning := (text? members "reasoning").getD ""
  question := question

/-- The intent that a document asks for. -/
def ofCandidate (candidate : Json) (question : String) : Except ReplyError Intent :=
  match candidate with
  | .object members => .ok (ofMembers members question)
  | _ => .error .notObject

/-- The intent in the reply of a model. -/
def ofReply (reply : String) (question : String) : Except ReplyError Intent := do
  ofCandidate (← Reply.extractJson reply) question

end Intent

end PlainQuery
