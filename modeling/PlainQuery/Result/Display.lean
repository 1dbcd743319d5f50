import PlainQuery.Json.Writer

/-!
# Showing single values

Numbers are shown with a comma between groups of three digits; doubles with two decimals, or none
when they are whole.  Strings are shown as they are, lists and objects as documents.
-/

namespace PlainQuery.Display

open Number (Double)

/-- Digits with a comma between groups of three, counted from the right. -/
def groupDigits : List Char → List Char
  | [] => []
  | digit :: rest =>
    if !rest.isEmpty && rest.length % 3 == 0 then digit :: ',' :: groupDigits rest
    else digit :: groupDigits rest

/-- A numeral with its whole digits in groups. -/
def groupThousands (numeral : List Char) : List Char :=
  let unsigned (text : List Char) : List Char :=
    groupDigits (text.takeWhile (· != '.')) ++ text.dropWhile (· != '.')
  match numeral with
  | '-' :: rest => '-' :: unsigned rest
  | rest => unsigned rest

/-- An integer as it is shown. -/
def showInteger (value : Int) : String := String.ofList (groupThousands (toString value).toList)

/-- A double as it is shown.  Zero has no sign, but what two places round to zero keeps its own. -/
def showDouble (value : Double) : String :=
  if !value.isFinite then Number.Layout.plain.write value
  else if value.isIntegral then
    let unsignedZero := if value.isZero then { value with negative := false } else value
    String.ofList (groupThousands (unsignedZero.fixed 0))
  else String.ofList (groupThousands (value.fixed 2))

/-- A value as it is shown, `null` standing for absence. -/
def showValue (null : String) : Json → String
  | .null => null
  | .bool value => if value then "true" else "false"
  | .number (.integer value) => showInteger value
  | .number (.double value) => showDouble value
  | .string value => value
  | value => value.render

end PlainQuery.Display
