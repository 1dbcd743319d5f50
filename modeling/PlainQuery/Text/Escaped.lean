import PlainQuery.Text.Blank
import PlainQuery.Text.EscapedTable

/-!
# Texts shown with escapes

`escaped` shows a text between double quotes so that it stays on one line and every character can be
told: quotes, backslashes and the usual controls by a backslash, characters without a glyph of their
own by their code point.
-/

namespace PlainQuery.Text

/-- One character of a shown text. -/
def escapedChar (c : Char) : List Char :=
  if c == '\x00' then ['\\', '0']
  else if c == '\t' then ['\\', 't']
  else if c == '\n' then ['\\', 'n']
  else if c == '\r' then ['\\', 'r']
  else if c == '"' || c == '\\' then ['\\', c]
  else if inRanges escapedRanges c.toNat then
    ['\\', 'u', '\x7b'] ++ Nat.toDigits 16 c.toNat ++ ['\x7d']
  else [c]

/-- The text between double quotes, with escapes. -/
def escaped (text : String) : String :=
  String.ofList ('"' :: (text.toList.flatMap escapedChar ++ ['"']))

end PlainQuery.Text
