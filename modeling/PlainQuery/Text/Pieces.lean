/-!
# Cutting and searching texts

Texts are lists of characters.  `pieces p` cuts a text at every character that satisfies `p`,
`occursIn` looks for a text inside another one, and `equalIgnoringCase` compares names the way
databases do, folding the letters A–Z only.
-/

namespace PlainQuery.Text

/-- The parts of the text between the characters that satisfy `isCut`, in order; always one more
than there are cuts. -/
def pieces (isCut : Char → Bool) : List Char → List (List Char)
  | [] => [[]]
  | c :: rest =>
    if isCut c then [] :: pieces isCut rest
    else
      match pieces isCut rest with
      -- never so: every text has a piece
      | [] => [[c]]
      | piece :: later => (c :: piece) :: later

/-- The text `needle` occurs somewhere in the text. -/
def occursIn (needle : List Char) : List Char → Bool
  | [] => needle.isEmpty
  | c :: rest => needle.isPrefixOf (c :: rest) || occursIn needle rest

/-- The text without `ending` at its end, if it ends so. -/
def dropEnding? (ending text : List Char) : Option (List Char) :=
  if ending.isSuffixOf text then some (text.take (text.length - ending.length)) else none

/-- The two names differ at most in the case of the letters A–Z. -/
def equalIgnoringCase (left right : String) : Bool :=
  left.toList.map Char.toLower == right.toList.map Char.toLower

/-- The texts one after the other with `separator` between them. -/
def joined (separator : String) (texts : List String) : String := separator.intercalate texts

end PlainQuery.Text
