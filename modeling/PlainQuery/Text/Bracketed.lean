import PlainQuery.Text.Blank

/-!
# Texts with brackets and quotes

Types and values of a database nest: `outerPieces` cuts a text at a separator, except inside
brackets and quotes.  A quote counts where an entry begins and inside brackets; elsewhere it is a
character like any other.
-/

namespace PlainQuery.Text

/-- The character opens a bracket. -/
def opensBracket (c : Char) : Bool := c == '(' || c == '[' || c == '\x7b'

/-- The character closes a bracket. -/
def closesBracket (c : Char) : Bool := c == ')' || c == ']' || c == '\x7d'

/-- The character stands around quoted text. -/
def isQuote (c : Char) : Bool := c == '"' || c == '\''

/-- Where a scan of a bracketed text stands. -/
structure BracketState where
  /-- How many brackets are open. -/
  depth : Nat := 0
  /-- The quote that is open. -/
  quote : Option Char := none
  /-- Nothing but blanks has been seen of the entry. -/
  fresh : Bool := true

/-- The state behind a character. -/
def BracketState.next (state : BracketState) (c : Char) : BracketState :=
  match state.quote with
  | some quote => { state with quote := if c == quote then none else some quote }
  | none =>
    -- in the middle of an outer entry it may be an apostrophe
    if isQuote c && (state.fresh || 0 < state.depth) then
      { state with quote := some c, fresh := false }
    else
      { depth :=
          if opensBracket c then state.depth + 1
          else if closesBracket c then state.depth - 1
          else state.depth
        fresh := state.fresh && isBlank c }

/-- The separator counts: it is in no bracket and in no quotes. -/
def BracketState.isOuter (state : BracketState) : Bool := state.depth == 0 && state.quote.isNone

/-- The parts of the text between the separators outside of brackets and quotes. -/
def outerPiecesFrom (separator : Char) (state : BracketState) : List Char → List (List Char)
  | [] => [[]]
  | c :: rest =>
    if state.isOuter && c == separator then [] :: outerPiecesFrom separator {} rest
    else
      match outerPiecesFrom separator (state.next c) rest with
      | [] => [[c]]
      | piece :: later => (c :: piece) :: later

/-- The parts of the text between its outer separators, without the blanks around them; none for a
blank text. -/
def outerPieces (separator : Char) (text : List Char) : List (List Char) :=
  if (strip text).isEmpty then []
  else (outerPiecesFrom separator {} text).map strip

/-- The text before the first outer separator and the text behind it, without the blanks around
them. -/
def outerCut (separator : Char) (text : List Char) : List Char × List Char :=
  match outerPiecesFrom separator {} text with
  | [] => ([], [])
  | piece :: later => (strip piece, strip ([separator].intercalate later))

end PlainQuery.Text
