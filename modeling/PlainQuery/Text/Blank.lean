import PlainQuery.Text.Pieces

/-!
# Blanks

`isBlank` is the white space of running text, beyond ASCII too.  `trim` removes the blanks at both
ends of a text, and `words` are its maximal runs without blanks.
-/

namespace PlainQuery.Text

/-- The characters with the white-space property. -/
def blankRanges : List (Nat × Nat) :=
  [(0x9, 0xd), (0x20, 0x20), (0x85, 0x85), (0xa0, 0xa0), (0x1680, 0x1680), (0x2000, 0x200a),
   (0x2028, 0x2029), (0x202f, 0x202f), (0x205f, 0x205f), (0x3000, 0x3000)]

/-- The code point lies in one of the ranges. -/
def inRanges (ranges : List (Nat × Nat)) (code : Nat) : Bool :=
  ranges.any fun range => range.1 ≤ code && code ≤ range.2

/-- The character is white space. -/
def isBlank (c : Char) : Bool := inRanges blankRanges c.toNat

/-- The text without the blanks in front. -/
def stripStart (text : List Char) : List Char := text.dropWhile isBlank

/-- The text without the blanks at its end. -/
def stripEnd (text : List Char) : List Char := (text.reverse.dropWhile isBlank).reverse

/-- The text without the blanks at its ends. -/
def strip (text : List Char) : List Char := stripEnd (stripStart text)

/-- The string without the blanks at its ends. -/
def trim (text : String) : String := String.ofList (strip text.toList)

/-- The maximal runs of characters that are no blanks. -/
def words (text : List Char) : List (List Char) :=
  (pieces isBlank text).filter fun word => !word.isEmpty

end PlainQuery.Text
