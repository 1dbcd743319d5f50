import PlainQuery.Text.Blank
import PlainQuery.Text.CaseTable

/-!
# Upper and lower case

`upper` and `lower` map whole texts, so that a character may become several (`ß` becomes `SS`).
Only the lower case of a sigma depends on its neighbours: at the end of a word it is `ς`.
-/

namespace PlainQuery.Text

/-- The code point that a table of runs maps `code` to. -/
def moveBy? (runs : List CaseRun) (code : Nat) : Option Nat :=
  (runs.find? fun run =>
    run.first ≤ code && code ≤ run.last && (code - run.first) % run.stride == 0).map
      fun run => ((code : Int) + run.offset).toNat

/-- The case mapping of one character by the tables. -/
def mapCase (expansions : List (Nat × List Nat)) (runs : List CaseRun) (c : Char) : List Char :=
  match expansions.lookup c.toNat with
  | some codes => codes.map Char.ofNat
  | none =>
    match moveBy? runs c.toNat with
    | some code => [Char.ofNat code]
    | none => [c]

/-- The upper case of one character. -/
def upperChar (c : Char) : List Char :=
  if c.toNat < 128 then [c.toUpper] else mapCase upperExpansions upperRuns c

/-- The lower case of one character, wherever it stands. -/
def lowerChar (c : Char) : List Char :=
  if c.toNat < 128 then [c.toLower] else mapCase lowerExpansions lowerRuns c

/-- After the characters that are passed over comes one that has a case. -/
def reachesCased (text : List Char) : Bool :=
  match text.dropWhile fun c => inRanges caseIgnorableRanges c.toNat with
  | [] => false
  | c :: _ => inRanges casedRanges c.toNat

/-- The lower case of a text whose reversed beginning `before` has been mapped already. -/
def lowerAfter (before : List Char) : List Char → List Char
  | [] => []
  | c :: rest =>
    -- `before` is reversed, so that both texts begin next to the sigma
    let mapped :=
      if c == 'Σ' then if reachesCased before && !reachesCased rest then ['ς'] else ['σ']
      else lowerChar c
    mapped ++ lowerAfter (c :: before) rest

/-- The upper case of a text. -/
def upper (text : String) : String := String.ofList (text.toList.flatMap upperChar)

/-- The lower case of a text. -/
def lower (text : String) : String := String.ofList (lowerAfter [] text.toList)

/-- The words of a text in upper case with one blank between them: the form in which keywords are
compared. -/
def keyword (text : String) : String :=
  upper (String.ofList ([' '].intercalate (words text.toList)))

end PlainQuery.Text
