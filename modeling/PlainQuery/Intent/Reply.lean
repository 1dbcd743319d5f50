import PlainQuery.Json.Reader
import PlainQuery.Text.Blank

/-!
# The document in a reply

A language model replies with free text that should hold a document.  `extractJson` takes the reply
as a document when it is one, after removing a code fence around it, and otherwise looks for the
first object in it: the shortest part from the first opening brace on in which the braces balance.
Braces inside strings do not count.
-/

namespace PlainQuery

/-- Why a reply is not taken. -/
inductive ReplyError where
  /-- No document, or none that is written correctly. -/
  | malformed (fault : Json.Fault)
  /-- The document is no object. -/
  | notObject
deriving DecidableEq, Repr

/-- The wording of the problem. -/
def ReplyError.message : ReplyError → String
  | malformed fault => "Invalid model response format: " ++ fault.message
  | notObject => "Model response is not a JSON object"

namespace Reply

/-- Three backticks, which open and close a code block. -/
def fence : List Char := "```".toList

/-- The text after the first line break, if there is one. -/
def afterLine? : List Char → Option (List Char)
  | [] => none
  | c :: rest => if c == '\n' then some rest else afterLine? rest

/-- The content of a code block: without its first line and a fence at its end. -/
def stripFence (text : List Char) : List Char :=
  if fence.isPrefixOf text then
    match afterLine? text with
    -- all on one line: there is no first line to drop
    | none => text.dropWhile fence.contains
    | some body =>
      let body := Text.stripEnd body
      Text.strip ((Text.dropEnding? fence body).getD body)
  else text

/-! ## Balanced braces -/

/-- What the scan for braces remembers: how many braces are open, and where it stands in a string.
-/
structure BraceScan where
  depth : Nat := 0
  inString : Bool := false
  escaped : Bool := false
deriving DecidableEq, Repr

/-- The scan after one more character. -/
def BraceScan.step (scan : BraceScan) (c : Char) : BraceScan :=
  if scan.inString then
    if scan.escaped then { scan with escaped := false }
    else if c == '\\' then { scan with escaped := true }
    else if c == '"' then { scan with inString := false }
    else scan
  else if c == '"' then { scan with inString := true }
  else if c == '\x7b' then { scan with depth := scan.depth + 1 }
  -- a brace is open here: the scan begins with one and ends where none is left
  else if c == '\x7d' then { scan with depth := scan.depth - 1 }
  else scan

/-- The shortest beginning of the text after which a closing brace leaves none open. -/
def balancedFrom (scan : BraceScan) : List Char → Option (List Char)
  | [] => none
  | c :: rest =>
    let next := scan.step c
    if !scan.inString && c == '\x7d' && next.depth == 0 then some [c]
    else (balancedFrom next rest).map (c :: ·)

/-- The first object of a text. -/
def firstObject? (text : List Char) : Option (List Char) :=
  balancedFrom {} (text.dropWhile (· != '\x7b'))

/-! ## Extraction -/

/-- The document in a reply. -/
def extractChars (reply : List Char) : Except ReplyError Json :=
  let text := stripFence (Text.strip reply)
  match Json.readChars text with
  | .ok value => .ok value
  | .error fault =>
    match firstObject? text with
    | none => .error (.malformed fault)
    | some object => (Json.readChars object).mapError .malformed

/-- The document in a reply. -/
def extractJson (reply : String) : Except ReplyError Json := extractChars reply.toList

end Reply

end PlainQuery
