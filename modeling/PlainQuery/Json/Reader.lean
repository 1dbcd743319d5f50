import PlainQuery.Json.Scan

/-!
# Reading documents

`Json.read` reads a whole text as one document and reports the first problem that a single pass over
the text meets.  Objects keep the last of several members of one name.  Lists and objects may be
nested at most `maxDepth` deep.

The functions recurse on a count of steps; `stepsFor` gives enough of them for every text, because
two steps always consume a character.
-/

namespace PlainQuery.Json

/-- How deep lists and objects may be nested. -/
def maxDepth : Nat := 127

/-- Enough steps for reading a text. -/
def stepsFor (text : List Char) : Nat := 2 * text.length + 2

/-- Reads the colon after a key. -/
def scanColon (text : List Char) : Except Fault (List Char) :=
  match skipSpace text with
  | [] => .error .endInObject
  | ':' :: rest => .ok rest
  | _ => .error .expectedColon

/-- Goes to the next item of a list: the text in front of it, or nothing and the text after the
list. -/
def nextItem (first : Bool) (text : List Char) : Except Fault (Bool × List Char) :=
  match skipSpace text with
  | [] => .error .endInList
  | ']' :: rest => .ok (false, rest)
  | ',' :: rest =>
    -- a comma in front of the first item is a fault of the item
    if first then .ok (true, ',' :: rest)
    else
      match skipSpace rest with
      | [] => .error .endInValue
      | ']' :: _ => .error .trailingComma
      | rest => .ok (true, rest)
  | rest => if first then .ok (true, rest) else .error .expectedListSeparator

/-- Goes to the next key of an object: the text after its opening quote, or nothing and the text
after the object. -/
def nextKey (first : Bool) (text : List Char) : Except Fault (Bool × List Char) :=
  match skipSpace text with
  | [] => .error .endInObject
  | '\x7d' :: rest => .ok (false, rest)
  | ',' :: rest =>
    if first then .error .keyNotString
    else
      match skipSpace rest with
      | [] => .error .endInValue
      | '"' :: rest => .ok (true, rest)
      | '\x7d' :: _ => .error .trailingComma
      | _ => .error .keyNotString
  | '"' :: rest => if first then .ok (true, rest) else .error .expectedObjectSeparator
  | _ => if first then .error .keyNotString else .error .expectedObjectSeparator

/-- Reads a value that is neither list nor object, beginning with `c`. -/
def readScalar (c : Char) (rest : List Char) : Except Fault (Json × List Char) :=
  if c == 'n' then do pure (.null, ← scanWord "ull".toList rest)
  else if c == 't' then do pure (.bool true, ← scanWord "rue".toList rest)
  else if c == 'f' then do pure (.bool false, ← scanWord "alse".toList rest)
  else if c == '"' then do
    let (text, rest) ← scanString rest
    pure (.string text, rest)
  else if c == '-' then do
    let (value, rest) ← scanNumber true rest
    pure (.number value, rest)
  else if c.isDigit then do
    let (value, rest) ← scanNumber false (c :: rest)
    pure (.number value, rest)
  else .error .expectedValue

mutual

/-- Reads a value with `depth` levels of nesting left. -/
def readValue (steps depth : Nat) (text : List Char) : Except Fault (Json × List Char) :=
  match steps with
  | 0 => .error .endInValue
  | steps + 1 =>
    match skipSpace text with
    | [] => .error .endInValue
    | '[' :: rest =>
      match depth with
      | 0 => .error .tooDeep
      | depth + 1 => do
        let (items, rest) ← readItems steps depth true rest
        pure (.array items, rest)
    | '\x7b' :: rest =>
      match depth with
      | 0 => .error .tooDeep
      | depth + 1 => do
        let (members, rest) ← readMembers steps depth true rest
        pure (ofMembers members, rest)
    | c :: rest => readScalar c rest

/-- Reads the items of a list up to its end. -/
def readItems (steps depth : Nat) (first : Bool) (text : List Char) :
    Except Fault (List Json × List Char) :=
  match steps with
  | 0 => .error .endInList
  | steps + 1 => do
    let (more, rest) ← nextItem first text
    if more then
      let (item, rest) ← readValue steps depth rest
      let (items, rest) ← readItems steps depth false rest
      pure (item :: items, rest)
    else pure ([], rest)

/-- Reads the members of an object up to its end. -/
def readMembers (steps depth : Nat) (first : Bool) (text : List Char) :
    Except Fault (List (String × Json) × List Char) :=
  match steps with
  | 0 => .error .endInObject
  | steps + 1 => do
    let (more, rest) ← nextKey first text
    if more then
      let (key, rest) ← scanString rest
      let rest ← scanColon rest
      let (value, rest) ← readValue steps depth rest
      let (members, rest) ← readMembers steps depth false rest
      pure ((key, value) :: members, rest)
    else pure ([], rest)

end

/-- Only white space may follow a document. -/
def readEnd (text : List Char) : Except Fault Unit :=
  if (skipSpace text).isEmpty then .ok () else .error .trailingCharacters

/-- Reads a whole text as a document. -/
def readChars (text : List Char) : Except Fault Json := do
  let (value, rest) ← readValue (stepsFor text) maxDepth text
  readEnd rest
  pure value

/-- Reads a whole string as a document. -/
def read (text : String) : Except Fault Json := readChars text.toList

end PlainQuery.Json
