import PlainQuery.Json.Reader

/-!
# Passing over values

`skipValue` finds the end of a value that nobody needs.  It checks less than reading does: nesting
is not limited, and numbers and surrogates are not looked at.  After a comma it also words two
faults differently, since it does not look ahead for the end of the list or object.
-/

namespace PlainQuery.Json

/-- Goes to the next item of a list that is passed over. -/
def skimItem (first : Bool) (text : List Char) : Except Fault (Bool × List Char) :=
  match skipSpace text with
  | [] => .error .endInList
  | ']' :: rest => .ok (false, rest)
  | ',' :: rest => .ok (true, if first then ',' :: rest else rest)
  | rest => if first then .ok (true, rest) else .error .expectedListSeparator

/-- Passes over a key and its colon. -/
def skimKey (text : List Char) : Except Fault (List Char) :=
  match skipSpace text with
  | [] => .error .endInObject
  | '"' :: rest => do scanColon (← skipString rest)
  | _ => .error .keyNotString

/-- Goes to the value of the next member of an object that is passed over. -/
def skimMember (first : Bool) (text : List Char) : Except Fault (Bool × List Char) :=
  match skipSpace text with
  | [] => .error .endInObject
  | '\x7d' :: rest => .ok (false, rest)
  | ',' :: rest => do pure (true, ← skimKey (if first then ',' :: rest else rest))
  | rest => if first then do pure (true, ← skimKey rest) else .error .expectedObjectSeparator

/-- Passes over a value that is neither list nor object, beginning with `c`. -/
def skimScalar (c : Char) (rest : List Char) : Except Fault (List Char) :=
  if c == 'n' then scanWord "ull".toList rest
  else if c == 't' then scanWord "rue".toList rest
  else if c == 'f' then scanWord "alse".toList rest
  else if c == '"' then skipString rest
  else if c == '-' then skipNumber rest
  else if c.isDigit then skipNumber (c :: rest)
  else .error .expectedValue

mutual

/-- Passes over a value. -/
def skimValue (steps : Nat) (text : List Char) : Except Fault (List Char) :=
  match steps with
  | 0 => .error .endInValue
  | steps + 1 =>
    match skipSpace text with
    | [] => .error .endInValue
    | '[' :: rest => skimItems steps true rest
    | '\x7b' :: rest => skimMembers steps true rest
    | c :: rest => skimScalar c rest

/-- Passes over the items of a list and its end. -/
def skimItems (steps : Nat) (first : Bool) (text : List Char) : Except Fault (List Char) :=
  match steps with
  | 0 => .error .endInList
  | steps + 1 => do
    let (more, rest) ← skimItem first text
    if more then
      let rest ← skimValue steps rest
      skimItems steps false rest
    else pure rest

/-- Passes over the members of an object and its end. -/
def skimMembers (steps : Nat) (first : Bool) (text : List Char) : Except Fault (List Char) :=
  match steps with
  | 0 => .error .endInObject
  | steps + 1 => do
    let (more, rest) ← skimMember first text
    if more then
      let rest ← skimValue steps rest
      skimMembers steps false rest
    else pure rest

end

/-- Passes over the value in front of a text. -/
def skipValue (text : List Char) : Except Fault (List Char) := skimValue (stepsFor text) text

end PlainQuery.Json
