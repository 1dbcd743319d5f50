/-!
# Quoted texts

`quoted` puts a text between quotes and writes each quote inside it twice; `unquoted?` takes the
quotes off again.  `unquoted?_quoted` says that nothing is lost.
-/

namespace PlainQuery.Text

/-- The text with each quote written twice. -/
def doubled (quote : Char) : List Char → List Char
  | [] => []
  | c :: rest => if c = quote then c :: c :: doubled quote rest else c :: doubled quote rest

/-- The text between quotes, each quote inside it written twice. -/
def quoted (quote : Char) (text : List Char) : List Char := quote :: (doubled quote text ++ [quote])

/-- The text with each pair of quotes written once. -/
def halved (quote : Char) : List Char → List Char
  | [] => []
  | [c] => [c]
  | c :: d :: rest =>
    if c = quote ∧ d = quote then c :: halved quote rest
    else c :: halved quote (d :: rest)

/-- The text between the two characters at its ends, if these are they. -/
def between? (first last : Char) : List Char → Option (List Char)
  | [] => none
  | c :: rest => if c == first && rest.getLast? == some last then some rest.dropLast else none

/-- The text that stands between quotes, those inside it written once. -/
def unquoted? (quote : Char) (text : List Char) : Option (List Char) :=
  (between? quote quote text).map (halved quote)

/-- Doubling the quotes of a text and halving them again changes nothing. -/
theorem halved_doubled (quote : Char) (text : List Char) :
    halved quote (doubled quote text) = text := by
  induction text with
  | nil => rfl
  | cons c rest ih =>
    by_cases hc : c = quote
    · simp [doubled, halved, hc, ih]
    · cases hrest : doubled quote rest with
      | nil => simp_all [doubled, halved]
      | cons d later => simp_all [doubled, halved]

/-- What is put between quotes is found there. -/
@[simp] theorem unquoted?_quoted (quote : Char) (text : List Char) :
    unquoted? quote (quoted quote text) = some text := by
  simp [unquoted?, quoted, between?, halved_doubled]

end PlainQuery.Text
