import PlainQuery.Json.Basic
import PlainQuery.Text.CaseMap

/-!
# Where settings come from

Settings are written in a document, whose objects are the sections, and in variables of the
environment, such as `NLQ_DISPLAY__TEXT_ROWS`.  Both are laid over each other in one document: a
later value replaces an earlier one, and sections are merged.
-/

namespace PlainQuery.SettingsSource

mutual

/-- The value `upper` laid over the value `lower`: sections are merged, anything else is replaced.
-/
def overlay (lower : Option Json) : Json → Json
  | .object members => .object (overlayMembers ((lower.bind Json.members?).getD []) members)
  | value => value

/-- The members laid over those of a section. -/
def overlayMembers (section' : Fields Json) : List (String × Json) → Fields Json
  | [] => section'
  | (key, value) :: members =>
    overlayMembers (section'.insert key (overlay (section'.get? key) value)) members

end

/-- The document with `value` laid over what it has at the end of a path; sections on the way are
made where there are none. -/
def setAt (value : Json) : List String → Option Json → Json
  | [], target => overlay target value
  | name :: path, target =>
    let members := (target.bind Json.members?).getD []
    .object (Fields.insert name (setAt value path (Fields.get? members name)) members)

/-- The characters of the names in a path. -/
def isNameChar (c : Char) : Bool := c.isAlphanum || c == '_' || c == '-'

/-- The path that a name means: names with points between them are a path, anything else is a name
of its own. -/
def pathOf (name : String) : List String :=
  let parts := Text.pieces (· == '.') name.toList
  if parts.all fun part => !part.isEmpty && part.all isNameChar then parts.map String.ofList
  else [name]

/-- The document with the named values laid over it. -/
def setAll (values : List (String × Json)) (document : Json) : Json :=
  values.foldl (fun document (name, value) => setAt value (pathOf name) (some document)) document

/-! ## Names -/

/-- The sections of settings, each with its fields in their order. -/
def sections : List (String × List String) :=
  [("database", ["connection_string", "pool_size", "read_only", "schema"]),
   ("discovery", ["include_internal_tables", "internal_tables", "cache_ttl_secs", "sample_size"]),
   ("executor", ["max_rows", "timeout_secs"]),
   ("display", ["text_rows", "markdown_rows"]),
   ("generator", ["default_date_column"]),
   ("llm", ["backend", "model", "api_key", "api_url", "temperature"]),
   ("logging", ["json"])]

/-- The fields of a section. -/
def fieldNames (name : String) : List String := (sections.lookup name).getD []

/-- The variables of the environment that give settings. -/
def variableNames : List String :=
  sections.flatMap fun (section', fields) =>
    fields.map fun field => "NLQ_" ++ Text.upper section' ++ "__" ++ Text.upper field

/-! ## The environment -/

/-- What the names of variables that count begin with, in lower case. -/
def variableStart : List Char := "nlq_".toList

/-- The text with a point for each pair of underscores. -/
def pointed : List Char → List Char
  | '_' :: '_' :: rest => '.' :: pointed rest
  | c :: rest => c :: pointed rest
  | [] => []

/-- The setting that a variable of the environment gives, if it counts. -/
def ofVariable? (variable' : String × String) : Option (String × Json) :=
  let name := (Text.lower variable'.1).toList
  if variableStart.isPrefixOf name then
    some (String.ofList (pointed (name.drop variableStart.length)), .string variable'.2)
  else none

/-- The document of all sources: the members of a file, and the variables of the environment over
them. -/
def merge (file : List (String × Json)) (environment : List (String × String)) : Json :=
  setAll (environment.filterMap ofVariable?) (setAll file (.object []))

end PlainQuery.SettingsSource
