import PlainQuery.Settings.Basic

/-!
# Arguments of the command

The arguments are read from left to right, and the first problem in this order is reported.  An
option with a value is settled only when something else begins, so a missing value is noticed there;
a fault in the spelling of an argument comes before it.
-/

namespace PlainQuery

/-- What the command is asked to do. -/
structure Arguments where
  /-- The file with the settings. -/
  config : Option String := none
  /-- The database, in place of the one in the settings. -/
  database : Option String := none
  refresh : Bool := false
  /-- Show the schema and nothing else. -/
  schema : Bool := false
  markdown : Bool := false
  showSql : Bool := false
  /-- Run the query even if the question does not look like one about data. -/
  force : Bool := false
  narrate : Bool := false
  includeInternal : Bool := false
  question : Option String := none
deriving DecidableEq, Repr, Inhabited

/-- Why there are no arguments; asking for help or the version is such a reason. -/
inductive ArgumentError where
  | help
  | version
  | unknown
  /-- A value is missing or empty. -/
  | invalidValue
  /-- An option is given twice. -/
  | conflict
  /-- An option without value is given one. -/
  | tooManyValues
deriving DecidableEq, Repr

namespace Arguments

/-- The options that have a value. -/
inductive ValueOption where
  | config
  | database
deriving DecidableEq, Repr

/-- The options that have none. -/
inductive Flag where
  | refresh
  | schema
  | markdown
  | showSql
  | force
  | narrate
  | includeInternal
  | help
  | version
deriving DecidableEq, Repr

/-- Any option. -/
inductive Switch where
  | valued (option' : ValueOption)
  | flag (flag : Flag)
deriving DecidableEq, Repr

namespace Switch

/-- The option with a name after two dashes. -/
def ofName? (name : List Char) : Option Switch :=
  match String.ofList name with
  | "config" => some (.valued .config)
  | "database" => some (.valued .database)
  | "refresh" => some (.flag .refresh)
  | "schema" => some (.flag .schema)
  | "markdown" => some (.flag .markdown)
  | "show-sql" => some (.flag .showSql)
  | "force" => some (.flag .force)
  | "narrate" => some (.flag .narrate)
  | "include-internal" => some (.flag .includeInternal)
  | "help" => some (.flag .help)
  | "version" => some (.flag .version)
  | _ => none

/-- The option with a letter after one dash. -/
def ofLetter? (letter : Char) : Option Switch :=
  if letter == 'c' then some (.valued .config)
  else if letter == 'd' then some (.valued .database)
  else if letter == 'h' then some (.flag .help)
  else if letter == 'V' then some (.flag .version)
  else none

end Switch

/-! ## Setting single options -/

/-- The arguments with the value of an option; the file of the settings must have a name. -/
def setValue (arguments : Arguments) (value : String) :
    ValueOption → Except ArgumentError Arguments
  | .config =>
    if arguments.config.isSome then .error .conflict
    else if value.isEmpty then .error .invalidValue
    else .ok { arguments with config := some value }
  | .database =>
    if arguments.database.isSome then .error .conflict
    else .ok { arguments with database := some value }

/-- The changed arguments, unless the option was set before. -/
def once (already : Bool) (changed : Arguments) : Except ArgumentError Arguments :=
  if already then .error .conflict else .ok changed

/-- The arguments with an option without value. -/
def setFlag (arguments : Arguments) : Flag → Except ArgumentError Arguments
  | .refresh => once arguments.refresh { arguments with refresh := true }
  | .schema => once arguments.schema { arguments with schema := true }
  | .markdown => once arguments.markdown { arguments with markdown := true }
  | .showSql => once arguments.showSql { arguments with showSql := true }
  | .force => once arguments.force { arguments with force := true }
  | .narrate => once arguments.narrate { arguments with narrate := true }
  | .includeInternal => once arguments.includeInternal { arguments with includeInternal := true }
  | .help => .error .help
  | .version => .error .version

/-! ## Reading -/

/-- What has been read: the settled options, and the last option with a value if it is not settled.
-/
structure Progress where
  arguments : Arguments := {}
  pending : Option (ValueOption × Option String) := none

/-- Settles the last option with a value. -/
def Progress.settle (progress : Progress) : Except ArgumentError Arguments :=
  match progress.pending with
  | none => .ok progress.arguments
  | some (_, none) => .error .invalidValue
  | some (option', some value) => progress.arguments.setValue value option'

/-- Reads an option, with the value written directly behind it if there is one. -/
def Progress.takeSwitch (progress : Progress) (switch : Option Switch)
    (attached : Option (List Char)) : Except ArgumentError Progress :=
  match switch, attached with
  | none, _ => .error .unknown
  | some (.flag _), some _ => .error .tooManyValues
  | some (.flag flag), none => do
    let settled ← progress.settle
    pure { arguments := ← settled.setFlag flag }
  | some (.valued option'), some value => do
    let settled ← progress.settle
    pure { arguments := ← settled.setValue (String.ofList value) option' }
  | some (.valued option'), none => do
    pure { arguments := ← progress.settle, pending := some (option', none) }

/-- The value in the rest of an argument after the letter of an option. -/
def attachedValue : List Char → Option (List Char)
  | [] => none
  | '=' :: value => some value
  | value => some value

/-- Reads a word that is no option: the value that is awaited, or the question. -/
def Progress.takeWord (progress : Progress) (awaited : Bool) (word : String) :
    Except ArgumentError Progress :=
  match progress.pending, awaited with
  | some (option', none), true => .ok { progress with pending := some (option', some word) }
  | _, _ =>
    if progress.arguments.question.isSome then .error .unknown
    else do
      let settled ← progress.settle
      pure { arguments := { settled with question := some word } }

/-- Reads an argument before the one that ends the options. -/
def Progress.take (progress : Progress) (argument : String) : Except ArgumentError Progress :=
  match argument.toList with
  | '-' :: '-' :: rest =>
    let name := rest.takeWhile (· != '=')
    let value := (rest.drop name.length).tail?
    progress.takeSwitch (Switch.ofName? name) value
  | '-' :: letter :: rest =>
    match Switch.ofLetter? letter with
    -- both flags with a letter end the reading, so the rest of the word does not matter
    | some (.flag flag) => progress.takeSwitch (some (.flag flag)) none
    | switch => progress.takeSwitch switch (attachedValue rest)
  | _ => progress.takeWord true argument

/-- Reads the rest of the arguments; `onlyWords` holds after two dashes alone. -/
def readFrom (progress : Progress) (onlyWords : Bool) :
    List String → Except ArgumentError Arguments
  | [] => progress.settle
  | argument :: rest => do
    if onlyWords then readFrom (← progress.takeWord false argument) true rest
    else if argument == "--" then readFrom progress true rest
    else readFrom (← progress.take argument) false rest

/-- Reads the arguments. -/
def read (arguments : List String) : Except ArgumentError Arguments := readFrom {} false arguments

end Arguments

/-- The settings with what the arguments override. -/
def Settings.override (settings : Settings) (arguments : Arguments) : Settings :=
  { settings with
    database :=
      { settings.database with
        location := arguments.database.getD settings.database.location }
    discovery :=
      { settings.discovery with
        includeInternal := settings.discovery.includeInternal || arguments.includeInternal } }

end PlainQuery
