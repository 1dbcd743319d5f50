import PlainQuery.Settings.Basic
import PlainQuery.Settings.Source

/-!
# Reading settings

`Settings.read` reads the settings from a file and the environment.  Values are converted where
another kind is needed: texts are read as numbers and truth values, numbers are written as texts.
Sections and fields that are not known are passed over.
-/

namespace PlainQuery

open Number (Double Single Floating)

/-- Why settings are refused. -/
inductive SettingsError where
  /-- The file holds no object. -/
  | notObject
  /-- Where a section or a list is needed, there is something else. -/
  | notSection
  /-- A value cannot be converted to the kind that is needed. -/
  | wrongKind
deriving DecidableEq, Repr

/-- The wording of the problem. -/
def SettingsError.message : SettingsError → String
  | notObject => "the settings are not an object"
  | notSection => "a section or list is needed"
  | wrongKind => "a value has the wrong kind"

namespace SettingValue

/-- The largest natural number of a setting. -/
def maxNatural : Nat := 18446744073709551615

/-- The largest integer that a setting keeps exactly; larger ones become doubles. -/
def maxInteger : Int := 9223372036854775807

/-- A number as settings keep it. -/
def narrow : Json.Numeral → Json.Numeral
  | .integer value => if maxInteger < value then .double (.ofInt value) else .integer value
  | .double value => .double value

/-- The natural number nearest to a double, halves upward; none is negative or too large. -/
def roundNatural (value : Double) : Nat :=
  if value.negative then 0
  else
    Nat.min ((2 * value.numerator + value.denominator) / (2 * value.denominator)) maxNatural

/-- The truth value that a word means, without the digits. -/
def wordFlag? (text : String) : Option Bool :=
  match Text.lower text with
  | "true" => some true
  | "on" => some true
  | "yes" => some true
  | "false" => some false
  | "off" => some false
  | "no" => some false
  | _ => none

/-- A natural number. -/
def natural? : Json → Option Nat
  | .bool value => some (if value then 1 else 0)
  | .number value =>
    match narrow value with
    | .integer value => if 0 ≤ value then some value.toNat else none
    | .double value => some (roundNatural value)
  | .string text =>
    match wordFlag? text with
    | some value => some (if value then 1 else 0)
    | none =>
      (Number.natural? (Text.lower text).toList).filter fun value => value ≤ maxNatural
  | _ => none

/-- A truth value. -/
def flag? : Json → Option Bool
  | .bool value => some value
  | .number (.integer value) => some (value != 0)
  | .number (.double value) => some (!value.isZero)
  | .string text =>
    match text with
    | "1" => some true
    | "0" => some false
    | text => wordFlag? text
  | _ => none

/-- A text. -/
def text? : Json → Option String
  | .bool value => some (if value then "true" else "false")
  | .number value =>
    match narrow value with
    | .integer value => some (toString value)
    | .double value => some (Number.Layout.plain.write value)
  | .string text => some text
  | _ => none

/-- A number of single precision, rounded from a double. -/
def single? : Json → Option Single
  | .bool value => some (.ofNat (if value then 1 else 0))
  | .number value => some value.toDouble.convert
  | .string text =>
    match wordFlag? text with
    | some value => some (.ofNat (if value then 1 else 0))
    | none => (Floating.ofText? (Text.lower text) : Option Double).map Floating.convert
  | _ => none

end SettingValue

namespace Settings

/-- The fields of a section, which is given by names or by the order of its fields. -/
def section? (name : String) (document : Json) : Except SettingsError (Fields Json) :=
  match document.member? name with
  | none => .ok []
  | some (.object members) => .ok members
  | some (.array items) => .ok (Fields.ofList ((SettingsSource.fieldNames name).zip items))
  | some _ => .error .notSection

/-- A field, or its default. -/
def field {α : Type} (convert : Json → Option α) (default : α) (name : String)
    (fields : Fields Json) : Except SettingsError α :=
  match fields.get? name with
  | none => .ok default
  | some value => (convert value).elim (.error .wrongKind) .ok

/-- A text that may be absent. -/
def optionalText (name : String) (fields : Fields Json) : Except SettingsError (Option String) :=
  match fields.get? name with
  | none => .ok none
  | some .null => .ok none
  | some value => (SettingValue.text? value).elim (.error .wrongKind) fun text => .ok (some text)

/-- A list of texts, or its default. -/
def textList (default : List String) (name : String) (fields : Fields Json) :
    Except SettingsError (List String) :=
  match fields.get? name with
  | none => .ok default
  | some (.array items) =>
    (items.mapM SettingValue.text?).elim (.error .wrongKind) .ok
  | some _ => .error .notSection

/-- The settings of the database. -/
def readDatabase (document : Json) : Except SettingsError DatabaseSettings := do
  let fields ← section? "database" document
  let standard : DatabaseSettings := {}
  pure
    { location := ← field SettingValue.text? standard.location "connection_string" fields
      poolSize := ← field SettingValue.natural? standard.poolSize "pool_size" fields
      readOnly := ← field SettingValue.flag? standard.readOnly "read_only" fields
      schema := ← field SettingValue.text? standard.schema "schema" fields }

/-- The settings of discovery. -/
def readDiscovery (document : Json) : Except SettingsError DiscoverySettings := do
  let fields ← section? "discovery" document
  let standard : DiscoverySettings := {}
  pure
    { includeInternal :=
        ← field SettingValue.flag? standard.includeInternal "include_internal_tables" fields
      internalTables := ← textList standard.internalTables "internal_tables" fields
      timeToLive := ← field SettingValue.natural? standard.timeToLive "cache_ttl_secs" fields
      sampleSize := ← field SettingValue.natural? standard.sampleSize "sample_size" fields }

/-- The settings of execution. -/
def readExecution (document : Json) : Except SettingsError ExecutionSettings := do
  let fields ← section? "executor" document
  let standard : ExecutionSettings := {}
  pure
    { maxRows := ← field SettingValue.natural? standard.maxRows "max_rows" fields
      timeout := ← field SettingValue.natural? standard.timeout "timeout_secs" fields }

/-- The settings of display. -/
def readDisplay (document : Json) : Except SettingsError DisplayLimits := do
  let fields ← section? "display" document
  let standard : DisplayLimits := {}
  pure
    { textRows := ← field SettingValue.natural? standard.textRows "text_rows" fields
      markdownRows := ← field SettingValue.natural? standard.markdownRows "markdown_rows" fields }

/-- The settings of the model. -/
def readModel (document : Json) : Except SettingsError ModelSettings := do
  let fields ← section? "llm" document
  let standard : ModelSettings := {}
  pure
    { backend := ← field SettingValue.text? standard.backend "backend" fields
      model := ← field SettingValue.text? standard.model "model" fields
      apiKey := ← optionalText "api_key" fields
      apiUrl := ← optionalText "api_url" fields
      temperature := ← field SettingValue.single? standard.temperature "temperature" fields }

/-- The settings in a document of all sources. -/
def ofDocument (document : Json) : Except SettingsError Settings := do
  let standard : Settings := {}
  let generation ← section? "generator" document
  let logging ← section? "logging" document
  pure
    { database := ← readDatabase document
      discovery := ← readDiscovery document
      execution := ← readExecution document
      display := ← readDisplay document
      defaultDateColumn :=
        ← field SettingValue.text? standard.defaultDateColumn "default_date_column" generation
      model := ← readModel document
      logAsDocuments := ← field SettingValue.flag? standard.logAsDocuments "json" logging }

/-- The settings from a file, if there is one, and the environment. -/
def read (file : Option Json) (environment : List (String × String)) :
    Except SettingsError Settings :=
  match file with
  | none => ofDocument (SettingsSource.merge [] environment)
  | some (.object members) => ofDocument (SettingsSource.merge members environment)
  | some _ => .error .notObject

end Settings

end PlainQuery
