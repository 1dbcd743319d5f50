import PlainQuery.Command.Run
import PlainQuery.Database.Document
import PlainQuery.Json.Reader
import Std.Time.DateTime.Timestamp

/-!
# The program

Reads the arguments, the settings and the database, runs the command and shows what it says.  The
model is reached over the standard streams: each request is written to the error stream as a line,
and a line of the input is the body of the response.
-/

open PlainQuery

namespace PlainQuery.Program

/-- How the program is called. -/
def usage : String :=
  "Usage: plain-query [OPTIONS] [QUESTION]\n\n" ++
    "  -c, --config FILE      settings\n" ++
    "  -d, --database FILE    database, in place of the one in the settings\n" ++
    "      --refresh          discover the schema anew\n" ++
    "      --schema           show the schema and nothing else\n" ++
    "      --markdown         show the result as a markdown table\n" ++
    "      --show-sql         show the query\n" ++
    "      --force            do not ask whether the question is one about data\n" ++
    "      --narrate          tell the result in prose\n" ++
    "      --include-internal see internal tables, too\n" ++
    "  -h, --help             show this text\n" ++
    "  -V, --version          show the version\n"

/-- The name and version of the program. -/
def version : String := "plain-query 0.1.0\n"

/-- The document in a file. -/
def readDocument (path : String) : IO Json := do
  match Json.read (← IO.FS.readFile path) with
  | .ok document => return document
  | .error fault => throw (IO.userError (path ++ ": " ++ fault.message))

/-- The database at a location; one in memory is empty. -/
def readDatabase (location : String) : IO Database := do
  if location == ":memory:" then return {}
  match Database.ofJson? (← readDocument location) with
  | some database => return database
  | none => throw (IO.userError (location ++ ": this is no database"))

/-- The settings in the variables of the environment. -/
def readEnvironment : IO (List (String × String)) :=
  SettingsSource.variableNames.filterMapM fun name => do
    return (← IO.getEnv name).map fun value => (name, value)

/-- The service of the model. -/
def transport : Model.Transport IO := fun request => do
  (← IO.getStderr).putStrLn request.body
  let response ← (← IO.getStdin).getLine
  if response.isEmpty then return .error .interrupted
  return .ok { status := 200, body := response }

/-- The present. -/
def now : IO Calendar.Instant := do
  let present ← Std.Time.Timestamp.now
  return { seconds := present.toSecondsSinceUnixEpoch.val, nanoseconds := 0 }

/-- The date of the present. -/
def today : IO String := do
  return String.ofList (Calendar.Date.ofDays (Int.fdiv (← now).seconds 86400)).render

/-- What the program works in. -/
def surroundings (database : Database) : Surroundings IO where
  connection := pure (.opened database)
  modelAt := fun endpoint => endpoint.asModel transport
  clock := IO.monoMsNow
  now := now
  today := today
  say := fun words => IO.print words

/-- Runs the command with arguments that were understood. -/
def perform (arguments : Arguments) : IO UInt32 := do
  let file ← arguments.config.mapM readDocument
  match Settings.read file (← readEnvironment) with
  | .error problem =>
    IO.eprintln ("Failed to load configuration: " ++ problem.message)
    return 1
  | .ok settings =>
    let settings := settings.override arguments
    let outcome ←
      Command.run settings arguments (surroundings (← readDatabase settings.database.location))
    IO.eprint (Command.lastWords outcome)
    return (Command.exitCode outcome).toUInt32

end PlainQuery.Program

/-- The program. -/
def main (arguments : List String) : IO UInt32 := do
  match Arguments.read arguments with
  | .ok arguments => Program.perform arguments
  | .error .help => IO.print Program.usage; return 0
  | .error .version => IO.print Program.version; return 0
  | .error _ => IO.eprint Program.usage; return 2
