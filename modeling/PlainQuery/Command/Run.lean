import PlainQuery.Assistant.Answering
import PlainQuery.Command.Arguments
import PlainQuery.Database.Connection
import PlainQuery.Detection
import PlainQuery.Model.Endpoint
import PlainQuery.Settings.Reading

/-!
# The command

`Command.run` does what the arguments ask for: it shows the schema, or it answers a question.  A
question that does not look like one about data is turned away, unless it is forced.  What is shown
is said line by line; what was said stays said when the command comes to a bad end.
-/

namespace PlainQuery

/-- Why the command comes to a bad end. -/
inductive CommandProblem where
  /-- The settings describe no model. -/
  | noModel (error : ModelError)
  /-- There is neither a question nor the wish to see the schema. -/
  | noQuestion
  | failed (failure : Failure)
deriving DecidableEq, Repr

/-- The problem as it is reported. -/
def CommandProblem.report : CommandProblem → String
  | noModel error => error.report
  | noQuestion => Text.escaped "a question is required unless --schema is given"
  | failed failure => failure.report

/-- What a command does its work with. -/
structure Surroundings (m : Type → Type) where
  connection : m Connection
  /-- The model that answers at an endpoint. -/
  modelAt : Model.Endpoint → Model m
  clock : m Time
  /-- The point in time at which a snapshot is made. -/
  now : m Calendar.Instant
  /-- The date that the model is told. -/
  today : m String
  /-- Shows a text. -/
  say : String → m Unit

/-- Work of the command. -/
abbrev CommandWork (m : Type → Type) :=
  ExceptT CommandProblem (StateT (SnapshotCache Schema) m)

namespace Command

variable {m : Type → Type} [Monad m]

/-- The assistant that the settings describe. -/
def assistant (settings : Settings) (surroundings : Surroundings m) :
    Except ModelError (Assistant m) := do
  let endpoint ← Model.Endpoint.ofSettings settings.model
  pure
    { discovery :=
        { filter := .ofTables settings.discovery.includeInternal settings.discovery.internalTables
          sampleSize := settings.discovery.sampleSize }
      catalog := Connection.catalog surroundings.connection settings.database.schema
      model := surroundings.modelAt endpoint
      engine := Connection.engine surroundings.connection
      clock := surroundings.clock
      now := surroundings.now
      today := surroundings.today
      defaultDateColumn := settings.defaultDateColumn
      limits := settings.execution.limits
      display := settings.display }

/-- Work on a question as work of the command. -/
def working {α : Type} (work : Work m α) : CommandWork m α :=
  ExceptT.mk do return (← work.run).mapError .failed

/-- A text as a line of its own. -/
def line (text : String) : String := text ++ "\n"

/-- The query of an answer: its description, its text and the values of its placeholders. -/
def queryLines (query : Sql.Query) : String :=
  let parameters :=
    if query.parameters.isEmpty then ""
    else line ("-- parameters: " ++ (Json.object query.parameters).render)
  line ("-- " ++ query.description) ++ line query.sql ++ parameters ++ line ""

/-- The result of an answer as a table. -/
def resultLines (arguments : Arguments) (assistant : Assistant m) (result : QueryResult) : String :=
  let table :=
    if arguments.markdown then result.markdownTable assistant.display.markdownRows
    else result.textTable assistant.display.textRows
  let limit :=
    if result.truncated then
      line ("(results limited to " ++ toString assistant.limits.maxRows ++ " rows)")
    else ""
  line table ++ limit

/-- What is said to a message that is no question about data. -/
def declined (detection : Detection) : String :=
  line ("This does not look like a question about the data (" ++ detection.reasoning ++
    "). Use --force to run it anyway.")

/-- Answers a question and shows the answer. -/
def answerQuestion (arguments : Arguments) (assistant : Assistant m) (say : String → m Unit)
    (question : String) : CommandWork m Unit := do
  if arguments.refresh then
    let _ ← working (assistant.schema true)
  let answer ← working (assistant.answer question)
  if arguments.showSql then
    say (queryLines answer.query)
  say (resultLines arguments assistant answer.result)
  if !answer.result.success then
    throw (.failed (.inStage .queryExecution (answer.result.errorMessage.getD "")))
  if arguments.narrate then
    say (line "")
    say (line (← working (assistant.narrate answer)))

/-- Answers a question if it looks like one about data or is forced. -/
def considerQuestion (arguments : Arguments) (assistant : Assistant m) (say : String → m Unit)
    (question : String) : CommandWork m Unit := do
  if arguments.force then answerQuestion arguments assistant say question
  else
    let detection ← (Detection.detect (some assistant.model) question : m Detection)
    if detection.isAccepted Detection.standardThreshold then
      answerQuestion arguments assistant say question
    else say (declined detection)

/-- Does what the arguments ask for. -/
def perform (arguments : Arguments) (assistant : Assistant m) (say : String → m Unit) :
    CommandWork m Unit := do
  if arguments.schema then say (line (← working (assistant.describe arguments.refresh)))
  else
    match arguments.question with
    | none => throw .noQuestion
    | some question => considerQuestion arguments assistant say question

/-- Runs the command with its settings and arguments. -/
def run (settings : Settings) (arguments : Arguments) (surroundings : Surroundings m) :
    m (Except CommandProblem Unit) := do
  match assistant settings surroundings with
  | .error error => pure (.error (.noModel error))
  | .ok assistant =>
    let snapshots := SnapshotCache.empty (settings.discovery.timeToLive * 1000)
    let (outcome, _) ← ((perform arguments assistant surroundings.say).run).run snapshots
    pure outcome

/-- The code with which the command ends. -/
def exitCode : Except CommandProblem Unit → Nat
  | .ok () => 0
  | .error _ => 1

/-- What the command says about its end. -/
def lastWords : Except CommandProblem Unit → String
  | .ok () => ""
  | .error problem => line ("Error: " ++ problem.report)

end Command

end PlainQuery
