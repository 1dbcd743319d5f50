import PlainQuery.Intent.Reply
import PlainQuery.Intent.Validation
import PlainQuery.Model.Basic
import PlainQuery.Sql.Compile

/-!
# Failures

Why a question has no answer: a stage of the work failed, or the model did.  What can be passed
over, such as a condition that makes no sense, is no failure.
-/

namespace PlainQuery

/-- A stage of the work on a question. -/
inductive Stage where
  | schemaDiscovery
  | intentParsing
  | sqlGeneration
  | queryExecution
deriving DecidableEq, Repr

namespace Stage

/-- The name of the kind of failure of a stage. -/
def kind : Stage → String
  | schemaDiscovery => "SchemaDiscovery"
  | intentParsing => "IntentParsing"
  | sqlGeneration => "SqlGeneration"
  | queryExecution => "QueryExecution"

/-- What the message about the failure of a stage begins with. -/
def heading : Stage → String
  | schemaDiscovery => "Schema discovery error: "
  | intentParsing => "Intent parsing error: "
  | sqlGeneration => "SQL generation error: "
  | queryExecution => "Query execution error: "

end Stage

/-- Why a question has no answer. -/
inductive Failure where
  | inStage (stage : Stage) (detail : String)
  | ofModel (error : ModelError)
deriving DecidableEq, Repr

namespace Failure

/-- The reply of the model holds no intent. -/
def ofReplyError (problem : ReplyError) : Failure := inStage .intentParsing problem.message

/-- The intent is about no table that is known. -/
def ofUnknownTables (problem : UnknownTables) : Failure := inStage .intentParsing problem.message

/-- The intent has no statement. -/
def ofCompileError (problem : Sql.CompileError) : Failure :=
  inStage .sqlGeneration ("Failed to generate SQL: " ++ problem.message)

/-- The wording of a failure. -/
def message : Failure → String
  | inStage stage detail => stage.heading ++ detail
  | ofModel error => error.message

/-- The name of the kind of failure. -/
def kind : Failure → String
  | inStage stage _ => stage.kind
  | ofModel _ => "Model"

/-- The wording of the problem that the failure only passes on. -/
def cause? : Failure → Option String
  | inStage _ _ => none
  | ofModel error => some error.message

/-- The failure as a command reports it: its kind, and its detail between quotes. -/
def report : Failure → String
  | inStage stage detail => stage.kind ++ "(" ++ Text.escaped detail ++ ")"
  | ofModel error => "Model(" ++ error.report ++ ")"

end Failure

end PlainQuery
