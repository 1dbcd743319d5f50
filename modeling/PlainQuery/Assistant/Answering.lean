import PlainQuery.Assistant.Plan
import PlainQuery.Catalog.Discovery
import PlainQuery.Model.Prompt
import PlainQuery.Result.Execution
import PlainQuery.Result.Table
import PlainQuery.Schema.Description

/-!
# Answering questions

An `Assistant` has a database, as a catalog and as an engine, a language model and a clock.  It
discovers the schema, has the model plan a query for a question, runs the query and can have the
model tell the result in prose.  A query that fails is still an answer, one whose result is a failed
one; everything that goes wrong before is a `Failure`.
-/

namespace PlainQuery

/-- What answers questions, in some monad. -/
structure Assistant (m : Type → Type) where
  discovery : Discovery
  catalog : Catalog m
  model : Model m
  engine : Engine m
  clock : m Time
  /-- The point in time at which a snapshot is made. -/
  now : m Calendar.Instant
  /-- The date that the model is told. -/
  today : m String
  /-- The column that ranges of dates apply to when the intent names none. -/
  defaultDateColumn : String := Sql.standardDateColumn
  limits : ExecutionLimits := {}
  display : DisplayLimits := {}

/-- A plan with the result of its query. -/
structure Answer extends QueryPlan where
  result : QueryResult
deriving Repr, Inhabited

/-- Work that keeps snapshots of the schema, even if it fails. -/
abbrev Work (m : Type → Type) := ExceptT Failure (StateT (SnapshotCache Schema) m)

namespace Assistant

variable {m : Type → Type} [Monad m] (assistant : Assistant m)

/-- The schema of the database, from the cache unless a new snapshot is insisted on. -/
def schema (force : Bool) : Work m Schema :=
  ExceptT.mk (assistant.discovery.discover assistant.catalog assistant.clock assistant.now force)

/-- The schema in words. -/
def describe (force : Bool) : Work m String := do
  return (← assistant.schema force).describe

/-- The reply of the model to a prompt. -/
def ask (prompt : String) (format : ReplyFormat) : Work m String :=
  ExceptT.mk do return (← assistant.model prompt format).mapError .ofModel

/-- The plan for a question, without running its query. -/
def plan (question : String) : Work m QueryPlan := do
  let schema ← assistant.schema false
  let today ← assistant.today
  let reply ← assistant.ask (Prompt.intent schema.describe today question) .document
  ExceptT.mk (pure (QueryPlan.ofReply assistant.defaultDateColumn schema question reply))

/-- The answer to a question. -/
def answer (question : String) : Work m Answer := do
  let plan ← assistant.plan question
  let running := execute assistant.limits assistant.clock assistant.engine plan.query
  return { plan with result := ← running }

/-- What the model is asked in order to tell an answer in prose. -/
def narration (answer : Answer) : String :=
  Prompt.answer answer.intent.question answer.query.description
    (answer.result.markdownTable assistant.display.markdownRows)
    answer.result.rowCount answer.result.columnNames

/-- The answer in prose, grounded in its result. -/
def narrate (answer : Answer) : Work m String :=
  assistant.ask (assistant.narration answer) .prose

end Assistant

end PlainQuery
