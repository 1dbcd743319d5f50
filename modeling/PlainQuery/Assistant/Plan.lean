import PlainQuery.Failure
import PlainQuery.Intent.Build
import PlainQuery.Sql.Query

/-!
# Plans

A `QueryPlan` is what the reply of a model to a question comes to: an intent over tables of the
schema, and the query for it.
-/

namespace PlainQuery

/-- An intent and the query for it. -/
structure QueryPlan where
  intent : Intent
  query : Sql.Query
deriving Repr, Inhabited

namespace QueryPlan

/-- The plan in the reply of a model to a question: the reply must hold an intent about tables that
the schema knows and for which there is a statement. -/
def ofReply (defaultDateColumn : String) (schema : Schema) (question reply : String) :
    Except Failure QueryPlan := do
  let asked ← (Intent.ofReply reply question).mapError .ofReplyError
  let intent ← (asked.validate schema).mapError .ofUnknownTables
  let query ← (Sql.generate defaultDateColumn intent schema).mapError .ofCompileError
  pure { intent, query }

end QueryPlan

end PlainQuery
