import PlainQuery.Result.Basic
import PlainQuery.Result.Cell
import PlainQuery.Sql.Query

/-!
# Running queries

An `Engine` runs a statement with its arguments, in some monad, and delivers rows in batches or
fails. `execute` binds the placeholders of a query, runs it and keeps the first rows.  It always
gives a result: `resultOf` makes every failure a failed one.  How the rows are split into batches
makes no difference.
-/

namespace PlainQuery

/-- Rows that arrive together. -/
abbrev Batch := List (List Cell)

/-- What a database delivers for a statement. -/
structure Delivery where
  columnNames : List String
  batches : List Batch

/-- Why a database delivers nothing. -/
inductive EngineError where
  /-- No connection was to be had. -/
  | connection (detail : String)
  /-- The database refused the statement. -/
  | database (detail : String)
  /-- The work on the statement broke off. -/
  | crashed (detail : String)
deriving DecidableEq, Repr

/-- A database that runs statements. -/
abbrev Engine (m : Type → Type) :=
  (sql : String) → (arguments : List Sql.Argument) → m (Except EngineError Delivery)

/-- Why a query has no rows. -/
inductive ExecutionError where
  | missingArgument (missing : Sql.MissingArgument)
  | engine (error : EngineError)
  /-- The query took longer than it may, in milliseconds. -/
  | timedOut (limit : Nat)
deriving DecidableEq, Repr

/-- A span of time in seconds, with one decimal place. -/
def secondsText (milliseconds : Nat) : String :=
  let whole : Number.Double := .ofNat (milliseconds / 1000)
  let fraction : Number.Double := .ofRatio false (milliseconds % 1000 * 1000000) 1000000000
  String.ofList ((whole.add fraction).fixed 1)

/-- The wording of the problem. -/
def ExecutionError.message : ExecutionError → String
  | missingArgument missing => missing.message
  | engine (.connection detail) => "Connection pool error: " ++ detail
  | engine (.database detail) => detail
  | engine (.crashed detail) => "Query task failed: " ++ detail
  | timedOut limit => "Query timed out after " ++ secondsText limit ++ " seconds"

/-- What is kept of a query: how many rows, and how long it may take. -/
structure ExecutionLimits where
  maxRows : Nat := 1000
  /-- The time a query may take, in milliseconds. -/
  timeout : Nat := 30000
deriving DecidableEq, Repr

/-- The row of the given columns; of columns with one name the last counts. -/
def rowOf (columnNames : List String) (cells : List Cell) : Row :=
  Fields.ofList (columnNames.zip (cells.map Cell.toJson))

/-- The first `room` rows of the batches, and whether there are more. -/
def captureBatches (columnNames : List String) (room : Nat) : List Batch → List Row × Bool
  | [] => ([], false)
  | batch :: later =>
    -- a batch that fills the room exactly does not say whether there are more
    if room < batch.length then ((batch.take room).map (rowOf columnNames), true)
    else
      let (rows, more) := captureBatches columnNames (room - batch.length) later
      (batch.map (rowOf columnNames) ++ rows, more)

/-- The result of a delivery. -/
def capture (maxRows : Nat) (elapsed : Number.Double) (delivery : Delivery) : QueryResult :=
  let (rows, more) := captureBatches delivery.columnNames maxRows delivery.batches
  .ofRows delivery.columnNames rows more elapsed

/-- Work that took `duration` milliseconds; only its failure is left when that was too long. -/
def withinTime {α : Type} (limit duration : Nat) (work : Except ExecutionError α) :
    Except ExecutionError α :=
  if limit < duration then .error (.timedOut limit) else work

/-- The result of a query that took `duration` milliseconds. -/
def resultOf (limits : ExecutionLimits) (duration : Nat)
    (outcome : Except ExecutionError Delivery) : QueryResult :=
  let elapsed : Number.Double := .ofNat duration
  match withinTime limits.timeout duration outcome with
  | .ok delivery => capture limits.maxRows elapsed delivery
  | .error problem => .failure problem.message elapsed

section Running

variable {m : Type → Type} [Monad m]

/-- Binds the placeholders and runs the statement. -/
def deliver (engine : Engine m) (query : Sql.Query) : m (Except ExecutionError Delivery) :=
  match Sql.bindNames query.sql query.parameters with
  | .error missing => pure (.error (.missingArgument missing))
  | .ok (sql, arguments) => do
    return (← engine sql arguments).mapError .engine

/-- Runs a query, with a look at the clock before and after. -/
def execute (limits : ExecutionLimits) (clock : m Nat) (engine : Engine m) (query : Sql.Query) :
    m QueryResult := do
  let started ← clock
  let outcome ← deliver engine query
  let finished ← clock
  pure (resultOf limits (finished - started) outcome)

end Running

end PlainQuery
