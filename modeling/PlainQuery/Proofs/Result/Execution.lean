import Mathlib.Data.List.Forall2
import PlainQuery.Proofs.Outcome
import PlainQuery.Proofs.Sql.Occurrence
import PlainQuery.Result.Execution

/-!
# What is kept of a query

A database hands rows over in batches, and a result keeps the first of them.  Where the batches end
makes no difference: what is captured depends on the `table` of a delivery only, which is its column
names and its rows one after the other.  `captureBatches_eq` shows this by induction on the batches;
all that follows is about rows.

A run is looked at in a world that the clock and the engine read and change, whatever they do.
`run_execute` says what the three steps of a run leave there, and the result is a function of the
time that has passed and of what was delivered (`resultOf`).  So two statements are enough:

* about `resultOf`: it succeeds exactly if there is a delivery in time (`success_resultOf_iff`);
  then it `Shows` the delivery (`shows_resultOf`), and else it has `Failed` (`failed_resultOf`);
* about `deliver`: if the query lacks a value, the engine is not asked at all
  (`deliver_of_missing`), and otherwise the delivery is that of the engine for the bound query
  (`delivers_iff`).

Engines that differ in their batches only run queries alike (`execute_congr`), since `deliver` hands
on what they have in common and `resultOf` looks at no more.  `execute_obeys` collects the five
facts about a run.
-/

namespace PlainQuery

/-! ## Batches -/

/-- The rows of a delivery in their order. -/
def Delivery.rows (delivery : Delivery) : List (List Cell) := delivery.batches.flatten

/-- What a delivery is apart from its batches. -/
def Delivery.table (delivery : Delivery) : List String × List (List Cell) :=
  (delivery.columnNames, delivery.rows)

theorem captureBatches_eq (columnNames : List String) (room : Nat) (batches : List Batch) :
    captureBatches columnNames room batches =
      ((batches.flatten.take room).map (rowOf columnNames),
        decide (room < batches.flatten.length)) := by
  induction batches generalizing room with
  | nil => simp [captureBatches]
  | cons batch later ih =>
      rw [captureBatches, List.flatten_cons, List.length_append]
      split
      · -- the cap is reached within the batch, so it has a row that is left over
        rename_i hroom
        rw [List.take_append_of_le_length (by omega), decide_eq_true (by omega)]
      · -- the batch is kept whole, and the later ones get the room that is left
        rename_i hroom
        have hmore : room - batch.length < later.flatten.length ↔
            room < batch.length + later.flatten.length := by omega
        rw [ih, List.take_append, List.take_of_length_le (Nat.le_of_not_lt hroom), List.map_append]
        simp only [hmore]

variable {maxRows : Nat} {elapsed : Number.Double} {first second : Delivery}

theorem capture_congr (htable : first.table = second.table) :
    capture maxRows elapsed first = capture maxRows elapsed second := by
  rw [Delivery.table, Delivery.table, Prod.mk.injEq] at htable
  obtain ⟨hnames, hrows⟩ := htable
  unfold Delivery.rows at hrows
  rw [capture, capture, captureBatches_eq, captureBatches_eq, hnames, hrows]

/-! ## Results -/

/-- The row has the values of the cells by the names of their columns; of columns with one name the
last counts. -/
def Row.Holds (row : Row) (columnNames : List String) (cells : List Cell) : Prop :=
  ∀ name, row.get? name = (columnNames.zip (cells.map Cell.toJson)).reverse.lookup name

theorem Row.holds_rowOf (columnNames : List String) (cells : List Cell) :
    Row.Holds (rowOf columnNames cells) columnNames cells :=
  Fields.get?_ofList_eq_lookup _

namespace QueryResult

/-- The result holds the rows of the delivery up to the cap and says whether there are more. -/
structure Shows (result : QueryResult) (maxRows : Nat) (delivery : Delivery) : Prop where
  errorMessage : result.errorMessage = none
  columnNames : result.columnNames = delivery.columnNames
  rows : result.rows = (delivery.rows.take maxRows).map (rowOf delivery.columnNames)
  values : List.Forall₂ (fun cells row => Row.Holds row delivery.columnNames cells)
    (delivery.rows.take maxRows) result.rows
  rowCount : result.rowCount = result.rows.length
  length : result.rows.length = min delivery.rows.length maxRows
  truncated : result.truncated = true ↔ maxRows < delivery.rows.length

/-- The result holds a reason and nothing besides. -/
structure Failed (result : QueryResult) : Prop where
  errorMessage : result.errorMessage ≠ none
  columnNames : result.columnNames = []
  rows : result.rows = []
  rowCount : result.rowCount = 0
  truncated : result.truncated = false

theorem Failed.failure (message : String) (elapsed : Number.Double) :
    (QueryResult.failure message elapsed).Failed :=
  ⟨Option.some_ne_none _, rfl, rfl, rfl, rfl⟩

theorem Shows.capture (maxRows : Nat) (elapsed : Number.Double) (delivery : Delivery) :
    (PlainQuery.capture maxRows elapsed delivery).Shows maxRows delivery := by
  rw [PlainQuery.capture, captureBatches_eq]
  refine ⟨rfl, rfl, rfl, ?_, rfl, ?_, ?_⟩
  · exact List.forall₂_map_right_iff.mpr
      (List.forall₂_same.mpr fun cells _ => Row.holds_rowOf delivery.columnNames cells)
  · simp only [ofRows, List.length_map, List.length_take, Nat.min_comm, Delivery.rows]
  · simp only [ofRows, decide_eq_true_iff, Delivery.rows]

end QueryResult

variable {limits : ExecutionLimits} {duration : Nat} {outcome : Except ExecutionError Delivery}

theorem resultOf_of_late (hlate : limits.timeout < duration) :
    resultOf limits duration outcome =
      .failure (ExecutionError.timedOut limits.timeout).message (.ofNat duration) := by
  rw [resultOf, withinTime, if_pos hlate]

theorem resultOf_of_inTime (hinTime : duration ≤ limits.timeout) :
    resultOf limits duration outcome =
      match outcome with
      | .ok delivery => capture limits.maxRows (.ofNat duration) delivery
      | .error problem => .failure problem.message (.ofNat duration) := by
  have hwork : withinTime limits.timeout duration outcome = outcome :=
    if_neg (Nat.not_lt.mpr hinTime)
  cases outcome <;> simp only [resultOf, hwork]

theorem success_resultOf_iff :
    (resultOf limits duration outcome).success = true ↔
      duration ≤ limits.timeout ∧ ∃ delivery, outcome = .ok delivery := by
  by_cases hinTime : duration ≤ limits.timeout
  · rw [resultOf_of_inTime hinTime]
    cases outcome with
    | error problem => simp [QueryResult.failure]
    | ok delivery => simp [hinTime, capture, QueryResult.ofRows]
  · rw [resultOf_of_late (Nat.lt_of_not_le hinTime)]
    simp [hinTime, QueryResult.failure]

theorem shows_resultOf {delivery : Delivery}
    (h : (resultOf limits duration (.ok delivery)).success = true) :
    (resultOf limits duration (.ok delivery)).Shows limits.maxRows delivery := by
  rw [resultOf_of_inTime (success_resultOf_iff.mp h).1]
  exact .capture limits.maxRows (.ofNat duration) delivery

theorem failed_resultOf (h : (resultOf limits duration outcome).success = false) :
    (resultOf limits duration outcome).Failed := by
  by_cases hinTime : duration ≤ limits.timeout
  · rw [resultOf_of_inTime hinTime] at h ⊢
    cases outcome with
    | error problem => exact .failure problem.message (.ofNat duration)
    | ok delivery => cases h
  · rw [resultOf_of_late (Nat.lt_of_not_le hinTime)]
    exact .failure _ _

theorem resultOf_congr {other : Except ExecutionError Delivery}
    (htable : outcome.map Delivery.table = other.map Delivery.table) :
    resultOf limits duration outcome = resultOf limits duration other := by
  by_cases hinTime : duration ≤ limits.timeout
  · rw [resultOf_of_inTime hinTime, resultOf_of_inTime hinTime]
    cases outcome <;> cases other <;> simp only [Except.map, reduceCtorEq, Except.ok.injEq,
      Except.error.injEq] at htable
    · rw [htable]
    · exact capture_congr htable
  · rw [resultOf_of_late (Nat.lt_of_not_le hinTime), resultOf_of_late (Nat.lt_of_not_le hinTime)]

/-! ## Runs -/

section Runs

variable {World : Type} {clock : StateM World Nat} {engine other : Engine (StateM World)}
  {query : Sql.Query} {world : World}

/-- The time that work takes by the clock. -/
def timeOf {α : Type} (clock : StateM World Nat) (work : StateM World α) (world : World) : Nat :=
  let started := clock.run world
  (clock.run (work.run started.2).2).1 - started.1

/-- The engine is handed the bound query in this world and makes the delivery. -/
def Delivers (engine : Engine (StateM World)) (query : Sql.Query) (world : World)
    (delivery : Delivery) : Prop :=
  ∃ sql arguments, Sql.bindNames query.sql query.parameters = .ok (sql, arguments) ∧
    ((engine sql arguments).run world).1 = .ok delivery

/-- The engines differ in the batches of their deliveries only. -/
def Engine.SameTables (engine other : Engine (StateM World)) : Prop :=
  ∀ sql arguments, Except.map Delivery.table <$> engine sql arguments =
    Except.map Delivery.table <$> other sql arguments

/-- An engine has no part in a query that cannot be bound. -/
theorem deliver_of_missing {missing : Sql.MissingArgument}
    (hbind : Sql.bindNames query.sql query.parameters = .error missing) :
    deliver engine query = pure (.error (.missingArgument missing)) := by
  rw [deliver, hbind]

theorem deliver_of_bound {sql : String} {arguments : List Sql.Argument}
    (hbind : Sql.bindNames query.sql query.parameters = .ok (sql, arguments)) :
    deliver engine query = Except.mapError .engine <$> engine sql arguments := by
  rw [deliver, hbind]
  rfl

theorem delivers_iff {delivery : Delivery} :
    Delivers engine query world delivery ↔
      ((deliver engine query).run world).1 = .ok delivery := by
  unfold Delivers
  cases hbind : Sql.bindNames query.sql query.parameters with
  | error missing =>
      rw [deliver_of_missing hbind]
      exact iff_of_false (fun ⟨_, _, hok, _⟩ => nomatch hok) nofun
  | ok bound =>
      have hrun : ((deliver engine query).run world).1 =
          ((engine bound.1 bound.2).run world).1.mapError .engine := by
        rw [deliver_of_bound hbind]
        rfl
      rw [hrun, mapError_eq_ok_iff]
      constructor
      · rintro ⟨sql, arguments, hok, hanswer⟩
        cases hok
        exact hanswer
      · exact fun hanswer => ⟨bound.1, bound.2, rfl, hanswer⟩

theorem deliver_congr (query : Sql.Query) (htables : engine.SameTables other) :
    Except.map Delivery.table <$> deliver engine query =
      Except.map Delivery.table <$> deliver other query := by
  cases hbind : Sql.bindNames query.sql query.parameters with
  | error missing => rw [deliver_of_missing hbind, deliver_of_missing hbind]
  | ok bound =>
      obtain ⟨sql, arguments⟩ := bound
      have hcomm : ∀ answer : Except EngineError Delivery,
          (answer.mapError ExecutionError.engine).map Delivery.table =
            (answer.map Delivery.table).mapError ExecutionError.engine := by
        rintro (_ | _) <;> rfl
      rw [deliver_of_bound hbind, deliver_of_bound hbind, Functor.map_map, Functor.map_map]
      simp only [hcomm]
      rw [← Functor.map_map, htables, Functor.map_map]

theorem run_execute :
    (execute limits clock engine query).run world =
      (resultOf limits (timeOf clock (deliver engine query) world)
          ((deliver engine query).run (clock.run world).2).1,
        (clock.run ((deliver engine query).run (clock.run world).2).2).2) := rfl

/-- Where the batches end makes no difference to a run. -/
theorem execute_congr (htables : engine.SameTables other) :
    execute limits clock engine query = execute limits clock other query := by
  funext world
  -- up to the table, both engines give one answer and leave one world behind
  have hdeliver := congrFun (deliver_congr query htables) (clock.run world).2
  have houtcome : ((deliver engine query).run (clock.run world).2).1.map Delivery.table =
      ((deliver other query).run (clock.run world).2).1.map Delivery.table :=
    congrArg Prod.fst hdeliver
  have hworld : ((deliver engine query).run (clock.run world).2).2 =
      ((deliver other query).run (clock.run world).2).2 :=
    (congrArg Prod.snd hdeliver :)
  have htime : timeOf clock (deliver engine query) world =
      timeOf clock (deliver other query) world := by
    simp only [timeOf, hworld]
  show (execute limits clock engine query).run world = (execute limits clock other query).run world
  rw [run_execute, run_execute, htime, hworld, resultOf_congr houtcome]

/-- **What is shown and what has failed.**  A run succeeds exactly if the query can be bound and the
engine delivers in time.  Then the result shows the delivery, and else it has failed.  If a
placeholder of the query has no value, it has failed whatever the engine is; and it does not depend
on the batches of a delivery. -/
theorem execute_obeys {World : Type} (limits : ExecutionLimits) (clock : StateM World Nat)
    (engine : Engine (StateM World)) (query : Sql.Query) (world : World) :
    let result := ((execute limits clock engine query).run world).1
    (result.success = true ↔ timeOf clock (deliver engine query) world ≤ limits.timeout ∧
      ∃ delivery, Delivers engine query (clock.run world).2 delivery) ∧
    (∀ delivery, Delivers engine query (clock.run world).2 delivery → result.success = true →
      result.Shows limits.maxRows delivery) ∧
    (result.success = false → result.Failed) ∧
    (∀ name, Sql.Occurs query.sql.toList name → query.parameters.get? name.key = none →
      result.success = false ∧
        ∀ other, execute limits clock other query = execute limits clock engine query) ∧
    ∀ other, engine.SameTables other →
      execute limits clock other query = execute limits clock engine query := by
  intro result
  have hresult : result = resultOf limits (timeOf clock (deliver engine query) world)
      ((deliver engine query).run (clock.run world).2).1 := congrArg Prod.fst run_execute
  simp only [delivers_iff]
  refine ⟨hresult ▸ success_resultOf_iff, ?_, hresult ▸ failed_resultOf, ?_, ?_⟩
  · intro delivery hdelivery hsuccess
    rw [hdelivery] at hresult
    rw [hresult] at hsuccess ⊢
    exact shows_resultOf hsuccess
  · -- the binder finds out before it is the engine's turn
    intro name hname hvalue
    obtain ⟨missing, hbind⟩ := Sql.exists_error_of_occurs hname hvalue
    refine ⟨?_, fun other => ?_⟩
    · rw [hresult, deliver_of_missing hbind, Bool.eq_false_iff, ne_eq, success_resultOf_iff]
      exact fun ⟨_, _, hok⟩ => nomatch hok
    · rw [execute, execute, deliver_of_missing hbind, deliver_of_missing hbind]
  · exact fun other htables => (execute_congr htables).symm

end Runs

/-- A clock that is ten milliseconds later at each look. -/
def steadyClock : StateM Nat Nat := fun now => (now, now + 10)

/-- A query for the numbers above a bound. -/
def numbersAbove (parameters : Fields Json) : Sql.Query where
  sql := "SELECT n FROM numbers WHERE n > :f_1"
  parameters := parameters
  description := ""
  tablesUsed := ["numbers"]

/-- Numbers in batches. -/
def Delivery.ofNumbers (batches : List (List Int)) : Delivery where
  columnNames := ["n"]
  batches := batches.map fun batch => batch.map fun n => [.integer n]

theorem obeys_numbersAbove :
    let delivery := Delivery.ofNumbers [[1], [], [2, 3]]
    let engine : Engine (StateM Nat) := fun _ _ => pure (.ok delivery)
    let other : Engine (StateM Nat) := fun _ _ => pure (.ok (.ofNumbers [[1, 2], [3]]))
    let above : Sql.Query := numbersAbove [("f_1", .number (.integer 0))]
    let run := fun engine query => (execute { maxRows := 2 } steadyClock engine query).run 0
    (run engine above).1.Shows 2 delivery ∧ (run engine above).1.truncated = true ∧
      (run engine above).1.rows =
        [[("n", .number (.integer 1))], [("n", .number (.integer 2))]] ∧
      (run engine (numbersAbove [])).1.Failed ∧ run other above = run engine above := by
  intro delivery engine other above run
  obtain ⟨hsuccess, hshows, -, -, hbatches⟩ :=
    execute_obeys { maxRows := 2 } steadyClock engine above 0
  obtain ⟨-, -, hfailed, hmissing, -⟩ :=
    execute_obeys { maxRows := 2 } steadyClock engine (numbersAbove []) 0
  -- the first look at the clock leaves it at ten
  have hdelivers : Delivers engine above 10 delivery :=
    ⟨"SELECT n FROM numbers WHERE n > ?", [.bigint 0], by decide, rfl⟩
  have hshown := hshows delivery hdelivers (hsuccess.mpr ⟨by decide, delivery, hdelivers⟩)
  have hoccurs : Sql.Occurs (numbersAbove []).sql.toList
      (Sql.Placeholder.numbered .operand 1).slotName :=
    ⟨"SELECT n FROM numbers WHERE n > ".toList, [], by decide, by simp, by decide, by decide⟩
  refine ⟨hshown, hshown.truncated.mpr (by decide), hshown.rows.trans rfl,
    hfailed (hmissing _ hoccurs rfl).1, ?_⟩
  exact congrFun (hbatches other fun _ _ => rfl) 0

end PlainQuery
