import PlainQuery.Proofs.Sql.SlotName
import PlainQuery.Sql.Query

/-!
# The slots of a plan

A plan is made in two steps that do not look at each other: the tables are settled, and everything
else is read off the intent.  `planOver` and `queryOver` are the second step for tables that are
given, and `generate_eq_map` says that the first one alone decides whether there is a query.  So the
theory of generated queries is about `queryOver`, whatever the tables.

**Values.**  A filter asks for a `Predicate`: a column, an operator and the values it is compared
with.  These are read off an intent without any placeholder (`predicate?`, `datePredicates`), and
the conditions of its plan are exactly these, in the same order (`conditions_predicates`).  So the
values in the slots of a plan are those of the predicates and the limit (`slots_values`).

**Placeholders.**  Those of the filters are `NumberedFrom` a counter that goes up by one for each
slot.  The stem says only what kind of operand it is, so it is the number that keeps two of them
apart (`NumberedFrom.nodup`).  The dates and the limit have placeholders of their own, each used at
most once (`named_placeholders`); hence no two slots of a plan share a placeholder
(`slots_placeholders_nodup`).

The last section has the sample intent and the sample schema on which statements about all intents
are tried out, here and in the other modules about queries.
-/

namespace PlainQuery.Sql

/-! ## Plans over given tables -/

/-- The plan for an intent once its tables are settled. -/
def planOver (defaultDateColumn : String) (intent : Intent) (tables : TableClause) : Plan where
  items := selectItems intent
  anchor := tables.anchor
  joins := tables.joins
  conditions := filterConditions 0 intent.filters ++ dateConditions defaultDateColumn intent
  groupBy := intent.groupBy.filterMap identifier?
  orderBy := intent.orderBy.filterMap orderItem?
  limit := intent.limit.map fun count => ⟨.limit, .ofNat count⟩

/-- The query for an intent once its tables are settled. -/
def queryOver (defaultDateColumn : String) (intent : Intent) (tables : TableClause) : Query where
  sql := Plan.sql (planOver defaultDateColumn intent tables)
  parameters := bindingFields (planOver defaultDateColumn intent tables).slots
  description := describeIntent intent tables.tablesUsed
  tablesUsed := tables.tablesUsed

/-- Only the tables decide whether there is a query. -/
theorem generate_eq_map (defaultDateColumn : String) (intent : Intent) (schema : Schema) :
    generate defaultDateColumn intent schema =
      (tableClause schema intent).map (queryOver defaultDateColumn intent) := by
  unfold generate compile
  cases tableClause schema intent with
  | error problem => rfl
  | ok tables => rfl

theorem exists_tables_of_generate {defaultDateColumn : String} {intent : Intent} {schema : Schema}
    {query : Query} (h : generate defaultDateColumn intent schema = .ok query) :
    ∃ tables, tableClause schema intent = .ok tables ∧
      query = queryOver defaultDateColumn intent tables := by
  rw [generate_eq_map] at h
  cases htables : tableClause schema intent with
  | error problem => rw [htables] at h; cases h
  | ok tables =>
      rw [htables] at h
      cases h
      exact ⟨tables, rfl, rfl⟩

/-! ## Predicates -/

/-- A condition with the values it compares a column with. -/
structure Predicate where
  column : Identifier
  operator : Operator
  operands : List Json

/-- The values that an operator compares with, if the value of a filter suits the operator. -/
def Operator.operands? : Operator → Json → Option (List Json)
  | nullTest _, _ => some []
  | membership _, .null => none
  | membership _, .array [] => none
  | membership _, .array items => some items
  | membership _, scalar => some [scalar]
  | like _, value => some [value]
  | between, .array [low, high] => some [low, high]
  | between, _ => none
  | compare _, .null => none
  | compare _, value => some [value]

/-- The predicate that a filter asks for.  A filter without one is dropped. -/
def predicate? (filter : Filter) : Option Predicate := do
  let operator ← Operator.ofName? filter.operator
  let column ← identifier? filter.column
  let operands ← operator.operands? filter.value
  some { column, operator, operands }

theorem predicate?_eq_some_iff {filter : Filter} {predicate : Predicate} :
    predicate? filter = some predicate ↔
      Operator.ofName? filter.operator = some predicate.operator ∧
        identifier? filter.column = some predicate.column ∧
        predicate.operator.operands? filter.value = some predicate.operands := by
  unfold predicate?
  constructor
  · intro h
    obtain ⟨operator, hoperator, h⟩ := Option.bind_eq_some_iff.mp h
    obtain ⟨column, hcolumn, h⟩ := Option.bind_eq_some_iff.mp h
    obtain ⟨operands, hoperands, h⟩ := Option.bind_eq_some_iff.mp h
    cases h
    exact ⟨hoperator, hcolumn, hoperands⟩
  · rintro ⟨hoperator, hcolumn, hoperands⟩
    rw [hoperator, Option.bind_eq_bind, Option.bind_some, hcolumn, Option.bind_eq_bind,
      Option.bind_some, hoperands]
    rfl

/-- The predicates that the range of dates asks for: the start first. -/
def datePredicates (defaultDateColumn : String) (intent : Intent) : List Predicate :=
  let column := Identifier.ofName (dateColumn defaultDateColumn intent)
  (intent.dateRange.bind DateRange.startDate).toList.map
      (fun date => ⟨column, .compare .greaterOrEqual, [.string date]⟩) ++
    (intent.dateRange.bind DateRange.endDate).toList.map
      (fun date => ⟨column, .compare .lessOrEqual, [.string date]⟩)

/-- A condition without its placeholders. -/
def Condition.predicate (condition : Condition Binding) : Predicate where
  column := condition.column
  operator := condition.operator
  operands := condition.slots.map Binding.value

/-! ## The values of the conditions -/

theorem numbered_values (stem : Stem) (counter : Nat) (values : List Json) :
    (numbered stem counter values).map Binding.value = values := by
  induction values generalizing counter with
  | nil => rfl
  | cons value values ih => simp [numbered, ih]

theorem operands?_membership (negated : Bool) (value : Json) :
    (Operator.membership negated).operands? value =
      if memberValues value = [] then none else some (memberValues value) := by
  -- an empty list and a null leave nothing to look in
  cases value with
  | array items => cases items <;> rfl
  | _ => rfl

/-- The condition on a column has the operands of its operator. -/
theorem condition?_predicate (counter : Nat) (column : Identifier) (value : Json)
    (operator : Operator) :
    (condition? counter column value operator).map Condition.predicate =
      (operator.operands? value).map fun operands => ⟨column, operator, operands⟩ := by
  cases operator with
  | nullTest negated => rfl
  | like ignoresCase => rfl
  | compare comparison => cases value <;> rfl
  | between =>
      cases value with
      | array items =>
          match items with
          -- only a list of exactly two is a range
          | [] => rfl
          | [_] => rfl
          | [_, _] => rfl
          | _ :: _ :: _ :: _ => rfl
      | _ => rfl
  | membership negated =>
      have hvalues := numbered_values .member counter (memberValues value)
      rw [operands?_membership]
      simp only [condition?]
      -- the condition asks for placeholders, the predicate for values; there are as many
      cases hmembers : numbered .member counter (memberValues value) with
      | nil =>
          rw [hmembers] at hvalues
          rw [← hvalues]
          rfl
      | cons first others =>
          rw [hmembers] at hvalues
          rw [← hvalues]
          rfl

theorem filterCondition?_predicate (counter : Nat) (filter : Filter) :
    (filterCondition? counter filter).map Condition.predicate = predicate? filter := by
  unfold filterCondition? predicate?
  cases Operator.ofName? filter.operator with
  | none => rfl
  | some operator =>
      cases identifier? filter.column with
      | none => rfl
      | some column =>
          show (condition? counter column filter.value operator).map Condition.predicate = _
          rw [condition?_predicate, Option.map_eq_bind]
          rfl

theorem filterConditions_predicates (counter : Nat) (filters : List Filter) :
    (filterConditions counter filters).map Condition.predicate =
      filters.filterMap predicate? := by
  induction filters generalizing counter with
  | nil => rfl
  | cons filter filters ih =>
      have hfilter := filterCondition?_predicate counter filter
      rw [List.filterMap_cons, ← hfilter]
      unfold filterConditions
      cases filterCondition? counter filter with
      | none => exact ih counter
      | some condition => simp [ih]

theorem dateConditions_predicates (defaultDateColumn : String) (intent : Intent) :
    (dateConditions defaultDateColumn intent).map Condition.predicate =
      datePredicates defaultDateColumn intent := by
  unfold dateConditions datePredicates
  cases intent.dateRange with
  | none => rfl
  | some range =>
      simp only [List.map_append, List.map_map, Option.bind_some]
      rfl

/-- The conditions of a plan are the predicates of the filters, then those of the dates. -/
theorem conditions_predicates (defaultDateColumn : String) (intent : Intent)
    (tables : TableClause) :
    (planOver defaultDateColumn intent tables).conditions.map Condition.predicate =
      intent.filters.filterMap predicate? ++ datePredicates defaultDateColumn intent := by
  unfold planOver
  rw [List.map_append, filterConditions_predicates, dateConditions_predicates]

/-- The values that a filter compares with; a filter that is dropped has none. -/
def filterValues (filter : Filter) : List Json :=
  ((predicate? filter).map Predicate.operands).getD []

/-- The values of an intent in the order of its statement: those of the filters, the dates and the
limit. -/
def boundValues (intent : Intent) : List Json :=
  intent.filters.flatMap filterValues ++
    (intent.dateRange.bind DateRange.startDate).toList.map Json.string ++
    (intent.dateRange.bind DateRange.endDate).toList.map Json.string ++
    intent.limit.toList.map Json.ofNat

theorem flatMap_filterValues (filters : List Filter) :
    (filters.filterMap predicate?).flatMap Predicate.operands = filters.flatMap filterValues := by
  induction filters with
  | nil => rfl
  | cons filter filters ih =>
      rw [List.filterMap_cons, List.flatMap_cons, ← ih]
      unfold filterValues
      cases predicate? filter with
      | none => rfl
      | some predicate => rfl

theorem conditions_values (conditions : List (Condition Binding)) :
    (conditions.flatMap Condition.slots).map Binding.value =
      (conditions.map Condition.predicate).flatMap Predicate.operands := by
  induction conditions with
  | nil => rfl
  | cons condition conditions ih =>
      rw [List.flatMap_cons, List.map_append, ih]
      rfl

/-- **The slots of a plan hold the values of the intent**, in the order of the text. -/
theorem slots_values (defaultDateColumn : String) (intent : Intent) (tables : TableClause) :
    (planOver defaultDateColumn intent tables).slots.map Binding.value = boundValues intent := by
  have hlimit : (planOver defaultDateColumn intent tables).limit.toList.map Binding.value =
      intent.limit.toList.map Json.ofNat := by
    unfold planOver
    cases intent.limit <;> rfl
  -- a date that is left out leaves no predicate behind
  have hdates : (datePredicates defaultDateColumn intent).flatMap Predicate.operands =
      (intent.dateRange.bind DateRange.startDate).toList.map Json.string ++
        (intent.dateRange.bind DateRange.endDate).toList.map Json.string := by
    unfold datePredicates
    cases intent.dateRange.bind DateRange.startDate <;>
      cases intent.dateRange.bind DateRange.endDate <;> rfl
  unfold Statement.slots boundValues
  rw [List.map_append, conditions_values, conditions_predicates, List.flatMap_append,
    flatMap_filterValues, hdates, hlimit]
  simp

/-! ## The placeholders of the slots -/

/-- The bindings have the placeholders of the numbers after `counter`, one after the other. -/
def NumberedFrom (counter : Nat) : List Binding → Prop
  | [] => True
  | binding :: bindings =>
      (∃ stem, binding.placeholder = .numbered stem (counter + 1)) ∧
        NumberedFrom (counter + 1) bindings

theorem NumberedFrom.append {counter : Nat} {first second : List Binding}
    (hfirst : NumberedFrom counter first)
    (hsecond : NumberedFrom (counter + first.length) second) :
    NumberedFrom counter (first ++ second) := by
  induction first generalizing counter with
  | nil => exact hsecond
  | cons binding bindings ih =>
      refine ⟨hfirst.1, ih hfirst.2 ?_⟩
      rw [List.length_cons] at hsecond
      rwa [Nat.add_assoc, Nat.add_comm 1]

theorem NumberedFrom.exists_number {counter : Nat} {bindings : List Binding}
    (h : NumberedFrom counter bindings) {binding : Binding} (hmem : binding ∈ bindings) :
    ∃ stem number, counter < number ∧ binding.placeholder = .numbered stem number := by
  induction bindings generalizing counter with
  | nil => simp at hmem
  | cons first others ih =>
      rcases List.mem_cons.mp hmem with rfl | hmem
      · obtain ⟨stem, hstem⟩ := h.1
        exact ⟨stem, counter + 1, Nat.lt_succ_self _, hstem⟩
      · obtain ⟨stem, number, hlt, hnumber⟩ := ih h.2 hmem
        exact ⟨stem, number, by omega, hnumber⟩

theorem NumberedFrom.nodup {counter : Nat} {bindings : List Binding}
    (h : NumberedFrom counter bindings) : (bindings.map Binding.placeholder).Nodup := by
  induction bindings generalizing counter with
  | nil => exact List.nodup_nil
  | cons first others ih =>
      rw [List.map_cons, List.nodup_cons]
      refine ⟨?_, ih h.2⟩
      intro hmem
      obtain ⟨other, hother, heq⟩ := List.mem_map.mp hmem
      -- the numbers behind the first one are greater
      obtain ⟨stem, hstem⟩ := h.1
      obtain ⟨stem', number, hlt, hnumber⟩ := h.2.exists_number hother
      rw [hstem, hnumber] at heq
      injection heq with _ hnumbers
      omega

theorem numbered_numberedFrom (stem : Stem) (counter : Nat) (values : List Json) :
    NumberedFrom counter (numbered stem counter values) := by
  induction values generalizing counter with
  | nil => trivial
  | cons value values ih => exact ⟨⟨stem, rfl⟩, ih (counter + 1)⟩

theorem condition?_numberedFrom {counter : Nat} {column : Identifier} {value : Json}
    {operator : Operator} {condition : Condition Binding}
    (h : condition? counter column value operator = some condition) :
    NumberedFrom counter condition.slots := by
  cases operator with
  | nullTest negated =>
      cases h
      trivial
  | like ignoresCase =>
      cases h
      exact ⟨⟨_, rfl⟩, trivial⟩
  | between =>
      simp only [condition?] at h
      split at h
      · cases h
        exact ⟨⟨_, rfl⟩, ⟨_, rfl⟩, trivial⟩
      · cases h
  | compare comparison =>
      simp only [condition?] at h
      split at h
      · cases h
      · cases h
        exact ⟨⟨_, rfl⟩, trivial⟩
  | membership negated =>
      have hmembers := numbered_numberedFrom .member counter (memberValues value)
      simp only [condition?] at h
      split at h
      · cases h
      · cases h
        exact hmembers

theorem filterConditions_numberedFrom (counter : Nat) (filters : List Filter) :
    NumberedFrom counter ((filterConditions counter filters).flatMap Condition.slots) := by
  induction filters generalizing counter with
  | nil => trivial
  | cons filter filters ih =>
      unfold filterConditions
      split
      · exact ih counter
      · rename_i condition hcondition
        -- the counter of the other filters begins where the slots of this one end
        rw [List.flatMap_cons]
        refine NumberedFrom.append ?_ (ih _)
        unfold filterCondition? at hcondition
        obtain ⟨operator, -, hcondition⟩ := Option.bind_eq_some_iff.mp hcondition
        obtain ⟨column, -, hcondition⟩ := Option.bind_eq_some_iff.mp hcondition
        exact condition?_numberedFrom hcondition

/-- The placeholders that are not numbered, in the order of the text. -/
def namedPlaceholders : List Placeholder := [.dateStart, .dateEnd, .limit]

theorem dateConditions_placeholders (defaultDateColumn : String) (intent : Intent) :
    (((dateConditions defaultDateColumn intent).flatMap Condition.slots).map
      Binding.placeholder).Sublist [.dateStart, .dateEnd] := by
  unfold dateConditions
  cases intent.dateRange with
  | none => exact List.nil_sublist _
  | some range =>
      obtain ⟨start, stop, period⟩ := range
      cases start <;> cases stop <;> simp [Condition.slots]

theorem limit_placeholders (defaultDateColumn : String) (intent : Intent) (tables : TableClause) :
    ((planOver defaultDateColumn intent tables).limit.toList.map Binding.placeholder).Sublist
      [.limit] := by
  unfold planOver
  cases intent.limit <;> simp

/-- The slots behind the filters have placeholders of their own. -/
theorem named_placeholders (defaultDateColumn : String) (intent : Intent) (tables : TableClause) :
    (((dateConditions defaultDateColumn intent).flatMap Condition.slots ++
      (planOver defaultDateColumn intent tables).limit.toList).map
        Binding.placeholder).Sublist namedPlaceholders := by
  rw [List.map_append]
  exact (dateConditions_placeholders defaultDateColumn intent).append
    (limit_placeholders defaultDateColumn intent tables)

/-- **No two slots of a plan have the same placeholder.** -/
theorem slots_placeholders_nodup (defaultDateColumn : String) (intent : Intent)
    (tables : TableClause) :
    ((planOver defaultDateColumn intent tables).slots.map Binding.placeholder).Nodup := by
  have hfilters := filterConditions_numberedFrom 0 intent.filters
  have hnamed := named_placeholders defaultDateColumn intent tables
  have hslots : (planOver defaultDateColumn intent tables).slots =
      (filterConditions 0 intent.filters).flatMap Condition.slots ++
        ((dateConditions defaultDateColumn intent).flatMap Condition.slots ++
          (planOver defaultDateColumn intent tables).limit.toList) := by
    unfold Statement.slots planOver
    rw [List.flatMap_append, List.append_assoc]
  rw [hslots, List.map_append, List.nodup_append]
  refine ⟨hfilters.nodup, hnamed.nodup (by decide), ?_⟩
  intro placeholder hmem other hother heq
  obtain ⟨binding, hbinding, rfl⟩ := List.mem_map.mp hmem
  obtain ⟨stem, number, -, hnumber⟩ := hfilters.exists_number hbinding
  have hmember := hnamed.subset hother
  rw [← heq, hnumber] at hmember
  simp [namedPlaceholders] at hmember

/-! ## A sample

An intent with a filter of every kind, two of which are dropped, over tables that are connected by a
foreign key.  Statements about all intents are tried out on it. -/

/-- Orders that refer to their customers. -/
def ordersSchema : Schema where
  tables :=
    [{ name := "orders"
       columns :=
         [{ name := "id", dataType := "INTEGER" },
          { name := "customer_id", dataType := "INTEGER", foreignKey := true
            foreignTable := some "customers", foreignColumn := some "id" }] },
     { name := "Customers", columns := [{ name := "id", dataType := "INTEGER" }] }]
  discoveredAt := default

/-- Some orders of a year. -/
def ordersIntent : Intent where
  tables := ["ORDERS", "customers"]
  selectColumns := ["id", "order_date", "??"]
  aggregations := [⟨"count", "*", none⟩, ⟨"count distinct", "customer_id", some "customers"⟩]
  filters :=
    [⟨"status", "not in", .array [.string "open", .string "late"]⟩,
     ⟨"status", "in", .array []⟩,
     ⟨"note", "ilike", .string "%:f_9?%"⟩,
     ⟨"total", "between", .array [.ofNat 1, .ofNat 9]⟩,
     ⟨"closed", "is null", .null⟩,
     ⟨"total", "=", .null⟩]
  groupBy := ["id"]
  orderBy := [⟨"id", "asc"⟩]
  limit := some 10
  dateRange := some { startDate := some "2024-01-01", endDate := some "2024-12-31" }
  confidence := default

end PlainQuery.Sql
