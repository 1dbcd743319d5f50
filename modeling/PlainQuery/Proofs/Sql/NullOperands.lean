import PlainQuery.Proofs.Sql.Binding
import PlainQuery.Proofs.Sql.Listing

/-!
# Predicates that compare with null

A filter that compares a column with null is dropped, and so is one that looks for the column in
null.  Patterns, the items of lists and the bounds of ranges are taken as they come.  This file says
exactly where a generated query binds a null to one of its conditions (`generate_bindsNull`).

* **Filters.**  `Operator.takesNull` says for which values an operator is accepted with a null among
  its operands, read off the operator and the value alone.  It agrees with the operands that are
  taken (`Operator.any_isNull_operands?`), and such a filter is dropped for its column only
  (`isSome_predicate?_of_comparesNull`).

* **Texts.**  The conditions of a query are read off its text, where they hold names, and a
  condition `bindsNull` if one of its names stands for null among the parameters.  The names of a
  condition stand for the operands of its predicate (`arguments_sentenceOver`), so that the
  conditions which bind a null are known one by one, in their place (`bindsNull_sentenceOver`).

The dates are texts and never null, so a query is free of nulls if and only if no filter on a usable
column compares with one.  `bindsNull_nullNotes` is a query that is not: of two filters that nothing
meets, one is dropped and the other one is compiled.
-/

namespace PlainQuery.Sql

/-! ## Nulls among the operands -/

/-- The operator accepts the value, and a null is among what it compares with. -/
def Operator.takesNull : Operator → Json → Bool
  | like _, value => value.isNull
  | membership _, .array items => items.any Json.isNull
  | between, .array [low, high] => low.isNull || high.isNull
  | _, _ => false

theorem Operator.any_isNull_operands? (operator : Operator) (value : Json) :
    ((operator.operands? value).getD []).any Json.isNull = operator.takesNull value := by
  cases operator with
  | nullTest negated => rfl
  | like ignoresCase => exact Bool.or_false _
  -- a null is refused, and no other value is null
  | compare comparison => cases value <;> rfl
  | membership negated =>
      cases value with
      | array items => cases items <;> rfl
      | _ => rfl
  | between =>
      cases value with
      | array items =>
          match items with
          | [] => rfl
          | [_] => rfl
          | [low, high] => exact congrArg (low.isNull || ·) (Bool.or_false high.isNull)
          | _ :: _ :: _ :: _ => rfl
      | _ => rfl

/-- The filter would compare its column with a null. -/
def comparesNull (filter : Filter) : Bool :=
  (Operator.ofName? filter.operator).any fun operator => operator.takesNull filter.value

theorem any_isNull_operands {filter : Filter} {predicate : Predicate}
    (h : predicate? filter = some predicate) :
    predicate.operands.any Json.isNull = comparesNull filter := by
  obtain ⟨hoperator, -, hoperands⟩ := predicate?_eq_some_iff.mp h
  have hnull := predicate.operator.any_isNull_operands? filter.value
  rw [hoperands, Option.getD_some] at hnull
  rw [hnull, comparesNull, hoperator, Option.any_some]

/-- A null is no reason to drop a filter that would compare with it. -/
theorem isSome_predicate?_of_comparesNull {filter : Filter}
    (husable : usable filter.column = true) (hnull : comparesNull filter = true) :
    (predicate? filter).isSome = true := by
  unfold comparesNull at hnull
  cases hoperator : Operator.ofName? filter.operator with
  | none =>
      rw [hoperator] at hnull
      cases hnull
  | some operator =>
      rw [hoperator, Option.any_some, ← operator.any_isNull_operands?] at hnull
      -- without operands there would be no null among them
      cases hoperands : operator.operands? filter.value with
      | none =>
          rw [hoperands] at hnull
          cases hnull
      | some operands =>
          have hcolumn := identifier?_eq_some_iff.mpr ⟨husable, rfl⟩
          exact Option.isSome_iff_exists.mpr ⟨⟨.ofName filter.column, operator, operands⟩,
            predicate?_eq_some_iff.mpr ⟨hoperator, hcolumn, hoperands⟩⟩

theorem usable_of_isSome_predicate? {filter : Filter} (h : (predicate? filter).isSome = true) :
    usable filter.column = true := by
  obtain ⟨predicate, hpredicate⟩ := Option.isSome_iff_exists.mp h
  exact (identifier?_eq_some_iff.mp (predicate?_eq_some_iff.mp hpredicate).2.1).1

theorem map_any_isNull_predicates (filters : List Filter) :
    (filters.filterMap predicate?).map (fun predicate => predicate.operands.any Json.isNull) =
      (filters.filter fun filter => (predicate? filter).isSome).map comparesNull := by
  induction filters with
  | nil => rfl
  | cons filter filters ih =>
      cases hpredicate : predicate? filter with
      | none =>
          rw [List.filterMap_cons_none hpredicate, List.filter_cons_of_neg (by simp [hpredicate]),
            ih]
      | some predicate =>
          rw [List.filterMap_cons_some hpredicate, List.filter_cons_of_pos (by simp [hpredicate]),
            List.map_cons, List.map_cons, ih, any_isNull_operands hpredicate]

theorem any_isNull_of_mem_datePredicates {defaultDateColumn : String} {intent : Intent}
    {predicate : Predicate} (h : predicate ∈ datePredicates defaultDateColumn intent) :
    predicate.operands.any Json.isNull = false := by
  unfold datePredicates at h
  rcases List.mem_append.mp h with hmem | hmem <;>
    · obtain ⟨date, -, rfl⟩ := List.mem_map.mp hmem
      rfl

/-! ## Conditions and their arguments -/

/-- The values that the names in a condition stand for, in the order of its text. -/
def Condition.arguments (parameters : Fields Json) (condition : Condition SlotName) :
    List (Option Json) :=
  condition.slots.map fun name => parameters.get? name.key

/-- A name in the condition stands for null. -/
def Condition.bindsNull (parameters : Fields Json) (condition : Condition SlotName) : Bool :=
  (condition.arguments parameters).any fun argument => argument.any Json.isNull

section Sentence

variable (defaultDateColumn : String) (intent : Intent) (tables : TableClause)

theorem arguments_sentenceOver :
    (sentenceOver defaultDateColumn intent tables).conditions.map
        (Condition.arguments (queryOver defaultDateColumn intent tables).parameters) =
      (intent.filters.filterMap predicate? ++ datePredicates defaultDateColumn intent).map
        fun predicate => predicate.operands.map some := by
  rw [← conditions_predicates defaultDateColumn intent tables, sentenceOver, List.map_map,
    List.map_map]
  refine List.map_congr_left fun condition hcondition => ?_
  show Condition.arguments _ (condition.map _) = (condition.slots.map Binding.value).map some
  rw [Condition.arguments, Condition.slots_map, List.map_map, List.map_map]
  refine List.map_congr_left fun binding hbinding => ?_
  exact get?_of_mem_slots _ _ _
    (List.mem_append_left _ (List.mem_flatMap.mpr ⟨condition, hcondition, hbinding⟩))

theorem none_notMem_arguments {condition : Condition SlotName}
    (h : condition ∈ (sentenceOver defaultDateColumn intent tables).conditions) :
    none ∉ condition.arguments (queryOver defaultDateColumn intent tables).parameters := by
  have hmem := List.mem_map_of_mem
    (f := Condition.arguments (queryOver defaultDateColumn intent tables).parameters) h
  rw [arguments_sentenceOver] at hmem
  obtain ⟨predicate, -, heq⟩ := List.mem_map.mp hmem
  simp [← heq]

theorem bindsNull_sentenceOver :
    (sentenceOver defaultDateColumn intent tables).conditions.map
        (Condition.bindsNull (queryOver defaultDateColumn intent tables).parameters) =
      (intent.filters.filter fun filter => (predicate? filter).isSome).map comparesNull ++
        (datePredicates defaultDateColumn intent).map fun _ => false := by
  -- what the names stand for, with the question asked of it whether there is a null
  have harguments := congrArg (List.map fun arguments : List (Option Json) =>
    arguments.any fun argument => argument.any Json.isNull)
    (arguments_sentenceOver defaultDateColumn intent tables)
  rw [List.map_map, List.map_map, List.map_append] at harguments
  refine harguments.trans (congrArg₂ (· ++ ·) ?_ ?_)
  · rw [← map_any_isNull_predicates]
    exact List.map_congr_left fun predicate _ => List.any_map
  · exact List.map_congr_left fun predicate hmem =>
      List.any_map.trans (any_isNull_of_mem_datePredicates hmem)

end Sentence

/-- **Where a generated query compares with null.**  Every name in a condition has a value, and the
conditions in which it is null are those of the filters that let a null through, in their place.
Hence no condition of a query compares with null unless a filter on a usable column asks for it. -/
theorem generate_bindsNull {defaultDateColumn : String} {intent : Intent} {schema : Schema}
    {query : Query} (h : generate defaultDateColumn intent schema = .ok query) :
    ∃ sentence : Sentence, sentence.text = query.sql.toList ∧
      (∀ other : Sentence, other.text = query.sql.toList → other = sentence) ∧
      (∀ condition ∈ sentence.conditions, none ∉ condition.arguments query.parameters) ∧
      sentence.conditions.map (Condition.bindsNull query.parameters) =
        (intent.filters.filter fun filter => (predicate? filter).isSome).map comparesNull ++
          (datePredicates defaultDateColumn intent).map (fun _ => false) ∧
      ((∀ condition ∈ sentence.conditions, condition.bindsNull query.parameters = false) ↔
        ∀ filter ∈ intent.filters, usable filter.column = true → comparesNull filter = false) := by
  obtain ⟨tables, -, rfl⟩ := exists_tables_of_generate h
  have hbinds := bindsNull_sentenceOver defaultDateColumn intent tables
  refine ⟨sentenceOver defaultDateColumn intent tables, text_sentenceOver _ _ _,
    fun other => eq_sentenceOver_of_text, fun _ => none_notMem_arguments _ _ _, hbinds, ?_⟩
  -- both sides of the equivalence as statements about the list of the answers
  rw [← List.forall_mem_map (P := (· = false)), hbinds]
  constructor
  · intro hfalse filter hmem husable
    rw [← Bool.not_eq_true]
    intro hnull
    have haccepted : filter ∈ intent.filters.filter fun filter => (predicate? filter).isSome :=
      List.mem_filter.mpr ⟨hmem, isSome_predicate?_of_comparesNull husable hnull⟩
    rw [hfalse _ (List.mem_append_left _ (List.mem_map_of_mem haccepted))] at hnull
    cases hnull
  · intro hfilters binds hmem
    rcases List.mem_append.mp hmem with hmem | hmem
    · obtain ⟨filter, haccepted, rfl⟩ := List.mem_map.mp hmem
      obtain ⟨hfilter, hsome⟩ := List.mem_filter.mp haccepted
      exact hfilters filter hfilter (usable_of_isSome_predicate? hsome)
    · obtain ⟨predicate, -, rfl⟩ := List.mem_map.mp hmem
      rfl

/-- No condition of the sample intent binds a null: its filter that compares with one is dropped. -/
theorem bindsNull_orders :
    ∃ query, generate "fecha" ordersIntent ordersSchema = .ok query ∧
      ∃ sentence : Sentence, sentence.text = query.sql.toList ∧
        sentence.conditions.map (Condition.bindsNull query.parameters) = List.replicate 6 false ∧
        ∀ condition ∈ sentence.conditions, condition.bindsNull query.parameters = false := by
  obtain ⟨query, hquery⟩ : ∃ query, generate "fecha" ordersIntent ordersSchema = .ok query :=
    ⟨_, rfl⟩
  obtain ⟨sentence, htext, -, -, hbinds, hiff⟩ := generate_bindsNull hquery
  have hfilters : ∀ filter ∈ ordersIntent.filters,
      usable filter.column = true → comparesNull filter = false := by decide
  exact ⟨query, hquery, sentence, htext, hbinds.trans (by decide), hiff.mpr hfilters⟩

/-- One note is to be equal to null and one to be like null. -/
def nullNotes : Intent where
  tables := ["orders"]
  filters := [⟨"note", "=", .null⟩, ⟨"note", "like", .null⟩]
  confidence := default

/-- Of two filters that nothing meets only one is dropped. -/
theorem bindsNull_nullNotes :
    ∃ query, generate "fecha" nullNotes ordersSchema = .ok query ∧
      query.parameters = [("like_1", .null)] ∧
      ∃ sentence : Sentence, sentence.text = query.sql.toList ∧
        (∀ other : Sentence, other.text = query.sql.toList → other = sentence) ∧
        sentence.conditions.map (Condition.bindsNull query.parameters) = [true] := by
  obtain ⟨query, hquery⟩ : ∃ query, generate "fecha" nullNotes ordersSchema = .ok query :=
    ⟨_, rfl⟩
  obtain ⟨tables, -, rfl⟩ := exists_tables_of_generate hquery
  refine ⟨_, hquery, rfl, _, text_sentenceOver _ _ _, fun other => eq_sentenceOver_of_text, ?_⟩
  rw [bindsNull_sentenceOver]
  decide

end PlainQuery.Sql
