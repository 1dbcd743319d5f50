import PlainQuery.Proofs.Sql.Listing
import PlainQuery.Proofs.Text.CaseMap

/-!
# Dropped entries leave no trace

Entries of an intent that make no sense are dropped one by one while it is compiled.  This file
compares an intent with its tidied form, from which they have been taken away beforehand, and shows
that both have the same query (`generate_tidied`).  For most clauses there is nothing to it: entries
are compiled one by one, and what is dropped compiles to nothing (`filterMap_filter`).  Two things
could go wrong.

* **Numbers.**  The placeholders of the filters are numbered.  A dropped filter takes no number,
  whatever it is dropped for, so the others keep theirs (`filterConditions_tidied`).  Nor does the
  number decide what is dropped (`isSome_filterCondition?`), so that a filter may be tried out with
  any number beforehand.

* **Dates.**  The first column asked for that looks like a date is the one that a range of dates
  applies to, and the dropped columns are among those asked for.  None of them looks like a date:
  every marker of a date has an `e`, and a lower-case text has one only if the text itself has an
  `e` or an `E` (`usable_of_looksLikeDate`, by `Text.exists_of_mem_lower`).  This would be wrong for
  `i` and `k`, which also come from characters that no identifier has.

The tables are untouched, so both forms are refused alike (`generate_eq_error_iff`).
-/

namespace PlainQuery

/-- The intent without the entries that are dropped. -/
def Intent.tidied (intent : Intent) : Intent :=
  { intent with
    selectColumns := intent.selectColumns.filter Sql.usable
    aggregations := intent.aggregations.filter fun aggregation =>
      (Sql.aggregateItem? aggregation).isSome
    filters := intent.filters.filter fun filter => (Sql.filterCondition? 0 filter).isSome
    groupBy := intent.groupBy.filter Sql.usable
    orderBy := intent.orderBy.filter fun term => Sql.usable term.column }

namespace Sql

/-! ## Lists of entries -/

theorem filterMap_filter {α β : Type} {f : α → Option β} {accepted : α → Bool}
    (h : ∀ entry, accepted entry = (f entry).isSome) (entries : List α) :
    (entries.filter accepted).filterMap f = entries.filterMap f := by
  rw [List.filterMap_filter]
  congr 1
  funext entry
  rw [h]
  cases f entry <;> rfl

theorem usable_eq_isSome (name : String) : usable name = (identifier? name).isSome := by
  rw [identifier?_eq]
  cases usable name <;> rfl

theorem usable_eq_isSome_orderItem? (term : OrderTerm) :
    usable term.column = (orderItem? term).isSome := by
  rw [orderItem?, Option.isSome_map, usable_eq_isSome]

theorem selectItems_tidied (intent : Intent) : selectItems intent.tidied = selectItems intent := by
  unfold selectItems Intent.tidied
  rw [filterMap_filter usable_eq_isSome, filterMap_filter fun _ => rfl]

/-! ## Filters -/

/-- Whether a filter is dropped does not depend on the numbers that are taken already. -/
theorem isSome_filterCondition? (counter : Nat) (filter : Filter) :
    (filterCondition? counter filter).isSome = (filterCondition? 0 filter).isSome := by
  have hpredicate : ∀ counter, (filterCondition? counter filter).isSome =
      (predicate? filter).isSome := by
    intro counter
    rw [← filterCondition?_predicate counter, Option.isSome_map]
  rw [hpredicate, hpredicate]

theorem filterConditions_of_none {counter : Nat} {filter : Filter} {filters : List Filter}
    (h : filterCondition? counter filter = none) :
    filterConditions counter (filter :: filters) = filterConditions counter filters := by
  rw [filterConditions.eq_def counter (filter :: filters)]
  dsimp only
  rw [h]

theorem filterConditions_of_some {counter : Nat} {filter : Filter} {filters : List Filter}
    {condition : Condition Binding} (h : filterCondition? counter filter = some condition) :
    filterConditions counter (filter :: filters) =
      condition :: filterConditions (counter + condition.slots.length) filters := by
  rw [filterConditions.eq_def counter (filter :: filters)]
  dsimp only
  rw [h]

/-- Dropped filters take no numbers away from the others. -/
theorem filterConditions_tidied (counter : Nat) (filters : List Filter) :
    filterConditions counter (filters.filter fun filter => (filterCondition? 0 filter).isSome) =
      filterConditions counter filters := by
  induction filters generalizing counter with
  | nil => rfl
  | cons filter filters ih =>
      have hsome := isSome_filterCondition? counter filter
      cases hcondition : filterCondition? counter filter with
      | none =>
          rw [hcondition, Option.isSome_none] at hsome
          rw [List.filter_cons_of_neg (by simp [← hsome]), ih,
            filterConditions_of_none hcondition]
      | some condition =>
          rw [hcondition, Option.isSome_some] at hsome
          rw [List.filter_cons_of_pos (by simp [← hsome]), filterConditions_of_some hcondition,
            filterConditions_of_some hcondition, ih]

/-! ## The column of dates -/

theorem mem_e_of_mem_dateMarkers : ∀ marker ∈ dateMarkers, 'e' ∈ marker.toList := by
  decide

/-- Only usable names look like those of columns of dates. -/
theorem usable_of_looksLikeDate {column : String} (h : looksLikeDate column = true) :
    usable column = true := by
  unfold looksLikeDate at h
  obtain ⟨marker, hmarker, hoccurs⟩ := List.any_eq_true.mp h
  have hlower : 'e' ∈ (Text.lower column).toList :=
    Text.mem_of_occursIn hoccurs (mem_e_of_mem_dateMarkers marker hmarker)
  obtain ⟨c, hc, hletter⟩ :=
    Text.exists_of_mem_lower hlower (by decide) (by decide) (by decide) (by decide)
  -- an e or an E is a letter of an identifier
  have hword : isWordChar c = true := by
    rw [← isWordChar_toLower, hletter]
    rfl
  exact List.any_eq_true.mpr ⟨c, hc, hword⟩

theorem dateColumn_tidied (defaultDateColumn : String) (intent : Intent) :
    dateColumn defaultDateColumn intent.tidied = dateColumn defaultDateColumn intent := by
  -- to look among usable columns for one that looks like a date is to look among all
  have hdates : (fun column => decide (usable column = true ∧ looksLikeDate column = true)) =
      looksLikeDate := by
    funext column
    cases hdate : looksLikeDate column with
    | false => simp
    | true => simp [usable_of_looksLikeDate hdate]
  unfold dateColumn Intent.tidied
  dsimp only
  rw [← List.filter_append, List.find?_filter, hdates]

theorem dateConditions_tidied (defaultDateColumn : String) (intent : Intent) :
    dateConditions defaultDateColumn intent.tidied = dateConditions defaultDateColumn intent := by
  unfold dateConditions
  rw [dateColumn_tidied]
  rfl

/-! ## Whole queries -/

theorem planOver_tidied (defaultDateColumn : String) (intent : Intent) (tables : TableClause) :
    planOver defaultDateColumn intent.tidied tables = planOver defaultDateColumn intent tables := by
  have hfilters : filterConditions 0 intent.tidied.filters = filterConditions 0 intent.filters :=
    filterConditions_tidied 0 intent.filters
  have hgroups : intent.tidied.groupBy.filterMap identifier? =
      intent.groupBy.filterMap identifier? := filterMap_filter usable_eq_isSome intent.groupBy
  have horders : intent.tidied.orderBy.filterMap orderItem? =
      intent.orderBy.filterMap orderItem? :=
    filterMap_filter usable_eq_isSome_orderItem? intent.orderBy
  unfold planOver
  rw [selectItems_tidied, hfilters, dateConditions_tidied, hgroups, horders]
  rfl

/-- What is run of a query: everything but its description. -/
def Query.compiled (query : Query) : String × Fields Json × List String :=
  (query.sql, query.parameters, query.tablesUsed)

/-- There is no query exactly if no table is named or nothing usable is left of the first one. -/
theorem generate_eq_error_iff {defaultDateColumn : String} {intent : Intent} {schema : Schema} :
    (∃ problem, generate defaultDateColumn intent schema = .error problem) ↔
      intent.tables = [] ∨ ∃ first others, intent.tables = first :: others ∧
        usable (schema.canonicalName first) = false := by
  rw [generate_eq_map]
  unfold tableClause
  cases intent.tables with
  | nil => exact iff_of_true ⟨.noTables, rfl⟩ (.inl rfl)
  | cons first others =>
      dsimp only
      rw [identifier?_eq]
      cases husable : usable (schema.canonicalName first) with
      | false => exact iff_of_true ⟨.unusableTable first, rfl⟩ (.inr ⟨first, others, rfl, husable⟩)
      | true =>
          refine iff_of_false ?_ ?_
          · rintro ⟨problem, hproblem⟩
            cases hproblem
          · rintro (hnone | ⟨name, names, heq, hname⟩)
            · cases hnone
            · cases heq
              rw [husable] at hname
              cases hname

/-- **Dropped entries leave no trace.**  An intent and its tidied form are refused alike, or have
the same text, the same parameters and the same tables; and whether an intent is refused is a matter
of its first table only. -/
theorem generate_tidied (defaultDateColumn : String) (intent : Intent) (schema : Schema) :
    (generate defaultDateColumn intent.tidied schema).map Query.compiled =
        (generate defaultDateColumn intent schema).map Query.compiled ∧
      ((∃ problem, generate defaultDateColumn intent schema = .error problem) ↔
        intent.tables = [] ∨ ∃ first others, intent.tables = first :: others ∧
          usable (schema.canonicalName first) = false) := by
  refine ⟨?_, generate_eq_error_iff⟩
  -- the tables are chosen by names of tables and hints, which are not tidied
  have htables : tableClause schema intent.tidied = tableClause schema intent := rfl
  rw [generate_eq_map, generate_eq_map, htables]
  cases tableClause schema intent with
  | error problem => rfl
  | ok tables =>
      show Except.ok (queryOver defaultDateColumn intent.tidied tables).compiled =
        Except.ok (queryOver defaultDateColumn intent tables).compiled
      unfold Query.compiled queryOver
      rw [planOver_tidied]

end Sql

end PlainQuery
