import PlainQuery.Proofs.Sql.Grammar
import PlainQuery.Proofs.Sql.Plan

/-!
# What a generated query says

The entries of an intent that make sense are accepted, each with its names reduced to identifiers,
and the others are dropped.  This file says for each kind of entry what is accepted, without a plan
and without placeholders, and shows that the text of a generated query parses in one way only, to a
sentence that lists exactly the accepted entries in their order (`generate_parses`).

* **Entries.**  A name is `usable` if it has an identifier character.  The others have descriptions
  of their own: `calculation?` for aggregations, `hintPhrase?` for join hints, `acceptedJoins` for
  all joins, and `predicate?` and `datePredicates` for filters and dates, which are in
  `PlainQuery.Proofs.Sql.Plan`.  They are not written a second time where there is nothing to
  choose: words are recognized by the tables of the compiler (`AggregateFunction.ofName?`,
  `Operator.ofName?`, `Direction.ofName`), default labels are its own (`defaultLabel`), and the
  joins of an intent without hints are those of `inferJoins`, whose meaning has theorems of its own.

* **Sentences.**  `sentenceOver` is the plan with names in the place of values and phrases in the
  place of joins, and its text is the text of the query (`text_sentenceOver`).  As no text has two
  parse trees, it is the only sentence of that text (`eq_sentenceOver_of_text`).

* **Conditions.**  A condition of the sentence has names where a predicate has values.  What they
  have in common is the column, the operator and how many values there are (`Condition.outline`,
  `Predicate.outline`), and that is what is compared (`outlines_sentenceOver`).

`Sentence.Lists` collects the comparison of each clause, and `lists_sentenceOver` assembles it.
-/

namespace PlainQuery.Sql

/-! ## Accepted entries -/

/-- The name has a character that identifiers may have. -/
def usable (name : String) : Bool := name.toList.any isWordChar

theorem isWordChar_of_isAlpha {c : Char} (h : c.isAlpha = true) : isWordChar c = true := by
  simp [isWordChar, Char.isAlphanum, h]

theorem isWordChar_toLower (c : Char) : isWordChar c.toLower = isWordChar c := by
  by_cases hupper : 'A'.val ≤ c.val ∧ c.val ≤ 'Z'.val
  · -- capital letters become small ones, and both may stand in identifiers
    have hval : c.toLower.val = c.val + ('a'.val - 'A'.val) := congrArg Char.val (dif_pos hupper)
    have hlower : 'a'.val ≤ c.toLower.val ∧ c.toLower.val ≤ 'z'.val := by
      rw [hval]
      simp only [UInt32.le_iff_toNat_le, UInt32.toNat_add, Char.reduceVal, UInt32.reduceSub,
        UInt32.reduceToNat] at hupper ⊢
      omega
    have hmoved : c.toLower.isLower = true :=
      Bool.and_eq_true_iff.mpr ⟨decide_eq_true hlower.1, decide_eq_true hlower.2⟩
    rw [isWordChar_of_isAlpha (Bool.or_eq_true_iff.mpr (.inl (decide_eq_true hupper))),
      isWordChar_of_isAlpha (Bool.or_eq_true_iff.mpr (.inr hmoved))]
  · exact congrArg isWordChar (dif_neg hupper)

theorem toLower_of_not_isWordChar {c : Char} (h : isWordChar c = false) : c.toLower = c := by
  refine dif_neg fun hupper => ?_
  rw [isWordChar_of_isAlpha (Bool.or_eq_true_iff.mpr (.inl (decide_eq_true hupper)))] at h
  cases h

theorem isEmpty_ofName (name : String) : (Identifier.ofName name).isEmpty = !usable name := by
  show (name.toList.filter isWordChar).isEmpty = !name.toList.any isWordChar
  induction name.toList with
  | nil => rfl
  | cons c text ih =>
      rw [List.filter_cons, List.any_cons]
      cases isWordChar c with
      | false => simpa using ih
      | true => rfl

theorem identifier?_eq (name : String) :
    identifier? name = if usable name then some (.ofName name) else none := by
  simp only [identifier?, isEmpty_ofName]
  cases usable name <;> rfl

theorem identifier?_eq_some_iff {name : String} {identifier : Identifier} :
    identifier? name = some identifier ↔ usable name = true ∧ identifier = .ofName name := by
  rw [identifier?_eq, Option.ite_none_right_eq_some, Option.some.injEq, @eq_comm _ identifier]

/-- Of names, those that are usable become identifiers. -/
theorem filterMap_identifier? (names : List String) :
    names.filterMap identifier? = (names.filter usable).map Identifier.ofName := by
  induction names with
  | nil => rfl
  | cons name names ih =>
      rw [List.filterMap_cons, List.filter_cons, identifier?_eq, ih]
      cases usable name <;> rfl

/-- The label of a calculation: the one wanted, if it is usable. -/
def labelOr (default : Identifier) : Option String → Identifier
  | none => default
  | some label => if usable label then .ofName label else default

/-- The calculation that an aggregation asks for.  A star is accepted for the number of rows only.
-/
def calculation? (aggregation : Aggregation) : Option SelectItem :=
  let column := Text.trim aggregation.column
  match AggregateFunction.ofName? aggregation.function with
  | none => none
  | some function =>
    if column = "*" then
      if function = .count then
        some (.aggregate .countAll (labelOr (defaultLabel .count "all".toList) aggregation.label))
      else none
    else if usable column then
      some (.aggregate (.apply function (.ofName column))
        (labelOr (defaultLabel function (Identifier.ofName column).text) aggregation.label))
    else none

theorem getD_label (default : Identifier) (label : Option String) :
    (label.bind identifier?).getD default = labelOr default label := by
  cases label with
  | none => rfl
  | some label =>
      rw [Option.bind_some, identifier?_eq, labelOr]
      cases usable label <;> rfl

theorem aggregateItem?_eq (aggregation : Aggregation) :
    aggregateItem? aggregation = calculation? aggregation := by
  unfold aggregateItem? calculation? aggregateCall?
  simp only [getD_label, beq_iff_eq]
  rw [identifier?_eq]
  cases AggregateFunction.ofName? aggregation.function with
  | none => rfl
  | some function =>
      simp only [Option.bind_eq_bind, Option.bind_some]
      -- a star is asked about first on both sides, and only then whether the name is usable
      by_cases hstar : Text.trim aggregation.column = "*"
      · rw [if_pos hstar, if_pos hstar]
        by_cases hcount : function = .count
        · rw [if_pos hcount, if_pos hcount, hcount]
          rfl
        · rw [if_neg hcount, if_neg hcount]
          rfl
      · rw [if_neg hstar, if_neg hstar]
        cases usable (Text.trim aggregation.column) with
        | false => rfl
        | true =>
            simp only [if_true, Option.map_some, Option.bind_some]
            rfl

/-- The join that a hint asks for: both of its tables are in the schema, and all of its names are
usable. -/
def hintPhrase? (schema : Schema) (hint : JoinHint) : Option JoinPhrase :=
  match schema.table? hint.leftTable, schema.table? hint.rightTable with
  | some left, some right =>
    if usable left.name ∧ usable hint.leftColumn ∧ usable right.name ∧ usable hint.rightColumn then
      some
        { table := .ofName right.name
          leftTable := .ofName left.name
          leftColumn := .ofName hint.leftColumn
          rightTable := .ofName right.name
          rightColumn := .ofName hint.rightColumn }
    else none
  | _, _ => none

/-- A join as it is written: its table is also the right one of its condition. -/
def Join.phrase (join : Join) : JoinPhrase where
  table := join.target
  leftTable := join.source
  leftColumn := join.sourceColumn
  rightTable := join.target
  rightColumn := join.targetColumn

/-- The joins of an intent: those of its hints, or inferred ones if it has no hints. -/
def acceptedJoins (schema : Schema) (intent : Intent) : List JoinPhrase :=
  if intent.joins = [] then (inferJoins schema intent.tables).map fun found => found.1.phrase
  else intent.joins.filterMap (hintPhrase? schema)

theorem hintedJoin?_phrase (schema : Schema) (hint : JoinHint) :
    (hintedJoin? schema hint).map (fun found => (found.1.phrase, found.2)) =
      (hintPhrase? schema hint).map
        fun phrase => (phrase, schema.canonicalName hint.rightTable) := by
  unfold hintedJoin? hintPhrase? Schema.canonicalName
  simp only [identifier?_eq]
  cases schema.table? hint.leftTable with
  | none => simp
  | some left =>
      cases schema.table? hint.rightTable with
      | none => simp
      | some right =>
          dsimp only
          cases usable left.name <;> cases usable hint.leftColumn <;>
            cases usable right.name <;> cases usable hint.rightColumn <;> rfl

theorem filterMap_hintedJoin?_phrases (schema : Schema) (hints : List JoinHint) :
    (hints.filterMap (hintedJoin? schema)).map (fun found => found.1.phrase) =
      hints.filterMap (hintPhrase? schema) := by
  rw [List.map_filterMap]
  congr 1
  funext hint
  have h := congrArg (Option.map Prod.fst) (hintedJoin?_phrase schema hint)
  simpa [Function.comp_def] using h

/-! ## The tables of an intent -/

/-- What is joined because the intent proposes it, with the names of the tables. -/
def hintedJoins (schema : Schema) (intent : Intent) : List (Join × String) :=
  intent.joins.filterMap (hintedJoin? schema)

/-- What is joined because the schema connects it; nothing if the intent proposes joins. -/
def inferredJoins (schema : Schema) (intent : Intent) : List (Join × Table) :=
  if intent.joins.isEmpty then inferJoins schema intent.tables else []

/-- The tables of an intent that has any begin with the first one it names. -/
theorem exists_first_of_tableClause {schema : Schema} {intent : Intent} {tables : TableClause}
    (h : tableClause schema intent = .ok tables) :
    ∃ first others, intent.tables = first :: others ∧
      usable (schema.canonicalName first) = true ∧
      tables =
        { anchor := .ofName (schema.canonicalName first)
          joins := (hintedJoins schema intent).map Prod.fst ++
            (inferredJoins schema intent).map Prod.fst
          tablesUsed :=
            ((hintedJoins schema intent).map Prod.snd).foldl addName
                [schema.canonicalName first] ++
              (inferredJoins schema intent).map fun found => found.2.name } := by
  unfold tableClause at h
  cases htables : intent.tables with
  | nil => rw [htables] at h; cases h
  | cons first others =>
      rw [htables] at h
      dsimp only at h
      rw [identifier?_eq] at h
      cases husable : usable (schema.canonicalName first) with
      | false => rw [husable] at h; cases h
      | true =>
          rw [husable] at h
          cases h
          -- the branches about hints and inference are the two lists, one of which is empty
          refine ⟨first, others, rfl, husable, ?_⟩
          unfold hintedJoins inferredJoins
          rw [htables]

theorem phrases_of_tables (schema : Schema) (intent : Intent) :
    ((hintedJoins schema intent).map Prod.fst ++ (inferredJoins schema intent).map Prod.fst).map
        Join.phrase = acceptedJoins schema intent := by
  have hhinted := filterMap_hintedJoin?_phrases schema intent.joins
  unfold hintedJoins inferredJoins acceptedJoins
  rw [List.map_append, List.map_map, List.map_map]
  cases hjoins : intent.joins with
  -- without hints nothing is hinted, and with hints nothing is inferred
  | nil => rfl
  | cons hint hints =>
      rw [hjoins] at hhinted
      rw [if_neg (List.cons_ne_nil _ _)]
      exact (List.append_nil _).trans hhinted

/-! ## The sentence of a query -/

/-- The sentence of a query over given tables. -/
def sentenceOver (defaultDateColumn : String) (intent : Intent) (tables : TableClause) :
    Sentence where
  items := selectItems intent
  anchor := tables.anchor
  joins := tables.joins.map Join.phrase
  conditions := (planOver defaultDateColumn intent tables).conditions.map
    (Condition.map fun binding => binding.placeholder.slotName)
  groupBy := intent.groupBy.filterMap identifier?
  orderBy := intent.orderBy.filterMap orderItem?
  limited := intent.limit.isSome

theorem text_sentenceOver (defaultDateColumn : String) (intent : Intent) (tables : TableClause) :
    (sentenceOver defaultDateColumn intent tables).text =
      (queryOver defaultDateColumn intent tables).sql.toList := by
  have hconditions : (sentenceOver defaultDateColumn intent tables).conditions.map
      (Condition.write SlotName.write) =
        (planOver defaultDateColumn intent tables).conditions.map
          (Condition.write fun binding => binding.placeholder.write) := by
    unfold sentenceOver
    rw [List.map_map]
    refine List.map_congr_left fun condition _ => ?_
    exact Condition.write_map _ _ condition
  -- the limit has one name only, which the sentence does not store
  have hlimit : (sentenceOver defaultDateColumn intent tables).parts.limit =
      (planOver defaultDateColumn intent tables).limit.map
        fun binding => binding.placeholder.write := by
    unfold Sentence.parts sentenceOver planOver
    cases intent.limit <;> rfl
  have hjoins : (tables.joins.map Join.phrase).map JoinPhrase.write =
      tables.joins.map Join.body := by
    rw [List.map_map]
    rfl
  unfold queryOver Plan.sql
  rw [String.toList_ofList, Statement.write_eq_text]
  unfold Sentence.text
  congr 1
  unfold Statement.parts
  rw [← hconditions, ← hlimit]
  unfold planOver
  dsimp only
  rw [← hjoins]
  rfl

theorem eq_sentenceOver_of_text {defaultDateColumn : String} {intent : Intent}
    {tables : TableClause} {other : Sentence}
    (h : other.text = (queryOver defaultDateColumn intent tables).sql.toList) :
    other = sentenceOver defaultDateColumn intent tables :=
  Sentence.text_injective (h.trans (text_sentenceOver defaultDateColumn intent tables).symm)

/-! ## Conditions without values -/

/-- The column, the operator and the number of values of a condition. -/
def Condition.outline {σ : Type} (condition : Condition σ) : Identifier × Operator × Nat :=
  (condition.column, condition.operator, condition.slots.length)

/-- The column, the operator and the number of values of a predicate. -/
def Predicate.outline (predicate : Predicate) : Identifier × Operator × Nat :=
  (predicate.column, predicate.operator, predicate.operands.length)

theorem Condition.outline_map {σ τ : Type} (change : σ → τ) (condition : Condition σ) :
    (condition.map change).outline = condition.outline := by
  cases condition <;>
    simp [outline, Condition.map, Condition.column, Condition.operator, Condition.slots]

theorem Condition.outline_predicate (condition : Condition Binding) :
    condition.predicate.outline = condition.outline := by
  simp [outline, Predicate.outline, predicate]

theorem outlines_sentenceOver (defaultDateColumn : String) (intent : Intent)
    (tables : TableClause) :
    (sentenceOver defaultDateColumn intent tables).conditions.map Condition.outline =
      (intent.filters.filterMap predicate? ++ datePredicates defaultDateColumn intent).map
        Predicate.outline := by
  rw [← conditions_predicates defaultDateColumn intent tables, List.map_map]
  unfold sentenceOver
  rw [List.map_map]
  refine List.map_congr_left fun condition _ => ?_
  exact (condition.outline_map _).trans condition.outline_predicate.symm

/-- Only a test for null accepts a filter without taking values from it. -/
theorem operator_of_operands?_nil {operator : Operator} {value : Json}
    (h : operator.operands? value = some []) : ∃ negated, operator = .nullTest negated := by
  cases operator with
  | nullTest negated => exact ⟨negated, rfl⟩
  | like ignoresCase => simp [Operator.operands?] at h
  | between =>
      unfold Operator.operands? at h
      split at h <;> simp_all
  | compare comparison => cases value <;> simp [Operator.operands?] at h
  | membership negated =>
      -- an empty list of members is no predicate at all
      rw [operands?_membership] at h
      split at h <;> simp_all

theorem operator_of_no_operands {defaultDateColumn : String} {intent : Intent}
    {predicate : Predicate}
    (hmem : predicate ∈
      intent.filters.filterMap predicate? ++ datePredicates defaultDateColumn intent)
    (hnil : predicate.operands = []) : ∃ negated, predicate.operator = .nullTest negated := by
  rcases List.mem_append.mp hmem with hmem | hmem
  · obtain ⟨filter, -, hfilter⟩ := List.mem_filterMap.mp hmem
    obtain ⟨-, -, hoperands⟩ := predicate?_eq_some_iff.mp hfilter
    rw [hnil] at hoperands
    exact operator_of_operands?_nil hoperands
  · unfold datePredicates at hmem
    rcases List.mem_append.mp hmem with hmem | hmem <;>
      · obtain ⟨date, -, rfl⟩ := List.mem_map.mp hmem
        simp at hnil

theorem wellFormed_sentenceOver (defaultDateColumn : String) (intent : Intent)
    (tables : TableClause) : (sentenceOver defaultDateColumn intent tables).WellFormed := by
  intro condition hmem hslots
  have houtline : condition.outline ∈
      (intent.filters.filterMap predicate? ++ datePredicates defaultDateColumn intent).map
        Predicate.outline := by
    rw [← outlines_sentenceOver defaultDateColumn intent tables]
    exact List.mem_map_of_mem hmem
  obtain ⟨predicate, hpredicate, heq⟩ := List.mem_map.mp houtline
  unfold Predicate.outline Condition.outline at heq
  simp only [Prod.mk.injEq, hslots, List.length_nil, List.length_eq_zero_iff] at heq
  obtain ⟨-, hoperator, hnil⟩ := heq
  rw [← hoperator]
  exact operator_of_no_operands hpredicate hnil

/-! ## The whole text -/

/-- The sentence lists the accepted entries of the intent in their order, and nothing else. -/
structure Sentence.Lists (sentence : Sentence) (defaultDateColumn : String) (intent : Intent)
    (schema : Schema) : Prop where
  items : sentence.items =
    (intent.selectColumns.filter usable).map (fun name => .column (.ofName name)) ++
      intent.aggregations.filterMap calculation?
  anchor : ∃ first others, intent.tables = first :: others ∧
    sentence.anchor = .ofName (schema.canonicalName first)
  joins : sentence.joins = acceptedJoins schema intent
  conditions : sentence.conditions.map Condition.outline =
    (intent.filters.filterMap predicate? ++ datePredicates defaultDateColumn intent).map
      Predicate.outline
  groupBy : sentence.groupBy = (intent.groupBy.filter usable).map .ofName
  orderBy : sentence.orderBy =
    (intent.orderBy.filter fun term => usable term.column).map
      fun term => ⟨.ofName term.column, .ofName term.direction⟩
  limited : sentence.limited = intent.limit.isSome

theorem selectItems_eq (intent : Intent) :
    selectItems intent =
      (intent.selectColumns.filter usable).map (fun name => .column (.ofName name)) ++
        intent.aggregations.filterMap calculation? := by
  have hcalculations : aggregateItem? = calculation? := funext aggregateItem?_eq
  unfold selectItems
  rw [filterMap_identifier?, hcalculations, List.map_map]
  rfl

theorem filterMap_orderItem? (terms : List OrderTerm) :
    terms.filterMap orderItem? =
      (terms.filter fun term => usable term.column).map
        fun term => ⟨.ofName term.column, .ofName term.direction⟩ := by
  induction terms with
  | nil => rfl
  | cons term terms ih =>
      rw [List.filterMap_cons, List.filter_cons, ih]
      unfold orderItem?
      rw [identifier?_eq]
      cases usable term.column <;> rfl

theorem lists_sentenceOver {defaultDateColumn : String} {intent : Intent} {schema : Schema}
    {tables : TableClause} (h : tableClause schema intent = .ok tables) :
    (sentenceOver defaultDateColumn intent tables).Lists defaultDateColumn intent schema := by
  obtain ⟨first, others, htables, -, rfl⟩ := exists_first_of_tableClause h
  exact
    { items := selectItems_eq intent
      anchor := ⟨first, others, htables, rfl⟩
      joins := phrases_of_tables schema intent
      conditions := outlines_sentenceOver _ _ _
      groupBy := filterMap_identifier? _
      orderBy := filterMap_orderItem? _
      limited := rfl }

/-- **A generated query parses in one way only.**  Its text is that of a sentence, it is the text of
no other sentence, and the sentence lists exactly the accepted entries of the intent. -/
theorem generate_parses {defaultDateColumn : String} {intent : Intent} {schema : Schema}
    {query : Query} (h : generate defaultDateColumn intent schema = .ok query) :
    ∃ sentence : Sentence, sentence.text = query.sql.toList ∧
      (∀ other : Sentence, other.text = query.sql.toList → other = sentence) ∧
      sentence.WellFormed ∧ sentence.Lists defaultDateColumn intent schema := by
  obtain ⟨tables, htables, rfl⟩ := exists_tables_of_generate h
  have htext := text_sentenceOver defaultDateColumn intent tables
  refine ⟨sentenceOver defaultDateColumn intent tables, htext, ?_,
    wellFormed_sentenceOver defaultDateColumn intent tables, lists_sentenceOver htables⟩
  intro other hother
  exact Sentence.text_injective (hother.trans htext.symm)

/-- The sentence of a sample intent: one column is not usable and two filters are dropped, the first
calculation gets a label, and the join is inferred. -/
theorem parses_orders :
    ∃ query, generate "fecha" ordersIntent ordersSchema = .ok query ∧
      ∃ sentence : Sentence, sentence.text = query.sql.toList ∧
        (∀ other : Sentence, other.text = query.sql.toList → other = sentence) ∧
        sentence.items =
          [.column (.ofName "id"), .column (.ofName "order_date"),
            .aggregate .countAll (.ofName "count_all"),
            .aggregate (.apply .countDistinct (.ofName "customer_id")) (.ofName "customers")] ∧
        sentence.anchor = .ofName "orders" ∧
        sentence.joins =
          [⟨.ofName "Customers", .ofName "orders", .ofName "customer_id",
            .ofName "Customers", .ofName "id"⟩] ∧
        sentence.conditions.map Condition.outline =
          [(.ofName "status", .membership true, 2), (.ofName "note", .like true, 1),
            (.ofName "total", .between, 2), (.ofName "closed", .nullTest false, 0),
            (.ofName "order_date", .compare .greaterOrEqual, 1),
            (.ofName "order_date", .compare .lessOrEqual, 1)] ∧
        sentence.groupBy = [.ofName "id"] ∧
        sentence.orderBy = [⟨.ofName "id", .ascending⟩] ∧ sentence.limited = true := by
  obtain ⟨query, hquery⟩ : ∃ query, generate "fecha" ordersIntent ordersSchema = .ok query :=
    ⟨_, rfl⟩
  obtain ⟨sentence, htext, hunique, -, hlists⟩ := generate_parses hquery
  have hanchor : sentence.anchor = .ofName (ordersSchema.canonicalName "ORDERS") := by
    obtain ⟨first, others, htables, hanchor⟩ := hlists.anchor
    cases htables
    exact hanchor
  refine ⟨query, hquery, sentence, htext, hunique, hlists.items.trans ?_, hanchor.trans ?_,
    hlists.joins.trans ?_, hlists.conditions.trans ?_, hlists.groupBy.trans ?_,
    hlists.orderBy.trans ?_, hlists.limited⟩
  all_goals decide

end PlainQuery.Sql
