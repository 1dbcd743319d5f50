import PlainQuery.Proofs.Sql.DroppedEntries
import PlainQuery.Proofs.Sql.ForeignKeys

/-!
# Empty names in a query

A name without a single identifier character leaves an empty identifier, and `""` is no name of
anything.  An intent is searched for such names: columns, calculations, filters and hints that have
one are dropped, and an intent whose first table has one is refused.  Two kinds of names are written
unchecked, because they are not names of the intent:

* those that the catalog gives to the tables and keys of inferred joins;

* the column of dates that is configured for when no column asked for looks like one.

`generate_named_iff` says that there are no others, and exactly when a query has no empty name at
all.  The argument goes over the parse tree of the query, whose names are listed by
`Sentence.identifiers`.

Every clause is searched for what could be empty (`date_or_join_of_isEmpty`).  What is accepted has
been checked (`named_items`, `named_usable`, `named_predicate`, `named_hintPhrase`), labels
included: one that is not usable is replaced by a default with an underscore in it (`named_labelOr`,
`named_defaultLabel`).  What is left are the dates and the joins, and of the joins only inferred
ones (`origin_of_isEmpty`).

For the other direction the table on the left side of an inferred join need not be asked about: it
is the first table or was added by an earlier join (`named_inferJoins`), so a join is free of empty
names if its own table and its two columns are (`Join.Complete`).  A schema with usable names has
complete joins only (`complete_of_usableSchema`).
-/

namespace PlainQuery.Sql

/-! ## The names of a sentence -/

/-- The columns that a call is about. -/
def AggregateCall.identifiers : AggregateCall → List Identifier
  | countAll => []
  | apply _ column => [column]

/-- The names in a column of the result. -/
def SelectItem.identifiers : SelectItem → List Identifier
  | column name => [name]
  | aggregate call label => call.identifiers ++ [label]

/-- The names in a join. -/
def JoinPhrase.identifiers (phrase : JoinPhrase) : List Identifier :=
  [phrase.table, phrase.leftTable, phrase.leftColumn, phrase.rightTable, phrase.rightColumn]

/-- All quoted names of a sentence, in the order of its text. -/
def Sentence.identifiers (sentence : Sentence) : List Identifier :=
  sentence.items.flatMap SelectItem.identifiers ++
    (sentence.anchor :: sentence.joins.flatMap JoinPhrase.identifiers) ++
    sentence.conditions.map Condition.column ++ sentence.groupBy ++
    sentence.orderBy.map OrderItem.column

/-- None of the names is empty. -/
def Named (identifiers : List Identifier) : Prop :=
  ∀ identifier ∈ identifiers, identifier.isEmpty = false

theorem named_append {first second : List Identifier} :
    Named (first ++ second) ↔ Named first ∧ Named second := List.forall_mem_append

theorem named_cons {identifier : Identifier} {identifiers : List Identifier} :
    Named (identifier :: identifiers) ↔ identifier.isEmpty = false ∧ Named identifiers :=
  List.forall_mem_cons

theorem named_nil : Named [] := fun _ hmem => absurd hmem List.not_mem_nil

theorem named_flatMap {α : Type} {names : α → List Identifier} {values : List α} :
    Named (values.flatMap names) ↔ ∀ value ∈ values, Named (names value) := by
  unfold Named
  simp only [List.mem_flatMap]
  constructor
  · intro h value hvalue identifier hidentifier
    exact h identifier ⟨value, hvalue, hidentifier⟩
  · rintro h identifier ⟨value, hvalue, hidentifier⟩
    exact h value hvalue identifier hidentifier

theorem isEmpty_ofName_of_usable {name : String} (h : usable name = true) :
    (Identifier.ofName name).isEmpty = false := by
  rw [isEmpty_ofName, h]
  rfl

/-! ## Names that are checked -/

theorem named_labelOr {default : Identifier} (hdefault : default.isEmpty = false)
    (label : Option String) : (labelOr default label).isEmpty = false := by
  cases label with
  | none => exact hdefault
  | some label =>
      rw [labelOr]
      split
      · rename_i husable
        exact isEmpty_ofName_of_usable husable
      · exact hdefault

/-- A default label has an underscore in it. -/
theorem named_defaultLabel (function : AggregateFunction) (rest : List Char) :
    (defaultLabel function rest).isEmpty = false := by
  refine isEmpty_ofName_of_usable (List.any_eq_true.mpr ⟨'_', ?_, rfl⟩)
  rw [String.toList_ofList]
  exact List.mem_append_right _ List.mem_cons_self

theorem named_calculation {aggregation : Aggregation} {item : SelectItem}
    (h : calculation? aggregation = some item) : Named item.identifiers := by
  unfold calculation? at h
  dsimp only at h
  split at h
  · cases h
  · rename_i function hfunction
    split at h
    · split at h
      · cases h
        -- the star has no column, only its label
        have hlabel := named_labelOr (named_defaultLabel .count "all".toList) aggregation.label
        exact named_cons.mpr ⟨hlabel, named_nil⟩
      · cases h
    · split at h
      · rename_i husable
        cases h
        exact named_cons.mpr ⟨isEmpty_ofName_of_usable husable,
          named_cons.mpr ⟨named_labelOr (named_defaultLabel function _) _, named_nil⟩⟩
      · cases h

theorem named_items (intent : Intent) :
    Named ((selectItems intent).flatMap SelectItem.identifiers) := by
  rw [selectItems_eq, List.flatMap_append, named_append, named_flatMap, named_flatMap]
  constructor
  · intro item hitem
    obtain ⟨name, hname, rfl⟩ := List.mem_map.mp hitem
    have husable := (List.mem_filter.mp hname).2
    exact named_cons.mpr ⟨isEmpty_ofName_of_usable husable, named_nil⟩
  · intro item hitem
    obtain ⟨aggregation, -, hcalculation⟩ := List.mem_filterMap.mp hitem
    exact named_calculation hcalculation

theorem named_usable (names : List String) :
    Named ((names.filter usable).map Identifier.ofName) := by
  intro identifier hmem
  obtain ⟨name, hname, rfl⟩ := List.mem_map.mp hmem
  exact isEmpty_ofName_of_usable (List.mem_filter.mp hname).2

theorem named_predicate {filter : Filter} {predicate : Predicate}
    (h : predicate? filter = some predicate) : predicate.column.isEmpty = false := by
  obtain ⟨-, hcolumn, -⟩ := predicate?_eq_some_iff.mp h
  obtain ⟨husable, hname⟩ := identifier?_eq_some_iff.mp hcolumn
  rw [hname]
  exact isEmpty_ofName_of_usable husable

theorem named_hintPhrase {schema : Schema} {hint : JoinHint} {phrase : JoinPhrase}
    (h : hintPhrase? schema hint = some phrase) : Named phrase.identifiers := by
  unfold hintPhrase? at h
  split at h
  · split at h
    · rename_i husable
      obtain ⟨hleft, hleftColumn, hright, hrightColumn⟩ := husable
      cases h
      simp only [JoinPhrase.identifiers, named_cons, isEmpty_ofName_of_usable hleft,
        isEmpty_ofName_of_usable hleftColumn, isEmpty_ofName_of_usable hright,
        isEmpty_ofName_of_usable hrightColumn, named_nil, and_self]
    · cases h
  · cases h

/-! ## Names of the catalog -/

/-- The new table of the join and both of its columns have names that are not empty. -/
def Join.Complete (join : Join) : Prop :=
  join.target.isEmpty = false ∧ join.sourceColumn.isEmpty = false ∧
    join.targetColumn.isEmpty = false

instance (join : Join) : Decidable join.Complete := inferInstanceAs (Decidable (_ ∧ _ ∧ _))

theorem complete_of_named {join : Join} (h : Named join.phrase.identifiers) : join.Complete :=
  ⟨h _ (by simp [JoinPhrase.identifiers, Join.phrase]),
    h _ (by simp [JoinPhrase.identifiers, Join.phrase]),
    h _ (by simp [JoinPhrase.identifiers, Join.phrase])⟩

variable {schema : Schema} {intent : Intent} {first : String} {others : List String}

/-- The other table of an inferred join is the anchor, or has been added by an earlier join. -/
theorem named_inferJoins (hanchor : usable (schema.canonicalName first) = true)
    (hcomplete : ∀ found ∈ inferJoins schema (first :: others), found.1.Complete) :
    ∀ found ∈ inferJoins schema (first :: others), Named found.1.phrase.identifiers := by
  intro found hmem
  obtain ⟨htarget, hsourceColumn, htargetColumn⟩ := hcomplete found hmem
  -- the left table is there before the join
  have hsource : found.1.source.isEmpty = false := by
    obtain ⟨earlier, later, hjoins⟩ := List.append_of_mem hmem
    obtain ⟨first', others', anchor, hnames, hfirst, hfound⟩ :=
      exists_justified_of_inferJoins hjoins
    obtain ⟨rfl, rfl⟩ := List.cons.inj hnames
    obtain ⟨source, hsource, hkey⟩ := hfound.exists_source
    rw [hkey.source_eq]
    rcases List.mem_cons.mp hsource with rfl | hsource
    · unfold Schema.canonicalName at hanchor
      rw [hfirst] at hanchor
      exact isEmpty_ofName_of_usable hanchor
    · obtain ⟨other, hother, rfl⟩ := List.mem_map.mp hsource
      have hjoined : other ∈ inferJoins schema (first :: others) := by
        rw [hjoins]
        exact List.mem_append_left _ hother
      rw [← target_of_mem_inferJoins hjoined]
      exact (hcomplete other hjoined).1
  simp only [JoinPhrase.identifiers, Join.phrase, named_cons, htarget, hsource, hsourceColumn,
    htargetColumn, named_nil, and_self]

/-! ## The column of dates -/

/-- The intent has a range of dates with a bound. -/
def HasDates (intent : Intent) : Prop :=
  (intent.dateRange.bind DateRange.startDate).isSome = true ∨
    (intent.dateRange.bind DateRange.endDate).isSome = true

instance (intent : Intent) : Decidable (HasDates intent) := inferInstanceAs (Decidable (_ ∨ _))

/-- A column that is asked for looks like a date. -/
def AsksForDate (intent : Intent) : Prop :=
  ∃ column ∈ intent.selectColumns ++ intent.groupBy, looksLikeDate column = true

instance (intent : Intent) : Decidable (AsksForDate intent) :=
  inferInstanceAs (Decidable (∃ column ∈ intent.selectColumns ++ intent.groupBy, _))

theorem usable_dateColumn {defaultDateColumn : String} (h : AsksForDate intent) :
    usable (dateColumn defaultDateColumn intent) = true := by
  obtain ⟨column, hmem, hdate⟩ := h
  unfold dateColumn
  cases hfound : (intent.selectColumns ++ intent.groupBy).find? looksLikeDate with
  | none => exact absurd hdate (List.find?_eq_none.mp hfound column hmem)
  | some found => exact usable_of_looksLikeDate (List.find?_some hfound)

theorem dateColumn_eq_default {defaultDateColumn : String} (h : ¬ AsksForDate intent) :
    dateColumn defaultDateColumn intent = defaultDateColumn := by
  have hnone : (intent.selectColumns ++ intent.groupBy).find? looksLikeDate = none :=
    List.find?_eq_none.mpr fun column hmem hdate => h ⟨column, hmem, hdate⟩
  rw [dateColumn, hnone]
  rfl

theorem mem_columns_datePredicates {defaultDateColumn : String} {identifier : Identifier} :
    identifier ∈ (datePredicates defaultDateColumn intent).map Predicate.column ↔
      HasDates intent ∧ identifier = .ofName (dateColumn defaultDateColumn intent) := by
  unfold datePredicates HasDates
  cases intent.dateRange.bind DateRange.startDate <;>
    cases intent.dateRange.bind DateRange.endDate <;> simp

/-! ## Generated queries -/

/-- All names of tables and columns of the schema are usable, and all names in its keys. -/
def UsableSchema (schema : Schema) : Prop :=
  ∀ table ∈ schema.tables, usable table.name = true ∧ ∀ column ∈ table.columns,
    usable column.name = true ∧ ∀ referenced ∈ column.foreignColumn, usable referenced = true

instance (schema : Schema) : Decidable (UsableSchema schema) :=
  inferInstanceAs (Decidable (∀ table ∈ schema.tables, _ ∧ ∀ column ∈ table.columns,
    _ ∧ ∀ referenced ∈ column.foreignColumn, _))

theorem complete_of_usableSchema (husable : UsableSchema schema) {names : List String}
    {found : Join × Table} (hmem : found ∈ inferJoins schema names) : found.1.Complete := by
  obtain ⟨earlier, later, hjoins⟩ := List.append_of_mem hmem
  obtain ⟨first, others, anchor, rfl, hanchor, hfound⟩ := exists_justified_of_inferJoins hjoins
  have hasked :
      ∀ table ∈ anchor :: joinedTables schema (first :: others), table ∈ schema.tables := by
    intro table htable
    obtain ⟨name, -, hname⟩ := finds_of_mem_joinedTables hanchor htable
    exact List.mem_of_find?_eq_some hname
  -- also the tables of earlier joins are tables of the schema
  have hthere : ∀ table ∈ anchor :: earlier.map Prod.snd, table ∈ schema.tables := by
    intro table htable
    refine hasked table ?_
    rw [joinedTables, hjoins, List.map_append, ← List.cons_append]
    exact List.mem_append_left _ htable
  have htarget : found.2 ∈ schema.tables :=
    hasked found.2 (List.mem_cons_of_mem _ (List.mem_map_of_mem hmem))
  have hname := isEmpty_ofName_of_usable (husable found.2 htarget).1
  -- the new table has the key, or the other one has it
  rcases hfound.keyed with ⟨source, -, column, hcolumn, referenced, hkey, heq⟩ |
    ⟨source, hsource, column, hcolumn, referenced, hkey, heq⟩
  · obtain ⟨hown, hreferenced⟩ := (husable found.2 htarget).2 column hcolumn
    rw [heq]
    exact ⟨hname, isEmpty_ofName_of_usable (hreferenced referenced hkey.2.1),
      isEmpty_ofName_of_usable hown⟩
  · obtain ⟨hother, hreferenced⟩ := (husable source (hthere source hsource)).2 column hcolumn
    rw [heq]
    exact ⟨hname, isEmpty_ofName_of_usable hother,
      isEmpty_ofName_of_usable (hreferenced referenced hkey.2.1)⟩

section Lists

variable {sentence : Sentence} {defaultDateColumn : String}

theorem columns_of_lists (hlists : sentence.Lists defaultDateColumn intent schema) :
    sentence.conditions.map Condition.column =
      (intent.filters.filterMap predicate?).map Predicate.column ++
        (datePredicates defaultDateColumn intent).map Predicate.column := by
  have houtlines := congrArg (List.map Prod.fst) hlists.conditions
  rw [List.map_map, List.map_map, List.map_append] at houtlines
  exact houtlines

theorem mem_identifiers_of_join (hlists : sentence.Lists defaultDateColumn intent schema)
    {phrase : JoinPhrase} (hphrase : phrase ∈ acceptedJoins schema intent)
    {identifier : Identifier} (hmem : identifier ∈ phrase.identifiers) :
    identifier ∈ sentence.identifiers := by
  have hjoin : identifier ∈ sentence.joins.flatMap JoinPhrase.identifiers := by
    rw [hlists.joins]
    exact List.mem_flatMap.mpr ⟨phrase, hphrase, hmem⟩
  unfold Sentence.identifiers
  simp only [List.mem_append, List.mem_cons]
  exact .inl (.inl (.inl (.inr (.inr hjoin))))

theorem mem_identifiers_of_dates (hlists : sentence.Lists defaultDateColumn intent schema)
    (hdates : HasDates intent) :
    .ofName (dateColumn defaultDateColumn intent) ∈ sentence.identifiers := by
  have hcolumn : Identifier.ofName (dateColumn defaultDateColumn intent) ∈
      (datePredicates defaultDateColumn intent).map Predicate.column :=
    mem_columns_datePredicates.mpr ⟨hdates, rfl⟩
  unfold Sentence.identifiers
  simp only [List.mem_append, columns_of_lists hlists]
  exact .inl (.inl (.inr (.inr hcolumn)))

/-- Whatever is empty is the column of dates or stands in a join. -/
theorem date_or_join_of_isEmpty (hlists : sentence.Lists defaultDateColumn intent schema)
    (hanchor : sentence.anchor.isEmpty = false) {identifier : Identifier}
    (hmem : identifier ∈ sentence.identifiers) (hempty : identifier.isEmpty = true) :
    (HasDates intent ∧ identifier = .ofName (dateColumn defaultDateColumn intent)) ∨
      ∃ phrase ∈ acceptedJoins schema intent, identifier ∈ phrase.identifiers := by
  have hnot : ∀ identifiers, Named identifiers → identifier ∉ identifiers := by
    intro identifiers hnamed hmem
    rw [hnamed identifier hmem] at hempty
    cases hempty
  have hitems : Named (sentence.items.flatMap SelectItem.identifiers) := by
    rw [hlists.items, ← selectItems_eq]
    exact named_items intent
  have hgroups : Named sentence.groupBy := by
    rw [hlists.groupBy]
    exact named_usable intent.groupBy
  have horders : Named (sentence.orderBy.map OrderItem.column) := by
    rw [hlists.orderBy, List.map_map]
    intro other hother
    obtain ⟨term, hterm, rfl⟩ := List.mem_map.mp hother
    exact isEmpty_ofName_of_usable (List.mem_filter.mp hterm).2
  unfold Sentence.identifiers at hmem
  simp only [List.mem_append, List.mem_cons, columns_of_lists hlists, hlists.joins] at hmem
  -- item, anchor, join, filter, date, group, order
  rcases hmem with (((hitem | rfl | hjoin) | hfilter | hdate) | hgroup) | horder
  · exact absurd hitem (hnot _ hitems)
  · rw [hanchor] at hempty
    cases hempty
  · exact .inr (List.mem_flatMap.mp hjoin)
  · obtain ⟨predicate, hpredicate, rfl⟩ := List.mem_map.mp hfilter
    obtain ⟨filter, -, hfilter⟩ := List.mem_filterMap.mp hpredicate
    rw [named_predicate hfilter] at hempty
    cases hempty
  · exact .inl (mem_columns_datePredicates.mp hdate)
  · exact absurd hgroup (hnot _ hgroups)
  · exact absurd horder (hnot _ horders)

/-- The name is that of the column of dates that is configured, and the intent asks for no other. -/
def IsDefaultDate (defaultDateColumn : String) (intent : Intent) (identifier : Identifier) : Prop :=
  HasDates intent ∧ ¬ AsksForDate intent ∧ identifier = .ofName defaultDateColumn

/-- The name stands in an inferred join. -/
def InInferredJoin (schema : Schema) (intent : Intent) (identifier : Identifier) : Prop :=
  intent.joins = [] ∧ ∃ found ∈ inferJoins schema intent.tables,
    identifier ∈ found.1.phrase.identifiers

theorem origin_of_isEmpty (hlists : sentence.Lists defaultDateColumn intent schema)
    (hanchor : sentence.anchor.isEmpty = false) {identifier : Identifier}
    (hmem : identifier ∈ sentence.identifiers) (hempty : identifier.isEmpty = true) :
    IsDefaultDate defaultDateColumn intent identifier ∨
      InInferredJoin schema intent identifier := by
  rcases date_or_join_of_isEmpty hlists hanchor hmem hempty with
    ⟨hdates, rfl⟩ | ⟨phrase, hphrase, hin⟩
  · -- a column that looks like a date has a letter in it
    by_cases hasks : AsksForDate intent
    · rw [isEmpty_ofName_of_usable (usable_dateColumn hasks)] at hempty
      cases hempty
    · exact .inl ⟨hdates, hasks, by rw [dateColumn_eq_default hasks]⟩
  · unfold acceptedJoins at hphrase
    split at hphrase
    · rename_i hjoins
      obtain ⟨found, hfound, rfl⟩ := List.mem_map.mp hphrase
      exact .inr ⟨hjoins, found, hfound, hin⟩
    · obtain ⟨hint, -, hhint⟩ := List.mem_filterMap.mp hphrase
      rw [named_hintPhrase hhint identifier hin] at hempty
      cases hempty

theorem named_identifiers_iff (hlists : sentence.Lists defaultDateColumn intent schema)
    (htables : intent.tables = first :: others)
    (husable : usable (schema.canonicalName first) = true)
    (hanchor : sentence.anchor = .ofName (schema.canonicalName first)) :
    Named sentence.identifiers ↔
      (HasDates intent → AsksForDate intent ∨ usable defaultDateColumn = true) ∧
        (intent.joins = [] → ∀ found ∈ inferJoins schema intent.tables, found.1.Complete) := by
  constructor
  · intro hnamed
    refine ⟨fun hdates => ?_, fun hjoins found hfound => complete_of_named fun identifier hin => ?_⟩
    · by_cases hasks : AsksForDate intent
      · exact .inl hasks
      · have hdate := hnamed _ (mem_identifiers_of_dates hlists hdates)
        rw [dateColumn_eq_default hasks, isEmpty_ofName, Bool.not_eq_false'] at hdate
        exact .inr hdate
    · have hphrase : found.1.phrase ∈ acceptedJoins schema intent := by
        rw [acceptedJoins, if_pos hjoins]
        exact List.mem_map.mpr ⟨found, hfound, rfl⟩
      exact hnamed identifier (mem_identifiers_of_join hlists hphrase hin)
  · rintro ⟨hdates, hcomplete⟩ identifier hmem
    rw [← Bool.not_eq_true]
    intro hempty
    have hnamed : sentence.anchor.isEmpty = false := by
      rw [hanchor]
      exact isEmpty_ofName_of_usable husable
    rcases origin_of_isEmpty hlists hnamed hmem hempty with
      ⟨hrange, hasks, rfl⟩ | ⟨hjoins, found, hfound, hin⟩
    · have hdefault := (hdates hrange).resolve_left hasks
      rw [isEmpty_ofName_of_usable hdefault] at hempty
      cases hempty
    · rw [htables] at hfound hcomplete
      rw [named_inferJoins husable (hcomplete hjoins) found hfound identifier hin] at hempty
      cases hempty

end Lists

/-- The sentence of a query lists what is accepted, and begins with a usable table. -/
theorem exists_lists_of_generate {defaultDateColumn : String} {query : Query}
    (h : generate defaultDateColumn intent schema = .ok query) :
    ∃ (sentence : Sentence) (first : String) (others : List String),
      sentence.text = query.sql.toList ∧
      (∀ other : Sentence, other.text = query.sql.toList → other = sentence) ∧
      sentence.Lists defaultDateColumn intent schema ∧ intent.tables = first :: others ∧
      usable (schema.canonicalName first) = true ∧
      sentence.anchor = .ofName (schema.canonicalName first) := by
  obtain ⟨tables, hclause, rfl⟩ := exists_tables_of_generate h
  obtain ⟨first, others, htables, husable, hrecord⟩ := exists_first_of_tableClause hclause
  exact ⟨sentenceOver defaultDateColumn intent tables, first, others,
    text_sentenceOver defaultDateColumn intent tables, fun other => eq_sentenceOver_of_text,
    lists_sentenceOver hclause, htables, husable, congrArg TableClause.anchor hrecord⟩

/-- **Which queries have empty names.**  An empty name is the configured column of dates, where no
column asked for looks like a date, or stands in an inferred join.  So a query has none exactly if
the column of dates is usable where it is needed and the inferred joins are complete, and surely if
all names of the schema are usable. -/
theorem generate_named_iff {defaultDateColumn : String} {query : Query}
    (h : generate defaultDateColumn intent schema = .ok query) :
    ∃ sentence : Sentence, sentence.text = query.sql.toList ∧
      (∀ other : Sentence, other.text = query.sql.toList → other = sentence) ∧
      (∀ identifier ∈ sentence.identifiers, identifier.isEmpty = true →
        IsDefaultDate defaultDateColumn intent identifier ∨
          InInferredJoin schema intent identifier) ∧
      (Named sentence.identifiers ↔
        (HasDates intent → AsksForDate intent ∨ usable defaultDateColumn = true) ∧
          (intent.joins = [] → ∀ found ∈ inferJoins schema intent.tables, found.1.Complete)) ∧
      (UsableSchema schema → usable defaultDateColumn = true → Named sentence.identifiers) := by
  obtain ⟨sentence, first, others, htext, hunique, hlists, htables, husable, hanchor⟩ :=
    exists_lists_of_generate h
  have hiff := named_identifiers_iff hlists htables husable hanchor
  refine ⟨sentence, htext, hunique, ?_, hiff, ?_⟩
  · intro identifier hmem hempty
    refine origin_of_isEmpty hlists ?_ hmem hempty
    rw [hanchor]
    exact isEmpty_ofName_of_usable husable
  · intro hschema hdefault
    exact hiff.mpr ⟨fun _ => .inr hdefault,
      fun _ found hfound => complete_of_usableSchema hschema hfound⟩

/-- The query for the sample intent has no empty name. -/
theorem named_orders :
    ∃ query, generate "fecha" ordersIntent ordersSchema = .ok query ∧
      ∃ sentence : Sentence, sentence.text = query.sql.toList ∧ Named sentence.identifiers := by
  obtain ⟨query, hquery⟩ : ∃ query, generate "fecha" ordersIntent ordersSchema = .ok query :=
    ⟨_, rfl⟩
  obtain ⟨sentence, htext, -, -, -, hnamed⟩ := generate_named_iff hquery
  exact ⟨query, hquery, sentence, htext, hnamed (by decide) (by decide)⟩

/-- Orders whose key has a name without a single identifier character. -/
def foreignSchema : Schema where
  tables :=
    [{ name := "orders"
       columns := [.referencing "customers" "id" { name := "客户", dataType := "INTEGER" }] },
     { name := "customers", columns := [{ name := "id", dataType := "INTEGER" }] }]
  discoveredAt := default

/-- Orders with their customers. -/
def customersIntent : Intent where
  tables := ["orders", "customers"]
  confidence := default

/-- Orders from a day on. -/
def recentIntent : Intent where
  tables := ["orders"]
  dateRange := some { startDate := some "2024-01-01" }
  confidence := default

/-- The query has an empty name. -/
def Unnamed (defaultDateColumn : String) (intent : Intent) (schema : Schema) : Prop :=
  ∃ query, generate defaultDateColumn intent schema = .ok query ∧
    ∀ sentence : Sentence, sentence.text = query.sql.toList → ¬ Named sentence.identifiers

theorem unnamed_of_generate {defaultDateColumn : String} {query : Query}
    (hquery : generate defaultDateColumn intent schema = .ok query)
    (hnot : ¬ ((HasDates intent → AsksForDate intent ∨ usable defaultDateColumn = true) ∧
      (intent.joins = [] → ∀ found ∈ inferJoins schema intent.tables, found.1.Complete))) :
    Unnamed defaultDateColumn intent schema := by
  obtain ⟨sentence, first, others, -, hunique, hlists, htables, husable, hanchor⟩ :=
    exists_lists_of_generate hquery
  refine ⟨query, hquery, fun other hother hnamed => hnot ?_⟩
  rw [hunique other hother] at hnamed
  exact (named_identifiers_iff hlists htables husable hanchor).mp hnamed

/-- An inferred join is written although its key has an empty name, and a condition on the dates
although the configured column has one. -/
theorem unnamed_orders :
    Unnamed "fecha" customersIntent foreignSchema ∧ Unnamed "日期" recentIntent foreignSchema := by
  obtain ⟨joined, hjoined⟩ : ∃ query,
      generate "fecha" customersIntent foreignSchema = .ok query := ⟨_, rfl⟩
  obtain ⟨dated, hdated⟩ : ∃ query, generate "日期" recentIntent foreignSchema = .ok query :=
    ⟨_, rfl⟩
  constructor
  · refine unnamed_of_generate hjoined fun h => ?_
    exact absurd (h.2 rfl) (by decide)
  · refine unnamed_of_generate hdated fun h => ?_
    exact absurd (h.1 (.inl rfl)) (by decide)

end PlainQuery.Sql
