import PlainQuery.Proofs.Sql.DroppedEntries
import PlainQuery.Proofs.Sql.Layout

/-!
# Descriptions and what is run

The description of a query lists what an intent asks for, entry by entry, while the query itself has
only the entries that are accepted.  Apart from the tables, the two are made independently of each
other.  This file compares the description with the one that fits the query, which is that of the
tidied intent: its entries are, one for one, those of the clauses (`Sentence.Comprises`,
`comprises_tidied`).

The two descriptions are the same text only if no calculation, filter or group is dropped
(`generate_description_iff`).  That a dropped entry makes a different *text* is not obvious: entries
are arbitrary texts, and what the others look like could make up for the missing one.  The argument
is about lengths.

* The length of a description is a sum over its parts (`length_describeIntent`).  `Text.spaced`
  counts a separator for each text, also for the last one, so that it is additive
  (`Text.spaced_append`) and differs from the length of the joined texts by one separator
  (`Text.length_joined`).

* Leaving out entries never makes a part longer (`spaced_describePart_le`), and makes it shorter if
  any are left out, even empty ones, as each has a separator (`Text.spaced_lt`,
  `spaced_describePart_lt`).

So if the whole is as long as before, no part has lost an entry (`describeIntent_tidied`).
-/

namespace PlainQuery

namespace Text

/-! ## Lengths of joined texts -/

/-- The length of the texts, each with as many characters more. -/
def spaced (width : Nat) : List String → Nat
  | [] => 0
  | text :: texts => text.length + width + spaced width texts

@[simp] theorem spaced_append (width : Nat) (first second : List String) :
    spaced width (first ++ second) = spaced width first + spaced width second := by
  induction first with
  | nil => simp [spaced]
  | cons text first ih =>
      rw [List.cons_append, spaced, spaced, ih]
      omega

theorem length_flatMap_separated (separator : String) (texts : List String) :
    ((texts.map String.toList).flatMap fun text => separator.toList ++ text).length =
      spaced separator.length texts := by
  induction texts with
  | nil => rfl
  | cons text texts ih =>
      rw [List.map_cons, List.flatMap_cons, List.length_append, List.length_append, ih, spaced,
        String.length_toList, String.length_toList]
      omega

/-- A separator behind the last text would make the texts as long as they are with one each. -/
theorem length_joined (separator : String) (texts : List String) (hne : texts ≠ []) :
    (joined separator texts).length + separator.length = spaced separator.length texts := by
  obtain ⟨first, others, rfl⟩ := List.exists_cons_of_ne_nil hne
  rw [joined, ← String.length_toList, String.toList_intercalate, List.map_cons,
    Sql.intercalate_cons_eq, List.length_append, length_flatMap_separated, String.length_toList,
    spaced]
  omega

theorem spaced_le (width : Nat) {texts others : List String} (h : texts.Sublist others) :
    spaced width texts ≤ spaced width others := by
  induction h with
  | slnil => exact Nat.le_refl _
  | cons text _ ih =>
      rw [spaced]
      omega
  | cons_cons text _ ih =>
      rw [spaced, spaced]
      omega

/-- Texts that are left out are missed. -/
theorem spaced_lt {width : Nat} (hwidth : 0 < width) {texts others : List String}
    (h : texts.Sublist others) (hne : texts ≠ others) :
    spaced width texts < spaced width others := by
  induction h with
  | slnil => exact absurd rfl hne
  | cons text h _ =>
      have hle := spaced_le width h
      rw [spaced]
      omega
  | cons_cons text h ih =>
      have hlt := ih fun heq => hne (by rw [heq])
      rw [spaced, spaced]
      omega

end Text

namespace Sql

/-! ## Lengths of descriptions -/

theorem spaced_describePart (heading : String) {entries : List String} (hne : entries ≠ []) :
    Text.spaced 3 (describePart heading entries) + 2 =
      heading.length + Text.spaced 2 entries + 3 := by
  have hlength : (Text.joined ", " entries).length + 2 = Text.spaced 2 entries :=
    Text.length_joined ", " entries hne
  rw [describePart, List.isEmpty_eq_false_iff.mpr hne]
  simp only [Bool.false_eq_true, if_false, Text.spaced, String.length_append]
  omega

/-- A part of a description gets shorter when one of its entries is left out. -/
theorem spaced_describePart_lt (heading : String) {entries others : List String}
    (h : entries.Sublist others) (hne : entries ≠ others) :
    Text.spaced 3 (describePart heading entries) < Text.spaced 3 (describePart heading others) := by
  have hothers : others ≠ [] := by
    rintro rfl
    exact hne (List.sublist_nil.mp h)
  have hlength := spaced_describePart heading hothers
  have hlt : Text.spaced 2 entries < Text.spaced 2 others := Text.spaced_lt (by decide) h hne
  -- the part loses its heading when its last entry is left out
  by_cases hentries : entries = []
  · rw [hentries, describePart, List.isEmpty_nil, if_pos rfl, Text.spaced]
    omega
  · have hshort := spaced_describePart heading hentries
    omega

theorem spaced_describePart_le (heading : String) {entries others : List String}
    (h : entries.Sublist others) :
    Text.spaced 3 (describePart heading entries) ≤ Text.spaced 3 (describePart heading others) := by
  by_cases heq : entries = others
  · rw [heq]
  · exact Nat.le_of_lt (spaced_describePart_lt heading h heq)

/-- The part of a description about the period, which is not about any entry. -/
def describePeriod (intent : Intent) : List String :=
  match intent.dateRange with
  | some range => if range.period.isEmpty then [] else ["Period: " ++ range.period]
  | none => []

theorem length_describeIntent (intent : Intent) (tablesUsed : List String) :
    (describeIntent intent tablesUsed).length + 3 =
      Text.spaced 3 (describePart "Computing: " (intent.aggregations.map describeAggregation)) +
        Text.spaced 3 ["From tables: " ++ Text.joined ", " tablesUsed] +
        Text.spaced 3 (describePart "Filtered by: " (intent.filters.map describeFilter)) +
        Text.spaced 3 (describePart "Grouped by: " intent.groupBy) +
        Text.spaced 3 (describePeriod intent) := by
  have hlength := Text.length_joined " | "
    (describePart "Computing: " (intent.aggregations.map describeAggregation) ++
      ["From tables: " ++ Text.joined ", " tablesUsed] ++
      describePart "Filtered by: " (intent.filters.map describeFilter) ++
      describePart "Grouped by: " intent.groupBy ++ describePeriod intent) (by simp)
  simp only [Text.spaced_append] at hlength
  exact hlength

/-- Only if all entries are accepted, the accepted ones are described by the same texts. -/
theorem map_filter_eq_map_iff {α : Type} (describe : α → String) (accepted : α → Bool)
    (entries : List α) :
    (entries.filter accepted).map describe = entries.map describe ↔
      ∀ entry ∈ entries, accepted entry = true := by
  constructor
  · intro h
    -- what is left out is missing from the number of texts
    have hlength := congrArg List.length h
    rw [List.length_map, List.length_map] at hlength
    exact List.length_filter_eq_length_iff.mp hlength
  · intro h
    rw [List.filter_eq_self.mpr h]

/-- The intent and its tidied form are described by the same text exactly if no calculation, filter
or group is dropped. -/
theorem describeIntent_tidied (intent : Intent) (tablesUsed : List String) :
    describeIntent intent tablesUsed = describeIntent intent.tidied tablesUsed ↔
      (∀ aggregation ∈ intent.aggregations, (aggregateItem? aggregation).isSome = true) ∧
        (∀ filter ∈ intent.filters, (filterCondition? 0 filter).isSome = true) ∧
        ∀ name ∈ intent.groupBy, usable name = true := by
  constructor
  · intro h
    have hlength := length_describeIntent intent tablesUsed
    rw [h, length_describeIntent] at hlength
    have hcomputing : (intent.tidied.aggregations.map describeAggregation).Sublist
      (intent.aggregations.map describeAggregation) := List.filter_sublist.map _
    have hfiltered : (intent.tidied.filters.map describeFilter).Sublist
      (intent.filters.map describeFilter) := List.filter_sublist.map _
    have hgrouped : intent.tidied.groupBy.Sublist intent.groupBy := List.filter_sublist
    -- no part of the tidied description is longer, so all of them must have the same length
    have hcomputing_le := spaced_describePart_le "Computing: " hcomputing
    have hfiltered_le := spaced_describePart_le "Filtered by: " hfiltered
    have hgrouped_le := spaced_describePart_le "Grouped by: " hgrouped
    have hperiod : describePeriod intent.tidied = describePeriod intent := rfl
    rw [hperiod] at hlength
    refine ⟨?_, ?_, ?_⟩
    · refine (map_filter_eq_map_iff describeAggregation _ _).mp ?_
      by_contra hne
      have hlt := spaced_describePart_lt "Computing: " hcomputing hne
      omega
    · refine (map_filter_eq_map_iff describeFilter _ _).mp ?_
      by_contra hne
      have hlt := spaced_describePart_lt "Filtered by: " hfiltered hne
      omega
    · refine List.filter_eq_self.mp ?_
      by_contra hne
      have hlt := spaced_describePart_lt "Grouped by: " hgrouped hne
      omega
  · rintro ⟨haggregations, hfilters, hgroups⟩
    have htidied : intent.tidied = { intent.tidied with
        aggregations := intent.aggregations
        filters := intent.filters
        groupBy := intent.groupBy } := by
      unfold Intent.tidied
      rw [List.filter_eq_self.mpr haggregations, List.filter_eq_self.mpr hfilters,
        List.filter_eq_self.mpr hgroups]
    rw [htidied]
    rfl

/-! ## Entries and clauses -/

/-- The column of the result is a calculation. -/
def SelectItem.isCalculation : SelectItem → Bool
  | column _ => false
  | aggregate _ _ => true

/-- The calculations, filters and groups of the intent are those of the clauses, one for one and in
their order; behind the conditions of the filters stand those of the range of dates. -/
structure Sentence.Comprises (sentence : Sentence) (defaultDateColumn : String) (intent : Intent) :
    Prop where
  calculations : intent.aggregations.map calculation? =
    (sentence.items.filter SelectItem.isCalculation).map some
  conditions : ∃ predicates, intent.filters.map predicate? = predicates.map some ∧
    sentence.conditions.map Condition.outline =
      (predicates ++ datePredicates defaultDateColumn intent).map Predicate.outline
  groups : intent.groupBy.map identifier? = sentence.groupBy.map some

theorem map_filter_isSome {α β : Type} {f : α → Option β} {accepted : α → Bool}
    (h : ∀ entry, accepted entry = (f entry).isSome) (entries : List α) :
    (entries.filter accepted).map f = (entries.filterMap f).map some := by
  induction entries with
  | nil => rfl
  | cons entry entries ih =>
      have haccepted := h entry
      cases hentry : f entry with
      | none =>
          rw [hentry, Option.isSome_none] at haccepted
          rw [List.filter_cons_of_neg (by simp [haccepted]), List.filterMap_cons_none hentry, ih]
      | some result =>
          rw [hentry, Option.isSome_some] at haccepted
          rw [List.filter_cons_of_pos haccepted, List.filterMap_cons_some hentry, List.map_cons,
            List.map_cons, hentry, ih]

theorem isCalculation_of_calculation? {aggregation : Aggregation} {item : SelectItem}
    (h : calculation? aggregation = some item) : item.isCalculation = true := by
  unfold calculation? at h
  dsimp only at h
  repeat' split at h
  all_goals cases h
  all_goals rfl

theorem filter_isCalculation (intent : Intent) :
    (selectItems intent).filter SelectItem.isCalculation =
      intent.aggregations.filterMap calculation? := by
  rw [selectItems_eq, List.filter_append]
  have hcolumns : ((intent.selectColumns.filter usable).map fun name =>
      SelectItem.column (.ofName name)).filter SelectItem.isCalculation = [] := by
    refine List.filter_eq_nil_iff.mpr fun item hmem => ?_
    obtain ⟨name, -, rfl⟩ := List.mem_map.mp hmem
    exact Bool.false_ne_true
  have hcalculations : (intent.aggregations.filterMap calculation?).filter
      SelectItem.isCalculation = intent.aggregations.filterMap calculation? := by
    refine List.filter_eq_self.mpr fun item hmem => ?_
    obtain ⟨aggregation, -, hitem⟩ := List.mem_filterMap.mp hmem
    exact isCalculation_of_calculation? hitem
  rw [hcolumns, hcalculations, List.nil_append]

theorem isSome_filterCondition?_eq (filter : Filter) :
    (filterCondition? 0 filter).isSome = (predicate? filter).isSome := by
  rw [← filterCondition?_predicate 0, Option.isSome_map]

theorem datePredicates_tidied (defaultDateColumn : String) (intent : Intent) :
    datePredicates defaultDateColumn intent.tidied = datePredicates defaultDateColumn intent := by
  unfold datePredicates
  rw [dateColumn_tidied]
  rfl

/-- The clauses of a query are those of the tidied intent. -/
theorem comprises_tidied (defaultDateColumn : String) (intent : Intent) (tables : TableClause) :
    (sentenceOver defaultDateColumn intent tables).Comprises defaultDateColumn intent.tidied where
  calculations := by
    show _ = ((selectItems intent).filter SelectItem.isCalculation).map some
    rw [filter_isCalculation]
    exact map_filter_isSome (fun aggregation => by rw [aggregateItem?_eq]) _
  conditions :=
    ⟨intent.filters.filterMap predicate?, map_filter_isSome isSome_filterCondition?_eq _, by
      rw [datePredicates_tidied]
      exact outlines_sentenceOver defaultDateColumn intent tables⟩
  groups := map_filter_isSome usable_eq_isSome _

/-- **Where the description fits the query.**  A description lists what the intent asks for.  The
calculations, filters and groups of a query are those of the tidied intent, whose description it has
exactly if none of them is dropped. -/
theorem generate_description_iff {defaultDateColumn : String} {intent : Intent} {schema : Schema}
    {query : Query} (h : generate defaultDateColumn intent schema = .ok query) :
    ∃ sentence : Sentence, sentence.text = query.sql.toList ∧
      (∀ other : Sentence, other.text = query.sql.toList → other = sentence) ∧
      sentence.Comprises defaultDateColumn intent.tidied ∧
      query.description = describeIntent intent query.tablesUsed ∧
      (query.description = describeIntent intent.tidied query.tablesUsed ↔
        (∀ aggregation ∈ intent.aggregations, (calculation? aggregation).isSome = true) ∧
          (∀ filter ∈ intent.filters, (predicate? filter).isSome = true) ∧
          ∀ name ∈ intent.groupBy, usable name = true) := by
  obtain ⟨tables, -, rfl⟩ := exists_tables_of_generate h
  refine ⟨sentenceOver defaultDateColumn intent tables, text_sentenceOver _ _ _,
    fun other => eq_sentenceOver_of_text, comprises_tidied _ _ _, rfl, ?_⟩
  have hiff := describeIntent_tidied intent tables.tablesUsed
  simp only [aggregateItem?_eq, isSome_filterCondition?_eq] at hiff
  exact hiff

/-- A calculation, a filter and a group, all of which are run. -/
def openTotals : Intent where
  tables := ["orders"]
  aggregations := [⟨"sum", "total", some "total"⟩]
  filters := [⟨"status", "=", .string "open"⟩]
  groupBy := ["customer_id"]
  confidence := default

theorem description_openTotals :
    ∃ query, generate "fecha" openTotals ordersSchema = .ok query ∧
      query.description = "Computing: SUM(total) | From tables: orders | " ++
        "Filtered by: status = open | Grouped by: customer_id" ∧
      query.description = describeIntent openTotals.tidied query.tablesUsed ∧
      ∃ sentence : Sentence, sentence.text = query.sql.toList ∧
        sentence.Comprises "fecha" openTotals.tidied := by
  obtain ⟨query, hquery⟩ : ∃ query, generate "fecha" openTotals ordersSchema = .ok query :=
    ⟨_, rfl⟩
  obtain ⟨sentence, htext, -, hcomprises, hdescription, hiff⟩ := generate_description_iff hquery
  have htidied := hiff.mpr (by decide)
  refine ⟨query, hquery, ?_, htidied, sentence, htext, hcomprises⟩
  cases hquery
  decide

/-- A calculation, a filter and a group that make no sense. -/
def senselessEntries : Intent where
  tables := ["orders"]
  aggregations := [⟨"median", "total", none⟩]
  filters := [⟨"note", "regexp", .string "x"⟩]
  groupBy := ["??"]
  confidence := default

/-- The description lists them all, although nothing of them is run. -/
theorem description_senselessEntries :
    ∃ query, generate "fecha" senselessEntries ordersSchema = .ok query ∧
      query.description = "Computing: MEDIAN(total) | From tables: orders | " ++
        "Filtered by: note regexp x | Grouped by: ??" ∧
      ∃ sentence : Sentence, sentence.text = query.sql.toList ∧
        (∀ other : Sentence, other.text = query.sql.toList → other = sentence) ∧
        sentence.items = [] ∧ sentence.conditions = [] ∧ sentence.groupBy = [] := by
  have htables : tableClause ordersSchema senselessEntries =
      .ok { anchor := .ofName "orders", joins := [], tablesUsed := ["orders"] } := rfl
  refine ⟨_, by rw [generate_eq_map, htables]; rfl, by decide, _, text_sentenceOver _ _ _,
    fun other => eq_sentenceOver_of_text, ?_⟩
  decide

end Sql

end PlainQuery
