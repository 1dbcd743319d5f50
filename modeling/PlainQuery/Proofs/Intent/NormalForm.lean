import PlainQuery.Intent.Build
import PlainQuery.Proofs.Number.Order
import PlainQuery.Proofs.Text.Blank

/-!
# The normal form of intents

An intent is built from an object of any shape, and nearly everything in it comes out in a normal
form (`Intent.Normal`): names are trimmed and not empty, a limit is positive, a range of dates has a
bound, and the confidence lies between zero and one.  The names of a join hint and the free texts
may be missing; those are trimmed.

Each kind of entry has its reader, so there is one lemma for each of them, and all of them rest on
one fact: a text that is read is `Filled` (`filled_of_text?`).  The confidence needs a fact about
numbers besides, that moving a finite number into a range brings it there (`within_confidenceOf`).

There is one way past this.  A bare text in the list of orders is trimmed but not looked at any
further, so a blank one becomes an order by a column without a name (`ofCandidate_blank_order`).
That nothing else does is shown by taking the orders apart from the rest:

* whatever the object is, the intent without its orders is normal (`normal_ofMembers_unordered`);
* an order is normal but for its column, which is empty exactly if the item is a blank text
  (`orderTermOf?_spec`).

So the intent is normal as a whole exactly if no bare text in the list of orders is blank
(`ofCandidate_normal_iff`).
-/

namespace PlainQuery

open Text (Trimmed isBlank)
open Number (Floating)

/-! ## Normal entries -/

/-- There is something in the text, and no blank at its ends. -/
structure Filled (text : String) : Prop where
  nonempty : text ≠ ""
  trimmed : Trimmed text.toList

instance (text : String) : Decidable (Filled text) :=
  decidable_of_iff (text ≠ "" ∧ Trimmed text.toList)
    ⟨fun ⟨nonempty, trimmed⟩ => { nonempty, trimmed }, fun h => ⟨h.nonempty, h.trimmed⟩⟩

structure Aggregation.Normal (aggregation : Aggregation) : Prop where
  function : Filled aggregation.function
  column : Filled aggregation.column
  label : ∀ label ∈ aggregation.label, Filled label

/-- Any value is normal. -/
structure Filter.Normal (filter : Filter) : Prop where
  column : Filled filter.column
  operator : Filled filter.operator

/-- The names of a proposal may be missing. -/
structure JoinHint.Normal (hint : JoinHint) : Prop where
  leftTable : Trimmed hint.leftTable.toList
  leftColumn : Trimmed hint.leftColumn.toList
  rightTable : Trimmed hint.rightTable.toList
  rightColumn : Trimmed hint.rightColumn.toList

structure OrderTerm.Normal (term : OrderTerm) : Prop where
  column : Filled term.column
  direction : Filled term.direction

structure DateRange.Normal (range : DateRange) : Prop where
  bounded : range.startDate.isSome ∨ range.endDate.isSome
  startDate : ∀ date ∈ range.startDate, Filled date
  endDate : ∀ date ∈ range.endDate, Filled date
  period : Trimmed range.period.toList

namespace Intent

/-- All entries of the intent are normal, and its numbers are in their ranges. -/
structure Normal (intent : Intent) : Prop where
  tables : ∀ name ∈ intent.tables, Filled name
  selectColumns : ∀ name ∈ intent.selectColumns, Filled name
  aggregations : ∀ aggregation ∈ intent.aggregations, aggregation.Normal
  filters : ∀ filter ∈ intent.filters, filter.Normal
  joins : ∀ hint ∈ intent.joins, hint.Normal
  groupBy : ∀ name ∈ intent.groupBy, Filled name
  orderBy : ∀ term ∈ intent.orderBy, term.Normal
  limit : ∀ count ∈ intent.limit, 0 < count
  dateRange : ∀ range ∈ intent.dateRange, range.Normal
  confidence : Floating.Within (.zero false) (.ofNat 1) intent.confidence
  reasoning : Trimmed intent.reasoning.toList

/-! ## Texts -/

theorem filled?_eq_some_iff {text name : String} :
    filled? text = some name ↔ Text.trim text = name ∧ name ≠ "" := by
  unfold filled?
  simp only [String.isEmpty_iff, Option.ite_none_left_eq_some, Option.some.injEq]
  constructor
  · rintro ⟨hne, rfl⟩
    exact ⟨rfl, hne⟩
  · rintro ⟨rfl, hne⟩
    exact ⟨hne, rfl⟩

theorem filled_of_filled? {text name : String} (h : filled? text = some name) : Filled name := by
  obtain ⟨rfl, hne⟩ := filled?_eq_some_iff.mp h
  exact ⟨hne, Text.trimmed_trim text⟩

variable {members : Fields Json} {key : String}

theorem filled_of_text? {name : String} (h : text? members key = some name) : Filled name := by
  obtain ⟨value, -, h⟩ := Option.bind_eq_some_iff.mp h
  obtain ⟨text, -, h⟩ := Option.bind_eq_some_iff.mp h
  exact filled_of_filled? h

theorem filled_getD_text? {default : String} (hdefault : Filled default) :
    Filled ((text? members key).getD default) := by
  cases h : text? members key with
  | none => exact hdefault
  | some name => exact filled_of_text? h

theorem trimmed_getD_text? : Trimmed ((text? members key).getD "").toList := by
  cases h : text? members key with
  | none => decide
  | some name => exact (filled_of_text? h).trimmed

theorem filled_of_mem_texts {name : String} (h : name ∈ texts members key) : Filled name := by
  unfold texts at h
  split at h
  · obtain ⟨item, -, h⟩ := List.mem_filterMap.mp h
    obtain ⟨text, -, h⟩ := Option.bind_eq_some_iff.mp h
    exact filled_of_filled? h
  · exact filled_of_filled? (Option.mem_toList.mp h)
  · cases h

/-! ## Entries -/

theorem normal_aggregationOf (members : Fields Json) : (aggregationOf members).Normal where
  function := filled_getD_text? (by decide)
  column := filled_getD_text? (by decide)
  label := fun _ => filled_of_text?

theorem normal_of_filterOf? {filter : Filter} (h : filterOf? members = some filter) :
    filter.Normal := by
  obtain ⟨column, hcolumn, rfl⟩ := Option.map_eq_some_iff.mp h
  exact ⟨filled_of_text? hcolumn, filled_getD_text? (by decide)⟩

theorem normal_joinHintOf (members : Fields Json) : (joinHintOf members).Normal where
  leftTable := trimmed_getD_text?
  leftColumn := trimmed_getD_text?
  rightTable := trimmed_getD_text?
  rightColumn := trimmed_getD_text?

theorem normal_of_dateRangeOf? {value : Json} {range : DateRange}
    (h : dateRangeOf? value = some range) : range.Normal := by
  obtain ⟨members, -, h⟩ := Option.bind_eq_some_iff.mp h
  dsimp only at h
  split at h
  · cases h
  · rename_i hbounds
    cases h
    refine ⟨?_, fun _ => filled_of_text?, fun _ => filled_of_text?, trimmed_getD_text?⟩
    simpa [← Option.isSome_iff_ne_none, or_iff_not_imp_left] using hbounds

theorem pos_of_limitOf? {value : Json} {count : Nat} (h : limitOf? value = some count) :
    0 < count := by
  simpa using (Option.filter_eq_some_iff.mp h).2

/-- The numbers of a document that are no whole numbers are finite. -/
theorem within_confidenceOf {value : Option Json}
    (hfinite : ∀ number, value = some (.number (.double number)) → number.isFinite = true) :
    Floating.Within (.zero false) (.ofNat 1) (confidenceOf value) := by
  unfold confidenceOf
  split
  · rename_i number hnumber
    refine Floating.within_clamp (by decide) ?_
    obtain ⟨json, hjson, hnumber⟩ := Option.bind_eq_some_iff.mp hnumber
    unfold Json.double? at hnumber
    split at hnumber
    · rename_i numeral
      cases hnumber
      cases numeral with
      | integer value => exact Floating.isNaN_ofRatio _ _ _
      | double number => exact Floating.isNaN_of_isFinite (hfinite number hjson)
    · cases hnumber
  · decide

/-! ## Orders -/

/-- The items of the list of orders. -/
def orderItems (members : Fields Json) : List Json :=
  ((members.get? "order_by").bind Json.items?).getD []

/-- One of the orders is a bare text with nothing but blanks. -/
def HasBlankOrder (members : Fields Json) : Prop :=
  ∃ text, .string text ∈ orderItems members ∧ ∀ c ∈ text.toList, isBlank c = true

theorem filled_defaultDirection : Filled defaultDirection := by decide

/-- Apart from its column, which may be empty if the item is a bare text, an order is normal. -/
theorem orderTermOf?_spec {item : Json} {term : OrderTerm} (h : orderTermOf? item = some term) :
    Trimmed term.column.toList ∧ Filled term.direction ∧
      (term.column = "" ↔
        ∃ text, item = .string text ∧ ∀ c ∈ text.toList, isBlank c = true) := by
  unfold orderTermOf? at h
  split at h
  · rename_i column
    cases h
    refine ⟨Text.trimmed_trim column, filled_defaultDirection, ?_⟩
    rw [Text.trim_eq_empty_iff]
    simp
  · obtain ⟨column, hcolumn, rfl⟩ := Option.map_eq_some_iff.mp h
    have hfilled := filled_of_text? hcolumn
    exact ⟨hfilled.trimmed, filled_getD_text? filled_defaultDirection,
      iff_of_false hfilled.nonempty (by simp)⟩
  · cases h

theorem exists_empty_column_iff (members : Fields Json) (question : String) :
    (∃ term ∈ (ofMembers members question).orderBy, term.column = "") ↔ HasBlankOrder members := by
  constructor
  · rintro ⟨term, hterm, hempty⟩
    obtain ⟨item, hitem, hterm⟩ := List.mem_filterMap.mp hterm
    obtain ⟨text, rfl, hblank⟩ := (orderTermOf?_spec hterm).2.2.mp hempty
    exact ⟨text, hitem, hblank⟩
  · rintro ⟨text, hitem, hblank⟩
    exact ⟨⟨Text.trim text, defaultDirection⟩, List.mem_filterMap.mpr ⟨_, hitem, rfl⟩,
      Text.trim_eq_empty_iff.mpr hblank⟩

/-! ## Whole intents -/

/-- Whatever the object is, everything but the order is normal. -/
theorem normal_ofMembers_unordered {members : Fields Json}
    (hfinite : ∀ number, members.get? "confidence" = some (.number (.double number)) →
      number.isFinite = true) (question : String) :
    Normal { ofMembers members question with orderBy := [] } where
  tables := fun _ => filled_of_mem_texts
  selectColumns := fun _ => filled_of_mem_texts
  aggregations := by
    intro aggregation hmem
    obtain ⟨entry, -, rfl⟩ := List.mem_map.mp hmem
    exact normal_aggregationOf entry
  filters := by
    intro filter hmem
    obtain ⟨entry, -, hfilter⟩ := List.mem_filterMap.mp hmem
    exact normal_of_filterOf? hfilter
  joins := by
    intro hint hmem
    obtain ⟨entry, -, rfl⟩ := List.mem_map.mp hmem
    exact normal_joinHintOf entry
  groupBy := fun _ => filled_of_mem_texts
  orderBy := nofun
  limit := by
    intro count hcount
    obtain ⟨value, -, hcount⟩ := Option.bind_eq_some_iff.mp hcount
    exact pos_of_limitOf? hcount
  dateRange := by
    intro range hrange
    obtain ⟨value, -, hrange⟩ := Option.bind_eq_some_iff.mp hrange
    exact normal_of_dateRangeOf? hrange
  confidence := within_confidenceOf hfinite
  reasoning := trimmed_getD_text?

/-- **Built intents are in normal form, up to orders without a column.**  An object of any shape is
accepted, and apart from the columns to order by all of the intent is normal.  Those columns are
trimmed, and one of them is empty exactly if a bare text in the list of orders is blank; so without
such a text the intent is normal as a whole. -/
theorem ofCandidate_normal_iff (members : Fields Json) (question : String)
    (hfinite : ∀ number, members.get? "confidence" = some (.number (.double number)) →
      number.isFinite = true) :
    ∃ intent, ofCandidate (.object members) question = .ok intent ∧
      Normal { intent with orderBy := [] } ∧
      (∀ term ∈ intent.orderBy, Trimmed term.column.toList ∧ Filled term.direction) ∧
      ((∃ term ∈ intent.orderBy, term.column = "") ↔ HasBlankOrder members) ∧
      (intent.Normal ↔ ¬ HasBlankOrder members) := by
  have hothers := normal_ofMembers_unordered hfinite question
  have hempty := exists_empty_column_iff members question
  have horders : ∀ term ∈ (ofMembers members question).orderBy,
      Trimmed term.column.toList ∧ Filled term.direction := by
    intro term hmem
    obtain ⟨item, -, hterm⟩ := List.mem_filterMap.mp hmem
    obtain ⟨hcolumn, hdirection, -⟩ := orderTermOf?_spec hterm
    exact ⟨hcolumn, hdirection⟩
  refine ⟨ofMembers members question, rfl, hothers, horders, hempty, ?_⟩
  rw [← hempty]
  constructor
  · rintro hnormal ⟨term, hmem, hnone⟩
    exact (hnormal.orderBy term hmem).column.nonempty hnone
  · intro hnone
    -- an order falls short of the normal form in its column only
    have horderBy : ∀ term ∈ (ofMembers members question).orderBy, term.Normal := by
      intro term hmem
      obtain ⟨hcolumn, hdirection⟩ := horders term hmem
      exact ⟨⟨fun hblank => hnone ⟨term, hmem, hblank⟩, hcolumn⟩, hdirection⟩
    exact { hothers with orderBy := horderBy }

/-- An object as a model replies with it, with noise in its lists. -/
def looseMembers : Fields Json :=
  [("aggregations",
      .array [.object [("column", .string "total"), ("func", .string " sum ")], .string "noise"]),
    ("confidence", .number (.double (Floating.ofRatio false 7 2))),
    ("date_range", .object [("end_date", .null), ("start_date", .string " ")]),
    ("filters",
      .array [.object [("operator", .string "=")], .object [("column", .string "state")]]),
    ("limit", .string " 10 "),
    ("order_by", .array [.string " total", .object [("column", .string "day")], .ofNat 3]),
    ("tables", .string " orders ")]

/-- The noise is left out, and the intent is normal. -/
theorem normal_looseMembers :
    (∀ number, looseMembers.get? "confidence" = some (.number (.double number)) →
        number.isFinite = true) ∧
      ∃ intent, ofCandidate (.object looseMembers) "" = .ok intent ∧ intent.Normal := by
  have hfinite : ∀ number, looseMembers.get? "confidence" = some (.number (.double number)) →
      number.isFinite = true := by
    intro number h
    cases h
    decide
  obtain ⟨intent, hintent, -, -, -, hnormal⟩ := ofCandidate_normal_iff looseMembers "" hfinite
  refine ⟨hfinite, intent, hintent, hnormal.mpr ?_⟩
  rintro ⟨text, hmem, hblank⟩
  have hitems : orderItems looseMembers =
      [.string " total", .object [("column", .string "day")], .ofNat 3] := rfl
  have htext : text = " total" := by simpa [hitems, Json.ofNat] using hmem
  subst htext
  exact absurd (hblank 't' (by decide)) (by decide)

/-- A blank text in the list of orders becomes an order without a column. -/
theorem ofCandidate_blank_order :
    ∃ intent, ofCandidate (.object [("order_by", .array [.string " "])]) "" = .ok intent ∧
      ∃ term ∈ intent.orderBy, term.column = "" :=
  ⟨_, rfl, ⟨"", "DESC"⟩, by decide, rfl⟩

end Intent

end PlainQuery
