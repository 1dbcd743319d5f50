import PlainQuery.Intent.Document
import PlainQuery.Proofs.Fields
import PlainQuery.Proofs.Intent.NormalForm

/-!
# Intents in normal form are read back

The documents of intents are written field by field (`Intent.toJson`) and read by functions that
know nothing of the writing and accept much more (`Intent.ofCandidate`).  On the document of a
normal intent the two agree: the whole intent comes back (`ofCandidate_toJson`).

The reading of one member is settled for each shape that a member has: a text (`text?_eq_some`, or
`getD_text?_eq` if it may be empty), an optional text (`text?_eq_option`), a list of texts
(`texts_eq`), and a list of objects or of anything else whose entries are read back one by one
(`filterMap_objects_eq`, `map_objects_eq`, `orderBy_eq`).  Each kind of entry is read back if it is
normal (`Aggregation.Normal.read` and its siblings).

Two of these lemmas show why the normal form is what it is.  A text is trimmed when it is read, so
only a trimmed one can come back, and an empty one counts as missing; where a text may be empty, its
default is the empty text.  And the confidence is moved into its range when it is read, so it comes
back only from inside of it (`confidenceOf_eq`).  The values of filters are not looked at at all.
-/

namespace PlainQuery

open Text (Trimmed)
open Number (Floating)

/-- Members are looked up in the pairs that an object is made from. -/
theorem get?_ofList_of_lookup {pairs : List (String × Json)} {key : String} {value : Json}
    (h : pairs.reverse.lookup key = some value) :
    (Fields.ofList pairs).get? key = some value :=
  (Fields.get?_ofList_eq_lookup pairs key).trans h

theorem Filled.read {name : String} (h : Filled name) :
    (Json.string name).string?.bind Intent.filled? = some name := by
  rw [Json.string?, Option.bind_some, Intent.filled?_eq_some_iff]
  exact ⟨Text.trim_eq_self h.trimmed, h.nonempty⟩

namespace Intent

/-! ## Members -/

variable {members : Fields Json} {key : String}

theorem text?_eq_some {name : String} (hget : members.get? key = some (.string name))
    (h : Filled name) : text? members key = some name := by
  rw [text?, hget, Option.bind_some, h.read]

theorem getD_text?_eq_of_filled {name default : String}
    (hget : members.get? key = some (.string name)) (h : Filled name) :
    (text? members key).getD default = name := by
  rw [text?_eq_some hget h, Option.getD_some]

/-- An empty text is not read, and the default that stands for it is empty. -/
theorem getD_text?_eq {text : String} (hget : members.get? key = some (.string text))
    (h : Trimmed text.toList) : (text? members key).getD "" = text := by
  by_cases hempty : text = ""
  · rw [text?, hget, hempty]
    rfl
  · exact getD_text?_eq_of_filled hget ⟨hempty, h⟩

section Entries

variable {α : Type} {write : α → Json}

theorem bind_get?_eq {read : Json → Option α} {value : Option α}
    (hget : members.get? key = some (.ofOption write value)) (hnull : read .null = none)
    (h : ∀ entry ∈ value, read (write entry) = some entry) :
    (members.get? key).bind read = value := by
  rw [hget, Option.bind_some]
  cases value with
  | none => exact hnull
  | some entry => exact h entry rfl

theorem text?_eq_option {name : Option String}
    (hget : members.get? key = some (.ofOption .string name)) (h : ∀ text ∈ name, Filled text) :
    text? members key = name :=
  bind_get?_eq hget rfl fun text hmem => (h text hmem).read

/-- What is read back one by one is read back as a list. -/
theorem filterMap_map_eq_self {read : Json → Option α} {values : List α}
    (h : ∀ value ∈ values, read (write value) = some value) :
    (values.map write).filterMap read = values := by
  rw [List.filterMap_map]
  exact (List.filterMap_congr h).trans List.filterMap_some

theorem texts_eq {names : List String} (hget : members.get? key = some (.ofStrings names))
    (h : ∀ name ∈ names, Filled name) : texts members key = names := by
  rw [texts, hget]
  exact filterMap_map_eq_self fun name hmem => (h name hmem).read

theorem filterMap_objects_eq {read : Fields Json → Option α} {values : List α}
    (hget : members.get? key = some (.array (values.map write)))
    (h : ∀ value ∈ values, (write value).members?.bind read = some value) :
    (objects members key).filterMap read = values := by
  rw [objects, hget, List.filterMap_filterMap]
  exact filterMap_map_eq_self h

theorem map_objects_eq {read : Fields Json → α} {values : List α}
    (hget : members.get? key = some (.array (values.map write)))
    (h : ∀ value ∈ values, (write value).members?.map read = some value) :
    (objects members key).map read = values := by
  rw [← List.filterMap_eq_map]
  refine filterMap_objects_eq hget fun value hmem => ?_
  rw [← Option.map_eq_bind]
  exact h value hmem

theorem orderBy_eq {terms : List OrderTerm}
    (hget : members.get? "order_by" = some (.array (terms.map OrderTerm.toJson)))
    (h : ∀ term ∈ terms, orderTermOf? term.toJson = some term) :
    (orderItems members).filterMap orderTermOf? = terms := by
  rw [orderItems, hget]
  exact filterMap_map_eq_self h

end Entries

theorem limitOf?_ofNat {count : Nat} (h : 0 < count) : limitOf? (.ofNat count) = some count := by
  simp [limitOf?, wholeNumber?, Json.ofNat, h]

theorem dateRangeOf?_eq {range : DateRange}
    (hbounded : range.startDate.isSome ∨ range.endDate.isSome)
    (hstart : text? members "start_date" = range.startDate)
    (hend : text? members "end_date" = range.endDate)
    (hperiod : (text? members "period_description").getD "" = range.period) :
    dateRangeOf? (.object members) = some range := by
  have hsome : ¬ (range.startDate.isNone && range.endDate.isNone) = true := by
    rw [Bool.and_eq_true, Option.isNone_iff_eq_none, Option.isNone_iff_eq_none]
    rintro ⟨hnostart, hnoend⟩
    simp [hnostart, hnoend] at hbounded
  show (if ((text? members "start_date").isNone && (text? members "end_date").isNone) = true
    then none else some ⟨text? members "start_date", text? members "end_date",
      (text? members "period_description").getD ""⟩) = some range
  rw [hstart, hend, hperiod, if_neg hsome]

theorem confidenceOf_eq {confidence : Number.Double}
    (hget : members.get? key = some (.number (.double confidence)))
    (h : Floating.Within (.zero false) (.ofNat 1) confidence) :
    confidenceOf (members.get? key) = confidence := by
  rw [hget]
  exact h.clamp_eq

end Intent

/-! ## Entries -/

open Intent (text?_eq_some text?_eq_option getD_text?_eq getD_text?_eq_of_filled)

theorem Aggregation.Normal.read {aggregation : Aggregation} (h : aggregation.Normal) :
    aggregation.toJson.members?.map Intent.aggregationOf = some aggregation := by
  refine congrArg some ?_
  rw [Intent.aggregationOf, Aggregation.mk.injEq]
  exact ⟨getD_text?_eq_of_filled (get?_ofList_of_lookup rfl) h.function,
    getD_text?_eq_of_filled (get?_ofList_of_lookup rfl) h.column,
    text?_eq_option (get?_ofList_of_lookup rfl) h.label⟩

theorem Filter.Normal.read {filter : Filter} (h : filter.Normal) :
    filter.toJson.members?.bind Intent.filterOf? = some filter := by
  refine Option.map_eq_some_iff.mpr ⟨filter.column, ?_, ?_⟩
  · exact text?_eq_some (get?_ofList_of_lookup rfl) h.column
  · rw [Filter.mk.injEq]
    exact ⟨rfl, getD_text?_eq_of_filled (get?_ofList_of_lookup rfl) h.operator,
      congrArg (Option.getD · Json.null) (get?_ofList_of_lookup rfl)⟩

theorem JoinHint.Normal.read {hint : JoinHint} (h : hint.Normal) :
    hint.toJson.members?.map Intent.joinHintOf = some hint := by
  refine congrArg some ?_
  rw [Intent.joinHintOf, JoinHint.mk.injEq]
  exact ⟨getD_text?_eq (get?_ofList_of_lookup rfl) h.leftTable,
    getD_text?_eq (get?_ofList_of_lookup rfl) h.leftColumn,
    getD_text?_eq (get?_ofList_of_lookup rfl) h.rightTable,
    getD_text?_eq (get?_ofList_of_lookup rfl) h.rightColumn⟩

theorem OrderTerm.Normal.read {term : OrderTerm} (h : term.Normal) :
    Intent.orderTermOf? term.toJson = some term := by
  refine Option.map_eq_some_iff.mpr ⟨term.column, ?_, ?_⟩
  · exact text?_eq_some (get?_ofList_of_lookup rfl) h.column
  · rw [OrderTerm.mk.injEq]
    exact ⟨rfl, getD_text?_eq_of_filled (get?_ofList_of_lookup rfl) h.direction⟩

theorem DateRange.Normal.read {range : DateRange} (h : range.Normal) :
    Intent.dateRangeOf? range.toJson = some range :=
  Intent.dateRangeOf?_eq h.bounded (text?_eq_option (get?_ofList_of_lookup rfl) h.startDate)
    (text?_eq_option (get?_ofList_of_lookup rfl) h.endDate)
    (getD_text?_eq (get?_ofList_of_lookup rfl) h.period)

namespace Intent

/-- **A normal intent is read back from its document.**  The document has all the fields of an
intent and no others, and what is built from it is the intent, with every value of its filters. -/
theorem ofCandidate_toJson {intent : Intent} (h : intent.Normal) :
    (∃ members : Fields Json, intent.toJson = .object members ∧
      members.keys.Perm (shape.map Prod.fst)) ∧
      ofCandidate intent.toJson intent.question = .ok intent := by
  refine ⟨⟨_, rfl, (Fields.ofList_perm ?_).map Prod.fst⟩, congrArg Except.ok ?_⟩
  · show (shape.map Prod.fst).Nodup
    decide
  -- the fields of an intent one by one, in the order of their declaration
  rw [ofMembers, Intent.mk.injEq]
  exact ⟨texts_eq (get?_ofList_of_lookup rfl) h.tables,
    texts_eq (get?_ofList_of_lookup rfl) h.selectColumns,
    map_objects_eq (get?_ofList_of_lookup rfl) fun entry hmem => (h.aggregations entry hmem).read,
    filterMap_objects_eq (get?_ofList_of_lookup rfl) fun entry hmem => (h.filters entry hmem).read,
    map_objects_eq (get?_ofList_of_lookup rfl) fun entry hmem => (h.joins entry hmem).read,
    texts_eq (get?_ofList_of_lookup rfl) h.groupBy,
    orderBy_eq (get?_ofList_of_lookup rfl) fun entry hmem => (h.orderBy entry hmem).read,
    bind_get?_eq (get?_ofList_of_lookup rfl) rfl
      fun count hmem => limitOf?_ofNat (h.limit count hmem),
    bind_get?_eq (get?_ofList_of_lookup rfl) rfl
      fun range hmem => (h.dateRange range hmem).read,
    confidenceOf_eq (get?_ofList_of_lookup rfl) h.confidence,
    getD_text?_eq (get?_ofList_of_lookup rfl) h.reasoning, rfl⟩

/-- An intent with a minus zero, a value with a null in it and an incomplete proposal. -/
def lateOrders : Intent where
  tables := ["orders"]
  aggregations := [⟨"sum", "total", none⟩]
  filters := [⟨"note", "in", .array [.null, .string " late "]⟩]
  joins := [⟨"orders", "", "customers", "id"⟩]
  orderBy := [⟨"id", "asc"⟩]
  limit := some 10
  dateRange := some { endDate := some "2024-12-31" }
  confidence := .zero true
  question := " Which are late? "

theorem ofCandidate_lateOrders :
    lateOrders.Normal ∧ ofCandidate lateOrders.toJson " Which are late? " = .ok lateOrders := by
  have hnormal : lateOrders.Normal :=
    { tables := by decide
      selectColumns := by decide
      aggregations := List.forall_mem_singleton.mpr ⟨by decide, by decide, nofun⟩
      filters := List.forall_mem_singleton.mpr ⟨by decide, by decide⟩
      joins := List.forall_mem_singleton.mpr ⟨by decide, by decide, by decide, by decide⟩
      groupBy := by decide
      orderBy := List.forall_mem_singleton.mpr ⟨by decide, by decide⟩
      limit := by decide
      dateRange := by
        rintro range ⟨⟩
        exact ⟨.inr rfl, nofun, by decide, by decide⟩
      confidence := by decide
      reasoning := by decide }
  exact ⟨hnormal, (ofCandidate_toJson hnormal).2⟩

end Intent

end PlainQuery
