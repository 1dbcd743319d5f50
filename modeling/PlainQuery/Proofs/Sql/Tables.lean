import PlainQuery.Proofs.FirstOccurrences
import PlainQuery.Proofs.Sql.Inference
import PlainQuery.Proofs.Sql.Listing

/-!
# Where the tables of a query come from

A table gets into a query as the anchor, by a hint or by an inferred join.  On each way it is looked
up in the schema, so the name under which it is used is canonical, and so are both names in the
condition of a join (`Join.Adds`, `hintedJoin?_adds`, `inferJoins_spec`).  `joins_add` says it of
all joins of a clause with the names that they add, in one list.

The list of the tables used is made differently on each way: the names of hints are added one by one
unless they are there already, up to case, whereas inferred joins never repeat a table and are put
behind it as they are.  On canonical names equality up to case is equality (`addName_of_canonical`),
so adding them one by one leaves the first occurrence of each (`foldl_addName`).  Either way the
list has the introduced names, each once, in the order of their first occurrences (`tablesUsed_eq`).

`exists_sentence_of_generate` is the form in which later modules use this: the one parse tree of a
query with its anchor, its joins and the tables used.
-/

namespace PlainQuery.Sql

/-! ## Adding names -/

variable {schema : Schema}

theorem addName_of_canonical {names : List String} {name : String}
    (hnames : ∀ other ∈ names, schema.Canonical other) (hname : schema.Canonical name) :
    addName names name = if name ∈ names then names else names ++ [name] := by
  have hany : (names.any fun other => Text.equalIgnoringCase other name) = true ↔
      name ∈ names := by
    rw [List.any_eq_true]
    constructor
    · rintro ⟨other, hmem, hcase⟩
      rw [← (hnames other hmem).eq_of_equalIgnoringCase hname hcase]
      exact hmem
    · intro hmem
      exact ⟨name, hmem, Text.equalIgnoringCase_refl name⟩
  unfold addName
  by_cases hmem : name ∈ names
  · rw [if_pos hmem, if_pos (hany.mpr hmem)]
  · rw [if_neg hmem, if_neg (hany.not.mpr hmem)]

/-- Canonical names that are added one by one leave the first occurrence of each. -/
theorem foldl_addName {first : String} {names : List String} (hfirst : schema.Canonical first)
    (hnames : ∀ name ∈ names, schema.Canonical name) :
    names.foldl addName [first] = (first :: names).eraseDups := by
  induction names using List.reverseRecOn with
  | nil => rfl
  | append_singleton names name ih =>
      -- the induction is from the end, where the last name meets all the others
      have hbefore : ∀ other ∈ (first :: names).eraseDups, schema.Canonical other := by
        intro other hmem
        rcases List.mem_cons.mp (List.mem_eraseDups.mp hmem) with rfl | hmem
        · exact hfirst
        · exact hnames other (List.mem_append_left _ hmem)
      have hname : schema.Canonical name := hnames name (by simp)
      rw [List.foldl_append, ih fun other hmem => hnames other (List.mem_append_left _ hmem),
        ← List.cons_append, eraseDups_concat, List.foldl_cons, List.foldl_nil,
        addName_of_canonical hbefore hname]
      simp only [List.mem_eraseDups]

/-! ## Joins -/

/-- The join adds a table of the schema by its canonical name, and compares a column of it with a
column of a table of the schema. -/
structure Join.Adds (schema : Schema) (join : Join) (name : String) : Prop where
  canonical : schema.Canonical name
  target : join.target = .ofName name
  source : ∃ other, schema.Canonical other ∧ join.source = .ofName other

/-- A hint is followed only if the schema has both tables. -/
theorem hintedJoin?_adds {hint : JoinHint} {found : Join × String}
    (h : hintedJoin? schema hint = some found) : found.1.Adds schema found.2 := by
  unfold hintedJoin? at h
  obtain ⟨source, hsource, h⟩ := Option.bind_eq_some_iff.mp h
  obtain ⟨sourceColumn, -, h⟩ := Option.bind_eq_some_iff.mp h
  obtain ⟨target, htarget, h⟩ := Option.bind_eq_some_iff.mp h
  obtain ⟨targetColumn, -, h⟩ := Option.bind_eq_some_iff.mp h
  obtain ⟨left, hleft, h⟩ := Option.bind_eq_some_iff.mp h
  obtain ⟨right, hright, h⟩ := Option.bind_eq_some_iff.mp h
  cases h
  unfold Schema.canonicalName at hsource htarget
  rw [hleft] at hsource
  rw [hright] at htarget
  exact
    { canonical := Schema.canonical_of_table? hright
      target := (identifier?_eq_some_iff.mp htarget).2
      source :=
        ⟨left.name, Schema.canonical_of_table? hleft, (identifier?_eq_some_iff.mp hsource).2⟩ }

theorem hintedJoins_adds {intent : Intent} {found : Join × String}
    (hmem : found ∈ hintedJoins schema intent) : found.1.Adds schema found.2 := by
  obtain ⟨hint, -, hfound⟩ := List.mem_filterMap.mp hmem
  exact hintedJoin?_adds hfound

/-! ## Inferred joins -/

/-- Inferred joins add tables of the schema, each once and none of them the first. -/
theorem inferJoins_spec {first : String} (others : List String) (hfirst : schema.Canonical first) :
    (∀ found ∈ inferJoins schema (first :: others), found.1.Adds schema found.2.name) ∧
      (first :: (inferJoins schema (first :: others)).map fun found => found.2.name).Nodup := by
  obtain ⟨anchor, hanchor, rfl⟩ := hfirst
  have hpending : ∀ found ∈ inferJoins schema (anchor.name :: others),
      schema.Canonical found.2.name := fun found hmem =>
    (mem_pendingTables_iff.mp (mem_pendingTables_of_mem_inferJoins hanchor hmem)).1.canonical
  refine ⟨fun found hmem => ?_, nodup_inferJoins others hanchor⟩
  obtain ⟨earlier, later, hjoins⟩ := List.append_of_mem hmem
  have hattached := (inferJoins_exhausts others hanchor).attached
  rw [hjoins] at hattached hpending
  obtain ⟨source, hsource, hkey⟩ := hattached.exists_source
  refine ⟨hpending found (by simp), hkey.target_eq, source.name, ?_, hkey.source_eq⟩
  -- the source is the first table, or was itself joined and so was pending
  rcases List.mem_append.mp hsource with hsource | hsource
  · rw [List.mem_singleton.mp hsource]
    exact Schema.canonical_of_table? hanchor
  · obtain ⟨other, hother, rfl⟩ := List.mem_map.mp hsource
    exact hpending other (List.mem_append_left _ hother)

/-! ## The tables of a clause -/

/-- The names of the tables that are joined to the first one, in the order of the joins. -/
def joinedNames (schema : Schema) (intent : Intent) : List String :=
  (hintedJoins schema intent).map Prod.snd ++
    (inferredJoins schema intent).map fun found => found.2.name

/-- Every join of the clause adds the table of its name. -/
theorem joins_add {intent : Intent} {first : String} {others : List String}
    (htables : intent.tables = first :: others) (hfirst : schema.Canonical first) :
    List.Forall₂ (Join.Adds schema)
      ((hintedJoins schema intent).map Prod.fst ++ (inferredJoins schema intent).map Prod.fst)
      (joinedNames schema intent) := by
  -- there are no inferred joins next to hints, and then there is nothing to show
  have hinferred : ∀ found ∈ inferredJoins schema intent, found.1.Adds schema found.2.name := by
    unfold inferredJoins
    split
    · rw [htables]
      exact (inferJoins_spec others hfirst).1
    · simp
  unfold joinedNames
  refine List.rel_append ?_ ?_
  · rw [List.forall₂_map_left_iff, List.forall₂_map_right_iff, List.forall₂_same]
    exact fun found hmem => hintedJoins_adds hmem
  · rw [List.forall₂_map_left_iff, List.forall₂_map_right_iff, List.forall₂_same]
    exact hinferred

theorem joinedNames_of_no_hints {intent : Intent} (h : intent.joins = []) :
    joinedNames schema intent =
      (inferJoins schema intent.tables).map fun found => found.2.name := by
  unfold joinedNames hintedJoins inferredJoins
  rw [h]
  rfl

/-- Without hints no table is joined twice. -/
theorem nodup_joinedNames_of_no_hints {intent : Intent} {first : String} {others : List String}
    (htables : intent.tables = first :: others) (hfirst : schema.Canonical first)
    (h : intent.joins = []) : (first :: joinedNames schema intent).Nodup := by
  rw [joinedNames_of_no_hints h, htables]
  exact (inferJoins_spec others hfirst).2

/-- **The tables used are the introduced ones**, each once in the order of first occurrences. -/
theorem tablesUsed_eq {intent : Intent} {first : String} {others : List String}
    (htables : intent.tables = first :: others) (hfirst : schema.Canonical first) :
    ((hintedJoins schema intent).map Prod.snd).foldl addName [first] ++
        (inferredJoins schema intent).map (fun found => found.2.name) =
      (first :: joinedNames schema intent).eraseDups := by
  have hhinted : ∀ name ∈ (hintedJoins schema intent).map Prod.snd, schema.Canonical name := by
    intro name hmem
    obtain ⟨found, hfound, rfl⟩ := List.mem_map.mp hmem
    exact (hintedJoins_adds hfound).canonical
  rw [foldl_addName hfirst hhinted]
  by_cases hjoins : intent.joins = []
  · -- without hints nothing is repeated, so there is nothing to erase
    rw [eraseDups_of_nodup (nodup_joinedNames_of_no_hints htables hfirst hjoins)]
    unfold joinedNames hintedJoins
    rw [hjoins]
    rfl
  · unfold joinedNames inferredJoins
    rw [if_neg (by simpa using hjoins)]
    simp

theorem targets_of_adds {joins : List Join} {names : List String}
    (h : List.Forall₂ (Join.Adds schema) joins names) :
    joins.map Join.target = names.map Identifier.ofName := by
  induction h with
  | nil => rfl
  | cons hadds _ ih => rw [List.map_cons, List.map_cons, hadds.target, ih]

theorem exists_name_of_adds {joins : List Join} {names : List String}
    (h : List.Forall₂ (Join.Adds schema) joins names) {join : Join} (hmem : join ∈ joins) :
    ∃ name, join.Adds schema name := by
  induction h with
  | nil => cases hmem
  | cons hadds _ ih =>
      rcases List.mem_cons.mp hmem with rfl | hmem
      · exact ⟨_, hadds⟩
      · exact ih hmem

theorem tables_acceptedJoins {intent : Intent} {first : String} {others : List String}
    (htables : intent.tables = first :: others) (hfirst : schema.Canonical first) :
    (acceptedJoins schema intent).map JoinPhrase.table =
      (joinedNames schema intent).map Identifier.ofName := by
  rw [← targets_of_adds (joins_add htables hfirst), ← phrases_of_tables, List.map_map]
  rfl

theorem exists_adds_of_mem_acceptedJoins {intent : Intent} {first : String} {others : List String}
    (htables : intent.tables = first :: others) (hfirst : schema.Canonical first)
    {phrase : JoinPhrase} (hmem : phrase ∈ acceptedJoins schema intent) :
    ∃ (join : Join) (name : String), join.Adds schema name ∧ phrase = join.phrase := by
  rw [← phrases_of_tables] at hmem
  obtain ⟨join, hjoin, rfl⟩ := List.mem_map.mp hmem
  obtain ⟨name, hadds⟩ := exists_name_of_adds (joins_add htables hfirst) hjoin
  exact ⟨join, name, hadds, rfl⟩

/-- A query about a canonical first table has one parse tree, which begins with this table and lists
the accepted joins. -/
theorem exists_sentence_of_generate {defaultDateColumn : String} {intent : Intent} {query : Query}
    (h : generate defaultDateColumn intent schema = .ok query) {first : String}
    {others : List String} (htables : intent.tables = first :: others)
    (hfirst : schema.Canonical first) :
    ∃ sentence : Sentence, sentence.text = query.sql.toList ∧
      (∀ other : Sentence, other.text = query.sql.toList → other = sentence) ∧
      sentence.anchor = .ofName first ∧ sentence.joins = acceptedJoins schema intent ∧
      query.tablesUsed = (first :: joinedNames schema intent).eraseDups := by
  obtain ⟨tables, hclause, rfl⟩ := exists_tables_of_generate h
  obtain ⟨first', others', htables', -, hrecord⟩ := exists_first_of_tableClause hclause
  obtain ⟨rfl, rfl⟩ := List.cons.inj (htables.symm.trans htables')
  rw [hfirst.canonicalName_eq, tablesUsed_eq htables hfirst] at hrecord
  refine ⟨sentenceOver defaultDateColumn intent tables,
    text_sentenceOver defaultDateColumn intent tables, fun other => eq_sentenceOver_of_text,
    congrArg TableClause.anchor hrecord, ?_, congrArg TableClause.tablesUsed hrecord⟩
  show tables.joins.map Join.phrase = acceptedJoins schema intent
  rw [congrArg TableClause.joins hrecord]
  exact phrases_of_tables schema intent

end PlainQuery.Sql
