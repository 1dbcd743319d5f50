import PlainQuery.Proofs.Intent.Validation
import PlainQuery.Proofs.Sql.Tables

/-!
# The scope of the names in a query

A database accepts a `FROM` clause only if every join brings a table that is new and its condition
speaks of tables that are there by then (`Sentence.WellScoped`).  As a join is written, the right
side of its condition is about its own table, so only the left side is in question (`Rooted`,
`Sentence.wellScoped_iff`).

* **Inferred joins** are made so, since each table is joined to one that is there before it
  (`rooted_of_inferred`).  All that can go wrong is that two names are reduced to one identifier.

* **Hints** are followed as they stand: whoever proposes them may join a table twice, or join to a
  table that is not there.

An intent with hints has no inferred joins, so one of the two conditions is always empty
(`rooted_acceptedJoins_iff`).  The tables used list every joined name once; so a table is joined
twice exactly if there are fewer tables used than tables joined, and two tables are reduced to one
identifier exactly if those of the tables used are not distinct (`nodup_map_iff`).

`generate_wellScoped_iff` puts this together and says exactly which queries are well scoped, and
`joins_out_of_scope` that checked intents have others too.
-/

namespace PlainQuery.Sql

/-! ## Well scoped clauses -/

/-- Each join begins its condition with a table that is there: the anchor, a table joined earlier,
or its own. -/
def Rooted (anchor : Identifier) (joins : List JoinPhrase) : Prop :=
  ∀ earlier join later, joins = earlier ++ join :: later →
    join.leftTable ∈ anchor :: (earlier ++ [join]).map JoinPhrase.table

/-- Each join introduces a table that has not been introduced before, and compares columns of tables
that have been introduced up to then. -/
structure Sentence.WellScoped (sentence : Sentence) : Prop where
  fresh : (sentence.anchor :: sentence.joins.map JoinPhrase.table).Nodup
  qualified : ∀ earlier join later, sentence.joins = earlier ++ join :: later →
    ∀ qualifier ∈ [join.leftTable, join.rightTable],
      qualifier ∈ sentence.anchor :: (earlier ++ [join]).map JoinPhrase.table

theorem Sentence.wellScoped_iff {sentence : Sentence}
    (hright : ∀ join ∈ sentence.joins, join.rightTable = join.table) :
    sentence.WellScoped ↔
      (sentence.anchor :: sentence.joins.map JoinPhrase.table).Nodup ∧
        Rooted sentence.anchor sentence.joins := by
  constructor
  · rintro ⟨hfresh, hqualified⟩
    exact ⟨hfresh, fun earlier join later hjoins =>
      hqualified earlier join later hjoins join.leftTable (by simp)⟩
  · rintro ⟨hfresh, hrooted⟩
    refine ⟨hfresh, fun earlier join later hjoins qualifier hmem => ?_⟩
    rcases List.mem_pair.mp hmem with rfl | rfl
    · exact hrooted earlier join later hjoins
    · rw [hright join (by simp [hjoins])]
      simp

/-! ## The joins of an intent -/

variable {schema : Schema} {intent : Intent} {first : String} {others : List String}

theorem rightTable_of_mem_acceptedJoins {join : JoinPhrase}
    (hmem : join ∈ acceptedJoins schema intent) : join.rightTable = join.table := by
  rw [← phrases_of_tables] at hmem
  obtain ⟨plain, -, rfl⟩ := List.mem_map.mp hmem
  rfl

/-- Inferred joins begin their conditions with tables that are there. -/
theorem rooted_of_inferred (htables : intent.tables = first :: others)
    (hfirst : schema.Canonical first) (hjoins : intent.joins = []) :
    Rooted (.ofName first) (acceptedJoins schema intent) := by
  intro earlier join later hsplit
  unfold acceptedJoins at hsplit
  rw [if_pos hjoins, htables] at hsplit
  -- the list of phrases is cut where the list of inferred joins is
  obtain ⟨before, rest, hall, rfl, hrest⟩ := List.map_eq_append_iff.mp hsplit
  obtain ⟨found, after, rfl, rfl, -⟩ := List.map_eq_cons_iff.mp hrest
  have hadds := (inferJoins_spec others hfirst).1
  obtain ⟨anchor, hanchor, rfl⟩ := hfirst
  have hattached := (inferJoins_exhausts others hanchor).attached
  rw [hall] at hattached hadds
  obtain ⟨source, hsource, hkey⟩ := hattached.exists_source
  show found.1.source ∈ _
  rw [hkey.source_eq]
  rcases List.mem_append.mp hsource with hsource | hsource
  · rw [List.mem_singleton.mp hsource]
    exact List.mem_cons_self
  · -- the source was joined earlier, and introduced by the join of its own
    obtain ⟨other, hother, rfl⟩ := List.mem_map.mp hsource
    rw [← (hadds other (List.mem_append_left _ hother)).target]
    refine List.mem_cons_of_mem _ (List.mem_map.mpr ⟨other.1.phrase, ?_, rfl⟩)
    exact List.mem_append_left _ (List.mem_map.mpr ⟨other, hother, rfl⟩)

theorem rooted_acceptedJoins_iff (htables : intent.tables = first :: others)
    (hfirst : schema.Canonical first) :
    Rooted (.ofName first) (acceptedJoins schema intent) ↔
      Rooted (.ofName first) (intent.joins.filterMap (hintPhrase? schema)) := by
  by_cases hjoins : intent.joins = []
  · have hnone : Rooted (.ofName first) [] := by
      intro earlier join later hsplit
      simp at hsplit
    rw [hjoins]
    exact iff_of_true (rooted_of_inferred htables hfirst hjoins) hnone
  · rw [acceptedJoins, if_neg hjoins]

/-! ## Generated queries -/

/-- Whether a query is well scoped is a matter of its first table and its joins. -/
theorem wellScoped_iff_of_generate {defaultDateColumn : String} {query : Query}
    (h : generate defaultDateColumn intent schema = .ok query)
    (htables : intent.tables = first :: others) (hfirst : schema.Canonical first)
    {sentence : Sentence} (htext : sentence.text = query.sql.toList) :
    sentence.WellScoped ↔
      (.ofName first :: (acceptedJoins schema intent).map JoinPhrase.table).Nodup ∧
        Rooted (.ofName first) (acceptedJoins schema intent) := by
  obtain ⟨parsed, -, hunique, hanchor, hjoins, -⟩ := exists_sentence_of_generate h htables hfirst
  rw [hunique sentence htext, ← hanchor, ← hjoins]
  refine Sentence.wellScoped_iff fun join hmem => ?_
  rw [hjoins] at hmem
  exact rightTable_of_mem_acceptedJoins hmem

/-- **Which queries are well scoped.**  The names of the tables used have to stay distinct as
identifiers, no join may repeat a table, and every hint that is followed has to begin with a table
that is there.  Without hints the first condition is enough. -/
theorem generate_wellScoped_iff {asked : Intent} {defaultDateColumn : String} {query : Query}
    (hvalid : asked.validate schema = .ok intent)
    (h : generate defaultDateColumn intent schema = .ok query) :
    ∃ sentence : Sentence, sentence.text = query.sql.toList ∧
      (∀ other : Sentence, other.text = query.sql.toList → other = sentence) ∧
      (sentence.WellScoped ↔
        (query.tablesUsed.map Identifier.ofName).Nodup ∧
          query.tablesUsed.length = sentence.joins.length + 1 ∧
            Rooted sentence.anchor (intent.joins.filterMap (hintPhrase? schema))) ∧
      (intent.joins = [] →
        (sentence.WellScoped ↔ (query.tablesUsed.map Identifier.ofName).Nodup)) := by
  obtain ⟨first, others, htables, hcanonical⟩ := Intent.canonical_of_validate hvalid
  have hfirst := hcanonical first List.mem_cons_self
  obtain ⟨sentence, htext, hunique, hanchor, hjoins, hused⟩ :=
    exists_sentence_of_generate h htables hfirst
  have hscoped := wellScoped_iff_of_generate h htables hfirst htext
  -- with the first table there is a name for each table that is introduced
  have hlength : (first :: joinedNames schema intent).length = sentence.joins.length + 1 := by
    have hlengths := congrArg List.length (tables_acceptedJoins htables hfirst)
    rw [List.length_map, List.length_map] at hlengths
    rw [List.length_cons, hjoins, hlengths]
  rw [tables_acceptedJoins htables hfirst, ← List.map_cons, nodup_map_iff, ← hused, hlength,
    and_assoc] at hscoped
  refine ⟨sentence, htext, hunique, ?_, fun hnone => ?_⟩
  · rw [hscoped, hanchor, rooted_acceptedJoins_iff htables hfirst]
  -- inferred joins repeat no table, so only the identifiers are left to ask about
  · have hdistinct := nodup_joinedNames_of_no_hints htables hfirst hnone
    have hcount : query.tablesUsed.length = sentence.joins.length + 1 := by
      rw [hused, eraseDups_of_nodup hdistinct, hlength]
    rw [hscoped]
    exact and_iff_left ⟨hcount, rooted_of_inferred htables hfirst hnone⟩

/-- Payments refer to two parties, and parties to regions. -/
def paymentSchema : Schema where
  tables :=
    [{ name := "payments"
       columns :=
         [.referencing "parties" "id" { name := "payer_id", dataType := "INTEGER" },
          .referencing "parties" "id" { name := "payee_id", dataType := "INTEGER" }] },
     { name := "parties"
       columns := [.referencing "regions" "id" { name := "region_id", dataType := "INTEGER" }] },
     { name := "regions", columns := [{ name := "id", dataType := "INTEGER" }] }]
  discoveredAt := default

/-- An intent about payments, with tables and hints as given. -/
def paymentIntent (others : List String) (joins : List JoinHint) : Intent where
  tables := "payments" :: others
  joins := joins
  confidence := default

/-- Without hints the regions are joined through the parties, and the query is well scoped. -/
theorem wellScoped_payments :
    ∃ query, (paymentIntent ["Regions", "parties"] []).validate paymentSchema =
        .ok (paymentIntent ["regions", "parties"] []) ∧
      generate "fecha" (paymentIntent ["regions", "parties"] []) paymentSchema = .ok query ∧
      query.tablesUsed = ["payments", "parties", "regions"] ∧
      ∃ sentence : Sentence, sentence.text = query.sql.toList ∧ sentence.WellScoped := by
  have hvalid : (paymentIntent ["Regions", "parties"] []).validate paymentSchema =
      .ok (paymentIntent ["regions", "parties"] []) := rfl
  obtain ⟨query, hquery, hused⟩ : ∃ query,
      generate "fecha" (paymentIntent ["regions", "parties"] []) paymentSchema = .ok query ∧
        query.tablesUsed = ["payments", "parties", "regions"] := ⟨_, rfl, rfl⟩
  obtain ⟨sentence, htext, -, -, hscoped⟩ := generate_wellScoped_iff hvalid hquery
  refine ⟨query, hvalid, hquery, hused, sentence, htext, (hscoped rfl).mpr ?_⟩
  rw [hused]
  decide

/-- Hints that join the parties twice, under the same name. -/
def twiceIntent : Intent :=
  paymentIntent []
    [⟨"payments", "payer_id", "parties", "id"⟩, ⟨"payments", "payee_id", "parties", "id"⟩]

/-- Hints that join regions to parties before the parties are there. -/
def earlyIntent : Intent :=
  paymentIntent []
    [⟨"parties", "region_id", "regions", "id"⟩, ⟨"payments", "payer_id", "parties", "id"⟩]

/-- The intent passes the check and has a query, which is not well scoped. -/
def OutOfScope (schema : Schema) (intent : Intent) : Prop :=
  intent.validate schema = .ok intent ∧ ∃ query, generate "fecha" intent schema = .ok query ∧
    ∀ sentence : Sentence, sentence.text = query.sql.toList → ¬ sentence.WellScoped

/-- With hints, checked intents can be out of scope: in the first one a table is joined twice, in
the second one a condition is about a table that is not there yet. -/
theorem joins_out_of_scope :
    OutOfScope paymentSchema twiceIntent ∧ OutOfScope paymentSchema earlyIntent := by
  have hfirst : paymentSchema.Canonical "payments" := ⟨_, rfl, rfl⟩
  obtain ⟨twice, htwice⟩ : ∃ query, generate "fecha" twiceIntent paymentSchema = .ok query :=
    ⟨_, rfl⟩
  obtain ⟨early, hearly⟩ : ∃ query, generate "fecha" earlyIntent paymentSchema = .ok query :=
    ⟨_, rfl⟩
  constructor
  · refine ⟨rfl, twice, htwice, fun sentence htext hscoped => ?_⟩
    have hfresh := ((wellScoped_iff_of_generate htwice rfl hfirst htext).mp hscoped).1
    exact absurd hfresh (by decide)
  · refine ⟨rfl, early, hearly, fun sentence htext hscoped => ?_⟩
    have hrooted := ((wellScoped_iff_of_generate hearly rfl hfirst htext).mp hscoped).2
    exact absurd (hrooted [] _ _ rfl) (by decide)

end PlainQuery.Sql
