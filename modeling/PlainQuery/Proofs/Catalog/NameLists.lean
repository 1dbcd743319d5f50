import PlainQuery.Catalog.Keys
import PlainQuery.Proofs.Text.Blank
import PlainQuery.Proofs.Text.Pieces

/-!
# Names in the texts of constraints

A constraint has names bare or between quotes, several of them with commas between them, and a
qualified name with points in it.  The catalog cuts such a text first and looks at the quotes of
each piece afterwards.  This order decides which names come through:

* Each piece that is an `Entry` for a name gives the name (`unquote_of_entry`).  So a list is read
  back if its names have no commas (`splitNames_of_lists`), and a qualified name if the last name
  has no point (`lastSegment_append`).
* Quotes do not protect.  No list whatever gives a name with a comma in it, and no qualified name
  one with a point (`not_mem_of_mem_splitNames`, `not_mem_lastSegment`), because a piece has none of
  them and taking the quotes off adds no characters (`mem_of_mem_unquote`).

So quoting a name brings it back exactly if the name does without the character that is cut at
(`splitNames_quoteNames_iff`); `splitNames_marks_inside` has names that do not come back.

A name and its text are related by `Spelling`, `Entry` and `Lists`, from the inside to the outside.
How a name is written matters in `Spelling` only: the lemma about lists needs of an entry that it
gives its name and has no mark in it (`Entry.not_mem`).
-/

namespace PlainQuery.KeyText

/-! ## Entries -/

/-- There is nothing but blanks. -/
def Blanks (text : List Char) : Prop := ∀ c ∈ text, Text.isBlank c = true

instance (text : List Char) : Decidable (Blanks text) := List.decidableBAll _ text

/-- A name as a constraint spells it: as it is, unless it has quotes in it or blanks at its ends, or
between quotes. -/
inductive Spelling (name : List Char) : List Char → Prop
  | bare (hne : name ≠ []) (hquote : '"' ∉ name) (htrimmed : Text.Trimmed name) : Spelling name name
  | quoted : Spelling name (Text.quoted '"' name)

/-- A spelling of the name with blanks around it. -/
inductive Entry (name : String) : List Char → Prop
  | padded {front spelling behind : List Char} (hfront : Blanks front)
      (hspelling : Spelling name.toList spelling) (hbehind : Blanks behind) :
      Entry name (front ++ (spelling ++ behind))

/-- The names with commas between them. -/
inductive Lists : List String → List Char → Prop
  | nil {text : List Char} (htext : Blanks text) : Lists [] text
  | single {name : String} {text : List Char} (hentry : Entry name text) : Lists [name] text
  | cons {name other : String} {names : List String} {entry text : List Char}
      (hentry : Entry name entry) (hnames : Lists (other :: names) text) :
      Lists (name :: other :: names) (entry ++ ',' :: text)

variable {c mark : Char} {name : String} {names : List String}
  {spelled spelling front behind text : List Char}

theorem Blanks.append (hfront : Blanks front) (hbehind : Blanks behind) :
    Blanks (front ++ behind) :=
  fun c hc => (List.mem_append.mp hc).elim (hfront c) (hbehind c)

theorem Blanks.not_mem (htext : Blanks text) (hmark : Text.isBlank mark = false) : mark ∉ text :=
  fun hmem => by simp [htext mark hmem] at hmark

theorem mem_of_mem_doubled (hc : c ∈ Text.doubled '"' text) : c ∈ text := by
  induction text with
  | nil => exact hc
  | cons d rest ih =>
      rw [Text.doubled] at hc
      split at hc
      all_goals
        simp only [List.mem_cons] at hc ⊢
        tauto

namespace Spelling

theorem not_mem (h : Spelling spelled spelling) (hmark : mark ∉ spelled) (hquote : mark ≠ '"') :
    mark ∉ spelling := by
  cases h with
  | bare => exact hmark
  | quoted =>
      intro hmem
      rw [Text.quoted, List.mem_cons, List.mem_append, List.mem_singleton] at hmem
      rcases hmem with rfl | hmem | rfl
      · exact hquote rfl
      · exact hmark (mem_of_mem_doubled hmem)
      · exact hquote rfl

/-- A spelling begins with a character that is no blank. -/
theorem exists_head? (h : Spelling spelled spelling) :
    ∃ c, spelling.head? = some c ∧ Text.isBlank c = false := by
  cases h with
  | bare hne hquote htrimmed =>
      obtain ⟨c, rest, rfl⟩ := List.exists_cons_of_ne_nil hne
      exact ⟨c, rfl, htrimmed.1 c rfl⟩
  | quoted => exact ⟨'"', rfl, by decide⟩

/-- A spelling ends with a character that is no blank. -/
theorem exists_getLast? (h : Spelling spelled spelling) :
    ∃ c, spelling.getLast? = some c ∧ Text.isBlank c = false := by
  cases h with
  | bare hne hquote htrimmed =>
      have hlast := List.getLast?_eq_some_getLast hne
      exact ⟨_, hlast, htrimmed.2 _ hlast⟩
  | quoted =>
      refine ⟨'"', ?_, by decide⟩
      rw [Text.quoted, ← List.cons_append, List.getLast?_concat]

theorem unquoted?_getD (h : Spelling spelled spelling) :
    (Text.unquoted? '"' spelling).getD spelling = spelled := by
  cases h with
  | bare hne hquote htrimmed =>
      obtain ⟨c, rest, rfl⟩ := List.exists_cons_of_ne_nil hne
      have hc : (c == '"') = false := by
        rw [beq_eq_false_iff_ne]
        rintro rfl
        exact hquote List.mem_cons_self
      rw [Text.unquoted?, Text.between?, hc]
      rfl
  | quoted => rw [Text.unquoted?_quoted, Option.getD_some]

/-- Blanks around a spelling do not count. -/
theorem unquote_padded (h : Spelling spelled spelling) (hfront : Blanks front)
    (hbehind : Blanks behind) : unquote (front ++ (spelling ++ behind)) = spelled := by
  obtain ⟨c, hhead, hc⟩ := h.exists_head?
  obtain ⟨d, hlast, hd⟩ := h.exists_getLast?
  have hstrip : Text.strip (front ++ (spelling ++ behind)) = spelling := by
    rw [Text.strip_append hc hd hhead hlast, Text.stripStart_eq_nil hfront,
      Text.stripEnd_eq_nil hbehind, List.nil_append, List.append_nil]
  rw [unquote, hstrip]
  exact h.unquoted?_getD

end Spelling

namespace Entry

theorem of_spelling (h : Spelling name.toList spelling) : Entry name spelling := by
  have hpadded : Entry name ([] ++ (spelling ++ [])) := .padded nofun h nofun
  rwa [List.nil_append, List.append_nil] at hpadded

theorem not_mem (h : Entry name text) (hname : mark ∉ name.toList) (hquote : mark ≠ '"')
    (hblank : Text.isBlank mark = false) : mark ∉ text := by
  cases h with
  | padded hfront hspelling hbehind =>
      simp only [List.mem_append, not_or]
      exact ⟨hfront.not_mem hblank, hspelling.not_mem hname hquote, hbehind.not_mem hblank⟩

theorem append_blanks (hfront : Blanks front) (h : Entry name text) :
    Entry name (front ++ text) := by
  cases h with
  | padded hfront' hspelling hbehind =>
      rw [← List.append_assoc]
      exact .padded (hfront.append hfront') hspelling hbehind

end Entry

theorem unquote_of_entry (h : Entry name text) : unquote text = name.toList := by
  cases h with
  | padded hfront hspelling hbehind => exact hspelling.unquote_padded hfront hbehind

/-! ## Lists -/

namespace Lists

theorem not_mem (h : Lists names text) (hnames : ∀ name ∈ names, mark ∉ name.toList)
    (hquote : mark ≠ '"') (hcomma : mark ≠ ',') (hblank : Text.isBlank mark = false) :
    mark ∉ text := by
  induction h with
  | nil htext => exact htext.not_mem hblank
  | single hentry => exact hentry.not_mem (hnames _ List.mem_cons_self) hquote hblank
  | cons hentry _ ih =>
      simp only [List.mem_append, List.mem_cons, not_or]
      exact ⟨hentry.not_mem (hnames _ List.mem_cons_self) hquote hblank, hcomma,
        ih fun name hmem => hnames name (List.mem_cons_of_mem _ hmem)⟩

theorem append_blanks (hfront : Blanks front) (h : Lists names text) :
    Lists names (front ++ text) := by
  cases h with
  | nil htext => exact .nil (hfront.append htext)
  | single hentry => exact .single (hentry.append_blanks hfront)
  | cons hentry hnames =>
      rw [← List.append_assoc]
      exact .cons (hentry.append_blanks hfront) hnames

end Lists

theorem splitNames_of_not_mem (htext : ',' ∉ text) :
    splitNames text = if (unquote text).isEmpty then [] else [String.ofList (unquote text)] := by
  rw [splitNames, Text.pieces_eq_singleton htext, List.map_singleton, List.filter_singleton]
  cases (unquote text).isEmpty <;> rfl

theorem splitNames_append (hfront : ',' ∉ front) (text : List Char) :
    splitNames (front ++ ',' :: text) = splitNames front ++ splitNames text := by
  simp only [splitNames, Text.pieces_append_cut hfront, Text.pieces_eq_singleton hfront,
    List.map_cons, List.filter_cons, List.map_nil, List.filter_nil]
  split <;> rfl

theorem splitNames_of_blanks (htext : Blanks text) : splitNames text = [] := by
  have hstrip : Text.strip text = [] := Text.strip_eq_nil_iff.mpr htext
  rw [splitNames_of_not_mem (htext.not_mem (by decide)), unquote, hstrip]
  rfl

theorem splitNames_of_entry (h : Entry name text) (hname : name ≠ "") (hcomma : ',' ∉ name.toList) :
    splitNames text = [name] := by
  rw [splitNames_of_not_mem (h.not_mem hcomma (by decide) (by decide)), unquote_of_entry h,
    if_neg (by simpa using hname), String.ofList_toList]

/-- **A list of names without commas is read back.** -/
theorem splitNames_of_lists (h : Lists names text)
    (hnames : ∀ name ∈ names, name ≠ "" ∧ ',' ∉ name.toList) : splitNames text = names := by
  induction h with
  | nil htext => exact splitNames_of_blanks htext
  | single hentry =>
      obtain ⟨hne, hcomma⟩ := hnames _ List.mem_cons_self
      exact splitNames_of_entry hentry hne hcomma
  | cons hentry _ ih =>
      obtain ⟨hne, hcomma⟩ := hnames _ List.mem_cons_self
      rw [splitNames_append (hentry.not_mem hcomma (by decide) (by decide)),
        splitNames_of_entry hentry hne hcomma,
        ih fun name hmem => hnames name (List.mem_cons_of_mem _ hmem)]
      rfl

/-- The table of a qualified name is its last name, if that has no point. -/
theorem lastSegment_append (front : List Char) (htext : '.' ∉ text) :
    lastSegment (front ++ '.' :: text) = String.ofList (unquote text) := by
  rw [lastSegment, Text.getLastD_pieces_append front htext]

theorem lastSegment_of_not_mem (htext : '.' ∉ text) :
    lastSegment text = String.ofList (unquote text) := by
  rw [lastSegment, Text.pieces_eq_singleton htext]
  rfl

/-! ## Names that are never found -/

theorem mem_of_mem_halved (hc : c ∈ Text.halved '"' text) : c ∈ text := by
  fun_induction Text.halved '"' text with
  | case1 => exact hc
  | case2 => exact hc
  | case3 d e rest _ ih =>
      rcases List.mem_cons.mp hc with rfl | hc
      · exact List.mem_cons_self
      · exact List.mem_cons_of_mem _ (List.mem_cons_of_mem _ (ih hc))
  | case4 d e rest _ ih =>
      rcases List.mem_cons.mp hc with rfl | hc
      · exact List.mem_cons_self
      · exact List.mem_cons_of_mem _ (ih hc)

theorem mem_of_mem_strip (hc : c ∈ Text.strip text) : c ∈ text :=
  List.dropWhile_subset _ ((Text.stripEnd_prefix _).subset hc)

/-- Taking the quotes off adds no characters. -/
theorem mem_of_mem_unquote (hc : c ∈ unquote text) : c ∈ text := by
  refine mem_of_mem_strip ?_
  rw [unquote] at hc
  cases hquoted : Text.unquoted? '"' (Text.strip text) with
  | none =>
      rw [hquoted] at hc
      exact hc
  | some inner =>
      rw [hquoted] at hc
      obtain ⟨between, hbetween, rfl⟩ := Option.map_eq_some_iff.mp hquoted
      have hmem : c ∈ between := mem_of_mem_halved hc
      cases hstrip : Text.strip text with
      | nil =>
          rw [hstrip] at hbetween
          cases hbetween
      | cons first rest =>
          rw [hstrip, Text.between?, Option.ite_none_right_eq_some, Option.some.injEq] at hbetween
          rw [← hbetween.2] at hmem
          exact List.mem_cons_of_mem _ (List.mem_of_mem_dropLast hmem)

theorem not_mem_of_mem_splitNames (hname : name ∈ splitNames text) :
    name ≠ "" ∧ ',' ∉ name.toList := by
  rw [splitNames] at hname
  obtain ⟨spelled, hspelled, rfl⟩ := List.mem_map.mp hname
  obtain ⟨hspelled, hne⟩ := List.mem_filter.mp hspelled
  obtain ⟨piece, hpiece, rfl⟩ := List.mem_map.mp hspelled
  rw [String.toList_ofList]
  refine ⟨fun hempty => ?_, fun hcomma =>
    Text.not_mem_of_mem_pieces hpiece (mem_of_mem_unquote hcomma)⟩
  have hnil : unquote piece = [] := String.ofList_eq_empty_iff.mp hempty
  rw [hnil] at hne
  cases hne

theorem not_mem_lastSegment (text : List Char) : '.' ∉ (lastSegment text).toList := by
  rw [lastSegment, String.toList_ofList, List.getLastD_eq_getLast?]
  intro hpoint
  cases hlast : (Text.pieces (· == '.') text).getLast? with
  | none =>
      rw [hlast] at hpoint
      exact absurd hpoint (by decide)
  | some piece =>
      rw [hlast] at hpoint
      exact Text.not_mem_of_mem_pieces (List.mem_of_getLast? hlast) (mem_of_mem_unquote hpoint)

/-! ## Quoted names -/

theorem entry_quoteName (name : String) : Entry name (Sql.quoteName name).toList := by
  rw [Sql.quoteName, String.toList_ofList]
  exact .of_spelling .quoted

theorem lists_quoteNames (names : List String) :
    Lists names (Text.joined ", " (names.map Sql.quoteName)).toList := by
  rw [Text.joined]
  induction names with
  | nil => exact .nil nofun
  | cons name names ih =>
      cases names with
      | nil => simpa using Lists.single (entry_quoteName name)
      | cons other names =>
          -- the blank behind the comma goes to the names that follow
          have hblank : Blanks [' '] := by decide
          have hall := Lists.cons (entry_quoteName name) (ih.append_blanks hblank)
          simpa [String.intercalate_cons_cons, List.map_cons] using hall

/-- **Which quoted names come back.**  A list of quoted names is read back exactly if none of the
names is empty or has a comma in it, and the table of a quoted qualified name exactly if it has no
point in it. -/
theorem splitNames_quoteNames_iff (names : List String) (schema table : String) :
    (splitNames (Text.joined ", " (names.map Sql.quoteName)).toList = names ↔
        ∀ name ∈ names, name ≠ "" ∧ ',' ∉ name.toList) ∧
      (lastSegment (Sql.quoteName schema ++ "." ++ Sql.quoteName table).toList = table ↔
        '.' ∉ table.toList) := by
  refine ⟨⟨fun hsplit name hname => ?_, splitNames_of_lists (lists_quoteNames names)⟩,
    ⟨fun hlast => ?_, fun hpoint => ?_⟩⟩
  · rw [← hsplit] at hname
    exact not_mem_of_mem_splitNames hname
  · rw [← hlast]
    exact not_mem_lastSegment _
  · have hentry := entry_quoteName table
    have htext : (Sql.quoteName schema ++ "." ++ Sql.quoteName table).toList =
        (Sql.quoteName schema).toList ++ '.' :: (Sql.quoteName table).toList := by
      simp
    rw [htext, lastSegment_append _ (hentry.not_mem hpoint (by decide) (by decide)),
      unquote_of_entry hentry, String.ofList_toList]

/-- The comma and the point cut the names in two, although they stand between quotes. -/
theorem splitNames_marks_inside :
    splitNames (Text.joined ", " (["year, month", "no"].map Sql.quoteName)).toList ≠
        ["year, month", "no"] ∧
      lastSegment (Sql.quoteName "main" ++ "." ++ Sql.quoteName "orders.2024").toList ≠
        "orders.2024" := by
  decide

end PlainQuery.KeyText
