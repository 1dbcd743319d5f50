import PlainQuery.Proofs.Sql.Reading

/-!
# The grammar of statements

A `Sentence` is a parse tree of the statements that are written at all, and `Sentence.text` is the
text it stands for: `SELECT` with columns and calculations, `FROM` with a table and left joins, and
then, each on its own line and each only if it has entries, `WHERE`, `GROUP BY`, `ORDER BY` and
`LIMIT :limit`.  Names stand in quotes, and values only as `:name`.

The grammar says less than the statements of `PlainQuery.Sql` do: the condition of a join may be
about any two tables, and the values of a condition may have any names.  Nevertheless no text has
two parse trees (`Sentence.text_injective`).

The clauses are read off the front of the text one after the other.  A reader gives its clause back
only in front of a text that may follow it, so for each clause there are two facts:

* its entries can be read with a condition on what follows (`order_reads`, `group_reads`,
  `where_reads`);
* what stands behind it satisfies that condition (`order_follows`, `group_follows`, `where_follows`,
  `joins_follows`).  Everything behind a clause begins with a line break or is empty (`AtLineEnd`),
  which no list goes on with, and a clause that is left out is not mistaken for a later one because
  the marks differ behind the line break (`afterMark?_clauseText_append`).
-/

namespace PlainQuery.Sql

/-! ## Parse trees -/

/-- A join as it is written: a table, and a condition on a column of one table and a column of
another. -/
structure JoinPhrase where
  table : Identifier
  leftTable : Identifier
  leftColumn : Identifier
  rightTable : Identifier
  rightColumn : Identifier
deriving DecidableEq

/-- The text of a join behind its first words. -/
def JoinPhrase.write (phrase : JoinPhrase) : List Char :=
  phrase.table.quoted ++ (" ON ".toList ++ (phrase.leftTable.quoted ++ ('.' ::
    (phrase.leftColumn.quoted ++ (" = ".toList ++ (phrase.rightTable.quoted ++ ('.' ::
      phrase.rightColumn.quoted)))))))

/-- A parse tree of a statement. -/
structure Sentence where
  /-- The columns of the result; none of them stands for all columns. -/
  items : List SelectItem
  anchor : Identifier
  joins : List JoinPhrase
  conditions : List (Condition SlotName)
  groupBy : List Identifier
  orderBy : List OrderItem
  limited : Bool

namespace Sentence

/-- The texts of the parts of a sentence. -/
def parts (sentence : Sentence) : Parts where
  items := sentence.items.map SelectItem.write
  anchor := sentence.anchor.quoted
  joins := sentence.joins.map JoinPhrase.write
  conditions := sentence.conditions.map (Condition.write SlotName.write)
  groupBy := sentence.groupBy.map Identifier.quoted
  orderBy := sentence.orderBy.map OrderItem.write
  limit := if sentence.limited then some ":limit".toList else none

/-- The text that a sentence stands for. -/
def text (sentence : Sentence) : List Char := sentence.parts.text

/-- A condition has values unless it is a test for null. -/
def WellFormed (sentence : Sentence) : Prop :=
  ∀ condition ∈ sentence.conditions, condition.slots = [] →
    ∃ negated, condition.operator = .nullTest negated

end Sentence

/-! ## Reading the parts -/

/-- The text goes on with a new line, or not at all. -/
def AtLineEnd (text : List Char) : Prop := ∀ c ∈ text.head?, c = '\n'

theorem AtLineEnd.stops {text : List Char} (h : AtLineEnd text) : Stops text := by
  intro c hmem
  rw [h c hmem]
  decide

theorem AtLineEnd.afterMark?_eq_none {text : List Char} (h : AtLineEnd text) {c : Char}
    {mark : List Char} (hne : c ≠ '\n') : afterMark? (c :: mark) text = none :=
  PlainQuery.Sql.afterMark?_eq_none fun hmem => hne (h c hmem)

theorem atLineEnd_clauseText_append (mark separator : List Char) (parts : List (List Char))
    {rest : List Char} (hrest : AtLineEnd rest) :
    AtLineEnd (clauseText ('\n' :: mark) separator parts ++ rest) := by
  cases parts with
  | nil => exact hrest
  | cons part parts =>
      rw [clauseText_cons, List.cons_append, List.cons_append]
      intro c hmem
      simpa using hmem.symm

/-- A clause is not taken for one with another mark. -/
theorem afterMark?_clauseText_append {mark other : List Char}
    (hmarks : ∀ text, afterMark? mark (other ++ text) = none) (separator : List Char)
    (parts : List (List Char)) {rest : List Char} (hrest : afterMark? mark rest = none) :
    afterMark? mark (clauseText other separator parts ++ rest) = none := by
  cases parts with
  | nil => exact hrest
  | cons part parts =>
      rw [clauseText_cons, List.append_assoc]
      exact hmarks _

/-- Takes a join behind its first words. -/
def JoinPhrase.take : Taker JoinPhrase := fun text => do
  let (table, text) ← Identifier.take text
  let text ← afterMark? " ON ".toList text
  let ((leftTable, leftColumn), text) ← takeQualified text
  let text ← afterMark? " = ".toList text
  let ((rightTable, rightColumn), text) ← takeQualified text
  some ({ table, leftTable, leftColumn, rightTable, rightColumn }, text)

theorem JoinPhrase.reads : Reads JoinPhrase.take JoinPhrase.write Anything := by
  intro phrase rest _
  simp only [write, List.append_assoc, List.cons_append, take,
    Identifier.reads phrase.table _ trivial, afterMark?_append, takeQualified_append,
    Option.bind_eq_bind, Option.bind_some]

/-- The columns of the result as they are written. -/
def itemsText (items : List SelectItem) : List Char :=
  if items.isEmpty then ['*'] else ", ".toList.intercalate (items.map SelectItem.write)

/-- A column or a calculation is not taken for the star. -/
theorem takeItems_append (item : SelectItem) (rest : List Char) :
    takeItems (item.write ++ rest) =
      takeSeparated ", ".toList SelectItem.take (item.write ++ rest) := by
  cases item with
  | column name => rfl
  | aggregate call label =>
      cases call with
      | countAll => rfl
      | apply function column => cases function <;> rfl

theorem takeItems_reads : Reads takeItems itemsText AtLineEnd := by
  intro items rest hrest
  cases items with
  -- no items are written as a star, which the reader asks about first
  | nil => rfl
  | cons item items =>
      have hends : Ends ", ".toList Anything rest :=
        ⟨trivial, hrest.afterMark?_eq_none (by decide)⟩
      show takeItems (", ".toList.intercalate ((item :: items).map SelectItem.write) ++ rest) = _
      rw [List.map_cons, intercalate_cons_eq, List.flatMap_map, List.append_assoc,
        takeItems_append]
      exact SelectItem.reads.takeSeparated (fun _ => trivial) (by decide) hends item items

/-! ## Sentences -/

namespace Sentence

variable (sentence : Sentence)

/-- The last clause and those before it, from the `ORDER BY` clause backwards. -/
def fromOrder : List Char := sentence.parts.orderText ++ sentence.parts.limitText

def fromGroup : List Char := sentence.parts.groupText ++ sentence.fromOrder

def fromWhere : List Char := sentence.parts.whereText ++ sentence.fromGroup

theorem atLineEnd_limitText : AtLineEnd sentence.parts.limitText := by
  unfold parts Parts.limitText
  cases sentence.limited with
  | false => intro c hmem; simp at hmem
  | true => intro c hmem; simpa using hmem.symm

theorem atLineEnd_fromOrder : AtLineEnd sentence.fromOrder :=
  atLineEnd_clauseText_append _ _ _ sentence.atLineEnd_limitText

theorem atLineEnd_fromGroup : AtLineEnd sentence.fromGroup :=
  atLineEnd_clauseText_append _ _ _ sentence.atLineEnd_fromOrder

theorem atLineEnd_fromWhere : AtLineEnd sentence.fromWhere :=
  atLineEnd_clauseText_append _ _ _ sentence.atLineEnd_fromGroup

/-- The limit is not taken for another clause. -/
theorem afterMark?_limitText {mark : List Char}
    (hmark : ∀ text, afterMark? mark ("\nLIMIT ".toList ++ text) = none)
    (hnil : afterMark? mark [] = none) : afterMark? mark sentence.parts.limitText = none := by
  unfold parts Parts.limitText
  cases sentence.limited with
  | false => exact hnil
  | true => exact hmark _

theorem order_reads :
    Reads (takeClause "\nORDER BY ".toList ", ".toList OrderItem.take)
      (fun items => clauseText "\nORDER BY ".toList ", ".toList (items.map OrderItem.write))
      (fun rest => Ends ", ".toList Anything rest ∧ afterMark? "\nORDER BY ".toList rest = none) :=
  OrderItem.reads.takeClause (fun _ => trivial) (by decide)

theorem group_reads :
    Reads (takeClause "\nGROUP BY ".toList ", ".toList Identifier.take)
      (fun columns => clauseText "\nGROUP BY ".toList ", ".toList (columns.map Identifier.quoted))
      (fun rest => Ends ", ".toList Anything rest ∧ afterMark? "\nGROUP BY ".toList rest = none) :=
  Identifier.reads.takeClause (fun _ => trivial) (by decide)

theorem where_reads :
    Reads (takeClause "\nWHERE ".toList " AND ".toList (Condition.take SlotName.take))
      (fun conditions => clauseText "\nWHERE ".toList " AND ".toList
        (conditions.map (Condition.write SlotName.write)))
      (fun rest => Ends " AND ".toList Stops rest ∧ afterMark? "\nWHERE ".toList rest = none) :=
  Condition.reads.takeClause (fun _ => stops_cons.mpr (by decide)) (by decide)

theorem order_follows : Ends ", ".toList Anything sentence.parts.limitText ∧
    afterMark? "\nORDER BY ".toList sentence.parts.limitText = none :=
  ⟨⟨trivial, sentence.atLineEnd_limitText.afterMark?_eq_none (by decide)⟩,
    sentence.afterMark?_limitText (fun _ => rfl) rfl⟩

theorem group_follows : Ends ", ".toList Anything sentence.fromOrder ∧
    afterMark? "\nGROUP BY ".toList sentence.fromOrder = none :=
  ⟨⟨trivial, sentence.atLineEnd_fromOrder.afterMark?_eq_none (by decide)⟩,
    afterMark?_clauseText_append (fun _ => rfl) _ _
      (sentence.afterMark?_limitText (fun _ => rfl) rfl)⟩

theorem where_follows : Ends " AND ".toList Stops sentence.fromGroup ∧
    afterMark? "\nWHERE ".toList sentence.fromGroup = none :=
  ⟨⟨sentence.atLineEnd_fromGroup.stops,
      sentence.atLineEnd_fromGroup.afterMark?_eq_none (by decide)⟩,
    afterMark?_clauseText_append (fun _ => rfl) _ _
      (afterMark?_clauseText_append (fun _ => rfl) _ _
        (sentence.afterMark?_limitText (fun _ => rfl) rfl))⟩

theorem joins_follows : Ends " LEFT JOIN ".toList Anything sentence.fromWhere :=
  ⟨trivial, sentence.atLineEnd_fromWhere.afterMark?_eq_none (by decide)⟩

theorem limited_eq_of_limitText_eq {sentence other : Sentence}
    (h : sentence.parts.limitText = other.parts.limitText) : sentence.limited = other.limited := by
  unfold parts Parts.limitText at h
  -- a limit is a text that is not empty
  cases hs : sentence.limited <;> cases ho : other.limited <;> simp [hs, ho] at h ⊢

theorem text_eq :
    sentence.text = "SELECT ".toList ++ (itemsText sentence.items ++ ("\nFROM ".toList ++
      (sentence.anchor.quoted ++ ((sentence.joins.flatMap fun join =>
        " LEFT JOIN ".toList ++ join.write) ++ sentence.fromWhere)))) := by
  have hitems : sentence.parts.itemsText = itemsText sentence.items := by
    unfold Parts.itemsText parts itemsText
    rw [List.isEmpty_map]
  have hjoins : sentence.parts.joinsText =
      sentence.joins.flatMap fun join => " LEFT JOIN ".toList ++ join.write := by
    unfold Parts.joinsText parts
    rw [List.flatMap_map]
  unfold text Parts.text
  rw [hitems, hjoins]
  rfl

/-- **No text has two parse trees.**  The clauses are read off the front of the text one after the
other; what is left of both texts stays the same. -/
theorem text_injective {sentence other : Sentence} (h : sentence.text = other.text) :
    sentence = other := by
  rw [text_eq, text_eq] at h
  -- after each step `h` says that what is left of the two texts is the same
  have hfrom : ∀ text : List Char, AtLineEnd ("\nFROM ".toList ++ text) := fun text c hmem => by
    simpa using hmem.symm
  obtain ⟨hitems, h⟩ := takeItems_reads.eq_of_append_eq (hfrom _) (hfrom _)
    (List.append_cancel_left h)
  obtain ⟨hanchor, h⟩ := Identifier.reads.eq_of_append_eq trivial trivial
    (List.append_cancel_left h)
  obtain ⟨hjoins, h⟩ := (JoinPhrase.reads.takeMarked (fun _ => trivial) (by decide)).eq_of_append_eq
    sentence.joins_follows other.joins_follows h
  obtain ⟨hconditions, h⟩ :=
    where_reads.eq_of_append_eq sentence.where_follows other.where_follows h
  obtain ⟨hgroup, h⟩ := group_reads.eq_of_append_eq sentence.group_follows other.group_follows h
  obtain ⟨horder, h⟩ := order_reads.eq_of_append_eq sentence.order_follows other.order_follows h
  have hlimited := limited_eq_of_limitText_eq h
  cases sentence
  cases other
  rw [Sentence.mk.injEq]
  exact ⟨hitems, hanchor, hjoins, hconditions, hgroup, horder, hlimited⟩

end Sentence

end PlainQuery.Sql
