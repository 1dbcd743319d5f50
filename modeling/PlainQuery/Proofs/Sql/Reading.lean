import Mathlib.Data.List.TakeWhile
import PlainQuery.Proofs.Sql.Layout
import PlainQuery.Proofs.Sql.SlotName
import PlainQuery.Sql.Reader

/-!
# Readers undo writers

A reader takes something off the front of a text.  `Reads take write follows` says that it gives
back what was written, whatever was written, and leaves the text behind it, as long as that text
`follows`.  So a written text can be split in one way only (`Reads.eq_of_append_eq`), which is how
uniqueness is proved here: no two texts are ever compared, a reader gives the same answer to both.

The condition on what follows is as weak as the reader allows: anything may come behind a name in
quotes, while a name of a value has to come to its end (`Stops`).

* **Lists.**  The readers of lists take items for as long as a mark is in front; they stop where the
  mark is missing, and no text that may follow begins with it (`Ends`).  They count their rounds by
  the length of the text, which is enough because every item has a mark
  (`length_le_length_flatMap`).  This gives `Reads.takeMarked`, `Reads.takeSeparated` and
  `Reads.takeClause`.

* **Names and columns.**  `Identifier.reads`, `AggregateCall.reads`, `SelectItem.reads`,
  `OrderItem.reads`: each is put together from the readers of its parts.

* **Conditions.**  A condition is its column, the mark of its operator and a tail with its values
  (`Condition.write_eq_tail`).  The marks are tried one after the other, and none of them is taken
  for an earlier one (`Condition.takeWord_mark`), hence `Condition.reads`.
-/

namespace PlainQuery.Sql

/-- In front of a text that `follows`, `take` gives back what was written and leaves that text. -/
def Reads {α : Type} (take : Taker α) (write : α → List Char) (follows : List Char → Prop) : Prop :=
  ∀ (value : α) (rest : List Char), follows rest → take (write value ++ rest) = some (value, rest)

/-- What a reader gives back is all there is to split a text into. -/
theorem Reads.eq_of_append_eq {α : Type} {take : Taker α} {write : α → List Char}
    {follows : List Char → Prop} (hreads : Reads take write follows) {value other : α}
    {rest rest' : List Char} (hrest : follows rest) (hrest' : follows rest')
    (h : write value ++ rest = write other ++ rest') : value = other ∧ rest = rest' := by
  have htaken : some (value, rest) = some (other, rest') := by
    rw [← hreads value rest hrest, h, hreads other rest' hrest']
  simpa using htaken

/-! ## Marks -/

@[simp] theorem afterMark?_append (mark rest : List Char) :
    afterMark? mark (mark ++ rest) = some rest := by
  simp [afterMark?, List.isPrefixOf_iff_prefix]

theorem afterMark?_eq_none {c : Char} {mark rest : List Char} (hhead : c ∉ rest.head?) :
    afterMark? (c :: mark) rest = none := by
  unfold afterMark?
  cases rest with
  | nil => rfl
  | cons d rest =>
      have hne : (c == d) = false := by
        have : c ≠ d := fun heq => hhead (by simp [heq])
        simpa using this
      simp [List.isPrefixOf, hne]

/-! ## Lists -/

section Lists

variable {α : Type} {item : Taker α} {write : α → List Char} {follows : List Char → Prop}

theorem follows_flatMap_append (write : α → List Char) {mark : List Char}
    (hmark : ∀ text, follows (mark ++ text)) (values : List α) {rest : List Char}
    (hrest : follows rest) :
    follows ((values.flatMap fun value => mark ++ write value) ++ rest) := by
  cases values with
  | nil => exact hrest
  | cons value values =>
      rw [List.flatMap_cons, List.append_assoc, List.append_assoc]
      exact hmark _

/-- With as many rounds as there are items, all items are taken. -/
theorem takeMarked_flatMap {mark : List Char} (hitem : Reads item write follows)
    (hmark : ∀ text, follows (mark ++ text)) {rest : List Char} (hrest : follows rest)
    (hend : afterMark? mark rest = none) (values : List α) (rounds : Nat)
    (hrounds : values.length ≤ rounds) :
    takeMarked mark item rounds ((values.flatMap fun value => mark ++ write value) ++ rest) =
      some (values, rest) := by
  induction values generalizing rounds with
  | nil =>
      cases rounds with
      | zero => rfl
      | succ rounds =>
          rw [List.flatMap_nil, List.nil_append, takeMarked, hend]
  | cons value values ih =>
      cases rounds with
      | zero => simp at hrounds
      | succ rounds =>
          -- behind the item comes the mark of the next one or the end: either way it may follow
          have hvalue := hitem value _ (follows_flatMap_append write hmark values hrest)
          have hothers := ih rounds (by simpa using hrounds)
          rw [List.flatMap_cons, List.append_assoc, List.append_assoc, takeMarked,
            afterMark?_append]
          simp only [hvalue, hothers, Option.bind_eq_bind, Option.bind_some]

theorem length_le_length_flatMap (write : α → List Char) {mark : List Char} (hmark : mark ≠ [])
    (values : List α) (rest : List Char) :
    values.length ≤ ((values.flatMap fun value => mark ++ write value) ++ rest).length := by
  have hpos : 0 < mark.length := List.length_pos_iff.mpr hmark
  induction values with
  | nil => exact Nat.zero_le _
  | cons value values ih =>
      simp only [List.flatMap_cons, List.length_append, List.length_cons] at ih ⊢
      omega

/-- A text that may follow a list: it follows an item and has no mark in front. -/
def Ends (mark : List Char) (follows : List Char → Prop) (rest : List Char) : Prop :=
  follows rest ∧ afterMark? mark rest = none

theorem Reads.takeSeparated {separator : List Char} (hitem : Reads item write follows)
    (hseparator : ∀ text, follows (separator ++ text)) (hne : separator ≠ []) {rest : List Char}
    (hrest : Ends separator follows rest) (value : α) (values : List α) :
    takeSeparated separator item
        (write value ++ ((values.flatMap fun other => separator ++ write other) ++ rest)) =
      some (value :: values, rest) := by
  have hvalue := hitem value _
    (follows_flatMap_append write hseparator values hrest.1)
  have hothers := takeMarked_flatMap hitem hseparator hrest.1 hrest.2 values _
    (length_le_length_flatMap write hne values rest)
  unfold PlainQuery.Sql.takeSeparated
  simp only [hvalue, hothers, Option.bind_eq_bind, Option.bind_some]

theorem Reads.takeMarked {mark : List Char} (hitem : Reads item write follows)
    (hmark : ∀ text, follows (mark ++ text)) (hne : mark ≠ []) :
    Reads (fun text => PlainQuery.Sql.takeMarked mark item text.length text)
      (fun values => values.flatMap fun value => mark ++ write value) (Ends mark follows) :=
  fun values rest hrest => takeMarked_flatMap hitem hmark hrest.1 hrest.2 values _
    (length_le_length_flatMap write hne values rest)

/-- A clause may be followed by a text that ends its list and does not begin with its own mark. -/
theorem Reads.takeClause {mark separator : List Char} (hitem : Reads item write follows)
    (hseparator : ∀ text, follows (separator ++ text)) (hne : separator ≠ []) :
    Reads (PlainQuery.Sql.takeClause mark separator item)
      (fun values => clauseText mark separator (values.map write))
      (fun rest => Ends separator follows rest ∧ afterMark? mark rest = none) := by
  intro values rest hrest
  unfold PlainQuery.Sql.takeClause
  dsimp only
  cases values with
  -- the clause is left out, and its mark is not in front of what follows
  | nil => rw [List.map_nil, clauseText_nil, List.nil_append, hrest.2]
  | cons value values =>
      rw [List.map_cons, clauseText_cons, List.flatMap_map, List.append_assoc, List.append_assoc,
        afterMark?_append]
      exact hitem.takeSeparated hseparator hne hrest.1 value values

end Lists

/-! ## Names and columns -/

/-- Nothing is asked of the text behind a name in quotes. -/
def Anything (_ : List Char) : Prop := True

theorem Identifier.ofName_ofList (identifier : Identifier) :
    ofName (String.ofList identifier.text) = identifier := by
  obtain ⟨text, safe⟩ := identifier
  have hfilter : text.filter isWordChar = text := List.filter_eq_self.mpr safe
  simpa [ofName] using hfilter

theorem Identifier.reads : Reads Identifier.take Identifier.quoted Anything := by
  intro identifier rest _
  have htext : identifier.quoted ++ rest = '"' :: (identifier.text ++ '"' :: rest) := by
    simp [quoted]
  -- the closing quote is no identifier character, so the name ends there
  have hword : (identifier.text ++ '"' :: rest).takeWhile isWordChar = identifier.text :=
    takeWhile_append_of_stops identifier.safe (stops_cons.mpr (by decide))
  have hclose : afterMark? ['"'] ('"' :: rest) = some rest := afterMark?_append ['"'] rest
  rw [htext, take]
  simp only [hword, List.drop_left, hclose, Option.map_some, ofName_ofList]

theorem takeWord_opening (function : AggregateFunction) (column : Identifier) (rest : List Char) :
    takeWord callMarks (function.opening ++ (column.quoted ++ rest)) =
        some (function, column.quoted ++ rest) ∧
      afterMark? "COUNT(*)".toList (function.opening ++ (column.quoted ++ rest)) = none := by
  cases function <;> exact ⟨rfl, rfl⟩

theorem AggregateCall.reads : Reads AggregateCall.take AggregateCall.write Anything := by
  intro call rest _
  cases call with
  | countAll => rfl
  | apply function column =>
      obtain ⟨hword, hnone⟩ := takeWord_opening function column (')' :: rest)
      have hclose : afterMark? [')'] (')' :: rest) = some rest := afterMark?_append [')'] rest
      rw [write_apply, List.append_assoc, List.append_assoc, List.singleton_append, take, hnone]
      simp only [hword, Identifier.reads column _ trivial, hclose, Option.bind_eq_bind,
        Option.bind_some]

/-- A call does not begin like a column. -/
theorem Identifier.take_call (call : AggregateCall) (rest : List Char) :
    Identifier.take (call.write ++ rest) = none := by
  cases call with
  | countAll => rfl
  | apply function column => cases function <;> rfl

theorem SelectItem.reads : Reads SelectItem.take SelectItem.write Anything := by
  intro item rest _
  cases item with
  | column name =>
      rw [write, take, Identifier.reads name rest trivial]
  | aggregate call label =>
      rw [write, List.append_assoc, List.append_assoc, take, Identifier.take_call]
      simp only [AggregateCall.reads call _ trivial, afterMark?_append,
        Identifier.reads label rest trivial, Option.bind_eq_bind, Option.bind_some]

theorem takeQualified_append (table column : Identifier) (rest : List Char) :
    takeQualified (table.quoted ++ '.' :: (column.quoted ++ rest)) =
      some ((table, column), rest) := by
  have hdot : afterMark? ['.'] ('.' :: (column.quoted ++ rest)) = some (column.quoted ++ rest) :=
    afterMark?_append ['.'] _
  unfold takeQualified
  simp only [Identifier.reads table _ trivial, hdot, Identifier.reads column rest trivial,
    Option.bind_eq_bind, Option.bind_some]

theorem OrderItem.reads : Reads OrderItem.take OrderItem.write Anything := by
  intro item rest _
  obtain ⟨column, direction⟩ := item
  have hdirection : takeWord [(" ASC".toList, Direction.ascending),
      (" DESC".toList, Direction.descending)] (' ' :: (direction.word.toList ++ rest)) =
        some (direction, rest) := by
    cases direction <;> rfl
  rw [write, List.append_assoc, List.cons_append, take]
  simp only [Identifier.reads column _ trivial, hdirection, Option.bind_eq_bind, Option.bind_some]

/-! ## Conditions -/

/-- Takes the name of a value. -/
def SlotName.take : Taker SlotName
  | ':' :: text =>
    let word := text.takeWhile isWordChar
    if starts : beforeName word = true then
      some (⟨word, starts, fun _ hmem => List.mem_takeWhile_imp hmem⟩, text.drop word.length)
    else none
  | _ => none

theorem SlotName.reads : Reads SlotName.take SlotName.write Stops := by
  intro name rest hstops
  have hword := name.takeWhile_append hstops
  obtain ⟨word, starts, safe⟩ := name
  rw [write, List.cons_append, take]
  simp only [hword, starts, dif_pos, List.drop_left]

namespace Condition

/-- What stands between the column and the values of a condition. -/
def mark : Operator → List Char
  | .nullTest negated => ' ' :: (Operator.nullTest negated).word.toList
  | .membership negated => ' ' :: ((Operator.membership negated).word.toList ++ " (".toList)
  | operator => ' ' :: (operator.word.toList ++ [' '])

theorem takeWord_mark (operator : Operator) (rest : List Char) :
    takeWord operatorMarks (mark operator ++ rest) = some (operator, rest) := by
  cases operator with
  | compare comparison => cases comparison <;> rfl
  | like ignoresCase => cases ignoresCase <;> rfl
  | membership negated => cases negated <;> rfl
  | nullTest negated => cases negated <;> rfl
  | between => rfl

theorem take_column (column : Identifier) (operator : Operator) (rest : List Char) :
    Condition.take SlotName.take (column.quoted ++ (mark operator ++ rest)) =
      takeOperands SlotName.take column operator rest := by
  unfold Condition.take
  simp only [Identifier.reads column _ trivial, takeWord_mark, Option.bind_eq_bind,
    Option.bind_some]

theorem takeMembers_append (members : List SlotName) (rest : List Char) :
    takeMembers SlotName.take
        (", ".toList.intercalate (members.map SlotName.write) ++ ')' :: rest) =
      some (members, rest) := by
  cases members with
  | nil => rfl
  | cons first others =>
      have hends : Ends ", ".toList Stops (')' :: rest) :=
        ⟨stops_cons.mpr (by decide), rfl⟩
      have hseparator : ∀ text, Stops (", ".toList ++ text) := fun text =>
        stops_cons.mpr (by decide)
      have htaken := SlotName.reads.takeSeparated hseparator (by decide) hends first others
      have hclose : afterMark? [')'] (')' :: rest) = some rest := afterMark?_append [')'] rest
      rw [List.map_cons, intercalate_cons_eq, List.flatMap_map, List.append_assoc]
      rw [SlotName.write, List.cons_append] at htaken ⊢
      -- the empty list is recognized by its bracket, which is not how a name begins
      rw [takeMembers]
      · simp only [htaken, hclose, Option.bind_eq_bind, Option.bind_some]
      · intro tail heq
        exact absurd (List.cons.inj heq).1 (by decide)

/-- The text of a condition behind its mark. -/
def tail {σ : Type} (writeSlot : σ → List Char) : Condition σ → List Char
  | nullTest _ _ => []
  | membership _ _ members => ", ".toList.intercalate (members.map writeSlot) ++ [')']
  | like _ _ pattern => writeSlot pattern
  | between _ low high => writeSlot low ++ (" AND ".toList ++ writeSlot high)
  | compare _ _ value => writeSlot value

theorem write_eq_tail {σ : Type} (writeSlot : σ → List Char) (condition : Condition σ) :
    condition.write writeSlot =
      condition.column.quoted ++ (mark condition.operator ++ condition.tail writeSlot) := by
  cases condition with
  | nullTest column negated => rfl
  | membership column negated members =>
      simp only [write, Condition.column, Condition.operator, writeOperands, mark, tail,
        List.append_assoc, List.cons_append]
  | _ =>
      simp only [write, Condition.column, Condition.operator, writeOperands, mark, tail,
        List.append_assoc, List.cons_append, List.nil_append]

theorem takeOperands_tail (condition : Condition SlotName) {rest : List Char}
    (hstops : Stops rest) :
    takeOperands SlotName.take condition.column condition.operator
        (condition.tail SlotName.write ++ rest) = some (condition, rest) := by
  cases condition with
  | nullTest column negated => rfl
  | membership column negated members =>
      have hmembers := takeMembers_append members rest
      simp only [Condition.column, Condition.operator, tail, takeOperands, List.append_assoc,
        List.singleton_append, hmembers, Option.bind_eq_bind, Option.bind_some]
  | like column ignoresCase pattern =>
      simp only [Condition.column, Condition.operator, tail, takeOperands,
        SlotName.reads pattern rest hstops, Option.bind_eq_bind, Option.bind_some]
  | between column low high =>
      -- the first bound ends at the blank of the word between the bounds
      have hlow := SlotName.reads low (" AND ".toList ++ (high.write ++ rest))
        (stops_cons.mpr (by decide))
      simp only [Condition.column, Condition.operator, tail, takeOperands, List.append_assoc, hlow,
        afterMark?_append, SlotName.reads high rest hstops, Option.bind_eq_bind, Option.bind_some]
  | compare column comparison value =>
      simp only [Condition.column, Condition.operator, tail, takeOperands,
        SlotName.reads value rest hstops, Option.bind_eq_bind, Option.bind_some]

theorem reads : Reads (Condition.take SlotName.take) (Condition.write SlotName.write) Stops := by
  intro condition rest hstops
  rw [write_eq_tail, List.append_assoc, List.append_assoc, take_column]
  exact takeOperands_tail condition hstops

end Condition

end PlainQuery.Sql
