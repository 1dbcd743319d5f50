import PlainQuery.Proofs.Fields
import PlainQuery.Proofs.Sql.Layout
import PlainQuery.Proofs.Sql.Plan

/-!
# Planning and binding agree

The binder scans the text of a statement for placeholders, while the planner makes up the
placeholders and the text from a plan.  Neither knows of the other.  `Marks` says, without either of
them, that one text is the other with a question mark for each placeholder outside of quotes, and
lists the placeholders.  The two halves of the argument meet in it.

* **The binder.**  One lemma for each branch of the scan (`bindFrom_word`, `bindFrom_colon`,
  `bindFrom_copied`), and from them what happens at a plain character and at a whole placeholder
  (`bindFrom_char`, `bindFrom_slot`).  By induction on `Marks` the scan finds the listed
  placeholders and no others (`bindFrom_of_marks`).

* **The planner.**  A text is `Copied` if it may be put in front of any two marked texts.  That
  holds of everything without colons, question marks and quotes, and of quoted identifiers, whose
  two quotes cancel out (`Copied.quoted`).  A text with placeholders is `MarkedAs` its text with
  question marks only in front of something that `Stops`, because a name reads on for as long as it
  can.  Blanks, commas, brackets and line breaks stop, so both properties go through lists and
  clauses (`MarkedAs.flatMap`, `MarkedAs.intercalate`, `MarkedAs.clauseText`).

`Statement.marks` puts the clauses together from the last one to the first.  No two slots of a plan
share a name and the parameters are the pairs of the slots (`slotNames_nodup`, `get?_parameters`),
so `bindNames_generate` follows: the arguments for a generated query are the values of the intent in
order, and every parameter is used once.
-/

namespace PlainQuery.Sql

/-- `text` is `sql` with a question mark in the place of each of the `names`.  The scan of `sql`
begins inside of quotes if `quoted` holds, and it ends outside of them. -/
inductive Marks : Bool → List Char → List Char → List SlotName → Prop where
  | nil : Marks false [] [] []
  | char {quoted : Bool} {c : Char} {sql text : List Char} {names : List SlotName} :
      c ≠ ':' → c ≠ '?' → Marks (if c = '"' then !quoted else quoted) sql text names →
      Marks quoted (c :: sql) (c :: text) names
  | slot {name : SlotName} {sql text : List Char} {names : List SlotName} :
      Stops sql → Marks false sql text names →
      Marks false (name.write ++ sql) ('?' :: text) (name :: names)

namespace Marks

/-- There is a question mark for each name, and no other. -/
theorem count_eq_length {quoted : Bool} {sql text : List Char} {names : List SlotName}
    (h : Marks quoted sql text names) : text.count '?' = names.length := by
  induction h with
  | nil => rfl
  | char _ hmark _ ih => rw [List.count_cons_of_ne hmark, ih]
  | slot _ _ ih => rw [List.count_cons_self, ih, List.length_cons]

end Marks

/-! ## The binder -/

theorem bindNames_eq_map (sql : String) (parameters : Fields Json) :
    bindNames sql parameters =
      (bindFrom parameters {} sql.toList).map fun bound => (String.ofList bound.1, bound.2) := by
  unfold bindNames
  cases bindFrom parameters {} sql.toList <;> rfl

/-- A character of a name is passed over. -/
theorem bindFrom_word {parameters : Fields Json} {state : BindState} {c : Char} {rest : List Char}
    (hnaming : state.naming = true) (hc : isWordChar c = true) :
    bindFrom parameters state (c :: rest) = bindFrom parameters { naming := true } rest := by
  rw [bindFrom, if_pos (by rw [hnaming, hc, Bool.and_self])]

/-- The colon of a placeholder becomes a question mark if its name has a value. -/
theorem bindFrom_colon {parameters : Fields Json} {state : BindState} {rest : List Char}
    (hquoted : state.quoted = false) (hafter : state.afterColon = false)
    (hrest : beforeName rest = true) :
    bindFrom parameters state (':' :: rest) =
      match parameters.get? (String.ofList (rest.takeWhile isWordChar)) with
      | none => .error ⟨String.ofList (rest.takeWhile isWordChar)⟩
      | some value => (bindFrom parameters { naming := true } rest).map
          fun bound => ('?' :: bound.1, Argument.ofJson value :: bound.2) := by
  have hcolon : isWordChar ':' = false := by decide
  rw [bindFrom]
  simp only [hcolon, hquoted, hafter, hrest, Bool.and_false, Bool.false_eq_true, if_false,
    Bool.not_false, beq_self_eq_true, Bool.and_self, if_true]
  cases parameters.get? (String.ofList (rest.takeWhile isWordChar)) with
  | none => rfl
  | some value => cases bindFrom parameters { naming := true } rest <;> rfl

/-- Every other character is copied. -/
theorem bindFrom_copied {parameters : Fields Json} {state : BindState} {c : Char}
    {rest : List Char} (hword : (state.naming && isWordChar c) = false)
    (hcolon : (!state.quoted && c == ':' && !state.afterColon && beforeName rest) = false) :
    bindFrom parameters state (c :: rest) =
      (bindFrom parameters { quoted := if c = '"' then !state.quoted else state.quoted,
                             afterColon := c == ':' } rest).map
        fun bound => (c :: bound.1, bound.2) := by
  rw [bindFrom]
  simp only [hword, hcolon, Bool.false_eq_true, if_false, beq_iff_eq]
  cases bindFrom parameters { quoted := if c = '"' then !state.quoted else state.quoted,
                              afterColon := c == ':' } rest <;> rfl

theorem bindFrom_naming {parameters : Fields Json} {word rest : List Char}
    (hword : ∀ c ∈ word, isWordChar c = true) :
    bindFrom parameters { naming := true } (word ++ rest) =
      bindFrom parameters { naming := true } rest := by
  induction word with
  | nil => rfl
  | cons c word ih =>
      rw [List.cons_append, bindFrom_word rfl (hword c (List.mem_cons_self ..))]
      exact ih fun other hother => hword other (List.mem_cons_of_mem _ hother)

/-- A name that has come to its end makes no difference. -/
theorem bindFrom_of_stops {parameters : Fields Json} {rest : List Char} (hstops : Stops rest) :
    bindFrom parameters { naming := true } rest = bindFrom parameters {} rest := by
  cases rest with
  | nil => rfl
  | cons c rest =>
      -- only the test for a character of a name reads the flag, and it fails here
      rw [bindFrom, bindFrom]
      simp [stops_cons.mp hstops]

theorem bindFrom_char {parameters : Fields Json} {quoted : Bool} {c : Char} {rest : List Char}
    (hcolon : c ≠ ':') :
    bindFrom parameters { quoted := quoted } (c :: rest) =
      (bindFrom parameters { quoted := if c = '"' then !quoted else quoted } rest).map
        fun bound => (c :: bound.1, bound.2) := by
  have hne : (c == ':') = false := by simpa using hcolon
  rw [bindFrom_copied (by simp) (by simp [hne]), hne]

theorem bindFrom_slot {parameters : Fields Json} {name : SlotName} {rest : List Char}
    (hstops : Stops rest) {value : Json} (hvalue : parameters.get? name.key = some value) :
    bindFrom parameters {} (name.write ++ rest) =
      (bindFrom parameters {} rest).map
        fun bound => ('?' :: bound.1, Argument.ofJson value :: bound.2) := by
  -- the name behind the colon is looked up, and then passed over
  rw [SlotName.write, List.cons_append, bindFrom_colon rfl rfl (name.beforeName_append rest),
    name.takeWhile_append hstops, ← SlotName.key, hvalue]
  simp only [bindFrom_naming name.safe, bindFrom_of_stops hstops]

/-- **The binder finds the placeholders.**  If every name has a value, the text comes out with its
question marks, and the arguments are the values of the names in order. -/
theorem bindFrom_of_marks {parameters : Fields Json} {quoted : Bool} {sql text : List Char}
    {names : List SlotName} (h : Marks quoted sql text names) :
    ∀ {values : List Json},
      names.map (fun name => parameters.get? name.key) = values.map some →
      bindFrom parameters { quoted := quoted } sql = .ok (text, values.map Argument.ofJson) := by
  -- along the marks, the values are used up one at each slot
  induction h with
  | nil =>
      intro values hvalues
      have hnil : values = [] := by simpa using hvalues.symm
      rw [hnil]
      rfl
  | char hcolon _ _ ih =>
      intro values hvalues
      rw [bindFrom_char hcolon, ih hvalues]
      rfl
  | slot hstops _ ih =>
      intro values hvalues
      cases values with
      | nil => simp at hvalues
      | cons value values =>
          rw [List.map_cons, List.map_cons, List.cons.injEq] at hvalues
          rw [bindFrom_slot hstops hvalues.1, ih hvalues.2]
          rfl

/-! ## Texts without placeholders -/

/-- The text has no placeholder and leaves no quotes open: in front of any text it is copied. -/
def Copied (part : List Char) : Prop :=
  ∀ (quoted : Bool) (sql text : List Char) (names : List SlotName),
    Marks quoted sql text names → Marks quoted (part ++ sql) (part ++ text) names

theorem Copied.nil : Copied [] := fun _ _ _ _ h => h

theorem Copied.append {first second : List Char} (hfirst : Copied first)
    (hsecond : Copied second) : Copied (first ++ second) := by
  intro quoted sql text names h
  rw [List.append_assoc, List.append_assoc]
  exact hfirst _ _ _ _ (hsecond _ _ _ _ h)

/-- The character is none of those that the scan treats in a way of their own. -/
def isPlain (c : Char) : Bool := c != ':' && c != '?' && c != '"'

theorem Copied.of_plain (part : List Char) (hpart : part.all isPlain = true) : Copied part := by
  intro quoted sql text names h
  induction part with
  | nil => exact h
  | cons c part ih =>
      simp only [List.all_cons, isPlain, Bool.and_eq_true, bne_iff_ne] at hpart
      obtain ⟨⟨⟨hcolon, hmark⟩, hquote⟩, hothers⟩ := hpart
      -- not a quote, so the scan stays on its side of the quotes
      refine Marks.char hcolon hmark ?_
      rw [if_neg hquote]
      exact ih hothers

theorem Copied.flatMap {parts : List (List Char)} {mark : List Char} (hmark : Copied mark)
    (hparts : ∀ part ∈ parts, Copied part) : Copied (parts.flatMap fun part => mark ++ part) := by
  induction parts with
  | nil => exact Copied.nil
  | cons part parts ih =>
      rw [List.flatMap_cons]
      exact (hmark.append (hparts part (List.mem_cons_self ..))).append
        (ih fun other hother => hparts other (List.mem_cons_of_mem _ hother))

theorem Copied.clauseText {parts : List (List Char)} {mark separator : List Char}
    (hmark : Copied mark) (hseparator : Copied separator) (hparts : ∀ part ∈ parts, Copied part) :
    Copied (clauseText mark separator parts) := by
  cases parts with
  | nil => exact Copied.nil
  | cons part parts =>
      rw [clauseText_cons]
      exact hmark.append ((hparts part (List.mem_cons_self ..)).append
        (Copied.flatMap hseparator fun other hother =>
          hparts other (List.mem_cons_of_mem _ hother)))

/-- Between its quotes an identifier has nothing that the scan would stop at. -/
theorem Copied.quoted (identifier : Identifier) : Copied identifier.quoted := by
  -- identifier characters are none of the three marks
  have hword : Copied identifier.text := by
    refine Copied.of_plain _ (List.all_eq_true.mpr fun c hmem => ?_)
    have hsafe := identifier.safe c hmem
    simp only [isPlain, Bool.and_eq_true, bne_iff_ne]
    refine ⟨⟨?_, ?_⟩, ?_⟩ <;> (rintro rfl; exact absurd hsafe (by decide))
  -- the quote in front turns the state of the scan, and the one behind turns it back
  intro quoted sql text names h
  have hclosing : Marks (!quoted) ('"' :: sql) ('"' :: text) names :=
    Marks.char (by decide) (by decide) (by simpa using h)
  have hopening : Marks quoted ('"' :: (identifier.text ++ '"' :: sql))
      ('"' :: (identifier.text ++ '"' :: text)) names :=
    Marks.char (by decide) (by decide) (by simpa using hword _ _ _ _ hclosing)
  simpa [Identifier.quoted] using hopening

theorem Copied.aggregateCall (call : AggregateCall) : Copied call.write := by
  cases call with
  | countAll => exact Copied.of_plain _ (by decide)
  | apply function column =>
      have hopening : Copied function.opening := by
        cases function <;> exact Copied.of_plain _ (by decide)
      rw [AggregateCall.write_apply]
      exact hopening.append ((Copied.quoted column).append (Copied.of_plain _ (by decide)))

theorem Copied.selectItem (item : SelectItem) : Copied item.write := by
  cases item with
  | column name => exact Copied.quoted name
  | aggregate call label =>
      exact ((Copied.aggregateCall call).append (Copied.of_plain _ (by decide))).append
        (Copied.quoted label)

theorem Copied.joinBody (join : Join) : Copied join.body := by
  have hdot : ∀ column : Identifier, Copied ('.' :: column.quoted) := fun column =>
    (Copied.of_plain ['.'] (by decide)).append (Copied.quoted column)
  have hright : Copied (join.target.quoted ++ '.' :: join.targetColumn.quoted) :=
    (Copied.quoted _).append (hdot _)
  have hleft : Copied (join.source.quoted ++ '.' :: join.sourceColumn.quoted) :=
    (Copied.quoted _).append (hdot _)
  have hbody := (Copied.quoted join.target).append ((Copied.of_plain " ON ".toList
    (by decide)).append (hleft.append ((Copied.of_plain " = ".toList
      (by decide)).append hright)))
  unfold Join.body
  simpa only [List.append_assoc, List.cons_append] using hbody

theorem Copied.orderItem (item : OrderItem) : Copied item.write := by
  have hdirection : Copied (' ' :: item.direction.word.toList) := by
    cases item.direction <;> exact Copied.of_plain _ (by decide)
  exact (Copied.quoted item.column).append hdirection

theorem Copied.operator (operator : Operator) : Copied (' ' :: operator.word.toList) := by
  cases operator with
  | compare comparison => cases comparison <;> exact Copied.of_plain _ (by decide)
  | like ignoresCase => cases ignoresCase <;> exact Copied.of_plain _ (by decide)
  | membership negated => cases negated <;> exact Copied.of_plain _ (by decide)
  | nullTest negated => cases negated <;> exact Copied.of_plain _ (by decide)
  | between => exact Copied.of_plain _ (by decide)

/-! ## Texts with placeholders -/

/-- In front of a text that stops, `sql` with its placeholders is `text` with question marks. -/
def MarkedAs (sql text : List Char) (names : List SlotName) : Prop :=
  ∀ (rest rest' : List Char) (others : List SlotName), Stops rest → Marks false rest rest' others →
    Marks false (sql ++ rest) (text ++ rest') (names ++ others)

theorem MarkedAs.of_copied {part : List Char} (hpart : Copied part) : MarkedAs part part [] :=
  fun _ _ _ _ h => hpart _ _ _ _ h

theorem MarkedAs.slot (name : SlotName) : MarkedAs name.write ['?'] [name] :=
  fun _ _ _ hstops h => Marks.slot hstops h

theorem MarkedAs.copied_append {part sql text : List Char} {names : List SlotName}
    (hpart : Copied part) (h : MarkedAs sql text names) :
    MarkedAs (part ++ sql) (part ++ text) names := by
  intro rest rest' others hstops hrest
  rw [List.append_assoc, List.append_assoc]
  exact hpart _ _ _ _ (h rest rest' others hstops hrest)

/-- Behind a text with placeholders comes one that stops. -/
theorem MarkedAs.append {sql text sql' text' : List Char} {names names' : List SlotName}
    (hfirst : MarkedAs sql text names) (hsecond : MarkedAs sql' text' names')
    (hstops : ∀ rest, Stops rest → Stops (sql' ++ rest)) :
    MarkedAs (sql ++ sql') (text ++ text') (names ++ names') := by
  intro rest rest' others hrest h
  rw [List.append_assoc, List.append_assoc, List.append_assoc]
  exact hfirst _ _ _ (hstops rest hrest) (hsecond rest rest' others hrest h)

section Lists

variable {α : Type} {write writeMarked : α → List Char} {names : α → List SlotName}

theorem stops_flatMap_append {separator : List Char}
    (hseparator : ∀ rest, Stops (separator ++ rest)) (values : List α)
    {rest : List Char} (hrest : Stops rest) :
    Stops ((values.flatMap fun value => separator ++ write value) ++ rest) := by
  cases values with
  | nil => exact hrest
  | cons value values =>
      rw [List.flatMap_cons, List.append_assoc, List.append_assoc]
      exact hseparator _

theorem stops_clauseText_append {mark : List Char} (hmark : ∀ rest, Stops (mark ++ rest))
    (separator : List Char) (parts : List (List Char)) {rest : List Char} (hrest : Stops rest) :
    Stops (clauseText mark separator parts ++ rest) := by
  cases parts with
  | nil => exact hrest
  | cons part parts =>
      rw [clauseText_cons, List.append_assoc]
      exact hmark _

theorem MarkedAs.flatMap {separator : List Char} (hcopied : Copied separator)
    (hseparator : ∀ rest, Stops (separator ++ rest)) {values : List α}
    (hvalues : ∀ value ∈ values, MarkedAs (write value) (writeMarked value) (names value)) :
    MarkedAs (values.flatMap fun value => separator ++ write value)
      (values.flatMap fun value => separator ++ writeMarked value) (values.flatMap names) := by
  induction values with
  | nil => exact MarkedAs.of_copied Copied.nil
  | cons value values ih =>
      have hvalue := hvalues value (List.mem_cons_self ..)
      have hothers := ih fun other hother => hvalues other (List.mem_cons_of_mem _ hother)
      exact (MarkedAs.copied_append hcopied hvalue).append hothers
        fun rest hrest => stops_flatMap_append hseparator values hrest

theorem MarkedAs.intercalate {separator : List Char} (hcopied : Copied separator)
    (hseparator : ∀ rest, Stops (separator ++ rest)) {values : List α}
    (hvalues : ∀ value ∈ values, MarkedAs (write value) (writeMarked value) (names value)) :
    MarkedAs (separator.intercalate (values.map write))
      (separator.intercalate (values.map writeMarked)) (values.flatMap names) := by
  cases values with
  | nil => exact MarkedAs.of_copied Copied.nil
  | cons value values =>
      rw [List.map_cons, List.map_cons, intercalate_cons_eq, intercalate_cons_eq, List.flatMap_map,
        List.flatMap_map]
      have hothers := MarkedAs.flatMap hcopied hseparator
        fun other hother => hvalues other (List.mem_cons_of_mem _ hother)
      exact (hvalues value (List.mem_cons_self ..)).append hothers
        fun rest hrest => stops_flatMap_append hseparator values hrest

theorem MarkedAs.clauseText {mark separator : List Char} (hmark : Copied mark)
    (hcopied : Copied separator) (hseparator : ∀ rest, Stops (separator ++ rest)) {values : List α}
    (hvalues : ∀ value ∈ values, MarkedAs (write value) (writeMarked value) (names value)) :
    MarkedAs (clauseText mark separator (values.map write))
      (clauseText mark separator (values.map writeMarked)) (values.flatMap names) := by
  cases values with
  | nil => exact MarkedAs.of_copied Copied.nil
  | cons value values =>
      exact MarkedAs.copied_append hmark (MarkedAs.intercalate hcopied hseparator hvalues)

end Lists

/-! ## Statements -/

section Statements

variable {σ : Type} (name : σ → SlotName)

/-- A question mark for any slot. -/
def questionMark : σ → List Char := fun _ => ['?']

theorem Condition.markedAs_operands (condition : Condition σ) :
    MarkedAs (condition.writeOperands fun slot => (name slot).write)
      (condition.writeOperands questionMark) (condition.slots.map name) := by
  have hblank : Copied [' '] := Copied.of_plain _ (by decide)
  cases condition with
  | nullTest column negated => exact MarkedAs.of_copied Copied.nil
  | like column ignoresCase pattern =>
      exact MarkedAs.copied_append hblank (MarkedAs.slot (name pattern))
  | compare column comparison value =>
      exact MarkedAs.copied_append hblank (MarkedAs.slot (name value))
  | between column low high =>
      have hand : Copied " AND ".toList := Copied.of_plain _ (by decide)
      have hhigh := MarkedAs.copied_append hand (MarkedAs.slot (name high))
      -- the first name ends at the blank of the word between the bounds
      have hbounds := (MarkedAs.slot (name low)).append hhigh fun rest _ => by
        show Stops (' ' :: _)
        exact stops_cons.mpr (by decide)
      have h := MarkedAs.copied_append hblank hbounds
      simpa only [writeOperands, slots, questionMark, List.append_assoc, List.map_cons,
        List.map_nil, List.cons_append, List.nil_append] using h
  | membership column negated members =>
      have hmembers : MarkedAs (", ".toList.intercalate (members.map fun slot => (name slot).write))
          (", ".toList.intercalate (members.map questionMark))
          (members.flatMap fun slot => [name slot]) :=
        MarkedAs.intercalate (Copied.of_plain _ (by decide))
          (fun rest => stops_cons.mpr (by decide)) fun slot _ => MarkedAs.slot (name slot)
      have hopening : Copied " (".toList := Copied.of_plain _ (by decide)
      have hclosing : Copied [')'] := Copied.of_plain _ (by decide)
      -- the last name of the list ends at the bracket
      have hclosed := hmembers.append (MarkedAs.of_copied hclosing) fun rest _ =>
        stops_cons.mpr (by decide)
      have h := MarkedAs.copied_append hopening hclosed
      rw [List.append_nil, ← List.map_eq_flatMap] at h
      simpa only [writeOperands, slots, List.append_assoc] using h

theorem Condition.markedAs (condition : Condition σ) :
    MarkedAs (condition.write fun slot => (name slot).write) (condition.write questionMark)
      (condition.slots.map name) := by
  have hleft : Copied (condition.column.quoted ++ ' ' :: condition.operator.word.toList) :=
    (Copied.quoted _).append (Copied.operator _)
  have h := MarkedAs.copied_append hleft (condition.markedAs_operands name)
  simpa only [write, List.append_assoc, List.cons_append] using h

theorem Copied.itemsText (writeSlot : σ → List Char) (statement : Statement σ) :
    Copied (statement.parts writeSlot).itemsText := by
  rw [Statement.itemsText_parts]
  cases statement.items with
  -- nothing selected is written as a star
  | nil => exact Copied.of_plain ['*'] (by decide)
  | cons item items =>
      show Copied (", ".toList.intercalate ((item :: items).map SelectItem.write))
      rw [List.map_cons, intercalate_cons_eq]
      refine (Copied.selectItem item).append (Copied.flatMap (Copied.of_plain _ (by decide)) ?_)
      intro part hpart
      obtain ⟨other, -, rfl⟩ := List.mem_map.mp hpart
      exact Copied.selectItem other

theorem Copied.joinsText (writeSlot : σ → List Char) (statement : Statement σ) :
    Copied (statement.parts writeSlot).joinsText := by
  refine Copied.flatMap (Copied.of_plain _ (by decide)) ?_
  intro part hpart
  obtain ⟨join, -, rfl⟩ := List.mem_map.mp hpart
  exact Copied.joinBody join

theorem Copied.groupText (writeSlot : σ → List Char) (statement : Statement σ) :
    Copied (statement.parts writeSlot).groupText := by
  refine Copied.clauseText (Copied.of_plain _ (by decide)) (Copied.of_plain _ (by decide)) ?_
  intro part hpart
  obtain ⟨column, -, rfl⟩ := List.mem_map.mp hpart
  exact Copied.quoted column

theorem Copied.orderText (writeSlot : σ → List Char) (statement : Statement σ) :
    Copied (statement.parts writeSlot).orderText := by
  refine Copied.clauseText (Copied.of_plain _ (by decide)) (Copied.of_plain _ (by decide)) ?_
  intro part hpart
  obtain ⟨item, -, rfl⟩ := List.mem_map.mp hpart
  exact Copied.orderItem item

theorem Statement.markedAs_whereText (statement : Statement σ) :
    MarkedAs (statement.parts fun slot => (name slot).write).whereText
      (statement.parts questionMark).whereText
      ((statement.conditions.flatMap Condition.slots).map name) := by
  rw [List.map_flatMap]
  exact MarkedAs.clauseText (Copied.of_plain _ (by decide)) (Copied.of_plain _ (by decide))
    (fun rest => stops_cons.mpr (by decide)) fun condition _ => condition.markedAs name

theorem Statement.marks_limitText (statement : Statement σ) :
    Marks false (statement.parts fun slot => (name slot).write).limitText
      (statement.parts questionMark).limitText (statement.limit.toList.map name) := by
  unfold Parts.limitText Statement.parts
  cases statement.limit with
  | none => exact Marks.nil
  | some slot =>
      have hslot : Marks false ((name slot).write ++ []) ('?' :: []) [name slot] :=
        Marks.slot stops_nil Marks.nil
      rw [List.append_nil] at hslot
      exact Copied.of_plain "\nLIMIT ".toList (by decide) _ _ _ _ hslot

/-- Each clause begins on a new line. -/
theorem Parts.stops_limitText (parts : Parts) : Stops parts.limitText := by
  unfold Parts.limitText
  cases parts.limit with
  | none => exact stops_nil
  | some slot => exact stops_cons.mpr (by decide)

/-- **A statement with its placeholders and with question marks.** -/
theorem Statement.marks (statement : Statement σ) :
    Marks false (statement.write fun slot => (name slot).write) (statement.write questionMark)
      (statement.slots.map name) := by
  -- from the last clause to the first: what a name ends at is the text behind it
  have hline : ∀ rest : List Char, Stops ('\n' :: rest) := fun rest => stops_cons.mpr (by decide)
  have hlater := Copied.groupText questionMark statement _ _ _ _
    (Copied.orderText questionMark statement _ _ _ _ (statement.marks_limitText name))
  have hstops : Stops ((statement.parts questionMark).groupText ++
      ((statement.parts questionMark).orderText ++
        (statement.parts fun slot => (name slot).write).limitText)) :=
    stops_clauseText_append (fun rest => hline _) _ _
      (stops_clauseText_append (fun rest => hline _) _ _ (Parts.stops_limitText _))
  have hconditions := statement.markedAs_whereText name _ _ _ hstops hlater
  have htables := (Copied.quoted statement.anchor).append
    (Copied.joinsText questionMark statement) _ _ _ _ hconditions
  have hfrom := Copied.of_plain "\nFROM ".toList (by decide) _ _ _ _ htables
  have hselect := Copied.of_plain "SELECT ".toList (by decide) _ _ _ _
    (Copied.itemsText questionMark statement _ _ _ _ hfrom)
  rw [List.append_assoc, List.append_assoc] at hselect
  unfold Statement.slots
  rw [Statement.write_eq_text, Statement.write_eq_text, List.map_append]
  exact hselect

end Statements

/-! ## Generated queries -/

section Generated

variable (defaultDateColumn : String) (intent : Intent) (tables : TableClause)

/-- The names in the text of a generated query. -/
def slotNames : List SlotName :=
  (planOver defaultDateColumn intent tables).slots.map fun binding => binding.placeholder.slotName

theorem slotNames_nodup : (slotNames defaultDateColumn intent tables).Nodup := by
  have h := slots_placeholders_nodup defaultDateColumn intent tables
  -- different placeholders have different names, also across the stems
  have hmap : slotNames defaultDateColumn intent tables =
      ((planOver defaultDateColumn intent tables).slots.map Binding.placeholder).map
        Placeholder.slotName := by
    rw [List.map_map]
    rfl
  rw [hmap]
  exact h.map fun _ _ heq => Placeholder.slotName_injective heq

theorem marks_queryOver :
    Marks false (queryOver defaultDateColumn intent tables).sql.toList
      ((planOver defaultDateColumn intent tables).write questionMark)
      (slotNames defaultDateColumn intent tables) := by
  have h := (planOver defaultDateColumn intent tables).marks
    fun binding => binding.placeholder.slotName
  unfold queryOver Plan.sql slotNames
  rw [String.toList_ofList]
  exact h

/-- The parameters before they are put into order. -/
def parameterPairs : List (String × Json) :=
  (planOver defaultDateColumn intent tables).slots.map
    fun binding => (binding.placeholder.name, binding.value)

theorem parameterPairs_names :
    (parameterPairs defaultDateColumn intent tables).map Prod.fst =
      (slotNames defaultDateColumn intent tables).map SlotName.key := by
  unfold parameterPairs slotNames
  rw [List.map_map, List.map_map]
  rfl

theorem parameterPairs_nodup :
    ((parameterPairs defaultDateColumn intent tables).map Prod.fst).Nodup := by
  rw [parameterPairs_names]
  exact (slotNames_nodup defaultDateColumn intent tables).map
    fun _ _ heq => SlotName.key_injective heq

/-- A slot finds its value under the name of its placeholder. -/
theorem get?_of_mem_slots {binding : Binding}
    (h : binding ∈ (planOver defaultDateColumn intent tables).slots) :
    (queryOver defaultDateColumn intent tables).parameters.get? binding.placeholder.name =
      some binding.value := by
  have hpair : (binding.placeholder.name, binding.value) ∈
      parameterPairs defaultDateColumn intent tables := List.mem_map_of_mem h
  exact Fields.get?_ofList (parameterPairs_nodup defaultDateColumn intent tables) hpair

/-- Every name of a generated query has its value among the parameters. -/
theorem get?_parameters :
    (slotNames defaultDateColumn intent tables).map
        (fun name => (queryOver defaultDateColumn intent tables).parameters.get? name.key) =
      (boundValues intent).map some := by
  rw [← slots_values defaultDateColumn intent tables, slotNames, List.map_map, List.map_map]
  exact List.map_congr_left fun _ hmem => get?_of_mem_slots defaultDateColumn intent tables hmem

theorem parameters_perm :
    (queryOver defaultDateColumn intent tables).parameters.Perm
      (parameterPairs defaultDateColumn intent tables) :=
  Fields.ofList_perm (parameterPairs_nodup defaultDateColumn intent tables)

end Generated

/-- **Binding a generated query.**  The binder succeeds on every generated query.  Its arguments are
the values of the intent in order, its text is that of the query with a question mark for each
placeholder and has no other question mark, and each parameter stands at exactly one of them. -/
theorem bindNames_generate {defaultDateColumn : String} {intent : Intent} {schema : Schema}
    {query : Query} (h : generate defaultDateColumn intent schema = .ok query) :
    ∃ (text : String) (names : List SlotName),
      bindNames query.sql query.parameters =
          .ok (text, (boundValues intent).map Argument.ofJson) ∧
        Marks false query.sql.toList text.toList names ∧
        text.toList.count '?' = (boundValues intent).length ∧
        names.map (fun name => query.parameters.get? name.key) = (boundValues intent).map some ∧
        names.Nodup ∧
        (names.map SlotName.key).Perm query.parameters.keys ∧
        query.parameters.length = (boundValues intent).length := by
  obtain ⟨tables, -, rfl⟩ := exists_tables_of_generate h
  have hmarks := marks_queryOver defaultDateColumn intent tables
  have hvalues := get?_parameters defaultDateColumn intent tables
  have hperm := parameters_perm defaultDateColumn intent tables
  -- one name for each value, since the lookups of the names are the values
  have hcount :
      (slotNames defaultDateColumn intent tables).length = (boundValues intent).length := by
    simpa using congrArg List.length hvalues
  -- putting the parameters into order loses none of them, as their names differ
  have hkeys : (queryOver defaultDateColumn intent tables).parameters.keys.Perm
      ((slotNames defaultDateColumn intent tables).map SlotName.key) := by
    rw [← parameterPairs_names]
    exact hperm.map Prod.fst
  refine ⟨String.ofList ((planOver defaultDateColumn intent tables).write questionMark),
    slotNames defaultDateColumn intent tables, ?_, ?_, ?_, hvalues,
    slotNames_nodup defaultDateColumn intent tables, hkeys.symm, ?_⟩
  · rw [bindNames_eq_map, bindFrom_of_marks hmarks hvalues]
    rfl
  · rwa [String.toList_ofList]
  · rw [String.toList_ofList, hmarks.count_eq_length, hcount]
  · rw [← hcount, ← List.length_map SlotName.key, ← hkeys.length_eq]
    exact (List.length_map Prod.fst).symm

/-- Binding the query of a sample intent: the dropped filters leave no argument behind. -/
theorem bindNames_orders :
    ∃ query, generate "fecha" ordersIntent ordersSchema = .ok query ∧
      ∃ text names,
        bindNames query.sql query.parameters =
            .ok (text, [.text "open", .text "late", .text "%:f_9?%", .bigint 1, .bigint 9,
              .text "2024-01-01", .text "2024-12-31", .bigint 10]) ∧
          Marks false query.sql.toList text.toList names := by
  obtain ⟨query, hquery⟩ : ∃ query, generate "fecha" ordersIntent ordersSchema = .ok query :=
    ⟨_, rfl⟩
  obtain ⟨text, names, hbound, hmarks, -⟩ := bindNames_generate hquery
  have hvalues : (boundValues ordersIntent).map Argument.ofJson =
      [.text "open", .text "late", .text "%:f_9?%", .bigint 1, .bigint 9,
        .text "2024-01-01", .text "2024-12-31", .bigint 10] := by decide
  rw [hvalues] at hbound
  exact ⟨query, hquery, text, names, hbound, hmarks⟩

end PlainQuery.Sql
