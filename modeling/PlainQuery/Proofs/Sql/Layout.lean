import PlainQuery.Sql.Statement

/-!
# The layout of a statement

`Statement.write` joins lines, and leaves out the lines of clauses that have no parts.  For reading
and scanning a text it is better to have it as one concatenation, each clause with the line break in
front of it:

```text
SELECT  itemsText  ⏎FROM  anchor  joinsText  whereText  groupText  orderText  limitText
```

`Parts.text` is that concatenation, made from the texts of the parts, where a clause without parts
is the empty text (`clauseText`).  `Statement.write_eq_text` says that it is the same text.  The
reason is that a list with separators is its first part and then each other part behind a separator
(`intercalate_cons_eq`), which is used for the lines and inside of each of them.

The slots of a statement are written by a function that is passed along, so a statement with other
slots has the same text but for what is written for the slots (`Statement.write_map`).
-/

namespace PlainQuery.Sql

/-- A list with separators is its first part, then each other part behind a separator. -/
theorem intercalate_cons_eq (separator part : List Char) (parts : List (List Char)) :
    separator.intercalate (part :: parts) =
      part ++ parts.flatMap fun other => separator ++ other := by
  induction parts generalizing part with
  | nil => simp
  | cons other parts ih =>
      rw [List.intercalate_cons_cons, ih, List.flatMap_cons]
      simp only [List.append_assoc]

/-- A clause behind its mark, nothing if it has no parts. -/
def clauseText (mark separator : List Char) (parts : List (List Char)) : List Char :=
  if parts.isEmpty then [] else mark ++ separator.intercalate parts

@[simp] theorem clauseText_nil (mark separator : List Char) : clauseText mark separator [] = [] :=
  rfl

@[simp] theorem clauseText_cons (mark separator part : List Char) (parts : List (List Char)) :
    clauseText mark separator (part :: parts) =
      mark ++ (part ++ parts.flatMap fun other => separator ++ other) := by
  rw [← intercalate_cons_eq]
  rfl

/-- The texts of the parts of a statement. -/
structure Parts where
  items : List (List Char)
  anchor : List Char
  /-- The joins without their first words. -/
  joins : List (List Char)
  conditions : List (List Char)
  groupBy : List (List Char)
  orderBy : List (List Char)
  limit : Option (List Char)

namespace Parts

/-- The columns of the result; a star stands for all. -/
def itemsText (parts : Parts) : List Char :=
  if parts.items.isEmpty then ['*'] else ", ".toList.intercalate parts.items

/-- The tables behind the anchor. -/
def joinsText (parts : Parts) : List Char :=
  parts.joins.flatMap fun join => " LEFT JOIN ".toList ++ join

/-- The limit, if there is one. -/
def limitText (parts : Parts) : List Char :=
  match parts.limit with
  | none => []
  | some slot => "\nLIMIT ".toList ++ slot

def whereText (parts : Parts) : List Char :=
  clauseText "\nWHERE ".toList " AND ".toList parts.conditions

def groupText (parts : Parts) : List Char :=
  clauseText "\nGROUP BY ".toList ", ".toList parts.groupBy

def orderText (parts : Parts) : List Char :=
  clauseText "\nORDER BY ".toList ", ".toList parts.orderBy

/-- The text that the parts make up. -/
def text (parts : Parts) : List Char :=
  "SELECT ".toList ++ (parts.itemsText ++ ("\nFROM ".toList ++ (parts.anchor ++ (parts.joinsText ++
    (parts.whereText ++ (parts.groupText ++ (parts.orderText ++ parts.limitText)))))))

end Parts

/-- What stands in front of the column in a call. -/
def AggregateFunction.opening : AggregateFunction → List Char
  | .countDistinct => "COUNT(DISTINCT ".toList
  | function => function.word.toList ++ ['(']

theorem AggregateCall.write_apply (function : AggregateFunction) (column : Identifier) :
    (apply function column).write = function.opening ++ (column.quoted ++ [')']) := by
  cases function with
  | countDistinct => exact List.append_assoc _ _ _
  | _ => exact (List.append_assoc _ ['('] _).symm

/-- The text of a join behind its first words. -/
def Join.body (join : Join) : List Char :=
  join.target.quoted ++ (" ON ".toList ++ (join.source.quoted ++ ('.' ::
    (join.sourceColumn.quoted ++ (" = ".toList ++ (join.target.quoted ++ ('.' ::
      join.targetColumn.quoted)))))))

theorem Join.write_eq_body (join : Join) : join.write = "LEFT JOIN ".toList ++ join.body := by
  unfold Join.write Join.body
  simp only [List.append_assoc]

theorem Condition.slots_map {σ τ : Type} (change : σ → τ) (condition : Condition σ) :
    (condition.map change).slots = condition.slots.map change := by
  cases condition <;> rfl

namespace Statement

variable {σ : Type}

/-- The texts of the parts of a statement. -/
def parts (writeSlot : σ → List Char) (statement : Statement σ) : Parts where
  items := statement.items.map SelectItem.write
  anchor := statement.anchor.quoted
  joins := statement.joins.map Join.body
  conditions := statement.conditions.map (Condition.write writeSlot)
  groupBy := statement.groupBy.map Identifier.quoted
  orderBy := statement.orderBy.map OrderItem.write
  limit := statement.limit.map writeSlot

theorem writeClause_eq_clauseText (word separator : String) (parts : List (List Char)) :
    (writeClause word separator parts).flatMap (fun line => '\n' :: line) =
      clauseText ('\n' :: (word.toList ++ [' '])) separator.toList parts := by
  unfold writeClause clauseText
  cases parts with
  | nil => rfl
  | cons part parts => simp

theorem tables_eq (anchor : Identifier) (joins : List Join) :
    [' '].intercalate (anchor.quoted :: joins.map Join.write) =
      anchor.quoted ++ (joins.map Join.body).flatMap fun join => " LEFT JOIN ".toList ++ join := by
  rw [intercalate_cons_eq, List.flatMap_map, List.flatMap_map]
  -- both sides go over the joins, and each join begins with its first words
  congr 2
  funext join
  rw [Join.write_eq_body]
  rfl

theorem itemsText_parts (writeSlot : σ → List Char) (statement : Statement σ) :
    (statement.parts writeSlot).itemsText =
      if statement.items.isEmpty then ['*']
      else ", ".toList.intercalate (statement.items.map SelectItem.write) := by
  unfold Parts.itemsText parts
  rw [List.isEmpty_map]

theorem limitText_parts (writeSlot : σ → List Char) (statement : Statement σ) :
    (statement.parts writeSlot).limitText =
      (statement.limit.toList.map fun slot => "LIMIT ".toList ++ writeSlot slot).flatMap
        fun line => '\n' :: line := by
  unfold Parts.limitText parts
  cases statement.limit with
  | none => rfl
  | some slot => simp

/-- **The lines of a statement make up its layout.** -/
theorem write_eq_text (writeSlot : σ → List Char) (statement : Statement σ) :
    statement.write writeSlot = (statement.parts writeSlot).text := by
  -- the lines as a list, with the optional ones behind the two that are always there
  have hlines : statement.writeLines writeSlot =
      ("SELECT ".toList ++ (statement.parts writeSlot).itemsText) ::
        ("FROM ".toList ++ [' '].intercalate
          (statement.anchor.quoted :: statement.joins.map Join.write)) ::
        (writeClause "WHERE" " AND " (statement.conditions.map (Condition.write writeSlot)) ++
          (writeClause "GROUP BY" ", " (statement.groupBy.map Identifier.quoted) ++
            (writeClause "ORDER BY" ", " (statement.orderBy.map OrderItem.write) ++
              statement.limit.toList.map fun slot => "LIMIT ".toList ++ writeSlot slot))) := by
    unfold writeLines
    rw [itemsText_parts]
    cases statement.limit <;> simp
  unfold write
  rw [hlines, tables_eq]
  simp only [List.cons_append, List.nil_append, intercalate_cons_eq, List.flatMap_cons,
    List.flatMap_append, List.append_assoc, writeClause_eq_clauseText, ← limitText_parts]
  rfl

/-! ## Other slots -/

variable {τ : Type}

theorem slots_map (change : σ → τ) (statement : Statement σ) :
    (statement.map change).slots = statement.slots.map change := by
  unfold slots map
  rw [List.map_append, List.map_flatMap, List.flatMap_map]
  simp only [Condition.slots_map]
  cases statement.limit <;> rfl

end Statement

theorem Condition.write_map {σ τ : Type} (change : σ → τ) (writeSlot : τ → List Char)
    (condition : Condition σ) :
    (condition.map change).write writeSlot =
      condition.write fun slot => writeSlot (change slot) := by
  cases condition with
  | membership column negated members =>
      simp only [write, map, Condition.column, Condition.operator, writeOperands, List.map_map]
      rfl
  | _ => rfl

/-- With other slots the text is the same, but for what is written for the slots. -/
theorem Statement.write_map {σ τ : Type} (change : σ → τ) (writeSlot : τ → List Char)
    (statement : Statement σ) :
    (statement.map change).write writeSlot =
      statement.write fun slot => writeSlot (change slot) := by
  have hparts : (statement.map change).parts writeSlot =
      statement.parts fun slot => writeSlot (change slot) := by
    unfold parts map
    simp only [List.map_map, Option.map_map]
    congr 1
    exact List.map_congr_left fun condition _ => Condition.write_map change writeSlot condition
  rw [write_eq_text, write_eq_text, hparts]

end PlainQuery.Sql
