import PlainQuery.Sql.Statement

/-!
# Filling slots

`Statement.fill?` puts the values of a list into the slots of a statement, in the order in which the
slots are written.  `Condition.slots_fill?` says that a filled condition holds the values it took.
-/

namespace PlainQuery.Sql

variable {σ τ : Type}

/-- The condition with the first values of the list in its slots, and the other values. -/
def Condition.fill? (values : List τ) : Condition σ → Option (Condition τ × List τ)
  | nullTest column negated => some (.nullTest column negated, values)
  | membership column negated members =>
    if members.length ≤ values.length then
      some (.membership column negated (values.take members.length), values.drop members.length)
    else none
  | like column ignoresCase _ =>
    match values with
    | pattern :: rest => some (.like column ignoresCase pattern, rest)
    | [] => none
  | between column _ _ =>
    match values with
    | low :: high :: rest => some (.between column low high, rest)
    | _ => none
  | compare column comparison _ =>
    match values with
    | value :: rest => some (.compare column comparison value, rest)
    | [] => none

/-- The conditions with the first values of the list in their slots, and the other values. -/
def fillConditions? (values : List τ) :
    List (Condition σ) → Option (List (Condition τ) × List τ)
  | [] => some ([], values)
  | condition :: conditions => do
    let (filled, values) ← condition.fill? values
    let (others, values) ← fillConditions? values conditions
    some (filled :: others, values)

/-- The statement with the values in its slots; there must be as many values as slots. -/
def Statement.fill? (values : List τ) (statement : Statement σ) : Option (Statement τ) := do
  let (conditions, values) ← fillConditions? values statement.conditions
  let limit ← match statement.limit, values with
    | none, [] => some none
    | some _, [value] => some (some value)
    | _, _ => none
  some
    { items := statement.items
      anchor := statement.anchor
      joins := statement.joins
      conditions
      groupBy := statement.groupBy
      orderBy := statement.orderBy
      limit }

/-- The slots of a filled condition are the values that are gone from the list. -/
theorem Condition.slots_fill? {condition : Condition σ} {values rest : List τ}
    {filled : Condition τ} (h : condition.fill? values = some (filled, rest)) :
    filled.slots ++ rest = values := by
  cases condition with
  | nullTest column negated =>
    simp only [fill?, Option.some.injEq, Prod.mk.injEq] at h
    obtain ⟨rfl, rfl⟩ := h
    simp [slots]
  | membership column negated members =>
    simp only [fill?, Option.ite_none_right_eq_some, Option.some.injEq, Prod.mk.injEq] at h
    obtain ⟨_, rfl, rfl⟩ := h
    simp [slots]
  | like column ignoresCase pattern =>
    cases values with
    | nil => simp [fill?] at h
    | cons value values =>
      simp only [fill?, Option.some.injEq, Prod.mk.injEq] at h
      obtain ⟨rfl, rfl⟩ := h
      rfl
  | between column low high =>
    cases values with
    | nil => simp [fill?] at h
    | cons low' values =>
      cases values with
      | nil => simp [fill?] at h
      | cons high' values =>
        simp only [fill?, Option.some.injEq, Prod.mk.injEq] at h
        obtain ⟨rfl, rfl⟩ := h
        rfl
  | compare column comparison value =>
    cases values with
    | nil => simp [fill?] at h
    | cons value values =>
      simp only [fill?, Option.some.injEq, Prod.mk.injEq] at h
      obtain ⟨rfl, rfl⟩ := h
      rfl

end PlainQuery.Sql
