import PlainQuery.Json.Basic

/-!
# Equality of documents

Documents are compared member by member (`same`), so that an equation between two of them is
decidable and what is read off a text can be checked by evaluation.  Lists and objects hold
documents again, so there are three functions, one for each of the nested types, and `same_iff` is
proved together with its two siblings, along the same recursion.
-/

namespace PlainQuery.Json

mutual

/-- The two documents are the same. -/
def same : Json → Json → Bool
  | .null, .null => true
  | .bool value, .bool other => value == other
  | .number value, .number other => value == other
  | .string value, .string other => value == other
  | .array items, .array others => sameItems items others
  | .object members, .object others => sameMembers members others
  | _, _ => false

def sameItems : List Json → List Json → Bool
  | [], [] => true
  | item :: items, other :: others => same item other && sameItems items others
  | _, _ => false

def sameMembers : List (String × Json) → List (String × Json) → Bool
  | [], [] => true
  | (key, value) :: members, (name, other) :: others =>
    key == name && same value other && sameMembers members others
  | _, _ => false

end

mutual

theorem same_iff : (first second : Json) → (same first second = true ↔ first = second)
  | .null, second => by cases second <;> simp [same]
  | .bool _, second => by cases second <;> simp [same]
  | .number _, second => by cases second <;> simp [same]
  | .string _, second => by cases second <;> simp [same]
  | .array items, second => by cases second <;> simp [same, sameItems_iff items]
  | .object members, second => by cases second <;> simp [same, sameMembers_iff members]

theorem sameItems_iff :
    (items others : List Json) → (sameItems items others = true ↔ items = others)
  | [], others => by cases others <;> simp [sameItems]
  | item :: items, others => by
      cases others <;> simp [sameItems, same_iff item, sameItems_iff items]

theorem sameMembers_iff :
    (members others : List (String × Json)) → (sameMembers members others = true ↔ members = others)
  | [], others => by cases others <;> simp [sameMembers]
  | (key, value) :: members, others => by
      cases others with
      | nil => simp [sameMembers]
      | cons other others =>
          obtain ⟨name, other⟩ := other
          simp [sameMembers, same_iff value, sameMembers_iff members]

end

instance : DecidableEq Json := fun first second =>
  decidable_of_iff (same first second = true) (same_iff first second)

end PlainQuery.Json
