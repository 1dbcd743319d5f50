import PlainQuery.Sql.Placeholder

/-!
# The names of values

In the text of a statement a value stands as `:name`.  A `SlotName` is such a name together with the
reason why it is one: a letter or an underscore, then identifier characters.  A text `Stops` if it
goes on with no identifier character.  A name in front of such a text is read off it in one way only
(`takeWhile_append_of_stops`), which is all that the scans of a statement need to know of names and
of what stands behind them.

Every placeholder of a plan has a slot name (`Placeholder.slotName`).  The texts are made up from a
stem and a number, or are one of three fixed words, so that two placeholders could in principle have
one text; a case analysis on their first letters shows that none do
(`Placeholder.nameChars_injective`, `Placeholder.slotName_injective`).
-/

namespace PlainQuery.Sql

/-- The text goes on with no identifier character. -/
def Stops (text : List Char) : Prop := ∀ c ∈ text.head?, isWordChar c = false

@[simp] theorem stops_nil : Stops [] := by simp [Stops]

@[simp] theorem stops_cons {c : Char} {text : List Char} :
    Stops (c :: text) ↔ isWordChar c = false := by
  simp [Stops]

theorem isWordChar_of_startsName {c : Char} (hc : startsName c = true) : isWordChar c = true := by
  simp only [startsName, Bool.or_eq_true] at hc
  rcases hc with halpha | hunderscore
  · simp [isWordChar, Char.isAlphanum, halpha]
  · simp [isWordChar, hunderscore]

/-- What is in front of a text that stops is all that is taken. -/
theorem takeWhile_append_of_stops {word text : List Char}
    (hword : ∀ c ∈ word, isWordChar c = true) (htext : Stops text) :
    (word ++ text).takeWhile isWordChar = word := by
  -- the word is taken whole, and nothing of the text
  rw [List.takeWhile_append_of_pos hword]
  cases text with
  | nil => simp
  | cons c rest => simp [stops_cons.mp htext]

/-- The name of a value: a letter or an underscore, then identifier characters. -/
structure SlotName where
  text : List Char
  starts : beforeName text = true
  safe : ∀ c ∈ text, isWordChar c = true

namespace SlotName

/-- The name as it stands in a statement. -/
def write (name : SlotName) : List Char := ':' :: name.text

/-- The name as a string. -/
def key (name : SlotName) : String := String.ofList name.text

theorem ext_text {name other : SlotName} (htext : name.text = other.text) : name = other := by
  cases name
  cases other
  simpa using htext

theorem key_injective {name other : SlotName} (hkey : name.key = other.key) : name = other :=
  ext_text (String.ofList_injective hkey)

theorem beforeName_append (name : SlotName) (text : List Char) :
    beforeName (name.text ++ text) = true := by
  have hstarts := name.starts
  cases hname : name.text with
  | nil => rw [hname] at hstarts; simp [beforeName] at hstarts
  | cons c rest => rw [hname] at hstarts; exact hstarts

theorem takeWhile_append (name : SlotName) {text : List Char} (htext : Stops text) :
    (name.text ++ text).takeWhile isWordChar = name.text :=
  takeWhile_append_of_stops name.safe htext

/-- The name that a text begins with. -/
def first (text : List Char) (htext : beforeName text = true) : SlotName where
  text := text.takeWhile isWordChar
  starts := by
    cases text with
    | nil => exact htext
    | cons c rest => rwa [List.takeWhile_cons_of_pos (isWordChar_of_startsName htext)]
  safe := List.all_eq_true.mp List.all_takeWhile

end SlotName

/-! ## Placeholders -/

theorem isWordChar_of_isDigit {c : Char} (hdigit : c.isDigit = true) : isWordChar c = true := by
  simp [isWordChar, Char.isAlphanum, hdigit]

theorem toDigits_injective {m n : Nat} (h : Nat.toDigits 10 m = Nat.toDigits 10 n) : m = n := by
  rw [← Nat.ofDigitChars_ten_toDigits (n := m), h, Nat.ofDigitChars_ten_toDigits]

namespace Placeholder

theorem nameChars_safe (placeholder : Placeholder) :
    ∀ c ∈ placeholder.nameChars, isWordChar c = true := by
  cases placeholder with
  -- a stem of letters and an underscore, then decimal digits
  | numbered stem number =>
      intro c hmem
      rcases List.mem_append.mp hmem with hstem | hdigits
      · have hsafe : (stemText stem).all isWordChar = true := by cases stem <;> decide
        exact List.all_eq_true.mp hsafe c hstem
      · exact isWordChar_of_isDigit
          (Nat.isDigit_of_mem_toDigits (by decide) (by decide) hdigits)
  | dateStart => exact List.all_eq_true.mp (by decide)
  | dateEnd => exact List.all_eq_true.mp (by decide)
  | limit => exact List.all_eq_true.mp (by decide)

theorem beforeName_nameChars (placeholder : Placeholder) :
    beforeName placeholder.nameChars = true := by
  cases placeholder with
  | numbered stem number => cases stem <;> rfl
  | dateStart => rfl
  | dateEnd => rfl
  | limit => rfl

/-- The name that stands for the placeholder. -/
def slotName (placeholder : Placeholder) : SlotName where
  text := placeholder.nameChars
  starts := placeholder.beforeName_nameChars
  safe := placeholder.nameChars_safe

theorem nameChars_member (number : Nat) :
    (numbered .member number).nameChars = 'i' :: 'n' :: '_' :: Nat.toDigits 10 number := rfl

theorem nameChars_pattern (number : Nat) :
    (numbered .pattern number).nameChars =
      'l' :: 'i' :: 'k' :: 'e' :: '_' :: Nat.toDigits 10 number := rfl

theorem nameChars_operand (number : Nat) :
    (numbered .operand number).nameChars = 'f' :: '_' :: Nat.toDigits 10 number := rfl

theorem nameChars_dateStart :
    dateStart.nameChars = ['d', 'a', 't', 'e', '_', 's', 't', 'a', 'r', 't'] := rfl

theorem nameChars_dateEnd : dateEnd.nameChars = ['d', 'a', 't', 'e', '_', 'e', 'n', 'd'] := rfl

theorem nameChars_limit : limit.nameChars = ['l', 'i', 'm', 'i', 't'] := rfl

/-- Different placeholders have different names. -/
theorem nameChars_injective {placeholder other : Placeholder}
    (h : placeholder.nameChars = other.nameChars) : placeholder = other := by
  rcases placeholder with ⟨_ | _ | _, number⟩ | _ | _ | _ <;>
    rcases other with ⟨_ | _ | _, number'⟩ | _ | _ | _
  -- names of one stem differ in their numbers, all others in one of their first letters
  case numbered.member.numbered.member | numbered.pattern.numbered.pattern |
      numbered.operand.numbered.operand =>
    simp only [nameChars_member, nameChars_pattern, nameChars_operand, List.cons.injEq,
      true_and] at h
    rw [toDigits_injective h]
  case dateStart.dateStart | dateEnd.dateEnd | limit.limit => rfl
  all_goals
    simp [nameChars_member, nameChars_pattern, nameChars_operand, nameChars_dateStart,
      nameChars_dateEnd, nameChars_limit] at h

theorem slotName_injective {placeholder other : Placeholder}
    (h : placeholder.slotName = other.slotName) : placeholder = other :=
  nameChars_injective (congrArg SlotName.text h)

end Placeholder

end PlainQuery.Sql
