import PlainQuery.Number.Decimal
import PlainQuery.Proofs.Number.Value
import PlainQuery.Proofs.Result.Grouping

/-!
# Decimal numerals

A `Numeral` is a decimal without exponent: a sign, digits, and more digits behind a point or none.
The structure carries what makes it well-formed, that there is a digit in front of the point and no
zero before other digits.  So a text is the text of one numeral only (`text_injective`): the digits
in front are all digits up to the point or the end, and no digit is a sign.

Numbers that are written with fixed places give numerals.  `Numeral.fixed` has a number of units of
the last place, `text_fixed` says that its text is what is written, and `value_fixed` that its value
is that number of units.  The padding in front of a small number is where a zero could come in:
`take_paddedDigits_of_head?` says that it is left alone then.

Putting the whole digits in groups adds commas to the text and nothing else (`filter_grouped`), and
what the text begins with stays the same (`head?_grouped`).
-/

namespace PlainQuery.Display

open Number (signed ofDigits paddedDigits pointed)

/-- A decimal numeral, digit by digit. -/
@[ext]
structure Numeral where
  negative : Bool
  /-- The digits in front of the point. -/
  whole : List Char
  /-- The digits behind the point, which is left out if there are none. -/
  fraction : List Char
  whole_ne_nil : whole ≠ []
  isDigit : ∀ c ∈ whole ++ fraction, c.isDigit = true
  /-- Only a zero by itself has one in front. -/
  eq_zero_of_head : whole.head? = some '0' → whole = ['0']

namespace Numeral

/-- The point and the digits behind it. -/
def tail (numeral : Numeral) : List Char :=
  if numeral.fraction.isEmpty then [] else '.' :: numeral.fraction

/-- The numeral as it is written. -/
def text (numeral : Numeral) : List Char :=
  sign numeral.negative ++ (numeral.whole ++ numeral.tail)

/-- The numeral with its whole digits in groups. -/
def grouped (numeral : Numeral) : List Char :=
  sign numeral.negative ++ (groupDigits numeral.whole ++ numeral.tail)

/-- The number that is written. -/
def value (numeral : Numeral) : ℚ :=
  signed numeral.negative
    (ofDigits (numeral.whole ++ numeral.fraction) / 10 ^ numeral.fraction.length)

variable {numeral other : Numeral} {c : Char}

theorem isDigit_whole (hc : c ∈ numeral.whole) : c.isDigit = true :=
  numeral.isDigit c (List.mem_append_left _ hc)

theorem isDigit_fraction (hc : c ∈ numeral.fraction) : c.isDigit = true :=
  numeral.isDigit c (List.mem_append_right _ hc)

theorem tail_cases (numeral : Numeral) :
    numeral.tail = [] ∨ ∃ places, numeral.tail = '.' :: places := by
  unfold tail
  split
  · exact .inl rfl
  · exact .inr ⟨_, rfl⟩

/-! ## The text tells the numeral -/

theorem takeWhile_whole (numeral : Numeral) :
    (numeral.whole ++ numeral.tail).takeWhile Char.isDigit = numeral.whole := by
  rw [List.takeWhile_append_of_pos fun c hc => isDigit_whole hc]
  rcases numeral.tail_cases with htail | ⟨places, htail⟩ <;> rw [htail] <;> simp

theorem fraction_eq (numeral : Numeral) : numeral.fraction = numeral.tail.drop 1 := by
  unfold tail
  split
  · exact List.isEmpty_iff.mp ‹_›
  · rfl

theorem head?_whole_append (numeral : Numeral) (rest : List Char) :
    (numeral.whole ++ rest).head? ≠ some '-' := by
  intro hhead
  rw [List.head?_append_of_ne_nil _ numeral.whole_ne_nil] at hhead
  exact absurd (isDigit_whole (List.mem_of_head? hhead)) (by decide)

theorem text_injective (h : numeral.text = other.text) : numeral = other := by
  have hnegative : numeral.negative = other.negative := by
    rw [Bool.eq_iff_iff, ← head?_sign_append _ (numeral.head?_whole_append _),
      ← head?_sign_append _ (other.head?_whole_append _)]
    exact iff_of_eq (congrArg (·.head? = some '-') h)
  unfold text at h
  rw [hnegative, List.append_cancel_left_eq] at h
  have hwhole : numeral.whole = other.whole := by
    rw [← numeral.takeWhile_whole, h, other.takeWhile_whole]
  rw [hwhole, List.append_cancel_left_eq] at h
  exact Numeral.ext hnegative hwhole (by rw [numeral.fraction_eq, h, ← other.fraction_eq])

/-! ## Groups -/

theorem groupThousands_text (numeral : Numeral) : groupThousands numeral.text = numeral.grouped :=
  groupThousands_append _ (fun _ hc => isDigit_whole hc) numeral.tail_cases

/-- A comma is no part of a numeral. -/
theorem filter_eq_self {digits : List Char} (hdigits : ∀ c ∈ digits, c.isDigit = true) :
    digits.filter (· ≠ ',') = digits := by
  refine List.filter_eq_self.mpr fun c hc => decide_eq_true ?_
  rintro rfl
  exact absurd (hdigits ',' hc) (by decide)

theorem filter_tail (numeral : Numeral) : numeral.tail.filter (· ≠ ',') = numeral.tail := by
  unfold tail
  split
  · rfl
  · rw [List.filter_cons_of_pos (by decide), filter_eq_self fun c hc => isDigit_fraction hc]

theorem filter_grouped (numeral : Numeral) : numeral.grouped.filter (· ≠ ',') = numeral.text := by
  have hcomma : ',' ∉ numeral.whole := fun hmem => absurd (isDigit_whole hmem) (by decide)
  rw [grouped, List.filter_append, List.filter_append, filter_sign, filter_groupDigits hcomma,
    filter_tail, text]

theorem head?_grouped (numeral : Numeral) :
    numeral.grouped.head? = some '-' ↔ numeral.negative = true := by
  refine head?_sign_append _ ?_
  rw [List.head?_append, head?_groupDigits, ← List.head?_append]
  exact numeral.head?_whole_append _

/-! ## Fixed places -/

theorem length_paddedDigits (width n : Nat) :
    (paddedDigits width n).length = max width (Nat.toDigits 10 n).length := by
  rw [paddedDigits, List.length_append, List.length_replicate]
  omega

theorem isDigit_of_mem_paddedDigits {width n : Nat} (hc : c ∈ paddedDigits width n) :
    c.isDigit = true := by
  rcases List.mem_append.mp hc with hzero | hdigit
  · rw [(List.mem_replicate.mp hzero).2]
    rfl
  · exact Nat.isDigit_of_mem_toDigits (by decide) (by decide) hdigit

theorem ofDigits_paddedDigits (width n : Nat) : ofDigits (paddedDigits width n) = n := by
  show Nat.ofDigitChars 10 (paddedDigits width n) 0 = n
  rw [paddedDigits, Nat.ofDigitChars_append, Nat.ofDigitChars_replicate_zero, Nat.mul_zero,
    Nat.ofDigitChars_ten_toDigits]

/-- Only zero is written with a zero in front. -/
theorem toDigits_of_head? {n : Nat} (h : (Nat.toDigits 10 n).head? = some '0') :
    Nat.toDigits 10 n = ['0'] := by
  induction n using Nat.strong_induction_on with
  | _ n ih =>
      rw [Nat.toDigits_eq_if (by decide)] at h ⊢
      split at h
      · rename_i hn
        rw [if_pos hn]
        simpa using h
      · rename_i hn
        rw [List.head?_append_of_ne_nil _ Nat.toDigits_ne_nil] at h
        -- the digits in front are those of a positive number
        have hzero := ih (n / 10) (Nat.div_lt_self (by omega) (by decide)) h
        have hquotient := congrArg (Nat.ofDigitChars 10 · 0) hzero
        rw [Nat.ofDigitChars_ten_toDigits] at hquotient
        have hzero' : n / 10 = 0 := hquotient
        omega

/-- The first digits that padding leaves in front of the places begin with a zero only if they are
one. -/
theorem take_paddedDigits_of_head? {places n : Nat}
    (h : ((paddedDigits (places + 1) n).take
      ((paddedDigits (places + 1) n).length - places)).head? = some '0') :
    (paddedDigits (places + 1) n).take ((paddedDigits (places + 1) n).length - places) = ['0'] := by
  rcases Nat.lt_or_ge (places + 1) (Nat.toDigits 10 n).length with hlong | hshort
  · -- nothing is padded
    have hdigits : paddedDigits (places + 1) n = Nat.toDigits 10 n := by
      rw [paddedDigits, Nat.sub_eq_zero_of_le hlong.le]
      rfl
    rw [hdigits, List.head?_take, if_neg (by omega)] at h
    rw [toDigits_of_head? h, List.length_singleton] at hlong
    omega
  · have hlength : (paddedDigits (places + 1) n).length = places + 1 := by
      rw [length_paddedDigits]
      omega
    rw [hlength, Nat.add_sub_cancel_left] at h ⊢
    cases hdigits : paddedDigits (places + 1) n with
    | nil => rw [hdigits] at hlength; cases hlength
    | cons digit digits =>
        rw [hdigits] at h
        simpa using h

/-- The numeral of so many units of the last place. -/
def fixed (negative : Bool) (places n : Nat) : Numeral where
  negative
  whole := (paddedDigits (places + 1) n).take ((paddedDigits (places + 1) n).length - places)
  fraction := (paddedDigits (places + 1) n).drop ((paddedDigits (places + 1) n).length - places)
  whole_ne_nil := by
    rw [← List.length_pos_iff, List.length_take, length_paddedDigits]
    omega
  isDigit := by
    rw [List.take_append_drop]
    exact fun c hc => isDigit_of_mem_paddedDigits hc
  eq_zero_of_head := take_paddedDigits_of_head?

theorem length_fraction_fixed (negative : Bool) (places n : Nat) :
    (fixed negative places n).fraction.length = places := by
  show (List.drop _ _).length = places
  rw [List.length_drop, length_paddedDigits]
  omega

theorem text_fixed (negative : Bool) (places n : Nat) :
    (fixed negative places n).text = sign negative ++ pointed places n := by
  have htail : (fixed negative places n).tail =
      if places == 0 then [] else '.' :: (fixed negative places n).fraction := by
    have hempty : (fixed negative places n).fraction.isEmpty = (places == 0) := by
      rw [Bool.eq_iff_iff, List.isEmpty_iff_length_eq_zero, length_fraction_fixed, beq_iff_eq]
    rw [tail, hempty]
  rw [text, htail]
  rfl

theorem value_fixed (negative : Bool) (places n : Nat) :
    (fixed negative places n).value = signed negative (n / 10 ^ places) := by
  have hdigits : (fixed negative places n).whole ++ (fixed negative places n).fraction =
      paddedDigits (places + 1) n := List.take_append_drop _ _
  rw [value, hdigits, ofDigits_paddedDigits, length_fraction_fixed]
  rfl

end Numeral

end PlainQuery.Display
