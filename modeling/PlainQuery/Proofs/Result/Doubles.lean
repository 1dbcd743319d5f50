import PlainQuery.Proofs.Result.Numeral

/-!
# Doubles on the display

A finite double is shown as a numeral with its whole digits in groups (`toList_showDouble`).  The
same numeral, `numeralOf`, serves both questions that are asked here: is the number right, and is
its sign?

The number is right.  The numeral of a whole number has no point and is that number
(`value_numeralOf`); every other one has two places and is at most half a hundredth away
(`abs_value_placed_sub_le`).  `ShowsDouble` says so, with the places of the commas, and
`showDouble_shows` adds that it is the only numeral with this text.

The sign is that of the double (`negative_numeralOf`), also where the numeral is rounded to zero.
`numeralOf` takes the sign of a zero away, but it looks at the double and not at what the rounding
has left.  The numeral is strictly negative only from more than half a hundredth below zero on
(`value_numeralOf_lt_zero_iff`).  So a minus sign stands in front of a numeral that is not negative
for the doubles from `-1/200` to below zero, and for no others (`showDouble_minus_iff`);
`minus_vanishing` is one of them.
-/

namespace PlainQuery.Display

open Number (Double Floating BinaryFormat signed roundDiv)

variable {f : BinaryFormat} {x : Double} {shown : List Char} {numeral : Numeral}

/-! ## The numeral of a double -/

/-- The numeral of a finite number with so many places. -/
def placed (negative : Bool) (places : Nat) (x : Floating f) : Numeral :=
  .fixed negative places (roundDiv (x.numerator * 10 ^ places) x.denominator)

theorem text_placed (places : Nat) (x : Floating f) :
    (placed x.negative places x).text = x.fixed places :=
  Numeral.text_fixed _ _ _

theorem value_placed (negative : Bool) (places : Nat) (x : Floating f) :
    (placed negative places x).value =
      signed negative (roundDiv (x.numerator * 10 ^ places) x.denominator / 10 ^ places) :=
  Numeral.value_fixed _ _ _

/-- The numeral is at most half a unit of its last place away. -/
theorem abs_value_placed_sub_le (places : Nat) (x : Floating f) :
    |(placed x.negative places x).value - x.toRat| ≤ 1 / 2 / 10 ^ places := by
  have hpower : (0 : ℚ) < 10 ^ places := by positivity
  have hround := Number.abs_roundDiv_sub_le (x.numerator * 10 ^ places) x.denominator_pos
  rw [value_placed, Floating.toRat_eq, Number.abs_signed_sub]
  push_cast at hround
  calc |(roundDiv (x.numerator * 10 ^ places) x.denominator / 10 ^ places : ℚ)
          - x.numerator / x.denominator|
      = |(roundDiv (x.numerator * 10 ^ places) x.denominator : ℚ)
          - x.numerator * 10 ^ places / x.denominator| / 10 ^ places := by
        rw [← abs_of_pos hpower, ← abs_div, abs_of_pos hpower, sub_div]
        congr 2
        field_simp
    _ ≤ 1 / 2 / 10 ^ places := by gcongr

/-- The numeral of a double as it is shown: zero has no sign. -/
def numeralOf (x : Double) : Numeral :=
  if x.isIntegral then placed (x.negative && !x.isZero) 0 x else placed x.negative 2 x

theorem text_placed_unsigned (x : Floating f) :
    (placed (x.negative && !x.isZero) 0 x).text =
      Floating.fixed 0 (if x.isZero then { x with negative := false } else x) := by
  cases hzero : x.isZero with
  | true =>
      rw [Bool.not_true, Bool.and_false, if_pos rfl]
      exact text_placed 0 { x with negative := false }
  | false =>
      rw [Bool.not_false, Bool.and_true, if_neg (by decide)]
      exact text_placed 0 x

theorem toList_showDouble (hx : x.isFinite = true) :
    (showDouble x).toList = (numeralOf x).grouped := by
  rw [← Numeral.groupThousands_text, numeralOf]
  unfold showDouble
  rw [hx, Bool.not_true, if_neg (by decide)]
  cases x.isIntegral with
  | true =>
      rw [if_pos rfl, if_pos rfl, String.toList_ofList, text_placed_unsigned]
  | false =>
      rw [if_neg (by decide), if_neg (by decide), String.toList_ofList, text_placed]

/-- Without the commas the numeral is left. -/
theorem filter_showDouble (hx : x.isFinite = true) :
    (showDouble x).toList.filter (· ≠ ',') = (numeralOf x).text := by
  rw [toList_showDouble hx, Numeral.filter_grouped]

/-- The sign of the numeral is that of the double. -/
theorem negative_numeralOf (hx : x.isFinite = true) :
    (numeralOf x).negative = true ↔ x.toRat < 0 := by
  rw [Floating.toRat_lt_zero_iff, numeralOf]
  cases hintegral : x.isIntegral with
  | true =>
      show (x.negative && !x.isZero) = true ↔ _
      simp
  | false =>
      show x.negative = true ↔ _
      have hzero : x.isZero = false := by
        by_contra hzero
        rw [Bool.not_eq_false] at hzero
        rw [Floating.isIntegral_of_isZero hx hzero] at hintegral
        cases hintegral
      rw [hzero, and_iff_left rfl]

/-- The numeral of a whole number is that number. -/
theorem value_numeralOf (hx : x.isFinite = true) (hintegral : x.isIntegral = true) :
    (numeralOf x).value = x.toRat := by
  have hdvd : x.denominator ∣ x.numerator := by
    rw [Floating.isIntegral, hx, Bool.true_and, beq_iff_eq] at hintegral
    exact Nat.dvd_of_mod_eq_zero hintegral
  obtain ⟨whole, hwhole⟩ := hdvd
  have hround : roundDiv (x.numerator * 10 ^ 0) x.denominator = whole := by
    rw [hwhole, pow_zero, Nat.mul_one, Nat.mul_comm, Number.roundDiv_mul_self _ x.denominator_pos]
  have hquotient : (x.numerator : ℚ) / x.denominator = whole := by
    rw [hwhole, Nat.cast_mul, mul_div_cancel_left₀ _ x.cast_denominator_pos.ne']
  rw [numeralOf, if_pos hintegral, value_placed, Floating.toRat_eq, hround, hquotient, pow_zero,
    div_one]
  cases hzero : x.isZero with
  | true =>
      rw [← Floating.numerator_eq_zero_iff, hwhole, Nat.mul_eq_zero,
        or_iff_right x.denominator_pos.ne'] at hzero
      rw [hzero, Nat.cast_zero, Number.signed_zero, Number.signed_zero]
  | false => rw [Bool.not_false, Bool.and_true]

/-- The numeral is negative from more than half a hundredth below zero on. -/
theorem value_numeralOf_lt_zero_iff (hx : x.isFinite = true) :
    (numeralOf x).value < 0 ↔ x.toRat < -(1 / 200) := by
  have hden := x.cast_denominator_pos
  cases hintegral : x.isIntegral with
  | true =>
      obtain ⟨n, hn⟩ := (Floating.isIntegral_iff hx).mp hintegral
      rw [value_numeralOf hx hintegral, hn]
      -- a whole number below zero is far from it
      constructor
      · intro hneg
        have hn' : n ≤ -1 := Int.le_sub_one_of_lt (Int.cast_lt_zero.mp hneg)
        have hle : (n : ℚ) ≤ -1 := by exact_mod_cast hn'
        linarith
      · intro hlt
        linarith
  | false =>
      have hunits : (0 : ℚ) < roundDiv (x.numerator * 10 ^ 2) x.denominator / 10 ^ 2 ↔
          (1 / 200 : ℚ) < x.numerator / x.denominator := by
        rw [div_pos_iff_of_pos_right (by positivity), Nat.cast_pos, Nat.pos_iff_ne_zero, Ne,
          Number.roundDiv_eq_zero_iff x.denominator_pos, Nat.not_le,
          div_lt_div_iff₀ (by norm_num) hden, one_mul]
        constructor
        · intro h
          have hlt : (x.denominator : ℚ) < 2 * (x.numerator * 10 ^ 2) := by exact_mod_cast h
          linarith
        · intro h
          have hlt : (x.denominator : ℚ) < 2 * (x.numerator * 10 ^ 2) := by linarith
          exact_mod_cast hlt
      rw [numeralOf, hintegral, if_neg (by decide), value_placed, Floating.toRat_eq,
        Number.signed_lt_zero_iff (by positivity),
        Number.signed_lt_neg_iff (by norm_num) (by positivity), hunits]

/-! ## What is shown -/

/-- The text shows the double as the numeral: exactly if it is whole, and else with two places, to
half a hundredth. -/
structure ShowsDouble (x : Double) (shown : List Char) (numeral : Numeral) : Prop where
  text : shown.filter (· ≠ ',') = numeral.text
  whole : (∃ n : ℤ, x.toRat = n) → numeral.fraction = [] ∧ numeral.value = x.toRat
  places : (¬ ∃ n : ℤ, x.toRat = n) →
    numeral.fraction.length = 2 ∧ |numeral.value - x.toRat| ≤ 1 / 200
  /-- The commas stand between groups of three digits in front of the point. -/
  groups : ∃ first later, IsGrouping numeral.whole first later ∧
    shown = sign numeral.negative ++ ([','].intercalate (first :: later) ++ numeral.tail)

/-- The text shows the double as the numeral, with a minus sign if the double is negative. -/
structure ShowsSign (x : Double) (shown : List Char) (numeral : Numeral) : Prop where
  text : shown.filter (· ≠ ',') = numeral.text
  minus_iff : shown.head? = some '-' ↔ x.toRat < 0
  negative_iff : numeral.value < 0 ↔ x.toRat < -(1 / 200)
  /-- The sign fails to tell for the negative doubles that are rounded to zero. -/
  agrees_iff : (shown.head? = some '-' ↔ numeral.value < 0) ↔
    ¬ (-(1 / 200) ≤ x.toRat ∧ x.toRat < 0)

/-- **Doubles are shown right.** -/
theorem showDouble_shows (hx : x.isFinite = true) :
    ∃! numeral, ShowsDouble x (showDouble x).toList numeral := by
  have htext := filter_showDouble hx
  refine ⟨numeralOf x, ⟨htext, ?_, ?_, ?_⟩, fun other hother =>
    Numeral.text_injective (hother.text.symm.trans htext)⟩
  · intro hwhole
    have hintegral := (Floating.isIntegral_iff hx).mpr hwhole
    refine ⟨?_, value_numeralOf hx hintegral⟩
    rw [← List.length_eq_zero_iff, numeralOf, if_pos hintegral]
    exact Numeral.length_fraction_fixed _ _ _
  · intro hother
    have hintegral : ¬ x.isIntegral = true := fun h => hother ((Floating.isIntegral_iff hx).mp h)
    rw [numeralOf, if_neg hintegral]
    refine ⟨Numeral.length_fraction_fixed _ _ _, ?_⟩
    calc |(placed x.negative 2 x).value - x.toRat|
        ≤ 1 / 2 / 10 ^ 2 := abs_value_placed_sub_le 2 x
      _ = 1 / 200 := by norm_num
  · obtain ⟨first, later, hgrouping, hgroups⟩ := exists_grouping (numeralOf x).whole_ne_nil
    exact ⟨first, later, hgrouping, by rw [toList_showDouble hx, Numeral.grouped, hgroups]⟩

/-- Rounding fills up a group: `999.999`. -/
theorem shows_carried :
    let x : Double := .ofDecimal false 999999 (-3)
    x.isFinite = true ∧ (showDouble x).toList = ['1', ',', '0', '0', '0', '.', '0', '0'] ∧
      ∃! numeral, ShowsDouble x (showDouble x).toList numeral :=
  ⟨by decide +kernel, by decide +kernel, showDouble_shows (by decide +kernel)⟩

/-- **The sign of a double is shown also where it is rounded to zero.** -/
theorem showDouble_minus_iff (hx : x.isFinite = true) :
    ∃! numeral, ShowsSign x (showDouble x).toList numeral := by
  have htext := filter_showDouble hx
  have hminus : (showDouble x).toList.head? = some '-' ↔ x.toRat < 0 := by
    rw [toList_showDouble hx, Numeral.head?_grouped, negative_numeralOf hx]
  have hnegative := value_numeralOf_lt_zero_iff hx
  refine ⟨numeralOf x, ⟨htext, hminus, hnegative, ?_⟩, fun other hother =>
    Numeral.text_injective (hother.text.symm.trans htext)⟩
  rw [hminus, hnegative]
  constructor
  · rintro hagree ⟨hlow, hhigh⟩
    exact absurd (hagree.mp hhigh) (not_lt.mpr hlow)
  · intro hrange
    constructor
    · intro hneg
      by_contra hlow
      exact hrange ⟨not_lt.mp hlow, hneg⟩
    · intro hlow
      linarith

/-- A negative number with a sign: `-999.996`. -/
theorem minus_carried :
    let x : Double := .ofDecimal true 999996 (-3)
    x.isFinite = true ∧ (showDouble x).toList = ['-', '1', ',', '0', '0', '0', '.', '0', '0'] ∧
      ∃! numeral, ShowsSign x (showDouble x).toList numeral :=
  ⟨by decide +kernel, by decide +kernel, showDouble_minus_iff (by decide +kernel)⟩

/-- A minus sign in front of zero: `-0.004`. -/
theorem minus_vanishing :
    let x : Double := .ofDecimal true 4 (-3)
    x.isFinite = true ∧ (showDouble x).toList = ['-', '0', '.', '0', '0'] ∧
      ¬ ∀ numeral : Numeral, (showDouble x).toList.filter (· ≠ ',') = numeral.text →
        ((showDouble x).toList.head? = some '-' ↔ numeral.value < 0) := by
  intro x
  have hshown : (showDouble x).toList = ['-', '0', '.', '0', '0'] := by decide +kernel
  refine ⟨by decide +kernel, hshown, fun hagree => ?_⟩
  rw [hshown] at hagree
  have hneg := (hagree (.fixed true 2 0) (by decide +kernel)).mp rfl
  rw [Numeral.value_fixed, Nat.cast_zero, zero_div, Number.signed_zero] at hneg
  exact lt_irrefl _ hneg

end PlainQuery.Display
