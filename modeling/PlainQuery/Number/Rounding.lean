/-!
# Rounding a quotient

`roundDiv num den` is the whole number nearest to `num / den`; when two are equally near, the even
one.  Both the binary formats of `Number.Floating` and the fixed decimal places of `Floating.fixed`
round with it.  `two_mul_roundDiv_mul_le` and `two_mul_le_roundDiv_mul` say that the result is at
most half a unit away.
-/

namespace PlainQuery.Number

/-- The whole number nearest to `num / den`, a tie going to the even neighbour. -/
def roundDiv (num den : Nat) : Nat :=
  let quotient := num / den
  let twice := 2 * (num % den)
  if twice < den then quotient
  else if den < twice then quotient + 1
  else quotient + quotient % 2

/-- A whole quotient is its own rounding. -/
theorem roundDiv_mul_self (quotient : Nat) {den : Nat} (hden : 0 < den) :
    roundDiv (quotient * den) den = quotient := by
  simp [roundDiv, hden]

/-- The rounding is at most half a unit above the quotient. -/
theorem two_mul_roundDiv_mul_le (num : Nat) {den : Nat} (hden : 0 < den) :
    2 * (roundDiv num den * den) ≤ 2 * num + den := by
  have hsplit := Nat.div_add_mod num den
  have hlt := Nat.mod_lt num hden
  have hcomm : den * (num / den) = num / den * den := Nat.mul_comm _ _
  have heven : num / den % 2 * den ≤ den := by
    have : num / den % 2 ≤ 1 := by omega
    simpa using Nat.mul_le_mul_right den this
  simp only [roundDiv]
  split
  · omega
  · split
    · rw [Nat.add_mul]; omega
    · rw [Nat.add_mul]; omega

/-- The rounding is at most half a unit below the quotient. -/
theorem two_mul_le_roundDiv_mul (num : Nat) {den : Nat} (hden : 0 < den) :
    2 * num ≤ 2 * (roundDiv num den * den) + den := by
  have hsplit := Nat.div_add_mod num den
  have hlt := Nat.mod_lt num hden
  have hcomm : den * (num / den) = num / den * den := Nat.mul_comm _ _
  simp only [roundDiv]
  split
  · omega
  · split
    · rw [Nat.add_mul]; omega
    · rw [Nat.add_mul]; omega

end PlainQuery.Number
