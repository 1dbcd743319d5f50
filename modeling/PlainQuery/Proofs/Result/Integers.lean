import Mathlib.Algebra.Ring.Int.Defs
import PlainQuery.Proofs.Result.Grouping
import PlainQuery.Result.Cell

/-!
# Integers from the database to the display

A cell of an integer type holds a number of the type's width, and a decimal without places holds one
of 128 bits; `Cell.HoldsInteger` has a constructor for each.  A document can hold the numbers from
the least signed to the greatest unsigned one of 64 bits (`Cell.Fits`), so the types of up to 64
bits always fit (`HoldsInteger.fits`), while a decimal may be too wide.

What fits becomes a whole number of the document, and what is wider becomes the text of its digits.
In either case the digits are shown that the number has (`toList_toString`): with commas between
groups for a number (`showsInteger_number`), and as they are for a text (`showsInteger_text`).
`ShowsInteger` says both at once, and `shows_of_holdsInteger` is the way from the cell to the
display.
-/

namespace PlainQuery

namespace Cell

/-- The cell is of an integer type and holds this number. -/
inductive HoldsInteger : Cell → Int → Prop
  | signed {width : Nat} {value : Int} (hwidth : width ∈ [8, 16, 32, 64])
      (hlow : -2 ^ (width - 1) ≤ value) (hhigh : value < 2 ^ (width - 1)) :
      HoldsInteger (integer value) value
  | unsigned {width : Nat} {value : Int} (hwidth : width ∈ [8, 16, 32, 64]) (hlow : 0 ≤ value)
      (hhigh : value < 2 ^ width) : HoldsInteger (integer value) value
  | wide {value : Int} (hlow : -2 ^ 127 ≤ value) (hhigh : value < 2 ^ 127) :
      HoldsInteger (decimal value 0) value

/-- The number is at least the least signed one and at most the greatest unsigned one of 64 bits. -/
def Fits (value : Int) : Prop := -2 ^ 63 ≤ value ∧ value < 2 ^ 64

instance (value : Int) : Decidable (Fits value) := inferInstanceAs (Decidable (_ ∧ _))

/-- The document has the number, and the text shows its numeral. -/
structure ShowsInteger (value : Int) (document : Json) (shown : List Char) : Prop where
  number : Fits value → document = .number (.integer value)
  text : ¬ Fits value → document = .string (toString value)
  numeral : shown.filter (· ≠ ',') = (toString value).toList
  /-- A sign is followed by digits, and the commas stand between groups of three. -/
  groups : Fits value → ∃ first later,
    Display.IsGrouping (Nat.toDigits 10 value.natAbs) first later ∧
    shown = Display.sign (value < 0) ++ [','].intercalate (first :: later)

variable {cell : Cell} {value : Int}

/-! ## Numerals -/

theorem toList_toString (value : Int) :
    (toString value).toList = Display.sign (value < 0) ++ Nat.toDigits 10 value.natAbs := by
  cases value with
  | ofNat n =>
      have hsign : decide (Int.ofNat n < 0) = false := by simp
      rw [hsign]
      show (toString n).toList = Nat.toDigits 10 n
      rw [Nat.toString_eq_ofList_toDigits, String.toList_ofList]
  | negSucc n =>
      have hsign : decide (Int.negSucc n < 0) = true := by simp
      rw [hsign]
      show ("-" ++ toString (n + 1)).toList = '-' :: Nat.toDigits 10 (n + 1)
      rw [String.toList_append, Nat.toString_eq_ofList_toDigits]
      exact congrArg ("-".toList ++ ·) String.toList_ofList

theorem isDigit_of_mem_numeral {c : Char} (hc : c ∈ Nat.toDigits 10 value.natAbs) :
    c.isDigit = true :=
  Nat.isDigit_of_mem_toDigits (by decide) (by decide) hc

theorem comma_not_mem_toString : ',' ∉ (toString value).toList := by
  rw [toList_toString, List.mem_append, not_or]
  refine ⟨?_, fun hdigit => absurd (isDigit_of_mem_numeral hdigit) (by decide)⟩
  cases decide (value < 0) <;> decide

theorem toList_showInteger (value : Int) :
    (Display.showInteger value).toList =
      Display.sign (value < 0) ++ Display.groupDigits (Nat.toDigits 10 value.natAbs) := by
  have happend := Display.groupThousands_append (value < 0)
    (fun c (hc : c ∈ Nat.toDigits 10 value.natAbs) => isDigit_of_mem_numeral hc) (.inl rfl)
  rw [List.append_nil, List.append_nil] at happend
  rw [Display.showInteger, String.toList_ofList, toList_toString, happend]

theorem filter_showInteger (value : Int) :
    (Display.showInteger value).toList.filter (· ≠ ',') = (toString value).toList := by
  have hdigits : ',' ∉ Nat.toDigits 10 value.natAbs := fun hcomma =>
    absurd (isDigit_of_mem_numeral hcomma) (by decide)
  rw [toList_showInteger, List.filter_append, Display.filter_sign,
    Display.filter_groupDigits hdigits, toList_toString]

/-! ## Cells -/

theorem fits_iff : (Json.minInteger ≤ value && value ≤ Json.maxInteger) = true ↔ Fits value := by
  rw [Bool.and_eq_true, decide_eq_true_iff, decide_eq_true_iff, Fits, Json.minInteger,
    Json.maxInteger]
  omega

theorem showsInteger_number (hfits : Fits value) (null : String) :
    ShowsInteger value (.number (.integer value))
      (Display.showValue null (.number (.integer value))).toList := by
  refine ⟨fun _ => rfl, fun hnot => absurd hfits hnot, filter_showInteger value, fun _ => ?_⟩
  obtain ⟨first, later, hgrouping, hgroups⟩ :=
    Display.exists_grouping (Nat.toDigits_ne_nil : Nat.toDigits 10 value.natAbs ≠ [])
  exact ⟨first, later, hgrouping, hgroups ▸ toList_showInteger value⟩

theorem showsInteger_text (hfits : ¬ Fits value) (null : String) :
    ShowsInteger value (.string (toString value))
      (Display.showValue null (.string (toString value))).toList := by
  refine ⟨fun h => absurd h hfits, fun _ => rfl, ?_, fun h => absurd h hfits⟩
  refine List.filter_eq_self.mpr fun c hc => decide_eq_true ?_
  rintro rfl
  exact comma_not_mem_toString hc

/-- The types of up to 64 bits hold nothing else than a document can. -/
theorem HoldsInteger.fits (h : HoldsInteger (integer value) value) : Fits value := by
  cases h with
  | signed hwidth hlow hhigh =>
      simp only [List.mem_cons, List.not_mem_nil, or_false] at hwidth
      rcases hwidth with rfl | rfl | rfl | rfl <;> constructor <;> omega
  | unsigned hwidth hlow hhigh =>
      simp only [List.mem_cons, List.not_mem_nil, or_false] at hwidth
      rcases hwidth with rfl | rfl | rfl | rfl <;> constructor <;> omega

/-- **Integers survive.**  The value of a cell of an integer type becomes a whole number of a
document if a document can hold it, and else the text of its digits; what is shown of it is its
numeral, with commas between groups of three digits if it is a number. -/
theorem shows_of_holdsInteger (h : HoldsInteger cell value) (null : String) :
    ShowsInteger value cell.toJson (Display.showValue null cell.toJson).toList := by
  cases h with
  | signed hwidth hlow hhigh =>
      exact showsInteger_number (HoldsInteger.signed hwidth hlow hhigh).fits null
  | unsigned hwidth hlow hhigh =>
      exact showsInteger_number (HoldsInteger.unsigned hwidth hlow hhigh).fits null
  | wide hlow hhigh =>
      rw [toJson, integerValue]
      split
      · rename_i hfits
        exact showsInteger_number (fits_iff.mp hfits) null
      · rename_i hfits
        exact showsInteger_text (fun h => hfits (fits_iff.mpr h)) null

/-- At the ends of the range: the least signed number, the greatest unsigned one and the next
one. -/
theorem shows_limits :
    let shown := fun cell : Cell => (Display.showValue "NULL" cell.toJson).toList
    ShowsInteger (-2 ^ 63) (integer (-2 ^ 63)).toJson (shown (integer (-2 ^ 63))) ∧
      ShowsInteger (2 ^ 64 - 1) (integer (2 ^ 64 - 1)).toJson (shown (integer (2 ^ 64 - 1))) ∧
      ShowsInteger (2 ^ 64) (decimal (2 ^ 64) 0).toJson (shown (decimal (2 ^ 64) 0)) := by
  refine ⟨shows_of_holdsInteger (.signed (by decide : 64 ∈ _) (by decide) (by decide)) _,
    shows_of_holdsInteger (.unsigned (by decide : 64 ∈ _) (by decide) (by decide)) _,
    shows_of_holdsInteger (.wide (by decide) (by decide)) _⟩

end Cell

end PlainQuery
