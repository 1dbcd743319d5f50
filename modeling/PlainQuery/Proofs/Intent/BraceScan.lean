import PlainQuery.Intent.Reply
import PlainQuery.Proofs.Json.Nesting

/-!
# The scan for balanced braces

The scan for the first object counts braces and skips strings.  It knows nothing of documents, so it
has to be shown that it ends where an object ends.  What it needs of an object is that its inside is
`Nested`: strings are closed and braces are paired.

* `Passes` says that the scan goes over a text without an end and leaves it in a certain state.  It
  is composed along a text (`Passes.append`), and over the strings of a nested text and the braces
  in it the scan comes out as it went in (`passes_nested`).
* So it passes the inside of an object and ends at its closing brace (`balancedFrom_object`): behind
  a text without opening braces the first object is the one that begins there, whatever follows
  (`firstObject?_eq`).

The same induction with a line break in view shows where an object cannot be cut.  At a line break
the scan stands in no string, since strings have none, and inside of the object, where a brace is
open (`exists_passes_line`).  The rest behind it closes this brace without having opened it, so it
is not nested (`not_nested_behind_line`).
-/

namespace PlainQuery.Reply

open Json (Nested StringBody)

/-- The scan goes over the text without an end and leaves it as `next`. -/
def Passes (scan : BraceScan) (text : List Char) (next : BraceScan) : Prop :=
  ∀ rest, balancedFrom scan (text ++ rest) = (balancedFrom next rest).map (text ++ ·)

namespace Passes

theorem nil (scan : BraceScan) : Passes scan [] scan := by
  intro rest
  simp

theorem append {scan middle next : BraceScan} {first second : List Char}
    (hfirst : Passes scan first middle) (hsecond : Passes middle second next) :
    Passes scan (first ++ second) next := by
  intro rest
  rw [List.append_assoc, hfirst, hsecond, Option.map_map]
  simp [Function.comp_def]

/-- One character at which the scan does not end. -/
theorem cons {scan next : BraceScan} {c : Char} {text : List Char}
    (hc : (!scan.inString && c == '\x7d' && (scan.step c).depth == 0) = false)
    (h : Passes (scan.step c) text next) : Passes scan (c :: text) next := by
  intro rest
  rw [List.cons_append, balancedFrom, hc, h, Option.map_map]
  rfl

end Passes

theorem passes_body {body : List Char} (h : StringBody body) (depth : Nat) :
    Passes { depth, inString := true } body { depth, inString := true } := by
  induction h with
  | nil => exact .nil _
  | @plain c _ hquote hslash _ _ ih =>
      refine .cons rfl ?_
      simpa [BraceScan.step, hquote, hslash] using ih
  | escape _ _ ih =>
      -- the backslash is remembered for one character, whichever it is
      exact .cons rfl (.cons rfl ih)

/-- The scan goes over a closed string. -/
theorem passes_string {body text : List Char} {depth : Nat} {next : BraceScan}
    (hbody : StringBody body) (h : Passes { depth } text next) :
    Passes { depth } ('"' :: (body ++ '"' :: text)) next :=
  .cons rfl ((passes_body hbody depth).append (.cons rfl h))

theorem passes_inert {c : Char} {text : List Char} {depth : Nat} {next : BraceScan}
    (hc : Json.isInert c = true) (h : Passes { depth } text next) :
    Passes { depth } (c :: text) next := by
  simp only [Json.isInert, Bool.and_eq_true, bne_iff_ne] at hc
  obtain ⟨⟨⟨hquote, hopen⟩, hclose⟩, -⟩ := hc
  refine .cons (by simp [hclose]) ?_
  simpa [BraceScan.step, hquote, hopen, hclose] using h

/-- Inside of braces the scan goes over a nested text. -/
theorem passes_nested {text : List Char} (h : Nested text) (depth : Nat) :
    Passes { depth := depth + 1 } text { depth := depth + 1 } := by
  induction h generalizing depth with
  | nil => exact .nil _
  | inert hc _ ih => exact passes_inert hc (ih depth)
  | string hbody _ ih => exact passes_string hbody (ih depth)
  | braces _ _ ihInner ih => exact .cons rfl ((ihInner (depth + 1)).append (.cons rfl (ih depth)))

theorem balancedFrom_object {inner : List Char} (h : Nested inner) (rest : List Char) :
    balancedFrom {} ('\x7b' :: (inner ++ '\x7d' :: rest)) =
      some ('\x7b' :: (inner ++ ['\x7d'])) := by
  have hinner : balancedFrom { depth := 1 } (inner ++ '\x7d' :: rest) =
      some (inner ++ ['\x7d']) := passes_nested h 0 ('\x7d' :: rest)
  rw [balancedFrom]
  exact congrArg (Option.map _) hinner

/-! ## The first object -/

theorem firstObject?_append {before : List Char} (hbefore : '\x7b' ∉ before) (rest : List Char) :
    firstObject? (before ++ '\x7b' :: rest) = balancedFrom {} ('\x7b' :: rest) := by
  rw [firstObject?, List.dropWhile_append_of_pos]
  · rfl
  · intro c hmem
    exact bne_iff_ne.mpr fun heq => hbefore (heq ▸ hmem)

/-- Behind a text without opening braces the first object is the one that begins there, whatever
follows. -/
theorem firstObject?_eq {before object after : List Char} {value : Json}
    (hbefore : '\x7b' ∉ before) (h : Json.IsObject object value) :
    firstObject? (before ++ (object ++ after)) = some object := by
  obtain ⟨inner, rfl, hinner⟩ := h.exists_inner
  rw [List.cons_append, firstObject?_append hbefore, List.append_assoc]
  exact balancedFrom_object hinner after

/-! ## Line breaks -/

/-- Where a text with a mark in it is cut at a line break, the line break stands behind the mark or
before it. -/
theorem line_cases {mark : Char} {front back first behind : List Char} (hmark : mark ≠ '\n')
    (h : front ++ mark :: back = first ++ '\n' :: behind) :
    (∃ later, first = front ++ mark :: later ∧ back = later ++ '\n' :: behind) ∨
      ∃ later, front = first ++ '\n' :: later ∧ behind = later ++ mark :: back := by
  rcases List.append_eq_append_iff.mp h with ⟨later, hfirst, hlater⟩ | ⟨later, hfront, hlater⟩
  · cases later with
    | nil => exact absurd (List.cons.inj hlater).1 hmark
    | cons c later =>
        obtain ⟨rfl, hback⟩ := List.cons.inj hlater
        exact .inl ⟨later, hfirst, hback⟩
  · cases later with
    | nil => exact absurd (List.cons.inj hlater).1.symm hmark
    | cons c later =>
        obtain ⟨rfl, hbehind⟩ := List.cons.inj hlater
        exact .inr ⟨later, hfront, hbehind⟩

/-- At a line break of a nested text the scan is in no string, and no fewer braces are open than
before the text. -/
theorem exists_passes_line {text first behind : List Char} (h : Nested text)
    (htext : text = first ++ '\n' :: behind) (depth : Nat) :
    ∃ deeper, Passes { depth := depth + 1 } first { depth := deeper + 1 } := by
  induction h generalizing first behind depth with
  | nil => simp at htext
  | inert hc _ ih =>
      cases first with
      | nil => exact ⟨depth, .nil _⟩
      | cons d first =>
          obtain ⟨rfl, hrest⟩ := List.cons.inj htext
          obtain ⟨deeper, hfirst⟩ := ih hrest depth
          exact ⟨deeper, passes_inert hc hfirst⟩
  | string hbody _ ih =>
      cases first with
      | nil => cases htext
      | cons d first =>
          obtain ⟨rfl, hrest⟩ := List.cons.inj htext
          rcases line_cases (by decide) hrest with ⟨later, rfl, hlater⟩ | ⟨later, rfl, -⟩
          · obtain ⟨deeper, hfirst⟩ := ih hlater depth
            exact ⟨deeper, passes_string hbody hfirst⟩
          · -- the string itself goes over no line break
            exact absurd hbody.no_line (by simp)
  | braces hinner _ ihInner ih =>
      cases first with
      | nil => cases htext
      | cons d first =>
          obtain ⟨rfl, hrest⟩ := List.cons.inj htext
          rcases line_cases (by decide) hrest with ⟨later, rfl, hlater⟩ | ⟨later, hlater, -⟩
          · obtain ⟨deeper, hfirst⟩ := ih hlater depth
            exact ⟨deeper,
              .cons rfl ((passes_nested hinner (depth + 1)).append (.cons rfl hfirst))⟩
          · obtain ⟨deeper, hfirst⟩ := ihInner hlater (depth + 1)
            exact ⟨deeper, .cons rfl hfirst⟩

/-- The rest of an object behind one of its line breaks is not nested: it closes a brace that it
does not open. -/
theorem not_nested_behind_line {first behind : List Char} {value : Json}
    (h : Json.IsObject (first ++ '\n' :: behind) value) : ¬ Nested behind := by
  intro hbehind
  obtain ⟨inner, hsplit, hinner⟩ := h.exists_inner
  cases first with
  | nil => cases hsplit
  | cons c first =>
      obtain ⟨rfl, htail⟩ := List.cons.inj hsplit
      have htext : inner ++ ['\x7d'] = first ++ '\n' :: behind := htail.symm
      rcases line_cases (by decide) htext with ⟨later, -, hlater⟩ | ⟨later, hline, -⟩
      · simp at hlater
      · obtain ⟨deeper, hfirst⟩ := exists_passes_line hinner hline 0
        -- the scan would go over the closing brace of the object as well
        have hpasses : Passes { depth := 1 } (first ++ '\n' :: behind) { depth := deeper + 1 } :=
          hfirst.append (passes_inert (by decide) (passes_nested hbehind deeper))
        have hnone := hpasses []
        have hsome := passes_nested hinner 0 ['\x7d']
        rw [List.append_nil, ← htext, hsome] at hnone
        cases hnone

end PlainQuery.Reply
