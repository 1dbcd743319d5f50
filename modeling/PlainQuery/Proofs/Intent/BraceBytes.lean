import Mathlib.Data.String.Basic
import PlainQuery.Proofs.Intent.BraceBalance

/-!
# The scan over the bytes of a text

A text is kept as bytes, and its parts are cut out from byte to byte.  `sliceObject` is the scan for
the first object with the counting that this needs.  There are two things that it must not do
(`ScanFault`): count the open braces below zero, and cut the text anywhere but between characters.
Where the scan over the characters stops at zero and cannot cut a character, it refuses.

It never has to refuse:

* From the first brace on a brace is open wherever one is closed, as long as the scan has not ended
  (`BraceScan.Open`).  So the scan over the bytes runs like the one over the characters and ends
  behind as many bytes as the object has (`endFrom_eq`).
* Both ends of what is cut out stand behind whole characters, since the bytes of a text are those of
  its parts together; `slice_append` is the only fact about positions that is needed.

So the two scans find the same (`sliceObject_eq`).  `ScansBraces` adds what `BraceBalance` says
about the scan over the characters, and `firstObject?_scansBraces` is the whole statement.
-/

namespace PlainQuery.Reply

/-! ## Bytes -/

/-- What a scan over the bytes of a text must not do. -/
inductive ScanFault where
  /-- To close a brace when none is open. -/
  | noneOpen
  /-- To cut a text inside of a character. -/
  | insideCharacter
deriving DecidableEq, Repr

/-- The byte behind the brace at which the scan ends, the text beginning at the byte `offset`. -/
def endFrom (scan : BraceScan) (offset : Nat) : List Char → Except ScanFault (Option Nat)
  | [] => .ok none
  | c :: rest =>
    if !scan.inString && c == '\x7d' && scan.depth == 0 then .error .noneOpen
    else if scan.endsAt c then .ok (some (offset + c.utf8Size))
    else endFrom (scan.step c) (offset + c.utf8Size) rest

/-- The part of a text from one byte to another. -/
def slice (text : String) (first behind : Nat) : Except ScanFault String :=
  if String.Pos.Raw.IsValid text ⟨first⟩ ∧ String.Pos.Raw.IsValid text ⟨behind⟩ ∧
      first ≤ behind then
    .ok (String.Pos.Raw.extract text ⟨first⟩ ⟨behind⟩)
  else .error .insideCharacter

/-- The first object of a text, cut out of its bytes. -/
def sliceObject (text : String) : Except ScanFault (Option String) :=
  if '\x7b' ∈ text.toList then do
    let first := String.utf8Len (text.toList.takeWhile (· != '\x7b'))
    let tail ← slice text first text.utf8ByteSize
    match ← endFrom {} 0 tail.toList with
    | none => return none
    | some length => return some (← slice text first (first + length))
  else return none

variable {scan : BraceScan} {before : List Char}

/-! ## Cutting between characters -/

theorem isValid_utf8Len (before behind : List Char) :
    String.Pos.Raw.IsValid (String.ofList (before ++ behind)) ⟨String.utf8Len before⟩ :=
  String.Pos.Raw.isValid_iff_exists_append.mpr
    ⟨String.ofList before, String.ofList behind, String.ofList_append, by simp⟩

theorem slice_append (before middle behind : List Char) :
    slice (String.ofList (before ++ middle ++ behind)) (String.utf8Len before)
      (String.utf8Len before + String.utf8Len middle) = .ok (String.ofList middle) := by
  have hfirst := isValid_utf8Len before (middle ++ behind)
  have hbehind := isValid_utf8Len (before ++ middle) behind
  rw [← List.append_assoc] at hfirst
  rw [String.utf8Len_append] at hbehind
  rw [slice, if_pos ⟨hfirst, hbehind, Nat.le_add_right _ _⟩, String.extract_of_valid]

/-! ## Counting open braces -/

/-- From a first brace on no brace is closed when none is open. -/
theorem endFrom_eq (hscan : scan.Open) (offset : Nat) (text : List Char) :
    endFrom scan offset text =
      .ok ((balancedFrom scan text).map fun object => offset + String.utf8Len object) := by
  induction text generalizing scan offset with
  | nil => rfl
  | cons c rest ih =>
      have hdepth : (scan.depth == 0) = false := by simpa using hscan.depth_pos.ne'
      rw [endFrom, hdepth, Bool.and_false, if_neg (by simp), balancedFrom_cons]
      cases hc : scan.endsAt c with
      | true => simp
      | false =>
          simp only [Bool.false_eq_true, if_false]
          rw [ih (hscan.step hc), Option.map_map]
          have hlength : (fun object => offset + c.utf8Size + String.utf8Len object) =
              (fun object => offset + String.utf8Len object) ∘ (c :: ·) := by
            funext object
            simp only [Function.comp_apply, String.utf8Len_cons]
            omega
          rw [hlength]

theorem endFrom_brace (rest : List Char) :
    endFrom {} 0 ('\x7b' :: rest) =
      .ok ((balancedFrom {} ('\x7b' :: rest)).map String.utf8Len) := by
  have hone : endFrom {} 0 ('\x7b' :: rest) = endFrom { depth := 1 } 1 rest := rfl
  have hmap : balancedFrom {} ('\x7b' :: rest) =
      (balancedFrom { depth := 1 } rest).map ('\x7b' :: ·) := rfl
  have hlength : (fun object => 1 + String.utf8Len object) = String.utf8Len ∘ ('\x7b' :: ·) := by
    funext object
    exact Nat.add_comm _ _
  rw [hone, hmap, endFrom_eq open_one, Option.map_map, hlength]

/-! ## The first object -/

theorem takeWhile_append_brace (hbefore : '\x7b' ∉ before) (rest : List Char) :
    (before ++ '\x7b' :: rest).takeWhile (· != '\x7b') = before := by
  rw [List.takeWhile_append_of_pos]
  · simp
  · intro c hmem
    exact bne_iff_ne.mpr fun heq => hbefore (heq ▸ hmem)

/-- The scan over the bytes never has to refuse, and it finds the first object. -/
theorem sliceObject_eq (text : String) :
    sliceObject text = .ok ((firstObject? text.toList).map String.ofList) := by
  by_cases hmem : '\x7b' ∈ text.toList
  · obtain ⟨before, rest, htext, hbefore⟩ := List.eq_append_cons_of_mem hmem
    obtain rfl : text = String.ofList (before ++ '\x7b' :: rest) := by
      rw [← htext, String.ofList_toList]
    -- both cuts are behind whole characters: the first brace, and the end of the object
    have htail := slice_append before ('\x7b' :: rest) []
    rw [List.append_nil] at htail
    rw [sliceObject, if_pos hmem, htext, takeWhile_append_brace hbefore,
      firstObject?_append hbefore, String.utf8ByteSize_ofList, String.utf8Len_append]
    dsimp only [bind, Except.bind]
    rw [htail]
    dsimp only
    rw [String.toList_ofList, endFrom_brace]
    cases hobject : balancedFrom {} ('\x7b' :: rest) with
    | none => rfl
    | some object =>
        obtain ⟨behind, hbehind⟩ := (isShortestBalanced_of_balancedFrom hobject).beginning
        have hslice := slice_append before object behind
        rw [List.append_assoc, hbehind] at hslice
        dsimp only [Option.map]
        rw [hslice]
        rfl
  · rw [sliceObject, if_neg hmem, firstObject?_eq_none hmem]
    rfl

/-- The scan for the first object of a text: over the bytes it never refuses, and it finds the
shortest balanced part from the first brace on, if there is any. -/
structure ScansBraces (text : String) : Prop where
  safe : sliceObject text = .ok ((firstObject? text.toList).map String.ofList)
  found : ∀ object, firstObject? text.toList = some object ↔
    ∃ before rest, text.toList = before ++ '\x7b' :: rest ∧ '\x7b' ∉ before ∧
      IsShortestBalanced object ('\x7b' :: rest)
  none_iff : firstObject? text.toList = none ↔
    '\x7b' ∉ text.toList ∨ ∀ before rest, text.toList = before ++ '\x7b' :: rest →
      '\x7b' ∉ before → ∀ front, front <+: '\x7b' :: rest → front ≠ [] → ¬ Balanced front

/-- **The scan for braces is safe and minimal.**  Whatever the text is, no brace is closed when none
is open and no character is cut; the object is the shortest balanced part from the first brace on,
and there is none exactly if there is no brace or nothing balanced begins at the first one. -/
theorem firstObject?_scansBraces (text : String) : ScansBraces text where
  safe := sliceObject_eq text
  found _ := firstObject?_eq_some_iff
  none_iff := firstObject?_eq_none_iff

end PlainQuery.Reply
