import PlainQuery.Proofs.Intent.BraceScan

/-!
# The object is the shortest balanced part

Whether a text is a document or not, the scan for its first object counts the braces that stand
outside of strings.  What is outside of strings is said by `outside`, which reads an escape as a
pair and needs none of the flags of the scan; `openings` and `closings` count in what it leaves.

The flags of the scan follow this reading character by character (`BraceScan.outside_cons`),
provided that a backslash is remembered in strings only (`BraceScan.Tidy`), which every step keeps.
Then the scan is described by one invariant:

* From its first brace on the scan is `Open`: a brace is open, and the depth is the number of braces
  opened so far less those closed.  `BraceScan.Open.depth_step` is one step and
  `BraceScan.Open.after` a run without an end.
* The scan ends at the first brace that closes the last open one (`exists_ending`), so that behind
  this brace the two numbers are equal (`balanced_of_endsAt`), and before it more are opened than
  closed (`closings_lt_openings`).

The object is therefore the shortest beginning, from the first brace on, that closes as many braces
as it opens (`isShortestBalanced_of_balancedFrom`).  There is only one such beginning
(`IsShortestBalanced.unique`), which gives the converse as well: `firstObject?_eq_some_iff` says
which object is found and `firstObject?_eq_none_iff` when there is none.
-/

namespace PlainQuery.Reply

/-! ## Braces outside of strings -/

/-- The characters of a text that stand in no string; the first argument says whether the text
begins inside of one.  A backslash in a string takes the character behind it along. -/
def outside : Bool → List Char → List Char
  | _, [] => []
  | false, c :: rest => if c = '"' then outside true rest else c :: outside false rest
  | true, c :: rest =>
    if c = '\\' then
      match rest with
      | [] => []
      | _ :: later => outside true later
    else outside (c != '"') rest

/-- How many braces are opened outside of strings. -/
def openings (text : List Char) : Nat := (outside false text).count '\x7b'

/-- How many braces are closed outside of strings. -/
def closings (text : List Char) : Nat := (outside false text).count '\x7d'

/-- As many braces are closed as are opened. -/
def Balanced (text : List Char) : Prop := openings text = closings text

instance (text : List Char) : Decidable (Balanced text) := inferInstanceAs (Decidable (_ = _))

example : Balanced ['\x7b', '"', '\x7d', '\\', '"', '\x7d', '"', '\x7d'] := by decide

variable {scan : BraceScan} {text before front rest object other : List Char} {c : Char}

theorem outside_escaped (rest : List Char) :
    outside true ('\\' :: rest) = outside true (rest.drop 1) := by
  cases rest <;> rfl

theorem outside_quoted (hc : c ≠ '\\') (rest : List Char) :
    outside true (c :: rest) = outside (c != '"') rest := by
  rw [outside.eq_def]
  exact if_neg hc

/-! ## The state of the scan -/

namespace BraceScan

/-- The scan behind a text. -/
def after (scan : BraceScan) (text : List Char) : BraceScan := text.foldl step scan

/-- The characters behind the scan that stand in no string. -/
def outside (scan : BraceScan) (text : List Char) : List Char :=
  Reply.outside scan.inString (if scan.escaped then text.drop 1 else text)

/-- What of the next character stands in no string and is no quote around one. -/
def shown (scan : BraceScan) (c : Char) : List Char := if scan.inString || c == '"' then [] else [c]

/-- The character closes the last brace that is open. -/
def endsAt (scan : BraceScan) (c : Char) : Bool :=
  !scan.inString && c == '\x7d' && (scan.step c).depth == 0

/-- A backslash is remembered in strings only. -/
def Tidy (scan : BraceScan) : Prop := scan.escaped = true → scan.inString = true

/-- A brace is open. -/
structure Open (scan : BraceScan) : Prop where
  depth_pos : 0 < scan.depth
  tidy : scan.Tidy

theorem Tidy.step (hscan : scan.Tidy) (c : Char) : (scan.step c).Tidy := by
  unfold Tidy BraceScan.step at *
  grind

theorem outside_nil (scan : BraceScan) : scan.outside [] = [] := by
  unfold outside
  cases scan.inString <;> cases scan.escaped <;> rfl

/-- The flags of the scan follow what `Reply.outside` reads. -/
theorem outside_cons (hscan : scan.Tidy) (c : Char) (rest : List Char) :
    scan.outside (c :: rest) = scan.shown c ++ (scan.step c).outside rest := by
  obtain ⟨depth, inString, escaped⟩ := scan
  cases inString with
  | false =>
      -- outside of strings no backslash is remembered
      obtain rfl : escaped = false := by simpa [Tidy] using hscan
      by_cases hquote : c = '"'
      · subst hquote
        rfl
      · have hstep : (step ⟨depth, false, false⟩ c).outside rest = Reply.outside false rest := by
          simp only [step, Bool.false_eq_true, if_false, beq_iff_eq, hquote]
          split
          · rfl
          · split <;> rfl
        rw [hstep]
        simp [outside, shown, Reply.outside, hquote]
  | true =>
      cases escaped with
      | true => rfl
      | false =>
          by_cases hslash : c = '\\'
          · subst hslash
            -- the character behind the backslash is taken along in both readings
            exact outside_escaped rest
          · show Reply.outside true (c :: rest) = _
            rw [outside_quoted hslash]
            by_cases hquote : c = '"'
            · subst hquote
              rfl
            · simp [outside, shown, step, hslash, hquote, bne_iff_ne.mpr hquote]

/-- The depth changes at the braces that stand in no string. -/
theorem depth_step (scan : BraceScan) (c : Char) :
    (scan.step c).depth =
      if scan.inString then scan.depth
      else if c = '\x7b' then scan.depth + 1
      else if c = '\x7d' then scan.depth - 1
      else scan.depth := by
  unfold step
  grind

/-- As long as the scan does not end, a brace stays open, and the depth counts the braces. -/
theorem Open.depth_step (hscan : scan.Open) (hc : scan.endsAt c = false) :
    0 < (scan.step c).depth ∧
      (scan.step c).depth + (scan.shown c).count '\x7d' =
        scan.depth + (scan.shown c).count '\x7b' := by
  have hdepth := hscan.depth_pos
  rw [endsAt, BraceScan.depth_step] at hc
  rw [BraceScan.depth_step, shown]
  grind

theorem endsAt_eq_true_iff :
    scan.endsAt c = true ↔ scan.inString = false ∧ c = '\x7d' ∧ scan.depth - 1 = 0 := by
  rw [endsAt, depth_step]
  cases scan.inString <;> simp +contextual

theorem Open.step (hscan : scan.Open) (hc : scan.endsAt c = false) : (scan.step c).Open :=
  ⟨(hscan.depth_step hc).1, hscan.tidy.step c⟩

/-! ## Runs -/

theorem outside_append (hscan : scan.Tidy) (front rest : List Char) :
    scan.outside (front ++ rest) = scan.outside front ++ (scan.after front).outside rest := by
  induction front generalizing scan with
  | nil => rw [outside_nil]; rfl
  | cons c front ih =>
      rw [List.cons_append, outside_cons hscan, outside_cons hscan, ih (hscan.step c),
        List.append_assoc]
      rfl

end BraceScan

theorem balancedFrom_cons (scan : BraceScan) (c : Char) (rest : List Char) :
    balancedFrom scan (c :: rest) =
      if scan.endsAt c then some [c] else (balancedFrom (scan.step c) rest).map (c :: ·) := rfl

theorem balancedFrom_cons_eq_none :
    balancedFrom scan (c :: rest) = none ↔
      scan.endsAt c = false ∧ balancedFrom (scan.step c) rest = none := by
  rw [balancedFrom_cons]
  cases scan.endsAt c <;> simp

/-- A scan that goes over a text without an end goes over each beginning of it. -/
theorem balancedFrom_eq_none_of_append (h : balancedFrom scan (front ++ rest) = none) :
    balancedFrom scan front = none := by
  induction front generalizing scan with
  | nil => rfl
  | cons c front ih =>
      obtain ⟨hc, hrest⟩ := balancedFrom_cons_eq_none.mp h
      exact balancedFrom_cons_eq_none.mpr ⟨hc, ih hrest⟩

/-- As long as the scan does not end, a brace stays open, and the depth counts the braces. -/
theorem BraceScan.Open.after (hscan : scan.Open) (hfront : balancedFrom scan front = none) :
    (scan.after front).Open ∧
      (scan.after front).depth + (scan.outside front).count '\x7d' =
        scan.depth + (scan.outside front).count '\x7b' := by
  induction front generalizing scan with
  | nil => exact ⟨hscan, by rw [outside_nil]; rfl⟩
  | cons c front ih =>
      obtain ⟨hc, hrest⟩ := balancedFrom_cons_eq_none.mp hfront
      obtain ⟨hopen, hcount⟩ := ih (hscan.step hc) hrest
      have hstep := (hscan.depth_step hc).2
      refine ⟨hopen, ?_⟩
      rw [outside_cons hscan.tidy, List.count_append, List.count_append]
      show ((scan.step c).after front).depth + _ = _
      omega

/-- The scan ends at a closing brace, and before it there was no end. -/
theorem exists_ending (h : balancedFrom scan text = some object) :
    ∃ front behind, object = front ++ ['\x7d'] ∧ text = object ++ behind ∧
      balancedFrom scan front = none ∧ (scan.after front).endsAt '\x7d' = true := by
  induction text generalizing scan object with
  | nil => cases h
  | cons c rest ih =>
      rw [balancedFrom_cons] at h
      cases hc : scan.endsAt c with
      | true =>
          rw [hc, if_pos rfl] at h
          obtain rfl := Option.some.inj h
          obtain rfl : c = '\x7d' := (BraceScan.endsAt_eq_true_iff.mp hc).2.1
          exact ⟨[], rest, rfl, rfl, rfl, hc⟩
      | false =>
          rw [hc, if_neg (by simp)] at h
          obtain ⟨later, hlater, rfl⟩ := Option.map_eq_some_iff.mp h
          obtain ⟨front, behind, rfl, rfl, hfront, hends⟩ := ih hlater
          exact ⟨c :: front, behind, rfl, rfl, balancedFrom_cons_eq_none.mpr ⟨hc, hfront⟩, hends⟩

/-! ## The first brace -/

/-- The scan behind the first brace. -/
theorem open_one : BraceScan.Open { depth := 1 } := ⟨Nat.one_pos, nofun⟩

theorem openings_cons (front : List Char) :
    openings ('\x7b' :: front) =
      1 + (BraceScan.outside { depth := 1 } front).count '\x7b' := by
  show ('\x7b' :: outside false front).count '\x7b' = 1 + (outside false front).count '\x7b'
  rw [List.count_cons_self, Nat.add_comm]

theorem closings_cons (front : List Char) :
    closings ('\x7b' :: front) = (BraceScan.outside { depth := 1 } front).count '\x7d' :=
  List.count_cons_of_ne (by decide)

theorem closings_lt_openings (hfront : balancedFrom { depth := 1 } front = none) :
    closings ('\x7b' :: front) < openings ('\x7b' :: front) := by
  obtain ⟨hopen, hcount⟩ := open_one.after hfront
  have hpos := hopen.depth_pos
  rw [openings_cons, closings_cons]
  simp only at hcount
  omega

theorem balanced_of_endsAt (hfront : balancedFrom { depth := 1 } front = none)
    (hends : (BraceScan.after { depth := 1 } front).endsAt '\x7d' = true) :
    Balanced ('\x7b' :: (front ++ ['\x7d'])) := by
  obtain ⟨hopen, hcount⟩ := open_one.after hfront
  have hpos := hopen.depth_pos
  obtain ⟨hstring, -, hlast⟩ := BraceScan.endsAt_eq_true_iff.mp hends
  have hshown : (BraceScan.after { depth := 1 } front).outside ['\x7d'] = ['\x7d'] := by
    rw [BraceScan.outside_cons hopen.tidy, BraceScan.outside_nil, BraceScan.shown, hstring]
    rfl
  rw [Balanced, openings_cons, closings_cons, BraceScan.outside_append open_one.tidy, hshown,
    List.count_append, List.count_append]
  show _ = _ + 1
  simp only at hcount
  show 1 + (_ + 0) = _
  omega

/-! ## The shortest balanced beginning -/

/-- The shortest beginning of the text that closes as many braces as it opens: whatever is shorter
opens more than it closes. -/
structure IsShortestBalanced (object text : List Char) : Prop where
  beginning : object <+: text
  nonempty : object ≠ []
  balanced : Balanced object
  shorter : ∀ front, front <+: object → front ≠ [] → front ≠ object →
    closings front < openings front

theorem IsShortestBalanced.unique (h : IsShortestBalanced object text)
    (hother : IsShortestBalanced other text) : object = other := by
  by_contra hne
  rcases List.prefix_or_prefix_of_prefix h.beginning hother.beginning with hbeginning | hbeginning
  · exact (hother.shorter object hbeginning h.nonempty hne).ne' h.balanced
  · exact (h.shorter other hbeginning hother.nonempty (Ne.symm hne)).ne' hother.balanced

/-- What the scan ends behind is the shortest balanced beginning. -/
theorem isShortestBalanced_of_balancedFrom
    (h : balancedFrom {} ('\x7b' :: rest) = some object) :
    IsShortestBalanced object ('\x7b' :: rest) := by
  obtain ⟨later, hlater, rfl⟩ := Option.map_eq_some_iff.mp h
  obtain ⟨front, behind, rfl, rfl, hfront, hends⟩ := exists_ending hlater
  refine ⟨⟨behind, rfl⟩, List.cons_ne_nil _ _, balanced_of_endsAt hfront hends, ?_⟩
  intro shorter hbeginning hne hproper
  cases shorter with
  | nil => exact absurd rfl hne
  | cons c shorter =>
      obtain ⟨rfl, hshorter⟩ := List.cons_prefix_cons.mp hbeginning
      -- what is shorter than the object ends before its last brace
      have hbefore : shorter <+: front := by
        rcases List.prefix_concat_iff.mp hshorter with rfl | hbefore
        · exact absurd rfl hproper
        · exact hbefore
      obtain ⟨between, rfl⟩ := hbefore
      exact closings_lt_openings (balancedFrom_eq_none_of_append hfront)

/-- Without an end no beginning is balanced. -/
theorem not_balanced_of_balancedFrom (h : balancedFrom {} ('\x7b' :: rest) = none)
    (hfront : front <+: '\x7b' :: rest) (hne : front ≠ []) : ¬ Balanced front := by
  cases front with
  | nil => exact absurd rfl hne
  | cons c front =>
      obtain ⟨rfl, behind, rfl⟩ := List.cons_prefix_cons.mp hfront
      have hnone : balancedFrom { depth := 1 } (front ++ behind) = none :=
        Option.map_eq_none_iff.mp h
      exact (closings_lt_openings (balancedFrom_eq_none_of_append hnone)).ne'

/-! ## The first object -/

theorem firstObject?_eq_none (htext : '\x7b' ∉ text) : firstObject? text = none := by
  have hdrop : text.dropWhile (· != '\x7b') = [] :=
    List.dropWhile_eq_nil_iff.mpr fun c hmem => bne_iff_ne.mpr fun heq => htext (heq ▸ hmem)
  rw [firstObject?, hdrop]
  rfl

theorem firstObject?_eq_some_iff :
    firstObject? text = some object ↔
      ∃ before rest, text = before ++ '\x7b' :: rest ∧ '\x7b' ∉ before ∧
        IsShortestBalanced object ('\x7b' :: rest) := by
  constructor
  · intro hobject
    by_cases hmem : '\x7b' ∈ text
    · obtain ⟨before, rest, rfl, hbefore⟩ := List.eq_append_cons_of_mem hmem
      rw [firstObject?_append hbefore] at hobject
      exact ⟨before, rest, rfl, hbefore, isShortestBalanced_of_balancedFrom hobject⟩
    · rw [firstObject?_eq_none hmem] at hobject
      cases hobject
  · rintro ⟨before, rest, rfl, hbefore, hshortest⟩
    rw [firstObject?_append hbefore]
    cases hfound : balancedFrom {} ('\x7b' :: rest) with
    | none =>
        exact absurd hshortest.balanced
          (not_balanced_of_balancedFrom hfound hshortest.beginning hshortest.nonempty)
    | some found =>
        rw [(isShortestBalanced_of_balancedFrom hfound).unique hshortest]

theorem firstObject?_eq_none_iff :
    firstObject? text = none ↔
      '\x7b' ∉ text ∨ ∀ before rest, text = before ++ '\x7b' :: rest → '\x7b' ∉ before →
        ∀ front, front <+: '\x7b' :: rest → front ≠ [] → ¬ Balanced front := by
  constructor
  · intro hnone
    refine .inr fun before rest htext hbefore front hfront hne => ?_
    rw [htext, firstObject?_append hbefore] at hnone
    exact not_balanced_of_balancedFrom hnone hfront hne
  · rintro (hmem | hnot)
    · exact firstObject?_eq_none hmem
    · refine Option.eq_none_iff_forall_ne_some.mpr fun object hobject => ?_
      obtain ⟨before, rest, htext, hbefore, hshortest⟩ := firstObject?_eq_some_iff.mp hobject
      exact hnot before rest htext hbefore object hshortest.beginning hshortest.nonempty
        hshortest.balanced

end PlainQuery.Reply
