import Mathlib.Data.List.TakeWhile
import PlainQuery.Proofs.Outcome
import PlainQuery.Proofs.Sql.Binding

/-!
# Binding, position by position

What the binder does to a text can be said for each position by itself (`markAt`): the colon of a
placeholder becomes a question mark, the characters of its name are left out, and every other
character is copied.  Where a placeholder begins is seen from the text around the position
(`BeginsAt`), without any scan.

```text
text      "  :  a  "  ,  :  b  _  1  :  :  D
markAt    "  :  a  "  ,  ?           :  :  D
```

The binder goes over the text once and remembers three facts about what is behind it: whether quotes
are open, whether the last character was a colon that it copied, and whether it stands in a name.
`Standing` says what each of the three is worth in terms of the text behind.

* They suffice to see at each position what is to be done there (`Standing.beginsAt_iff`,
  `covered_iff`).  The flag for a colon is not set inside of a placeholder, which makes no
  difference: behind its colon comes a character of its name (`InPlaceholder.getLast?_ne`).

* They are kept from one position to the next, with one lemma for each of the three things that the
  binder can do (`Standing.word`, `Standing.colon`, `Standing.copied`).

`meets_bindFrom` is the induction over the text.  Its statement, `Meets`, also covers a failure: the
first name without a value is the one that is reported.

In the text that comes out no colon begins a placeholder any more, so it is bound to itself
(`bindFrom_bound`).  Together this is `bindNames_positionwise`.
-/

namespace PlainQuery.Sql

/-! ## Positions -/

/-- A placeholder begins at the position: a colon with an even number of quotes in front of it, no
colon directly in front of it, and a letter or an underscore directly behind it. -/
structure BeginsAt (text : List Char) (i : Nat) : Prop where
  colon : text[i]? = some ':'
  outside : (text.take i).count '"' % 2 = 0
  single : (text.take i).getLast? ≠ some ':'
  named : (text[i + 1]?).any startsName = true

instance (text : List Char) : DecidablePred (BeginsAt text) := fun i =>
  decidable_of_iff
    (text[i]? = some ':' ∧ (text.take i).count '"' % 2 = 0 ∧ (text.take i).getLast? ≠ some ':' ∧
      (text[i + 1]?).any startsName = true)
    ⟨fun ⟨colon, outside, single, named⟩ => { colon, outside, single, named },
      fun h => ⟨h.colon, h.outside, h.single, h.named⟩⟩

/-- The name of a placeholder that begins at the position, as far as it goes. -/
def nameAt (text : List Char) (i : Nat) : String :=
  String.ofList ((text.drop (i + 1)).takeWhile isWordChar)

/-- The position is one of the name of a placeholder. -/
def Covered (text : List Char) (i : Nat) : Prop :=
  ∃ start < i, BeginsAt text start ∧ i ≤ start + (nameAt text start).length

instance (text : List Char) : DecidablePred (Covered text) := fun i =>
  inferInstanceAs (Decidable (∃ start < i, BeginsAt text start ∧
    i ≤ start + (nameAt text start).length))

/-- What is written for the character at the position. -/
def markAt (text : List Char) (i : Nat) : List Char :=
  if BeginsAt text i then ['?'] else if Covered text i then [] else text[i]?.toList

/-- The text with a question mark for each placeholder. -/
def marked (text : List Char) : List Char := (List.range text.length).flatMap (markAt text)

/-- The names of the placeholders of the text in order. -/
def placeholderNames (text : List Char) : List String :=
  ((List.range text.length).filter fun i => BeginsAt text i).map (nameAt text)

/-! ## Behind a part of the text -/

/-- What has been read of the text ends in a placeholder: with its colon, or with a character of its
name. -/
def InPlaceholder (text before : List Char) : Prop :=
  ∃ start word, before = start ++ ':' :: word ∧ BeginsAt text start.length ∧
    ∀ c ∈ word, isWordChar c = true

theorem beginsAt_iff {before rest : List Char} {c : Char} :
    BeginsAt (before ++ c :: rest) before.length ↔
      c = ':' ∧ before.count '"' % 2 = 0 ∧ before.getLast? ≠ some ':' ∧
        beforeName rest = true := by
  have hat : (before ++ c :: rest)[before.length]? = some c := by simp
  have hbehind : (before ++ c :: rest)[before.length + 1]? = rest.head? := by
    rw [List.getElem?_append_right (by omega)]
    simp [List.head?_eq_getElem?]
  have hbefore : (before ++ c :: rest).take before.length = before := by simp
  -- what the scan tests of the rest is what can be seen at the next position
  have hnamed : rest.head?.any startsName = beforeName rest := by cases rest <;> rfl
  constructor
  · rintro ⟨hcolon, houtside, hsingle, hname⟩
    rw [hat, Option.some.injEq] at hcolon
    rw [hbefore] at houtside hsingle
    rw [hbehind, hnamed] at hname
    exact ⟨hcolon, houtside, hsingle, hname⟩
  · rintro ⟨rfl, houtside, hsingle, hname⟩
    exact ⟨hat, by rwa [hbefore], by rwa [hbefore], by rwa [hbehind, hnamed]⟩

/-- The name of a placeholder goes on over identifier characters. -/
theorem nameAt_append {start word rest : List Char} (hword : ∀ c ∈ word, isWordChar c = true) :
    nameAt (start ++ ':' :: (word ++ rest)) start.length =
      String.ofList (word ++ rest.takeWhile isWordChar) := by
  have hdrop : (start ++ ':' :: (word ++ rest)).drop (start.length + 1) = word ++ rest := by
    rw [← List.drop_drop, List.drop_left, List.drop_one, List.tail_cons]
  rw [nameAt, hdrop, List.takeWhile_append_of_pos hword]

/-- A part of a text falls apart at a placeholder that begins in it. -/
theorem BeginsAt.exists_eq_append {before rest : List Char} {k : Nat}
    (h : BeginsAt (before ++ rest) k) (hlt : k < before.length) :
    ∃ start word, before = start ++ ':' :: word ∧ start.length = k := by
  have hcolon : before[k] = ':' := by
    have hat := h.colon
    rw [List.getElem?_append_left hlt, List.getElem?_eq_getElem hlt] at hat
    exact Option.some.inj hat
  refine ⟨before.take k, before.drop (k + 1), ?_, ?_⟩
  · rw [← hcolon, ← List.drop_eq_getElem_cons hlt, List.take_append_drop]
  · rw [List.length_take]
    omega

/-- A position belongs to a name if the one in front of it belongs to a placeholder and there is an
identifier character at it. -/
theorem covered_iff {before rest : List Char} {c : Char} :
    Covered (before ++ c :: rest) before.length ↔
      InPlaceholder (before ++ c :: rest) before ∧ isWordChar c = true := by
  constructor
  · rintro ⟨k, hlt, hbegins, hle⟩
    obtain ⟨start, word, rfl, rfl⟩ := hbegins.exists_eq_append hlt
    have hdrop : (start ++ ':' :: word ++ c :: rest).drop (start.length + 1) =
        word ++ c :: rest := by
      rw [List.append_assoc, ← List.drop_drop, List.drop_left, List.cons_append, List.drop_one,
        List.tail_cons]
    -- the name reaches up to the character, so it begins with the word and the character
    have hlong : (word ++ [c]).length ≤ ((word ++ c :: rest).takeWhile isWordChar).length := by
      rw [nameAt, hdrop, String.length_ofList] at hle
      simp only [List.length_append, List.length_cons, List.length_nil] at hle ⊢
      omega
    have hbegin : word ++ [c] <+: (word ++ c :: rest).takeWhile isWordChar := by
      refine List.prefix_of_prefix_length_le ?_ (List.takeWhile_prefix _) hlong
      exact ⟨rest, by simp⟩
    have hword : ∀ d ∈ word ++ [c], isWordChar d = true := fun d hmem =>
      List.mem_takeWhile_imp (hbegin.subset hmem)
    exact ⟨⟨start, word, rfl, hbegins, fun d hmem => hword d (List.mem_append_left _ hmem)⟩,
      hword c (by simp)⟩
  · rintro ⟨⟨start, word, rfl, hbegins, hword⟩, hc⟩
    refine ⟨start.length, by simp, hbegins, ?_⟩
    rw [List.append_assoc, List.cons_append, nameAt_append hword, List.takeWhile_cons_of_pos hc,
      String.length_ofList]
    simp

/-! ## The binder -/

/-- The binder stands behind a part of the text and remembers of it what it has to. -/
structure Standing (text before : List Char) (state : BindState) : Prop where
  quoted : state.quoted = (before.count '"' % 2 == 1)
  afterColon : state.afterColon = (!state.naming && before.getLast? == some ':')
  naming : state.naming = true ↔ InPlaceholder text before

theorem standing_nil (text : List Char) : Standing text [] {} where
  quoted := rfl
  afterColon := rfl
  naming := by
    refine ⟨nofun, ?_⟩
    rintro ⟨start, word, hnil, -⟩
    simp at hnil

/-- A placeholder stands outside of quotes, and there are none in it. -/
theorem InPlaceholder.count_even {text before rest : List Char} (htext : text = before ++ rest)
    (h : InPlaceholder text before) : before.count '"' % 2 = 0 := by
  obtain ⟨start, word, rfl, hbegins, hword⟩ := h
  have hnone : word.count '"' = 0 := by
    rw [List.count_eq_zero]
    intro hmem
    exact absurd (hword '"' hmem) (by decide)
  have hstart : start.count '"' % 2 = 0 := by
    have houtside := hbegins.outside
    rwa [htext, List.append_assoc, List.take_left] at houtside
  simpa [hnone] using hstart

/-- Directly behind a part of a placeholder there is a character of its name, or the last one of it
is behind. -/
theorem InPlaceholder.getLast?_ne {text before rest : List Char} {c : Char}
    (htext : text = before ++ c :: rest) (h : InPlaceholder text before)
    (hc : isWordChar c = false) : before.getLast? ≠ some ':' := by
  obtain ⟨start, word, rfl, hbegins, hword⟩ := h
  rcases List.eq_nil_or_concat word with rfl | ⟨word, last, rfl⟩
  · -- directly behind the colon there would be a letter or an underscore
    have hnamed := hbegins.named
    have hbehind : text[start.length + 1]? = some c := by
      rw [htext, List.append_assoc, List.getElem?_append_right (by omega)]
      simp
    rw [hbehind, Option.any_some] at hnamed
    rw [isWordChar_of_startsName hnamed] at hc
    cases hc
  · have hlast : isWordChar last = true := hword last (by simp)
    have hne : last ≠ ':' := by rintro rfl; exact absurd hlast (by decide)
    rw [List.concat_eq_append, ← List.cons_append, ← List.append_assoc, List.getLast?_concat]
    simpa using hne

variable {text before rest : List Char} {c : Char} {state : BindState}

/-- The binder sees a placeholder begin exactly where one does. -/
theorem Standing.beginsAt_iff (h : Standing text before state) (htext : text = before ++ c :: rest)
    (hword : (state.naming && isWordChar c) = false) :
    (!state.quoted && c == ':' && !state.afterColon && beforeName rest) = true ↔
      BeginsAt text before.length := by
  have hquoted : state.quoted = false ↔ before.count '"' % 2 = 0 := by
    rw [h.quoted, beq_eq_false_iff_ne]
    omega
  -- inside of a name the flag is off, but there no colon is the last character either
  have hafter : state.afterColon = false ↔ before.getLast? ≠ some ':' := by
    rw [h.afterColon]
    cases hnaming : state.naming with
    | false => simp
    | true =>
        rw [hnaming, Bool.true_and] at hword
        have hne := (h.naming.mp hnaming).getLast?_ne htext hword
        simpa using hne
  subst htext
  rw [PlainQuery.Sql.beginsAt_iff, ← hquoted, ← hafter]
  simp only [Bool.and_eq_true, Bool.not_eq_true', beq_iff_eq]
  tauto

/-! ### Steps -/

theorem Standing.word (htext : text = before ++ c :: rest)
    (hin : InPlaceholder text before) (hc : isWordChar c = true) :
    Standing text (before ++ [c]) { naming := true } where
  quoted := by
    have hquote : c ≠ '"' := by rintro rfl; exact absurd hc (by decide)
    have heven := hin.count_even htext
    simp [List.count_append, hquote, heven]
  afterColon := rfl
  naming := by
    obtain ⟨start, word, rfl, hbegins, hword⟩ := hin
    refine ⟨fun _ => ⟨start, word ++ [c], by simp, hbegins, ?_⟩, fun _ => rfl⟩
    intro d hmem
    rcases List.mem_append.mp hmem with hmem | hmem
    · exact hword d hmem
    · rwa [List.mem_singleton.mp hmem]

theorem Standing.colon (htext : text = before ++ ':' :: rest)
    (hbegins : BeginsAt text before.length) :
    Standing text (before ++ [':']) { naming := true } where
  quoted := by
    have heven := hbegins.outside
    rw [htext, List.take_left] at heven
    simp [List.count_append, heven]
  afterColon := rfl
  naming := ⟨fun _ => ⟨before, [], rfl, hbegins, nofun⟩, fun _ => rfl⟩

theorem Standing.copied (h : Standing text before state)
    (hword : (state.naming && isWordChar c) = false) (hbegins : ¬ BeginsAt text before.length) :
    Standing text (before ++ [c])
      { quoted := if c = '"' then !state.quoted else state.quoted, afterColon := c == ':' } where
  quoted := by
    rw [h.quoted]
    by_cases hc : c = '"'
    · simp only [hc, List.count_append, List.count_singleton]
      rcases Nat.mod_two_eq_zero_or_one (before.count '"') with heven | hodd
      · simp [heven, Nat.add_mod]
      · simp [hodd, Nat.add_mod]
    · simp [hc, List.count_append]
  afterColon := by simp
  naming := by
    refine ⟨nofun, ?_⟩
    rintro ⟨start, word, hbefore, hstart, hall⟩
    rcases List.eq_nil_or_concat word with rfl | ⟨word, last, rfl⟩
    · -- the character is the colon of a placeholder
      obtain ⟨rfl, -⟩ := List.append_inj' hbefore rfl
      exact absurd hstart hbegins
    · -- the character is one of a name
      rw [List.concat_eq_append, ← List.cons_append, ← List.append_assoc] at hbefore
      obtain ⟨rfl, hlast⟩ := List.append_inj' hbefore rfl
      rw [List.concat_eq_append] at hall
      have hnaming := h.naming.mpr ⟨start, word, rfl, hstart,
        fun d hmem => hall d (List.mem_append_left _ hmem)⟩
      rw [hnaming, Bool.true_and, List.singleton_inj.mp hlast, hall last (by simp)] at hword
      cases hword

/-! ### What is done at a position -/

theorem markAt_of_beginsAt {i : Nat} (hbegins : BeginsAt text i) : markAt text i = ['?'] := by
  rw [markAt, if_pos hbegins]

theorem markAt_word (htext : text = before ++ c :: rest) (hin : InPlaceholder text before)
    (hc : isWordChar c = true) : markAt text before.length = [] := by
  have hcolon : c ≠ ':' := by rintro rfl; exact absurd hc (by decide)
  subst htext
  rw [markAt, if_neg fun hbegins => hcolon (beginsAt_iff.mp hbegins).1,
    if_pos (covered_iff.mpr ⟨hin, hc⟩)]

theorem markAt_copied (h : Standing text before state) (htext : text = before ++ c :: rest)
    (hword : (state.naming && isWordChar c) = false) (hbegins : ¬ BeginsAt text before.length) :
    markAt text before.length = [c] := by
  have hcovered : ¬ Covered text before.length := by
    intro hcovered
    rw [htext, covered_iff, ← htext] at hcovered
    rw [h.naming.mpr hcovered.1, hcovered.2] at hword
    cases hword
  rw [markAt, if_neg hbegins, if_neg hcovered, htext]
  simp

/-! ### Runs -/

/-- The outcome for a text that has these names and comes out as `marked`: the values of the names,
or the first name that has none. -/
def Meets (parameters : Fields Json) (names : List String) (marked : List Char) :
    Except MissingArgument (List Char × List Argument) → Prop
  | .ok bound =>
    bound.1 = marked ∧
      bound.2.map some = names.map fun name => (parameters.get? name).map Argument.ofJson
  | .error missing =>
    names.find? (fun name => (parameters.get? name).isNone) = some missing.name

variable {parameters : Fields Json} {names : List String} {marks : List Char}
  {outcome : Except MissingArgument (List Char × List Argument)}

theorem Meets.copied (h : Meets parameters names marks outcome) (c : Char) :
    Meets parameters names (c :: marks) (outcome.map fun bound => (c :: bound.1, bound.2)) := by
  cases outcome with
  | ok bound => exact ⟨congrArg (c :: ·) h.1, h.2⟩
  | error missing => exact h

theorem Meets.slot {name : String} {value : Json} (h : Meets parameters names marks outcome)
    (hvalue : parameters.get? name = some value) :
    Meets parameters (name :: names) ('?' :: marks)
      (outcome.map fun bound => ('?' :: bound.1, Argument.ofJson value :: bound.2)) := by
  cases outcome with
  | ok bound =>
      refine ⟨congrArg ('?' :: ·) h.1, ?_⟩
      change some (Argument.ofJson value) :: bound.2.map some = _
      rw [h.2, List.map_cons, hvalue, Option.map_some]
  | error missing =>
      have hpassed : (parameters.get? name).isNone = false := by rw [hvalue]; rfl
      change (name :: names).find? _ = _
      rw [List.find?_cons_of_neg (by rw [hpassed]; exact Bool.false_ne_true)]
      exact h

theorem Meets.missing {name : String} (hvalue : parameters.get? name = none) :
    Meets parameters (name :: names) marks (.error ⟨name⟩) := by
  change (name :: names).find? _ = _
  rw [List.find?_cons_of_pos (by rw [hvalue]; rfl)]

/-- Wherever it stands, the binder does at each position to come what is to be done there. -/
theorem meets_bindFrom (h : Standing text before state) (htext : text = before ++ rest) :
    Meets parameters
      (((List.range' before.length rest.length).filter fun i => BeginsAt text i).map (nameAt text))
      ((List.range' before.length rest.length).flatMap (markAt text))
      (bindFrom parameters state rest) := by
  induction rest generalizing before state with
  | nil => exact ⟨rfl, rfl⟩
  | cons c rest ih =>
      -- the list of positions loses its first one as the text loses its first character
      have hnext : text = (before ++ [c]) ++ rest := by simp [htext]
      have hlength : (before ++ [c]).length = before.length + 1 := List.length_append
      rw [List.length_cons, List.range'_succ, List.flatMap_cons, ← hlength]
      by_cases hword : (state.naming && isWordChar c) = true
      · -- a character of a name
        obtain ⟨hnaming, hc⟩ := Bool.and_eq_true_iff.mp hword
        have hin := h.naming.mp hnaming
        have hbegins : ¬ BeginsAt text before.length := by
          intro hbegins
          have hmark := markAt_of_beginsAt hbegins
          rw [markAt_word htext hin hc] at hmark
          cases hmark
        rw [bindFrom_word hnaming hc, List.filter_cons_of_neg (by simpa using hbegins),
          markAt_word htext hin hc, List.nil_append]
        exact ih (Standing.word htext hin hc) hnext
      rw [Bool.not_eq_true] at hword
      by_cases hbegins : BeginsAt text before.length
      · -- the colon of a placeholder
        have hsees := (h.beginsAt_iff htext hword).mpr hbegins
        simp only [Bool.and_eq_true, Bool.not_eq_true', beq_iff_eq] at hsees
        obtain ⟨⟨⟨hquoted, rfl⟩, hafter⟩, hrest⟩ := hsees
        have hname : nameAt text before.length = String.ofList (rest.takeWhile isWordChar) := by
          rw [htext]
          exact @nameAt_append before [] rest nofun
        rw [bindFrom_colon hquoted hafter hrest, List.filter_cons_of_pos (by simpa using hbegins),
          markAt_of_beginsAt hbegins, List.map_cons, ← hname]
        cases hvalue : parameters.get? (nameAt text before.length) with
        | none => exact Meets.missing hvalue
        | some value => exact (ih (Standing.colon htext hbegins) hnext).slot hvalue
      · -- any other character
        have hcolon := Bool.eq_false_iff.mpr fun hsees =>
          hbegins ((h.beginsAt_iff htext hword).mp hsees)
        rw [bindFrom_copied hword hcolon, List.filter_cons_of_neg (by simpa using hbegins),
          markAt_copied h htext hword hbegins]
        exact (ih (h.copied hword hbegins) hnext).copied c

theorem meets_bindFrom_start (text : List Char) (parameters : Fields Json) :
    Meets parameters (placeholderNames text) (marked text) (bindFrom parameters {} text) := by
  have hmeets : Meets parameters _ _ (bindFrom parameters {} text) :=
    meets_bindFrom (standing_nil text) rfl
  rwa [List.length_nil, ← List.range_eq_range'] at hmeets

/-! ## A second time -/

/-- No name begins in what is written where none began in the text. -/
theorem beforeName_bound {bound : List Char × List Argument} (hnaming : state.naming = false)
    (hrest : beforeName rest = false) (h : bindFrom parameters state rest = .ok bound) :
    beforeName bound.1 = false := by
  cases rest with
  | nil =>
      cases h
      rfl
  | cons c rest =>
      have hword : (state.naming && isWordChar c) = false := by rw [hnaming, Bool.false_and]
      by_cases hcolon : (!state.quoted && c == ':' && !state.afterColon && beforeName rest) = true
      · -- a question mark begins no name
        simp only [Bool.and_eq_true, Bool.not_eq_true', beq_iff_eq] at hcolon
        obtain ⟨⟨⟨hquoted, rfl⟩, hafter⟩, hname⟩ := hcolon
        rw [bindFrom_colon hquoted hafter hname] at h
        split at h
        · cases h
        · obtain ⟨later, -, rfl⟩ := exists_of_map_eq_ok h
          rfl
      · rw [bindFrom_copied hword (Bool.eq_false_iff.mpr hcolon)] at h
        obtain ⟨later, -, rfl⟩ := exists_of_map_eq_ok h
        exact hrest

/-- What is written for a text has no placeholder: whatever it is bound to, it is copied. -/
theorem bindFrom_bound {others : Fields Json} {bound : List Char × List Argument}
    (hstate : state.naming = true → state = { naming := true })
    (h : bindFrom parameters state rest = .ok bound) :
    bindFrom others { quoted := state.quoted, afterColon := state.afterColon } bound.1 =
      .ok (bound.1, []) := by
  induction rest generalizing state bound with
  | nil =>
      cases h
      rfl
  | cons c rest ih =>
      by_cases hword : (state.naming && isWordChar c) = true
      · -- nothing is written for a character of a name
        obtain ⟨hnaming, hc⟩ := Bool.and_eq_true_iff.mp hword
        rw [bindFrom_word hnaming hc] at h
        rw [hstate hnaming]
        exact ih (fun _ => rfl) h
      rw [Bool.not_eq_true] at hword
      by_cases hcolon : (!state.quoted && c == ':' && !state.afterColon && beforeName rest) = true
      · -- a question mark is copied, and the name behind it begins like the text
        simp only [Bool.and_eq_true, Bool.not_eq_true', beq_iff_eq] at hcolon
        obtain ⟨⟨⟨hquoted, rfl⟩, hafter⟩, hname⟩ := hcolon
        rw [bindFrom_colon hquoted hafter hname] at h
        split at h
        · cases h
        · obtain ⟨later, hlater, rfl⟩ := exists_of_map_eq_ok h
          have hcopied := ih (fun _ => rfl) hlater
          rw [hquoted, hafter, bindFrom_char (by decide), if_neg (by decide), hcopied]
          rfl
      · -- a colon that is copied has no name behind it, before and after
        rw [Bool.not_eq_true] at hcolon
        rw [bindFrom_copied hword hcolon] at h
        obtain ⟨later, hlater, rfl⟩ := exists_of_map_eq_ok h
        have hagain : (!state.quoted && c == ':' && !state.afterColon && beforeName later.1) =
            false := by
          cases hname : beforeName rest with
          | false => rw [beforeName_bound rfl hname hlater, Bool.and_false]
          | true =>
              rw [hname, Bool.and_true] at hcolon
              rw [hcolon, Bool.false_and]
        have hcopied := @bindFrom_copied others
          { quoted := state.quoted, afterColon := state.afterColon } c later.1 rfl hagain
        exact hcopied.trans (congrArg (Except.map _) (ih (by exact nofun) hlater))

/-- **Binding meets its specification position by position.**  It fails exactly if the name of a
placeholder has no value, and says the leftmost such name.  Otherwise each placeholder has become a
question mark and nothing else has changed, the arguments are the values of the names in order, and
in the text that has come out there is nothing left to bind. -/
theorem bindNames_positionwise (sql : String) (parameters : Fields Json) :
    match bindNames sql parameters with
    | .ok (text, arguments) =>
      text = String.ofList (marked sql.toList) ∧
        arguments.map some =
          (placeholderNames sql.toList).map (fun name =>
            (parameters.get? name).map Argument.ofJson) ∧
        ∀ others, bindNames text others = .ok (text, [])
    | .error missing =>
      (placeholderNames sql.toList).find? (fun name => (parameters.get? name).isNone) =
        some missing.name := by
  have hmeets := meets_bindFrom_start sql.toList parameters
  rw [bindNames_eq_map]
  cases hbind : bindFrom parameters {} sql.toList with
  | error missing =>
      rw [hbind] at hmeets
      exact hmeets
  | ok bound =>
      rw [hbind] at hmeets
      obtain ⟨htext, harguments⟩ := hmeets
      refine ⟨congrArg String.ofList htext, harguments, fun others => ?_⟩
      have hagain : bindFrom others {} bound.1 = .ok (bound.1, []) :=
        bindFrom_bound (by exact nofun) hbind
      rw [bindNames_eq_map, String.toList_ofList, hagain]
      rfl

/-- Quoted text, a cast and two placeholders that meet. -/
example :
    marked "\":a\", :b_1::DATE, :c:d".toList = "\":a\", ?::DATE, ??".toList ∧
      placeholderNames "\":a\", :b_1::DATE, :c:d".toList = ["b_1", "c", "d"] := by decide

end PlainQuery.Sql
