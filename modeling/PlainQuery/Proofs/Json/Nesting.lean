import Mathlib.Data.List.Basic
import Mathlib.Data.List.TakeWhile
import PlainQuery.Json.Reader
import PlainQuery.Proofs.Outcome

/-!
# How documents nest

Of the grammar of documents `Nested` says only how strings and braces are placed: strings are
closed, braces are paired, and outside of strings there are no backticks.  That is all that a scan
for braces or fences has to know of a document.

Whatever a reader takes off the front of a text is nested.  `Leaves` says so of a text and its rest,
and it is transitive, so the proofs follow the readers token by token:

* strings: one character of a string at a time (`body_of_stringStep`), with the backslash that has
  been read but not its letter as the only thing to remember (`StringState.pending`).  A string
  whose code units are spoiled is never read to its end (`scanStringFrom_spoiled`);
* words, numbers and white space: none of their characters is a quote, a brace or a backtick
  (`isInert_of_kind`), so nothing needs to be known of how they are read;
* values, lists and objects: the three readers call each other with a step less, and `readersLeave`
  is the induction on the steps, for all three at once.  The reader of members stops in front of the
  closing brace, which is paired with the opening one in the reader of values.

So a text that is read as a whole is nested (`nested_of_readChars`).  If it begins and ends with a
brace (`IsObject`), it is a single object, whose inside is nested (`IsObject.exists_inner`).
-/

namespace PlainQuery.Json

/-! ## Strings -/

/-- What stands between the quotes of a string: neither a quote nor a backslash but behind a
backslash, and no line break. -/
inductive StringBody : List Char → Prop
  | nil : StringBody []
  | plain {c : Char} {body : List Char} (hquote : c ≠ '"') (hslash : c ≠ '\\') (hline : c ≠ '\n') :
      StringBody body → StringBody (c :: body)
  | escape {c : Char} {body : List Char} (hline : c ≠ '\n') :
      StringBody body → StringBody ('\\' :: c :: body)

theorem StringBody.no_line {body : List Char} (h : StringBody body) : '\n' ∉ body := by
  induction h with
  | nil => exact List.not_mem_nil
  | plain _ _ hline _ ih => simp [hline.symm, ih]
  | escape hline _ ih => simp [hline.symm, ih]

/-- The backslash that has been read and still waits for its letter. -/
def StringState.pending : StringState → List Char
  | .escape => ['\\']
  | .pairLetter _ => ['\\']
  | _ => []

/-- Behind a code unit that is spoiled no string is read. -/
theorem scanStringFrom_spoiled (lenient : Bool) (bytes : Nat) (text : List Char)
    (result : List Char × List Char) :
    scanStringFrom lenient (.spoiled bytes) text ≠ .ok result := by
  induction text generalizing bytes result with
  | nil => exact nofun
  | cons c text ih =>
      intro h
      rw [scanStringFrom] at h
      · obtain ⟨⟨added, next⟩, hstep, h⟩ := exists_of_bind_eq_ok h
        obtain ⟨later, hlater, -⟩ := exists_of_bind_eq_ok h
        rw [stringStep] at hstep
        split at hstep
        · cases hstep
        · cases hstep
          exact ih _ later hlater
      · exact nofun

/-- The characters that stand for themselves or for a code unit behind a backslash are no line
breaks. -/
theorem ne_line_of_escapeLetter? {c meant : Char} (h : escapeLetter? c = some meant) :
    c ≠ '\n' := by
  rintro rfl
  cases h

theorem plain_of_hexDigit? {c : Char} {digit : Nat} (h : hexDigit? c = some digit) :
    c ≠ '"' ∧ c ≠ '\\' ∧ c ≠ '\n' := by
  refine ⟨?_, ?_, ?_⟩ <;> (rintro rfl; cases h)

theorem pending_of_closeUnit {code : Nat} {high : Option Nat} {added : List Char}
    {next : StringState} (h : closeUnit false code high = .ok (added, next)) :
    next.pending = [] := by
  cases high with
  | some first =>
      simp only [closeUnit, Bool.false_eq_true, if_false] at h
      split at h
      · cases h
        rfl
      · cases h
  | none =>
      simp only [closeUnit, Bool.false_eq_true, if_false] at h
      split at h
      · cases h
      · split at h
        · cases h
          rfl
        · cases h
          rfl

/-- One more character of a string, unless the string is spoiled. -/
theorem body_of_stringStep {state next : StringState} {c : Char} {added body : List Char}
    (hopen : state = .plain → c ≠ '"') (h : stringStep false state c = .ok (added, next))
    (hnext : ∀ bytes, next ≠ .spoiled bytes) (hbody : StringBody (next.pending ++ body)) :
    StringBody (state.pending ++ c :: body) := by
  cases state with
  | plain =>
      rw [stringStep] at h
      split at h
      · rename_i hslash
        rw [beq_iff_eq] at hslash
        cases h
        rwa [hslash]
      · rename_i hslash
        split at h
        · cases h
        · rename_i hcontrol
          cases h
          refine .plain (hopen rfl) (by simpa using hslash) ?_ hbody
          rintro rfl
          exact hcontrol (by decide)
  | escape =>
      rw [stringStep] at h
      split at h
      · rename_i hunit
        rw [beq_iff_eq] at hunit
        cases h
        exact .escape (by rw [hunit]; decide) hbody
      · split at h
        · rename_i meant hmeant
          cases h
          exact .escape (ne_line_of_escapeLetter? hmeant) hbody
        · cases h
  | unit seen code high =>
      rw [stringStep] at h
      split at h
      · rename_i digit hdigit
        obtain ⟨hquote, hslash, hline⟩ := plain_of_hexDigit? hdigit
        refine .plain hquote hslash hline ?_
        split at h
        -- with its last digit the code unit is complete, and nothing is pending
        · rwa [pending_of_closeUnit h] at hbody
        · cases h
          exact hbody
      · split at h
        · cases h
        · cases h
          -- the code unit is spoiled, which is excluded
          exact absurd rfl (hnext _)
  | spoiled bytes =>
      rw [stringStep] at h
      split at h
      · cases h
      · cases h
        exact absurd rfl (hnext _)
  | pairSlash high =>
      rw [stringStep] at h
      split at h
      · rename_i hslash
        rw [beq_iff_eq] at hslash
        cases h
        rwa [hslash]
      · cases h
  | pairLetter high =>
      rw [stringStep] at h
      split at h
      · rename_i hunit
        rw [beq_iff_eq] at hunit
        cases h
        exact .escape (by rw [hunit]; decide) hbody
      · cases h

/-- What is read of a string is its body and the closing quote. -/
theorem body_of_scanStringFrom {state : StringState} {text content rest : List Char}
    (h : scanStringFrom false state text = .ok (content, rest)) :
    ∃ body, text = body ++ '"' :: rest ∧ StringBody (state.pending ++ body) := by
  induction text generalizing state content with
  | nil => cases h
  | cons c text ih =>
      by_cases hclosing : state = .plain ∧ c = '"'
      · obtain ⟨rfl, rfl⟩ := hclosing
        cases h
        exact ⟨[], rfl, .nil⟩
      · rw [scanStringFrom] at h
        · obtain ⟨⟨added, next⟩, hstep, h⟩ := exists_of_bind_eq_ok h
          obtain ⟨⟨later, rest'⟩, hlater, h⟩ := exists_of_bind_eq_ok h
          cases h
          obtain ⟨body, rfl, hbody⟩ := ih hlater
          refine ⟨c :: body, rfl, body_of_stringStep ?_ hstep ?_ hbody⟩
          · exact fun hplain hquote => hclosing ⟨hplain, hquote⟩
          · rintro bytes rfl
            exact scanStringFrom_spoiled false bytes _ _ hlater
        · intro hplain hquote
          exact hclosing ⟨hplain, beq_iff_eq.mp hquote⟩

/-! ## Nested texts -/

/-- The character is none of those that matter outside of strings. -/
def isInert (c : Char) : Bool := c != '"' && c != '\x7b' && c != '\x7d' && c != '`'

/-- Strings are closed and braces are paired in the text, and outside of strings it has no backtick.
-/
inductive Nested : List Char → Prop
  | nil : Nested []
  | inert {c : Char} {text : List Char} (hc : isInert c = true) : Nested text → Nested (c :: text)
  | string {body text : List Char} (hbody : StringBody body) :
      Nested text → Nested ('"' :: (body ++ '"' :: text))
  | braces {inner text : List Char} :
      Nested inner → Nested text → Nested ('\x7b' :: (inner ++ '\x7d' :: text))

namespace Nested

theorem append {first second : List Char} (hfirst : Nested first) (hsecond : Nested second) :
    Nested (first ++ second) := by
  induction hfirst with
  | nil => exact hsecond
  | inert hc _ ih => exact .inert hc ih
  | string hbody _ ih => simpa using Nested.string hbody ih
  | braces hinner _ _ ih => simpa using Nested.braces hinner ih

theorem of_inert {text : List Char} (htext : ∀ c ∈ text, isInert c = true) : Nested text := by
  induction text with
  | nil => exact .nil
  | cons c text ih =>
      rw [List.forall_mem_cons] at htext
      exact .inert htext.1 (ih htext.2)

/-- A nested text does not end with a backtick. -/
theorem getLast?_ne {text : List Char} (h : Nested text) : text.getLast? ≠ some '`' := by
  have hcons : ∀ (c : Char) (later : List Char), c ≠ '`' → later.getLast? ≠ some '`' →
      (c :: later).getLast? ≠ some '`' := by
    intro c later hc hlater
    cases later with
    | nil => simpa using hc
    | cons d later => rwa [List.getLast?_cons_cons]
  induction h with
  | nil => simp
  | inert hc _ ih =>
      refine hcons _ _ ?_ ih
      rintro rfl
      exact absurd hc (by decide)
  | string _ _ ih =>
      rw [← List.cons_append, List.getLast?_append_cons]
      exact hcons _ _ (by decide) ih
  | braces _ _ _ ih =>
      rw [← List.cons_append, List.getLast?_append_cons]
      exact hcons _ _ (by decide) ih

end Nested

/-! ## What readers take -/

/-- A nested part has been taken off the front of the text. -/
def Leaves (text rest : List Char) : Prop := ∃ taken, text = taken ++ rest ∧ Nested taken

namespace Leaves

theorem refl (text : List Char) : Leaves text text := ⟨[], rfl, .nil⟩

theorem trans {text middle rest : List Char} (hfirst : Leaves text middle)
    (hsecond : Leaves middle rest) : Leaves text rest := by
  obtain ⟨first, rfl, hfirst⟩ := hfirst
  obtain ⟨second, rfl, hsecond⟩ := hsecond
  exact ⟨first ++ second, (List.append_assoc ..).symm, hfirst.append hsecond⟩

theorem of_inert {taken : List Char} (rest : List Char) (htaken : ∀ c ∈ taken, isInert c = true) :
    Leaves (taken ++ rest) rest :=
  ⟨taken, rfl, .of_inert htaken⟩

theorem cons {c : Char} {text rest : List Char} (hc : isInert c = true) (h : Leaves text rest) :
    Leaves (c :: text) rest := by
  obtain ⟨taken, rfl, htaken⟩ := h
  exact ⟨c :: taken, rfl, .inert hc htaken⟩

theorem braces {text rest : List Char} (h : Leaves text ('\x7d' :: rest)) :
    Leaves ('\x7b' :: text) rest := by
  obtain ⟨inner, rfl, hinner⟩ := h
  exact ⟨'\x7b' :: (inner ++ ['\x7d']), by simp, .braces hinner .nil⟩

end Leaves

/-- A kind of characters to which none of the four marks belongs. -/
theorem isInert_of_kind {kind : Char → Bool} {c : Char} (hc : kind c = true)
    (hmarks : ['"', '\x7b', '\x7d', '`'].any kind = false) : isInert c = true := by
  have hne : ∀ mark ∈ ['"', '\x7b', '\x7d', '`'], (c != mark) = true := by
    intro mark hmark
    rw [bne_iff_ne]
    rintro rfl
    exact List.any_eq_false.mp hmarks c hmark hc
  simp only [isInert, Bool.and_eq_true]
  exact ⟨⟨⟨hne _ (by decide), hne _ (by decide)⟩, hne _ (by decide)⟩, hne _ (by decide)⟩

theorem isInert_of_isSpace {c : Char} (hc : isSpace c = true) : isInert c = true :=
  isInert_of_kind hc (by decide)

theorem isInert_of_isDigit {c : Char} (hc : c.isDigit = true) : isInert c = true :=
  isInert_of_kind hc (by decide)

theorem leaves_skipSpace (text : List Char) : Leaves text (skipSpace text) := by
  have htaken := Leaves.of_inert (text.dropWhile isSpace) fun c hmem =>
    isInert_of_isSpace (List.mem_takeWhile_imp (hmem : c ∈ text.takeWhile isSpace))
  rwa [List.takeWhile_append_dropWhile] at htaken

theorem leaves_spanDigits (text : List Char) : Leaves text (spanDigits text).2 := by
  have htaken := Leaves.of_inert (text.dropWhile Char.isDigit) fun c hmem =>
    isInert_of_isDigit (List.mem_takeWhile_imp (hmem : c ∈ text.takeWhile Char.isDigit))
  rwa [List.takeWhile_append_dropWhile] at htaken

theorem leaves_scanWord {word text rest : List Char} (hword : ∀ c ∈ word, isInert c = true)
    (h : scanWord word text = .ok rest) : Leaves text rest := by
  induction word generalizing text with
  | nil =>
      cases h
      exact .refl _
  | cons expected word ih =>
      cases text with
      | nil => cases h
      | cons c text =>
          rw [scanWord] at h
          split at h
          · rename_i heq
            rw [beq_iff_eq] at heq
            rw [heq]
            exact .cons (hword expected List.mem_cons_self)
              (ih (fun d hmem => hword d (List.mem_cons_of_mem _ hmem)) h)
          · cases h

theorem leaves_scanString {text rest : List Char} {content : String}
    (h : scanString text = .ok (content, rest)) : Leaves ('"' :: text) rest := by
  obtain ⟨⟨chars, rest'⟩, hscan, h⟩ := exists_of_bind_eq_ok h
  cases h
  obtain ⟨body, rfl, hbody⟩ := body_of_scanStringFrom hscan
  exact ⟨'"' :: (body ++ ['"']), by simp, .string hbody .nil⟩

/-! ### Numbers -/

section Numbers

variable {negative : Bool} {significand : Nat} {exponent : Int} {whole text rest : List Char}
  {value : Numeral}

/-- A sign in front of the digits of an exponent is passed over. -/
theorem leaves_sign {down : Bool} {digits : List Char}
    (h : (match text with
      | '+' :: rest => (false, rest)
      | '-' :: rest => (true, rest)
      | rest => (false, rest)) = (down, digits)) : Leaves text digits := by
  split at h
  · cases h
    exact .cons (by decide) (.refl _)
  · cases h
    exact .cons (by decide) (.refl _)
  · cases h
    exact .refl _

theorem leaves_of_spanDigits {shown : List Char} (h : spanDigits text = (shown, rest)) :
    Leaves text rest := by
  have hdigits := leaves_spanDigits text
  rwa [h] at hdigits

theorem leaves_scanExponent
    (h : scanExponent negative significand exponent text = .ok (value, rest)) :
    Leaves text rest := by
  revert h
  fun_cases scanExponent negative significand exponent text with
  | case1 => exact nofun
  | case2 => exact nofun
  | case3 down digits hsign shown behind hspan =>
      intro h
      cases h
      exact (leaves_sign hsign).trans (leaves_of_spanDigits hspan)
  | case4 down digits hsign shown behind hspan =>
      intro h
      obtain ⟨magnitude, -, h⟩ := exists_of_bind_eq_ok h
      cases h
      exact (leaves_sign hsign).trans (leaves_of_spanDigits hspan)

theorem leaves_scanFraction (h : scanFraction negative whole text = .ok (value, rest)) :
    Leaves text rest := by
  -- behind the point come the digits, and behind them perhaps an exponent
  have hpoint : ∀ {digits shown behind : List Char}, spanDigits digits = (shown, behind) →
      Leaves ('.' :: digits) behind :=
    fun hspan => .cons (by decide) (leaves_of_spanDigits hspan)
  revert h
  fun_cases scanFraction negative whole text with
  | case1 => exact nofun
  | case2 _ _ _ digits shown _ _ _ _ _ behind hspan =>
      exact fun h => (hpoint hspan).trans (.cons (by decide) (leaves_scanExponent h))
  | case3 _ _ _ digits shown _ _ _ _ _ behind hspan =>
      exact fun h => (hpoint hspan).trans (.cons (by decide) (leaves_scanExponent h))
  | case4 _ _ _ digits shown _ _ _ _ _ behind _ _ hspan =>
      intro h
      obtain ⟨magnitude, -, h⟩ := exists_of_bind_eq_ok h
      cases h
      exact hpoint hspan
  | case5 => exact fun h => .cons (by decide) (leaves_scanExponent h)
  | case6 => exact fun h => .cons (by decide) (leaves_scanExponent h)
  | case7 =>
      intro h
      cases h
      exact .refl _
  | case8 =>
      intro h
      obtain ⟨magnitude, -, h⟩ := exists_of_bind_eq_ok h
      cases h
      exact .refl _

theorem leaves_scanNumber (h : scanNumber negative text = .ok (value, rest)) :
    Leaves text rest := by
  revert h
  fun_cases scanNumber negative text with
  | case1 => exact nofun
  | case2 => exact nofun
  | case3 behind whole _ _ hspan =>
      exact fun h => (leaves_of_spanDigits hspan).trans (leaves_scanFraction h)

end Numbers

/-! ### Values -/

theorem leaves_word {c letter : Char} {word text rest : List Char} {meant value : Json}
    (hc : (c == letter) = true) (hword : (letter :: word).all isInert = true)
    (h : (do pure (meant, ← scanWord word text)) = Except.ok (value, rest)) :
    Leaves (c :: text) rest := by
  obtain ⟨behind, hscan, h⟩ := exists_of_bind_eq_ok h
  cases h
  rw [List.all_cons, Bool.and_eq_true, List.all_eq_true] at hword
  rw [beq_iff_eq.mp hc]
  exact .cons hword.1 (leaves_scanWord hword.2 hscan)

theorem leaves_readScalar {c : Char} {text rest : List Char} {value : Json}
    (h : readScalar c text = .ok (value, rest)) : Leaves (c :: text) rest := by
  revert h
  fun_cases readScalar c text with
  | case1 hc => exact leaves_word hc (by decide)
  | case2 _ hc => exact leaves_word hc (by decide)
  | case3 _ _ hc => exact leaves_word hc (by decide)
  | case4 _ _ _ hc =>
      intro h
      obtain ⟨⟨content, behind⟩, hstring, h⟩ := exists_of_bind_eq_ok h
      cases h
      rw [beq_iff_eq.mp hc]
      exact leaves_scanString hstring
  | case5 _ _ _ _ hc =>
      intro h
      obtain ⟨⟨number, behind⟩, hnumber, h⟩ := exists_of_bind_eq_ok h
      cases h
      rw [beq_iff_eq.mp hc]
      exact .cons (by decide) (leaves_scanNumber hnumber)
  | case6 =>
      intro h
      obtain ⟨⟨number, behind⟩, hnumber, h⟩ := exists_of_bind_eq_ok h
      cases h
      exact leaves_scanNumber hnumber
  | case7 => exact nofun

theorem leaves_of_skipSpace {text rest : List Char} (h : skipSpace text = rest) :
    Leaves text rest :=
  h ▸ leaves_skipSpace text

/-- White space and one more character are passed over. -/
theorem leaves_of_skipSpace_cons {c : Char} {text rest : List Char}
    (h : skipSpace text = c :: rest) (hc : isInert c = true) : Leaves text rest :=
  (leaves_of_skipSpace h).trans (.cons hc (.refl _))

theorem leaves_scanColon {text rest : List Char} (h : scanColon text = .ok rest) :
    Leaves text rest := by
  revert h
  fun_cases scanColon text with
  | case1 => exact nofun
  | case2 behind hskip =>
      intro h
      cases h
      exact leaves_of_skipSpace_cons hskip (by decide)
  | case3 => exact nofun

theorem leaves_nextItem {first more : Bool} {text rest : List Char}
    (h : nextItem first text = .ok (more, rest)) : Leaves text rest := by
  revert h
  fun_cases nextItem first text with
  | case2 behind hskip =>
      intro h
      cases h
      exact leaves_of_skipSpace_cons hskip (by decide)
  | case3 behind hskip =>
      intro h
      cases h
      exact leaves_of_skipSpace hskip
  | case6 behind hskip =>
      intro h
      cases h
      exact (leaves_of_skipSpace_cons hskip (by decide)).trans (leaves_skipSpace behind)
  | case7 =>
      intro h
      cases h
      exact leaves_skipSpace text
  | _ => exact nofun

/-- The character at which a look for the next key ends. -/
def keyMark (more : Bool) : Char := if more then '"' else '\x7d'

theorem leaves_nextKey {first more : Bool} {text rest : List Char}
    (h : nextKey first text = .ok (more, rest)) : Leaves text (keyMark more :: rest) := by
  revert h
  fun_cases nextKey first text with
  | case2 behind hskip =>
      intro h
      cases h
      exact leaves_of_skipSpace hskip
  | case5 behind hskip _ key hkey =>
      intro h
      cases h
      exact (leaves_of_skipSpace_cons hskip (by decide)).trans (leaves_of_skipSpace hkey)
  | case8 behind hskip =>
      intro h
      cases h
      exact leaves_of_skipSpace hskip
  | _ => exact nofun

/-- The readers of values, of the rest of a list and of the rest of an object take nested texts off,
the last of them up to the closing brace. -/
structure ReadersLeave (steps : Nat) : Prop where
  value : ∀ {depth : Nat} {text rest : List Char} {value : Json},
    readValue steps depth text = .ok (value, rest) → Leaves text rest
  items : ∀ {depth : Nat} {first : Bool} {text rest : List Char} {items : List Json},
    readItems steps depth first text = .ok (items, rest) → Leaves text rest
  members : ∀ {depth : Nat} {first : Bool} {text rest : List Char} {members : List (String × Json)},
    readMembers steps depth first text = .ok (members, rest) → Leaves text ('\x7d' :: rest)

theorem ReadersLeave.readValue {steps depth : Nat} {text rest : List Char} {value : Json}
    (ih : ReadersLeave steps) (h : readValue (steps + 1) depth text = .ok (value, rest)) :
    Leaves text rest := by
  rw [Json.readValue] at h
  split at h
  · cases h
  · rename_i behind hskip
    split at h
    · cases h
    · obtain ⟨⟨items, rest'⟩, hitems, h⟩ := exists_of_bind_eq_ok h
      cases h
      exact (leaves_of_skipSpace_cons hskip (by decide)).trans (ih.items hitems)
  · rename_i behind hskip
    split at h
    · cases h
    · obtain ⟨⟨members, rest'⟩, hmembers, h⟩ := exists_of_bind_eq_ok h
      cases h
      -- the members end in front of the brace that closes the object
      exact (leaves_of_skipSpace hskip).trans (ih.members hmembers).braces
  · rename_i hskip
    exact (leaves_of_skipSpace hskip).trans (leaves_readScalar h)

theorem ReadersLeave.readItems {steps depth : Nat} {first : Bool} {text rest : List Char}
    {items : List Json} (ih : ReadersLeave steps)
    (h : readItems (steps + 1) depth first text = .ok (items, rest)) : Leaves text rest := by
  rw [Json.readItems] at h
  obtain ⟨⟨more, behind⟩, hnext, h⟩ := exists_of_bind_eq_ok h
  cases more with
  | false =>
      cases h
      exact leaves_nextItem hnext
  | true =>
      obtain ⟨⟨item, behindItem⟩, hitem, h⟩ := exists_of_bind_eq_ok h
      obtain ⟨⟨later, behindLater⟩, hlater, h⟩ := exists_of_bind_eq_ok h
      cases h
      exact ((leaves_nextItem hnext).trans (ih.value hitem)).trans (ih.items hlater)

theorem ReadersLeave.readMembers {steps depth : Nat} {first : Bool} {text rest : List Char}
    {members : List (String × Json)} (ih : ReadersLeave steps)
    (h : readMembers (steps + 1) depth first text = .ok (members, rest)) :
    Leaves text ('\x7d' :: rest) := by
  rw [Json.readMembers] at h
  obtain ⟨⟨more, behind⟩, hnext, h⟩ := exists_of_bind_eq_ok h
  cases more with
  | false =>
      cases h
      exact leaves_nextKey hnext
  | true =>
      obtain ⟨⟨key, behindKey⟩, hkey, h⟩ := exists_of_bind_eq_ok h
      obtain ⟨behindColon, hcolon, h⟩ := exists_of_bind_eq_ok h
      obtain ⟨⟨value, behindValue⟩, hvalue, h⟩ := exists_of_bind_eq_ok h
      obtain ⟨⟨later, behindLater⟩, hlater, h⟩ := exists_of_bind_eq_ok h
      cases h
      exact ((((leaves_nextKey hnext).trans (leaves_scanString hkey)).trans
        (leaves_scanColon hcolon)).trans (ih.value hvalue)).trans (ih.members hlater)

theorem readersLeave (steps : Nat) : ReadersLeave steps := by
  induction steps with
  | zero => exact ⟨nofun, nofun, nofun⟩
  | succ steps ih => exact ⟨ih.readValue, ih.readItems, ih.readMembers⟩

/-! ### Documents -/

theorem all_isSpace_of_readEnd {text : List Char} (h : readEnd text = .ok ()) :
    ∀ c ∈ text, isSpace c = true := by
  unfold readEnd at h
  split at h
  · rename_i hempty
    rw [List.isEmpty_iff, skipSpace, List.dropWhile_eq_nil_iff] at hempty
    exact hempty
  · cases h

/-- A document is nested. -/
theorem nested_of_readChars {text : List Char} {value : Json} (h : readChars text = .ok value) :
    Nested text := by
  obtain ⟨⟨value', rest⟩, hvalue, h⟩ := exists_of_bind_eq_ok h
  obtain ⟨⟨⟩, hend, h⟩ := exists_of_bind_eq_ok h
  obtain ⟨taken, rfl, htaken⟩ := (readersLeave _).value hvalue
  have hspaces : Nested rest :=
    .of_inert fun c hmem => isInert_of_isSpace (all_isSpace_of_readEnd hend c hmem)
  exact htaken.append hspaces

/-- The text is written from an opening brace to a closing one and is read as the value. -/
structure IsObject (text : List Char) (value : Json) : Prop where
  reads : readChars text = .ok value
  opens : text.head? = some '\x7b'
  closes : text.getLast? = some '\x7d'

namespace IsObject

variable {text : List Char} {value : Json}

theorem head?_append (h : IsObject text value) (behind : List Char) :
    (text ++ behind).head? = some '\x7b' := by
  rw [List.head?_append, h.opens, Option.some_or]

theorem getLast?_append (h : IsObject text value) (front : List Char) :
    (front ++ text).getLast? = some '\x7d' := by
  rw [List.getLast?_append, h.closes, Option.some_or]

/-- Such a text is one object: between its braces it is nested. -/
theorem exists_inner (h : IsObject text value) :
    ∃ inner, text = '\x7b' :: (inner ++ ['\x7d']) ∧ Nested inner := by
  obtain ⟨behind, rfl⟩ : ∃ behind, text = '\x7b' :: behind := by
    have hopens := h.opens
    cases text with
    | nil => cases hopens
    | cons c behind =>
        cases hopens
        exact ⟨behind, rfl⟩
  obtain ⟨⟨value', rest⟩, hvalue, hrest⟩ := exists_of_bind_eq_ok h.reads
  obtain ⟨⟨⟩, hspaces, -⟩ := exists_of_bind_eq_ok hrest
  have hskip : skipSpace ('\x7b' :: behind) = '\x7b' :: behind := rfl
  rw [stepsFor, readValue, hskip] at hvalue
  obtain ⟨⟨members, rest'⟩, hmembers, hvalue⟩ := exists_of_bind_eq_ok hvalue
  cases hvalue
  obtain ⟨inner, rfl, hinner⟩ := (readersLeave _).members hmembers
  -- behind the closing brace of the object there is white space only, hence nothing
  have hnone : rest = [] := by
    rcases List.eq_nil_or_concat rest with hnil | ⟨spaces, last, hlast⟩
    · exact hnil
    · have hspace := all_isSpace_of_readEnd hspaces last (by simp [hlast])
      have hcloses := h.closes
      rw [hlast, ← List.cons_append, List.getLast?_append_cons] at hcloses
      have hbrace : last = '\x7d' := by simpa [List.getLast?_cons] using hcloses
      rw [hbrace] at hspace
      cases hspace
  rw [hnone]
  exact ⟨inner, rfl, hinner⟩

end IsObject

end PlainQuery.Json
