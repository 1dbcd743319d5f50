import PlainQuery.Proofs.Intent.BraceScan
import PlainQuery.Proofs.Json.Equality
import PlainQuery.Proofs.Text.Blank

/-!
# Objects in replies

The object that a model was asked for comes wrapped in prose or in a code block.  `extractJson`
trims the reply, removes a fence and reads what is left as a document; if that fails, it reads the
first part that looks like an object.

Where the object is in the end depends on two facts:

* Trimming and the removal of the fence do not cut into it.  An object begins and ends with a brace,
  which is neither blank nor a backtick, so it is still there behind a part without opening braces
  (`Holds`, `holds_stripFence`).  The line of the opening fence goes as a whole, though; it must end
  before the object begins.
* The scan for balanced braces ends with it (`firstObject?_eq`).

So the object is what is taken from the reply, unless all that is left of the reply is a document
itself (`extractJson_wrapped`).

The second half is about a reply in one block.  Below the line of the opening fence the object is
found (`extractChars_below`).  On this line it is found if the whole reply is one line, since then
only backticks are taken off (`extractChars_oneLine`).  Otherwise the line is cut off with the
object in it: if the object has no line break of its own, nothing is left
(`extractChars_closedBelow`), and else an object is looked for behind its first line
(`extractChars_severalLines`), where the rest of it is no document (`exists_fault_behind_line`).
`CutAtLine` lists the three outcomes, and `extractJson_fencedInline` says that they are all.
-/

namespace PlainQuery.Reply

open Text (isBlank strip stripStart stripEnd)

/-! ## Lines and fences -/

theorem afterLine?_append {first : List Char} (hfirst : '\n' ∉ first) (behind : List Char) :
    afterLine? (first ++ '\n' :: behind) = some behind := by
  induction first with
  | nil => rfl
  | cons c first ih =>
      rw [List.mem_cons, not_or] at hfirst
      obtain ⟨hc, hrest⟩ := hfirst
      rw [List.cons_append, afterLine?, if_neg (by simpa using Ne.symm hc), ih hrest]

theorem afterLine?_eq_none {text : List Char} (h : '\n' ∉ text) : afterLine? text = none := by
  induction text with
  | nil => rfl
  | cons c text ih =>
      rw [List.mem_cons, not_or] at h
      obtain ⟨hc, hrest⟩ := h
      rw [afterLine?, if_neg (by simpa using Ne.symm hc), ih hrest]

theorem stripFence_of_no_fence {text : List Char} (h : ¬ fence <+: text) :
    stripFence text = text := by
  rw [stripFence, if_neg (by simpa [List.isPrefixOf_iff_prefix] using h)]

/-- Where there is no line break, backticks in front are all that goes. -/
theorem stripFence_oneLine {text : List Char} (h : '\n' ∉ text) :
    stripFence (fence ++ text) = text.dropWhile fence.contains := by
  have hline : '\n' ∉ fence ++ text := by
    simp [h, fence]
  have hopening : fence.isPrefixOf (fence ++ text) = true := by simp
  rw [stripFence, if_pos hopening, afterLine?_eq_none hline]
  rfl

/-- The first line goes with the opening fence. -/
theorem stripFence_lines {first behind : List Char} (h : '\n' ∉ first) :
    stripFence (fence ++ (first ++ '\n' :: behind)) =
      strip ((Text.dropEnding? fence (stripEnd behind)).getD (stripEnd behind)) := by
  have hline : '\n' ∉ fence ++ first := by
    simp [h, fence]
  have hopening : fence.isPrefixOf (fence ++ (first ++ '\n' :: behind)) = true := by simp
  rw [stripFence, if_pos hopening, ← List.append_assoc, afterLine?_append hline]

theorem stripEnd_fence (text : List Char) : stripEnd (text ++ fence) = text ++ fence :=
  Text.stripEnd_eq_self (by decide : isBlank '`' = false) (by simp [fence])

theorem strip_fences (text : List Char) :
    strip (fence ++ (text ++ fence)) = fence ++ (text ++ fence) := by
  have hstart : stripStart (fence ++ (text ++ fence)) = fence ++ (text ++ fence) := rfl
  rw [strip, hstart, ← List.append_assoc, stripEnd_fence]

/-- Between two fences the text below the first line is left, trimmed. -/
theorem stripFence_block {first : List Char} (h : '\n' ∉ first) (behind : List Char) :
    stripFence (strip (fence ++ (first ++ '\n' :: (behind ++ fence)))) = strip behind := by
  have hblock : fence ++ (first ++ '\n' :: (behind ++ fence)) =
      fence ++ ((first ++ '\n' :: behind) ++ fence) := by
    simp
  rw [hblock, strip_fences, ← hblock, stripFence_lines h, stripEnd_fence,
    Text.dropEnding?_self_append]
  rfl

/-! ## What is left of the reply -/

/-- The object stands in the text, behind a part without opening braces. -/
def Holds (object text : List Char) : Prop :=
  ∃ before after, '\x7b' ∉ before ∧ text = before ++ (object ++ after)

section Holds

variable {object text before after : List Char} {value : Json}

theorem Holds.strip (h : Json.IsObject object value) (hbefore : '\x7b' ∉ before) :
    Holds object (strip (before ++ (object ++ after))) := by
  rw [Text.strip_append (by decide) (by decide) h.opens h.closes]
  exact ⟨_, _, fun hmem => hbefore ((List.dropWhile_suffix _).subset hmem), rfl⟩

/-- The closing fence that is dropped stands behind the object. -/
theorem exists_dropFence (h : Json.IsObject object value) (before after : List Char) :
    ∃ after', (Text.dropEnding? fence (before ++ (object ++ after))).getD
      (before ++ (object ++ after)) = before ++ (object ++ after') := by
  rw [← List.append_assoc, Text.dropEnding?_append (by decide) (h.getLast?_append before)]
  cases Text.dropEnding? fence after with
  | none => exact ⟨after, by simp⟩
  | some after' => exact ⟨after', by simp⟩

/-- The removal of the fence leaves the object in the text. -/
theorem holds_stripFence (h : Json.IsObject object value) (hbefore : '\x7b' ∉ before)
    (hfence : ∀ rest, before = fence ++ rest → '\n' ∈ rest) (after : List Char) :
    Holds object (stripFence (before ++ (object ++ after))) := by
  by_cases hopening : fence <+: before ++ (object ++ after)
  · obtain ⟨rest, rfl⟩ :=
      Text.prefix_of_prefix_append (by decide) (h.head?_append after) hopening
    obtain ⟨first, behind, rfl, hfirst⟩ := List.eq_append_cons_of_mem (hfence rest rfl)
    have hbehind : '\x7b' ∉ behind := fun hmem => hbefore (by simp [hmem])
    have htrim : stripEnd (behind ++ (object ++ after)) = behind ++ (object ++ stripEnd after) := by
      rw [← List.append_assoc, Text.stripEnd_append (by decide) (h.getLast?_append behind),
        List.append_assoc]
    obtain ⟨after', hdrop⟩ := exists_dropFence h behind (stripEnd after)
    have hline : stripFence (fence ++ (first ++ '\n' :: (behind ++ (object ++ after)))) =
        Text.strip (behind ++ (object ++ after')) := by
      rw [stripFence_lines hfirst, htrim, hdrop]
    rw [List.append_assoc, List.append_assoc, List.cons_append, hline]
    exact .strip h hbehind
  · rw [stripFence_of_no_fence hopening]
    exact ⟨before, after, hbefore, rfl⟩

theorem extractChars_of_holds {reply : List Char} (h : Json.IsObject object value)
    (hreply : Holds object (stripFence (Text.strip reply))) :
    extractChars reply =
      match Json.readChars (stripFence (Text.strip reply)) with
      | .ok whole => .ok whole
      | .error _ => .ok value := by
  obtain ⟨before, after, hbefore, htext⟩ := hreply
  have hfirst : firstObject? (stripFence (Text.strip reply)) = some object :=
    htext ▸ firstObject?_eq hbefore h
  simp only [extractChars, hfirst, h.reads]
  rfl

end Holds

/-- **Objects survive wrapping.**  Before the object stands prose without opening braces, and if it
begins with a fence, the line of the fence ends in it; behind the object stands anything. -/
theorem extractJson_wrapped {before object after : String} {value : Json}
    (hobject : Json.IsObject object.toList value) (hbefore : '\x7b' ∉ before.toList)
    (hfence : ∀ rest, stripStart before.toList = fence ++ rest → '\n' ∈ rest) :
    extractJson (before ++ object ++ after) =
      match Json.readChars (stripFence (strip (before ++ object ++ after).toList)) with
      | .ok whole => .ok whole
      | .error _ => .ok value := by
  apply extractChars_of_holds hobject
  have hreply : (before ++ object ++ after).toList =
      before.toList ++ (object.toList ++ after.toList) := by
    simp
  rw [hreply, Text.strip_append (by decide) (by decide) hobject.opens hobject.closes]
  apply holds_stripFence hobject ?_ hfence
  intro hmem
  exact hbefore ((List.dropWhile_suffix _).subset hmem)

/-- An object with braces and a quote in one of its strings. -/
def quotedObject : String := "\x7b\"tables\": [\"a\x7d\\\"\x7b\"], \"limit\": \x7b\x7d\x7d"

def quotedValue : Json :=
  .object [("limit", .object []), ("tables", .array [.string "a\x7d\"\x7b"])]

theorem isObject_quoted : Json.IsObject quotedObject.toList quotedValue where
  reads := by decide +kernel
  opens := by decide
  closes := by decide

/-- It is taken from a block with a sentence before the object and another brace behind it. -/
theorem extractJson_wrapped_quoted :
    '\x7b' ∉ " ```json\nThe intent: ".toList ∧
      (∀ rest, stripStart " ```json\nThe intent: ".toList = fence ++ rest → '\n' ∈ rest) ∧
      extractJson (" ```json\nThe intent: " ++ quotedObject ++ "\n``` \x7bsic\x7d") =
        .ok quotedValue := by
  have hbefore : '\x7b' ∉ " ```json\nThe intent: ".toList := by decide
  have hfence : ∀ rest, stripStart " ```json\nThe intent: ".toList = fence ++ rest →
      '\n' ∈ rest := by
    intro rest hrest
    have hsplit : stripStart " ```json\nThe intent: ".toList =
        fence ++ "json\nThe intent: ".toList := by decide +kernel
    rw [List.append_cancel_left (hrest.symm.trans hsplit)]
    decide
  refine ⟨hbefore, hfence, ?_⟩
  rw [extractJson_wrapped isObject_quoted hbefore hfence]
  decide +kernel

/-! ## Fences on the line of the object -/

theorem isInert_of_isBlank {c : Char} (hc : isBlank c = true) : Json.isInert c = true :=
  Json.isInert_of_kind hc (by rfl)

/-- Blanks in front do not matter to the search for an object. -/
theorem firstObject?_stripStart (text : List Char) :
    firstObject? (stripStart text) = firstObject? text := by
  have hskip : (text.takeWhile isBlank ++ text.dropWhile isBlank).dropWhile (· != '\x7b') =
      (text.dropWhile isBlank).dropWhile (· != '\x7b') := by
    apply List.dropWhile_append_of_pos
    intro c hmem
    rw [bne_iff_ne]
    rintro rfl
    exact absurd (List.mem_takeWhile_imp hmem) (by decide)
  rw [List.takeWhile_append_dropWhile] at hskip
  rw [firstObject?, firstObject?, hskip, stripStart]

/-- The rest of an object behind one of its line breaks is no document. -/
theorem exists_fault_behind_line {first behind : List Char} {value : Json}
    (h : Json.IsObject (first ++ '\n' :: behind) value) :
    ∃ fault, Json.readChars (stripStart behind) = .error fault := by
  cases hread : Json.readChars (stripStart behind) with
  | error fault => exact ⟨fault, rfl⟩
  | ok value' =>
      have hblanks : Json.Nested (behind.takeWhile isBlank) :=
        .of_inert fun c hmem => isInert_of_isBlank (List.mem_takeWhile_imp hmem)
      have hbehind := hblanks.append (Json.nested_of_readChars hread)
      rw [stripStart, List.takeWhile_append_dropWhile] at hbehind
      exact absurd hbehind (not_nested_behind_line h)

/-- What is taken from a reply in one block whose object begins behind the opening fence, with
`blanks` before the closing one. -/
structure CutAtLine (object blanks : List Char) (value : Json) (outcome : Except ReplyError Json) :
    Prop where
  /-- On a single line the fences are found. -/
  oneLine : '\n' ∉ object → '\n' ∉ blanks → outcome = .ok value
  /-- The object is lost with the line of the opening fence. -/
  closedBelow : '\n' ∉ object → '\n' ∈ blanks → outcome = .error (.malformed .endInValue)
  /-- Of an object on several lines the first one is lost, and an object is looked for behind it. -/
  severalLines : ∀ first behind, object = first ++ '\n' :: behind → '\n' ∉ first →
    ∃ fault, Json.readChars (stripStart behind) = .error fault ∧
      outcome =
        match firstObject? behind with
        | none => .error (.malformed fault)
        | some inner => (Json.readChars inner).mapError .malformed

/-- Blanks behind a closing brace are trimmed. -/
theorem strip_of_closes {text blanks : List Char} (htext : text.getLast? = some '\x7d')
    (hblank : ∀ c ∈ blanks, isBlank c = true) : strip (text ++ blanks) = stripStart text := by
  obtain ⟨inside, rfl⟩ := List.getLast?_eq_some_iff.mp htext
  have hbrace : isBlank '\x7d' = false := by decide
  rw [List.append_assoc, Text.strip_append hbrace hbrace rfl rfl, Text.stripEnd_eq_nil hblank,
    List.append_nil, Text.stripStart_append hbrace rfl]

/-- What may stand behind an opening fence: neither an opening brace nor a backtick nor a line
break. -/
structure IsInfo (text : List Char) : Prop where
  noBrace : '\x7b' ∉ text
  noBacktick : '`' ∉ text
  noLine : '\n' ∉ text

section Inline

variable {info object blanks : List Char} {value : Json}
variable (hobject : Json.IsObject object value) (hinfo : IsInfo info)
variable (hblank : ∀ c ∈ blanks, isBlank c = true)

include hobject hinfo

/-- The backticks in front of the text end before it. -/
theorem dropWhile_info (behind : List Char) :
    (info ++ (object ++ behind)).dropWhile fence.contains = info ++ (object ++ behind) := by
  cases info with
  | nil =>
      have hopens := hobject.opens
      cases object with
      | nil => cases hopens
      | cons c object =>
          cases hopens
          rfl
  | cons c info =>
      have hc : c ≠ '`' := by
        rintro rfl
        exact hinfo.noBacktick List.mem_cons_self
      exact List.dropWhile_cons_of_neg (by simp [fence, hc])

theorem extractChars_oneLine (hline : '\n' ∉ object) (hnone : '\n' ∉ blanks) :
    extractChars (fence ++ (info ++ (object ++ (blanks ++ fence)))) = .ok value := by
  have htrim := strip_fences (info ++ (object ++ blanks))
  simp only [List.append_assoc] at htrim
  have hlines : '\n' ∉ info ++ (object ++ (blanks ++ fence)) := by
    simp [hinfo.noLine, hline, hnone, fence]
  have htext : stripFence (strip (fence ++ (info ++ (object ++ (blanks ++ fence))))) =
      info ++ (object ++ (blanks ++ fence)) := by
    rw [htrim, stripFence_oneLine hlines, dropWhile_info hobject hinfo]
  have hholds : Holds object
      (stripFence (strip (fence ++ (info ++ (object ++ (blanks ++ fence)))))) :=
    ⟨info, blanks ++ fence, hinfo.noBrace, htext⟩
  rw [extractChars_of_holds hobject hholds, htext]
  split
  · rename_i whole hwhole
    -- the closing fence is still there, so this is no document
    have hlast := (Json.nested_of_readChars hwhole).getLast?_ne
    simp [fence] at hlast
  · rfl

include hblank

omit hobject in
theorem extractChars_closedBelow (hline : '\n' ∉ object) (hsome : '\n' ∈ blanks) :
    extractChars (fence ++ (info ++ (object ++ (blanks ++ fence)))) =
      .error (.malformed .endInValue) := by
  obtain ⟨first, behind, rfl, hfirst⟩ := List.eq_append_cons_of_mem hsome
  have hbefore : '\n' ∉ info ++ (object ++ first) := by
    simp [hinfo.noLine, hline, hfirst]
  have htext := stripFence_block hbefore behind
  have hbehind : strip behind = [] := by
    have hall : ∀ c ∈ behind, isBlank c = true := fun c hmem => hblank c (by simp [hmem])
    rw [strip, Text.stripStart_eq_nil hall]
    rfl
  simp only [List.append_assoc, List.cons_append] at htext ⊢
  rw [extractChars, htext, hbehind]
  rfl

theorem extractChars_severalLines {first behind : List Char}
    (hlines : object = first ++ '\n' :: behind) (hfirst : '\n' ∉ first) :
    ∃ fault, Json.readChars (stripStart behind) = .error fault ∧
      extractChars (fence ++ (info ++ (object ++ (blanks ++ fence)))) =
        match firstObject? behind with
        | none => .error (.malformed fault)
        | some inner => (Json.readChars inner).mapError .malformed := by
  subst hlines
  obtain ⟨fault, hfault⟩ := exists_fault_behind_line hobject
  have hbefore : '\n' ∉ info ++ first := by
    simp [hinfo.noLine, hfirst]
  -- behind its first line the object still ends with its brace
  have hcloses : behind.getLast? = some '\x7d' := by
    have hlast := hobject.closes
    rw [List.getLast?_append_cons] at hlast
    cases behind with
    | nil => cases hlast
    | cons c behind => rwa [List.getLast?_cons_cons] at hlast
  have htext := stripFence_block hbefore (behind ++ blanks)
  rw [strip_of_closes hcloses hblank] at htext
  refine ⟨fault, hfault, ?_⟩
  simp only [List.append_assoc, List.cons_append] at htext ⊢
  have hfirstObject := firstObject?_stripStart behind
  cases hinner : firstObject? behind with
  | none => simp only [extractChars, htext, hfault, hfirstObject, hinner]
  | some inner => simp only [extractChars, htext, hfault, hfirstObject, hinner]

/-- Below the line of the opening fence the object is found, however it is written. -/
theorem extractChars_below :
    extractChars (fence ++ (info ++ '\n' :: (object ++ (blanks ++ fence)))) = .ok value := by
  have htext := stripFence_block hinfo.noLine (object ++ blanks)
  have hstart : stripStart object = object := by
    have happend : stripStart ([] ++ object) = stripStart [] ++ object :=
      Text.stripStart_append (by decide : isBlank '\x7b' = false) hobject.opens
    exact happend
  rw [strip_of_closes hobject.closes hblank, hstart, List.append_assoc] at htext
  rw [extractChars, htext, hobject.reads]

end Inline

/-- **Objects behind the opening fence.**  Where the object begins on the line below the fence it is
taken, whatever it looks like and however much white space there is before the closing fence.  Where
it begins on the line of the fence, this line goes up to its line break, with the object in it. -/
theorem extractJson_fencedInline {info object blanks : String} {value : Json}
    (hobject : Json.IsObject object.toList value) (hinfo : IsInfo info.toList)
    (hblank : ∀ c ∈ blanks.toList, isBlank c = true) :
    extractJson ("```" ++ info ++ "\n" ++ object ++ blanks ++ "```") = .ok value ∧
      CutAtLine object.toList blanks.toList value
        (extractJson ("```" ++ info ++ object ++ blanks ++ "```")) := by
  have hbelow : ("```" ++ info ++ "\n" ++ object ++ blanks ++ "```").toList =
      fence ++ (info.toList ++ '\n' :: (object.toList ++ (blanks.toList ++ fence))) := by
    simp [fence]
  have hinline : ("```" ++ info ++ object ++ blanks ++ "```").toList =
      fence ++ (info.toList ++ (object.toList ++ (blanks.toList ++ fence))) := by
    simp [fence]
  rw [extractJson, extractJson, hbelow, hinline]
  refine ⟨extractChars_below hobject hinfo hblank, ?_⟩
  exact
    { oneLine := extractChars_oneLine hobject hinfo
      closedBelow := extractChars_closedBelow hinfo hblank
      severalLines := fun _ _ => extractChars_severalLines hobject hinfo hblank }

/-- An object on two lines, with another object on the second one. -/
def datedObject : String :=
  "\x7b\"tables\": [\"orders\"],\n \"date_range\": \x7b\"start_date\": \"2024-01-01\"\x7d\x7d"

def datedRange : Json := .object [("start_date", .string "2024-01-01")]

def datedValue : Json :=
  .object [("date_range", datedRange), ("tables", .array [.string "orders"])]

theorem isObject_dated : Json.IsObject datedObject.toList datedValue where
  reads := by decide +kernel
  opens := by decide
  closes := by decide

theorem isInfo_json : IsInfo "json ".toList where
  noBrace := by decide
  noBacktick := by decide
  noLine := by decide

theorem extractJson_fencedInline_dated :
    extractJson ("```" ++ "json " ++ "\n" ++ datedObject ++ "\n" ++ "```") = .ok datedValue ∧
      CutAtLine datedObject.toList "\n".toList datedValue
        (extractJson ("```" ++ "json " ++ datedObject ++ "\n" ++ "```")) :=
  extractJson_fencedInline isObject_dated isInfo_json (List.all_eq_true.mp (by decide))

/-- Behind the fence its range of dates is taken for the whole object. -/
theorem extractJson_dated_inline :
    Json.IsObject datedObject.toList datedValue ∧
      extractJson ("```" ++ "json " ++ datedObject ++ "\n" ++ "```") = .ok datedRange ∧
      extractJson ("```" ++ "json " ++ datedObject ++ "\n" ++ "```") ≠ .ok datedValue := by
  have hrange : extractJson ("```" ++ "json " ++ datedObject ++ "\n" ++ "```") =
      .ok datedRange := by
    decide +kernel
  refine ⟨isObject_dated, hrange, ?_⟩
  rw [hrange]
  simp [datedRange, datedValue]

end PlainQuery.Reply
