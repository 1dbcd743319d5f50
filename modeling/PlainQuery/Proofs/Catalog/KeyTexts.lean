import PlainQuery.Proofs.Catalog.NameLists

/-!
# The texts of key constraints

A database tells a key in one of two forms,

```text
PRIMARY KEY(names)
FOREIGN KEY (names) REFERENCES table(names)
```

with keywords in any letter case, blanks wherever they can stand, and a table that may have the name
of its schema in front.  `Tells` says what a text of these forms tells.  It is no second reader: it
lists the layouts that the forms allow, part by part, with `Heading` for the keywords, `Lists` for
the names, `TargetText` for the table and `ReferenceText` for the second half.

As long as names are `Simple`, the patterns of the program find what the text tells, however it is
laid out (`primaryKey?_of_tells`, `foreignKey?_of_tells`).  The patterns leave open how much their
parts take, so each part has a lemma about what it takes in front of a given rest:

* the keywords, with the blanks between them (`Heading.exists_keywords`);
* the first list, up to the first closing parenthesis behind which a reference follows.  No name has
  a parenthesis, so this is the first one at all (`listBeforeReference?_append`);
* the table, up to the first opening parenthesis (`untilOpening?_append`).  The blanks at its ends
  fall to the patterns around it, those in front because the keyword takes as many as it can
  (`reference?_append`);
* the last list, before the closing parenthesis at the end (`beforeClosing?_append`).

`TargetText.exists_body` prepares the table for this: it cuts the blanks off its ends and says what
is left is the same table (`IsTarget`).
-/

namespace PlainQuery

/-! ## Keys -/

/-- A key of a table. -/
inductive TableKey where
  | primary (table : String) (columns : List String)
  /-- Columns paired with the columns of the table referred to. -/
  | foreign (table : String) (pairs : List (String × String)) (target : String)
deriving DecidableEq, Repr

namespace KeyText

/-- A name that is not empty and has none of the characters that constraints are cut at. -/
structure Simple (name : String) : Prop where
  nonempty : name ≠ ""
  comma : ',' ∉ name.toList
  point : '.' ∉ name.toList
  opening : '(' ∉ name.toList
  closing : ')' ∉ name.toList

instance (name : String) : Decidable (Simple name) :=
  decidable_of_iff (name ≠ "" ∧ ',' ∉ name.toList ∧ '.' ∉ name.toList ∧ '(' ∉ name.toList ∧
      ')' ∉ name.toList)
    ⟨fun ⟨hne, hcomma, hpoint, hopening, hclosing⟩ => ⟨hne, hcomma, hpoint, hopening, hclosing⟩,
      fun h => ⟨h.nonempty, h.comma, h.point, h.opening, h.closing⟩⟩

/-- The word, which is given in lower case, in any letter case. -/
def Spells (word : String) (text : List Char) : Prop := text.map foldLetter = word.toList

instance (word : String) (text : List Char) : Decidable (Spells word text) :=
  inferInstanceAs (Decidable (_ = _))

/-- Two keywords with blanks between them, and maybe in front and behind. -/
inductive Heading (first second : String) : List Char → Prop
  | mk {front word gap word' behind : List Char} (hfront : Blanks front)
      (hfirst : Spells first word) (hgap : Blanks gap) (hne : gap ≠ [])
      (hsecond : Spells second word') (hbehind : Blanks behind) :
      Heading first second (front ++ (word ++ (gap ++ (word' ++ behind))))

/-- The name of a table, alone or behind the name of its schema and a point. -/
inductive TargetText (table : String) : List Char → Prop
  | alone {text : List Char} (htable : Entry table text) : TargetText table text
  | qualified {schema : String} {left right : List Char} (hsimple : Simple schema)
      (hschema : Entry schema left) (htable : Entry table right) :
      TargetText table (left ++ '.' :: right)

/-- A parenthesized text with what stands in front and behind. -/
def enclosed (front inner behind : List Char) : List Char :=
  front ++ '(' :: (inner ++ ')' :: behind)

/-- The table and the columns that a foreign key refers to, from the keyword on. -/
inductive ReferenceText (target : String) (columns : List String) : List Char → Prop
  | mk {front word gap table list behind : List Char} (hfront : Blanks front)
      (hword : Spells "references" word) (hgap : Blanks gap) (hne : gap ≠ [])
      (htable : TargetText target table) (hlist : Lists columns list) (hbehind : Blanks behind) :
      ReferenceText target columns (enclosed (front ++ (word ++ (gap ++ table))) list behind)

/-- The constraint tells the key. -/
inductive Tells (constraint : KeyConstraint) : TableKey → Prop
  | primary {columns : List String} {head list behind : List Char}
      (hkind : KeyIndex.isPrimary constraint = true) (hcolumns : ∀ name ∈ columns, Simple name)
      (hhead : Heading "primary" "key" head) (hlist : Lists columns list) (hbehind : Blanks behind)
      (htext : constraint.text.toList = enclosed head list behind) :
      Tells constraint (.primary constraint.table columns)
  | foreign {pairs : List (String × String)} {target : String} {head list reference : List Char}
      (hkind : KeyIndex.isPrimary constraint = false)
      (hpairs : ∀ pair ∈ pairs, Simple pair.1 ∧ Simple pair.2) (htarget : Simple target)
      (hhead : Heading "foreign" "key" head) (hlist : Lists (pairs.map Prod.fst) list)
      (hreference : ReferenceText target (pairs.map Prod.snd) reference)
      (htext : constraint.text.toList = enclosed head list reference) :
      Tells constraint (.foreign constraint.table pairs target)

/-! ## Keywords -/

variable {c : Char} {first second table : String} {names : List String}
  {word text front head list rest behind body : List Char}

theorem foldLetter_of_isBlank (hc : Text.isBlank c = true) : foldLetter c = c := by
  have hkelvin : c ≠ '\u212a' := by rintro rfl; exact absurd hc (by decide)
  have hlong : c ≠ 'ſ' := by rintro rfl; exact absurd hc (by decide)
  have hupper : ¬ ('A'.val ≤ c.val ∧ c.val ≤ 'Z'.val) := by
    rw [UInt32.le_iff_toNat_le, UInt32.le_iff_toNat_le]
    simp only [Text.isBlank, Text.inRanges, Text.blankRanges, List.any_cons, List.any_nil,
      Bool.or_eq_true, Bool.and_eq_true, decide_eq_true_eq, Bool.false_eq_true, or_false,
      ← Char.toNat_val] at hc
    rintro ⟨hfirst, hlast⟩
    change 65 ≤ c.val.toNat at hfirst
    change c.val.toNat ≤ 90 at hlast
    omega
  rw [foldLetter, if_neg (by simpa using hkelvin), if_neg (by simpa using hlong)]
  exact dif_neg hupper

/-- What stands for a letter of a keyword is no blank. -/
theorem isBlank_of_foldLetter (hc : Text.isBlank (foldLetter c) = false) :
    Text.isBlank c = false := by
  by_contra hblank
  rw [Bool.not_eq_false] at hblank
  rw [foldLetter_of_isBlank hblank, hblank] at hc
  cases hc

theorem dropWord?_append (hword : Spells first word) (rest : List Char) :
    dropWord? first.toList (word ++ rest) = some rest := by
  rw [← show word.map foldLetter = first.toList from hword]
  clear hword
  induction word with
  | nil => cases rest <;> rfl
  | cons c word ih =>
      simp only [List.map_cons, List.cons_append, dropWord?, beq_self_eq_true, if_pos, ih]

/-- The text begins with a character that is no blank. -/
def StartsWord (text : List Char) : Prop := ∃ c, text.head? = some c ∧ Text.isBlank c = false

theorem StartsWord.append (h : StartsWord text) (rest : List Char) : StartsWord (text ++ rest) := by
  obtain ⟨c, hhead, hc⟩ := h
  exact ⟨c, by rw [List.head?_append, hhead, Option.some_or], hc⟩

theorem Spells.startsWord (hword : Spells first word) (hfirst : StartsWord first.toList) :
    StartsWord word := by
  obtain ⟨letter, hhead, hletter⟩ := hfirst
  rw [← show word.map foldLetter = first.toList from hword, List.head?_map] at hhead
  obtain ⟨c, hc, rfl⟩ := Option.map_eq_some_iff.mp hhead
  exact ⟨c, hc, isBlank_of_foldLetter hletter⟩

theorem stripStart_blanks_append (hfront : Blanks front) (htext : StartsWord text) :
    Text.stripStart (front ++ text) = text := by
  obtain ⟨c, hhead, hc⟩ := htext
  rw [Text.stripStart_append hc hhead, Text.stripStart_eq_nil hfront, List.nil_append]

theorem takeWhile_blanks_append (hfront : Blanks front) (htext : StartsWord text) :
    (front ++ text).takeWhile Text.isBlank = front := by
  obtain ⟨c, hhead, hc⟩ := htext
  obtain ⟨rest, rfl⟩ := List.head?_eq_some_iff.mp hhead
  rw [List.takeWhile_append_of_pos hfront, List.takeWhile_cons_of_neg (by simp [hc]),
    List.append_nil]

theorem dropBlanks?_append (hfront : Blanks front) (hne : front ≠ []) (htext : StartsWord text) :
    dropBlanks? (front ++ text) = some text := by
  rw [dropBlanks?, takeWhile_blanks_append hfront htext, stripStart_blanks_append hfront htext,
    if_neg (by simpa using hne)]

theorem startsWord_opening (rest : List Char) : StartsWord ('(' :: rest) := ⟨'(', rfl, by decide⟩

/-- Behind its blanks, a heading is what the patterns ask for. -/
theorem Heading.exists_keywords (h : Heading first second head) (hfirst : StartsWord first.toList)
    (hsecond : StartsWord second.toList) :
    ∃ front words, head = front ++ words ∧ Blanks front ∧ StartsWord words ∧
      ∀ rest, dropKeyHead? first second (words ++ '(' :: rest) = some rest := by
  cases h with
  | @mk front word gap word' behind hfront hword hgap hne hword' hbehind =>
      refine ⟨front, _, rfl, hfront, (hword.startsWord hfirst).append _, fun rest => ?_⟩
      have hlater : StartsWord (word' ++ (behind ++ '(' :: rest)) :=
        (hword'.startsWord hsecond).append _
      simp only [List.append_assoc]
      rw [dropKeyHead?, dropWord?_append hword]
      simp only [Option.bind_eq_bind, Option.bind_some]
      rw [dropBlanks?_append hgap hne hlater, Option.bind_some, dropWord?_append hword',
        Option.bind_some, stripStart_blanks_append hbehind (startsWord_opening rest)]
      rfl

theorem beforeClosing?_append (text : List Char) (hbehind : Blanks behind) :
    beforeClosing? (text ++ ')' :: behind) = some text := by
  have hlast : (text ++ [')']).getLast? = some ')' := List.getLast?_concat
  rw [beforeClosing?, List.append_cons, Text.stripEnd_append (by decide) hlast,
    Text.stripEnd_eq_nil hbehind, List.append_nil, Text.dropEnding?_self_append]

/-! ## Primary keys -/

theorem primaryKey?_of_tells (hhead : Heading "primary" "key" head) (hlist : Lists names list)
    (hnames : ∀ name ∈ names, Simple name) (hbehind : Blanks behind) :
    primaryKey? (enclosed head list behind) = some names := by
  obtain ⟨front, words, rfl, hfront, hwords, hdrop⟩ :=
    hhead.exists_keywords ⟨'p', rfl, by decide⟩ ⟨'k', rfl, by decide⟩
  have hsplit : splitNames list = names :=
    splitNames_of_lists hlist fun name hmem =>
      ⟨(hnames name hmem).nonempty, (hnames name hmem).comma⟩
  rw [primaryKey?, enclosed, List.append_assoc,
    stripStart_blanks_append hfront (hwords.append _), hdrop]
  simp only [Option.bind_eq_bind, Option.bind_some]
  rw [beforeClosing?_append list hbehind, Option.bind_some, hsplit]
  rfl

/-! ## Foreign keys -/

/-- The blanks in front of a text cannot begin a foreign key. -/
theorem foreignKeyFrom?_blanks_append (hfront : Blanks front) (text : List Char) :
    foreignKeyFrom? (front ++ text) = foreignKeyFrom? text := by
  induction front with
  | nil => rfl
  | cons c front ih =>
      have hc : foldLetter c ≠ 'f' := by
        rw [foldLetter_of_isBlank (hfront c List.mem_cons_self)]
        rintro rfl
        exact absurd (hfront 'f' List.mem_cons_self) (by decide)
      have hword : dropWord? "foreign".toList (c :: (front ++ text)) = none := by
        rw [show "foreign".toList = 'f' :: "oreign".toList from rfl, dropWord?,
          if_neg (by simpa using hc)]
      rw [List.cons_append, foreignKeyFrom?, dropKeyHead?, hword]
      exact ih fun d hmem => hfront d (List.mem_cons_of_mem _ hmem)

theorem foreignKeyFrom?_of_keywords {table targets : List Char}
    (hhead : dropKeyHead? "foreign" "key" text = some rest)
    (hlist : listBeforeReference? rest = some (list, table, targets)) :
    foreignKeyFrom? text = some ⟨splitNames list, lastSegment table, splitNames targets⟩ := by
  cases text with
  | nil => cases hhead
  | cons c text => rw [foreignKeyFrom?, hhead, Option.bind_some, hlist]

/-- The list ends at the first closing parenthesis. -/
theorem listBeforeReference?_append {table targets : List Char} (hlist : ')' ∉ list)
    (hrest : reference? rest = some (table, targets)) :
    listBeforeReference? (list ++ ')' :: rest) = some (list, table, targets) := by
  induction list with
  | nil => rw [List.nil_append, listBeforeReference?, if_pos (by decide), hrest]
  | cons c list ih =>
      rw [List.mem_cons, not_or] at hlist
      have hc : (c == ')') = false := beq_eq_false_iff_ne.mpr (Ne.symm hlist.1)
      rw [List.cons_append, listBeforeReference?, hc, ih hlist.2]
      rfl

/-- The beginning ends at the first opening parenthesis, without the blanks in front of it. -/
theorem untilOpening?_append (hbody : '(' ∉ body) {d : Char} (hlast : body.getLast? = some d)
    (hd : Text.isBlank d = false) (hbehind : Blanks behind) (rest : List Char) :
    untilOpening? (body ++ (behind ++ '(' :: rest)) = some (body, rest) := by
  induction body with
  | nil => cases hlast
  | cons c body ih =>
      cases body with
      | nil =>
          rw [List.cons_append, List.nil_append, untilOpening?,
            stripStart_blanks_append hbehind (startsWord_opening rest)]
          rfl
      | cons e body =>
          rw [List.mem_cons, not_or] at hbody
          rw [List.getLast?_cons_cons] at hlast
          -- the next character that is no blank belongs to the body
          have hne : Text.stripStart (e :: body) ≠ [] := fun hnil => by
            have hblank := List.dropWhile_eq_nil_iff.mp hnil d (List.mem_of_getLast? hlast)
            rw [hd] at hblank
            cases hblank
          obtain ⟨next, more, hnext⟩ := List.exists_cons_of_ne_nil hne
          have hopening : next ≠ '(' := by
            rintro rfl
            exact hbody.2 (List.dropWhile_subset _ (hnext ▸ List.mem_cons_self))
          have hstrip : Text.stripStart (e :: body ++ (behind ++ '(' :: rest)) =
              next :: (more ++ (behind ++ '(' :: rest)) := by
            rw [Text.stripStart, List.dropWhile_append, ← Text.stripStart, hnext]
            rfl
          rw [List.cons_append, untilOpening?, hstrip]
          split
          · rename_i heq
            exact absurd (List.cons.inj heq).1 hopening
          · rw [ih hbody.2 hlast]
            rfl

/-- What the pattern takes for the table: it has no blanks at its ends. -/
structure IsTarget (target : String) (body : List Char) : Prop where
  starts : StartsWord body
  ends : ∃ c, body.getLast? = some c ∧ Text.isBlank c = false
  opening : '(' ∉ body
  segment : lastSegment body = target

theorem TargetText.exists_body {target : String} (h : TargetText target text)
    (htarget : Simple target) :
    ∃ front body behind, text = front ++ (body ++ behind) ∧ Blanks front ∧ Blanks behind ∧
      IsTarget target body := by
  cases h with
  | alone htable =>
      cases htable with
      | @padded front spelling behind hfront hspelling hbehind =>
          refine ⟨front, spelling, behind, rfl, hfront, hbehind, hspelling.exists_head?,
            hspelling.exists_getLast?, hspelling.not_mem htarget.opening (by decide), ?_⟩
          rw [lastSegment_of_not_mem (hspelling.not_mem htarget.point (by decide)),
            unquote_of_entry (.of_spelling hspelling), String.ofList_toList]
  | qualified hsimple hschema htable =>
      -- the blanks at the two ends are cut off, and those around the point stay
      cases hschema with
      | @padded front schema gap hfront hschema hgap =>
          cases htable with
          | @padded gap' spelling behind hgap' hspelling hbehind =>
              refine ⟨front, schema ++ (gap ++ '.' :: (gap' ++ spelling)), behind, by simp, hfront,
                hbehind, StartsWord.append hschema.exists_head? _, ?_, ?_, ?_⟩
              · obtain ⟨c, hlast, hc⟩ := hspelling.exists_getLast?
                refine ⟨c, ?_, hc⟩
                simp [List.getLast?_append, List.getLast?_cons, hlast]
              · simp only [List.mem_append, List.mem_cons, not_or]
                exact ⟨hschema.not_mem hsimple.opening (by decide), hgap.not_mem (by decide),
                  by decide, hgap'.not_mem (by decide),
                  hspelling.not_mem htarget.opening (by decide)⟩
              · have hentry := (Entry.of_spelling hspelling).append_blanks hgap'
                rw [← List.append_assoc,
                  lastSegment_append _ (hentry.not_mem htarget.point (by decide) (by decide)),
                  unquote_of_entry hentry, String.ofList_toList]

/-- All blanks in front of the table fall to the keyword. -/
theorem reference?_append {target : String} {gap : List Char} (hfront : Blanks front)
    (hword : Spells "references" word) (hgap : Blanks gap) (hne : gap ≠ [])
    (hbody : IsTarget target body) (hbehind : Blanks behind) (list : List Char) :
    reference? (front ++ (word ++ (gap ++ (body ++ (behind ++ '(' :: list))))) =
      some (body, list) := by
  have hstarts := hword.startsWord ⟨'r', rfl, by decide⟩
  obtain ⟨d, hlast, hd⟩ := hbody.ends
  obtain ⟨fewer, hlength⟩ : ∃ fewer, gap.length = fewer + 1 :=
    Nat.exists_eq_succ_of_ne_zero (by simpa using hne)
  rw [reference?, stripStart_blanks_append hfront (hstarts.append _), dropWord?_append hword]
  simp only [Option.bind_eq_bind, Option.bind_some]
  rw [takeWhile_blanks_append hgap (hbody.starts.append _), hlength, List.range_succ_eq_map,
    List.findSome?_cons, ← hlength, Nat.sub_zero, List.drop_left,
    untilOpening?_append hbody.opening hlast hd hbehind]

theorem foreignKey?_of_tells {pairs : List (String × String)} {target : String}
    {reference : List Char} (hpairs : ∀ pair ∈ pairs, Simple pair.1 ∧ Simple pair.2)
    (htarget : Simple target) (hhead : Heading "foreign" "key" head)
    (hlist : Lists (pairs.map Prod.fst) list)
    (hreference : ReferenceText target (pairs.map Prod.snd) reference) :
    foreignKey? (enclosed head list reference) =
      some ⟨pairs.map Prod.fst, target, pairs.map Prod.snd⟩ := by
  obtain ⟨front, words, rfl, hfront, -, hdrop⟩ :=
    hhead.exists_keywords ⟨'f', rfl, by decide⟩ ⟨'k', rfl, by decide⟩
  cases hreference with
  | @mk front' word gap table remote behind hfront' hword hgap hne htable hremote hbehind =>
      obtain ⟨front'', body, behind', rfl, hfront'', hbehind', hbody⟩ := htable.exists_body htarget
      have hcolumns : ∀ name ∈ pairs.map Prod.fst, Simple name :=
        List.forall_mem_map.mpr fun pair hmem => (hpairs pair hmem).1
      have htargets : ∀ name ∈ pairs.map Prod.snd, Simple name :=
        List.forall_mem_map.mpr fun pair hmem => (hpairs pair hmem).2
      -- no name has a parenthesis, so neither has the list
      have hclosing : ')' ∉ list :=
        hlist.not_mem (fun name hmem => (hcolumns name hmem).closing) (by decide) (by decide)
          (by decide)
      have hrest := reference?_append hfront' hword (hgap.append hfront'') (by simp [hne]) hbody
        hbehind' remote
      -- the text with its parts in the order in which the patterns take them
      have htext : enclosed (front ++ words) list (enclosed
            (front' ++ (word ++ (gap ++ (front'' ++ (body ++ behind'))))) remote behind) =
          (front ++ (words ++ '(' :: (list ++ ')' ::
            (front' ++ (word ++ (gap ++ front'' ++ (body ++ (behind' ++ '(' :: remote)))))))) ++
            ')' :: behind := by
        simp [enclosed]
      rw [foreignKey?, htext, beforeClosing?_append _ hbehind, Option.bind_some,
        foreignKeyFrom?_blanks_append hfront,
        foreignKeyFrom?_of_keywords (hdrop _) (listBeforeReference?_append hclosing hrest),
        hbody.segment,
        splitNames_of_lists hlist fun name hmem =>
          ⟨(hcolumns name hmem).nonempty, (hcolumns name hmem).comma⟩,
        splitNames_of_lists hremote fun name hmem =>
          ⟨(htargets name hmem).nonempty, (htargets name hmem).comma⟩]

end KeyText

end PlainQuery
