import PlainQuery.Proofs.Catalog.NameLists
import PlainQuery.Proofs.Sql.Binding

/-!
# Quoted names and the binder

A name of the catalog may hold quotes, colons and line breaks.  Between quotes, its own quotes
written twice, it is opaque to the binder: the binder does to the text in front of it and to the
text behind it what it does to each of them alone (`bindNames_quoteName`).

* In front of a quote the binder is in the same position as at the end of a text.  No name goes on
  there, no placeholder begins, and all that is remembered of the text is whether quotes are open
  (`bindFrom_append_quote`).  The induction is over the text in front, for any state that can be in
  front of a quote: one that stands in a name is outside of quotes.

* Each pair of quotes inside of the name closes the quotes and opens them again, so they are open
  up to the last one (`bindFrom_doubled`), and every colon of the name is inside of them.

What is bound of two texts one after the other is put together by `inOrder`, where the first text
that fails decides.  The same quoted name is read back by the reader of the catalog
(`unquote_quoted`), so nothing of it is lost on the way into a statement and out of it.
-/

namespace PlainQuery.Sql

/-- What is bound of two texts, one after the other. -/
def inOrder (first second : Except MissingArgument (List Char × List Argument)) :
    Except MissingArgument (List Char × List Argument) := do
  let (text, arguments) ← first
  let (text', arguments') ← second
  pure (text ++ text', arguments ++ arguments')

theorem inOrder_nil (second : Except MissingArgument (List Char × List Argument)) :
    inOrder (.ok ([], [])) second = second := by
  cases second <;> rfl

theorem inOrder_map (text : List Char) (arguments : List Argument)
    (first second : Except MissingArgument (List Char × List Argument)) :
    inOrder (first.map fun bound => (text ++ bound.1, arguments ++ bound.2)) second =
      (inOrder first second).map fun bound => (text ++ bound.1, arguments ++ bound.2) := by
  cases first with
  | error missing => rfl
  | ok bound =>
      cases second with
      | error missing => rfl
      | ok bound' =>
          show Except.ok _ = Except.ok _
          rw [List.append_assoc, List.append_assoc]

/-! ## Up to a quote -/

/-- Whether quotes are open behind a text. -/
def quotedAfter (quoted : Bool) (text : List Char) : Bool :=
  text.foldl (fun quoted c => if c = '"' then !quoted else quoted) quoted

theorem quotedAfter_eq (quoted : Bool) (text : List Char) :
    quotedAfter quoted text = (quoted ^^ text.count '"' % 2 == 1) := by
  induction text generalizing quoted with
  | nil => simp [quotedAfter]
  | cons c text ih =>
      rw [quotedAfter, List.foldl_cons, ← quotedAfter, ih]
      by_cases hc : c = '"'
      · subst hc
        rw [if_pos rfl, List.count_cons_self]
        rcases Nat.mod_two_eq_zero_or_one (text.count '"') with heven | hodd
        · simp [heven, Nat.add_mod]
        · simp [hodd, Nat.add_mod]
      · rw [if_neg hc, List.count_cons_of_ne hc]

variable {parameters : Fields Json} {state : BindState} {front rest : List Char}

/-- A quote is copied and opens or closes the quotes, whatever stands in front of it. -/
theorem bindFrom_quote :
    bindFrom parameters state ('"' :: rest) =
      (bindFrom parameters { quoted := !state.quoted } rest).map
        fun bound => ('"' :: bound.1, bound.2) := by
  have hword : (state.naming && isWordChar '"') = false := by
    rw [show isWordChar '"' = false by decide, Bool.and_false]
  exact bindFrom_copied hword (by simp)

theorem beforeName_append_quote : beforeName (front ++ '"' :: rest) = beforeName front := by
  cases front <;> rfl

theorem takeWhile_append_quote :
    (front ++ '"' :: rest).takeWhile isWordChar = front.takeWhile isWordChar := by
  induction front with
  | nil => rfl
  | cons c front ih => rw [List.cons_append, List.takeWhile_cons, List.takeWhile_cons, ih]

/-- **In front of a quote a text is bound as if it ended there.** -/
theorem bindFrom_append_quote (hstate : state.naming = true → state.quoted = false) :
    bindFrom parameters state (front ++ '"' :: rest) =
      inOrder (bindFrom parameters state front)
        (bindFrom parameters { quoted := quotedAfter state.quoted front } ('"' :: rest)) := by
  induction front generalizing state with
  | nil =>
      rw [List.nil_append, bindFrom_quote, bindFrom_quote]
      exact (inOrder_nil _).symm
  | cons c front ih =>
      rw [List.cons_append, quotedAfter, List.foldl_cons, ← quotedAfter]
      by_cases hword : (state.naming && isWordChar c) = true
      · -- a character of a name, which stands outside of quotes
        obtain ⟨hnaming, hc⟩ := Bool.and_eq_true_iff.mp hword
        have hquote : c ≠ '"' := by rintro rfl; exact absurd hc (by decide)
        rw [bindFrom_word hnaming hc, bindFrom_word hnaming hc, ih fun _ => rfl, if_neg hquote,
          hstate hnaming]
      rw [Bool.not_eq_true] at hword
      by_cases hcolon : (!state.quoted && c == ':' && !state.afterColon && beforeName front) = true
      · -- the colon of a placeholder
        simp only [Bool.and_eq_true, Bool.not_eq_true', beq_iff_eq] at hcolon
        obtain ⟨⟨⟨hquoted, rfl⟩, hafter⟩, hname⟩ := hcolon
        rw [bindFrom_colon hquoted hafter (beforeName_append_quote.trans hname),
          bindFrom_colon hquoted hafter hname, takeWhile_append_quote, if_neg (by decide), hquoted]
        cases parameters.get? (String.ofList (front.takeWhile isWordChar)) with
        | none => rfl
        | some value =>
            dsimp only
            rw [ih fun _ => rfl]
            exact (inOrder_map ['?'] [Argument.ofJson value] _ _).symm
      · -- any other character
        rw [Bool.not_eq_true] at hcolon
        rw [bindFrom_copied hword (by rw [beforeName_append_quote, hcolon]),
          bindFrom_copied hword hcolon, ih (by exact nofun)]
        exact (inOrder_map [c] [] _ _).symm

/-! ## Between quotes -/

/-- Up to the last quote of a name everything is copied. -/
theorem bindFrom_doubled (name : List Char) (afterColon : Bool) :
    bindFrom parameters { quoted := true, afterColon := afterColon }
        (Text.doubled '"' name ++ '"' :: rest) =
      (bindFrom parameters {} rest).map
        fun bound => (Text.doubled '"' name ++ '"' :: bound.1, bound.2) := by
  induction name generalizing afterColon with
  | nil => exact bindFrom_quote
  | cons c name ih =>
      by_cases hc : c = '"'
      · -- the two quotes of a pair close and open, and the rest is as before
        subst hc
        rw [Text.doubled, if_pos rfl, List.cons_append, List.cons_append, bindFrom_quote,
          bindFrom_quote, Bool.not_true, Bool.not_false, ih]
        cases bindFrom parameters {} rest <;> rfl
      · rw [Text.doubled, if_neg hc, List.cons_append, bindFrom_copied rfl rfl, if_neg hc, ih]
        cases bindFrom parameters {} rest <;> rfl

theorem bindFrom_append_quoted (name behind : List Char) (hfront : front.count '"' % 2 = 0) :
    bindFrom parameters {} (front ++ (Text.quoted '"' name ++ behind)) =
      inOrder (bindFrom parameters {} front)
        ((bindFrom parameters {} behind).map
          fun bound => (Text.quoted '"' name ++ bound.1, bound.2)) := by
  -- an even number of quotes in front, so the first quote of the name opens
  have hclosed : quotedAfter false front = false := by
    rw [quotedAfter_eq, hfront]
    rfl
  have hquoted : ∀ rest : List Char, Text.quoted '"' name ++ rest =
      '"' :: (Text.doubled '"' name ++ '"' :: rest) := by
    simp [Text.quoted]
  rw [hquoted, bindFrom_append_quote (fun _ => rfl), hclosed, bindFrom_quote, Bool.not_false,
    bindFrom_doubled]
  cases bindFrom parameters {} behind with
  | error missing => rfl
  | ok bound =>
      show inOrder _ (.ok ('"' :: (Text.doubled '"' name ++ '"' :: bound.1), bound.2)) = _
      rw [← hquoted]
      rfl

/-- A quoted name is read back from the catalog as it is. -/
theorem unquote_quoted (name : List Char) : KeyText.unquote (Text.quoted '"' name) = name := by
  have hpadded : KeyText.unquote ([] ++ (Text.quoted '"' name ++ [])) = name :=
    KeyText.Spelling.quoted.unquote_padded nofun nofun
  rwa [List.nil_append, List.append_nil] at hpadded

/-- **Quoted names are opaque to the binder.**  Behind an even number of quotes a quoted name is
copied, whatever it is made of.  What stands in front of it and what stands behind it are bound as
if they were texts of their own, the first of them that has a name without a value deciding the
failure.  The catalog reads the name back as it was. -/
theorem bindNames_quoteName (name : String) :
    (∀ (before behind : String) (parameters : Fields Json), before.toList.count '"' % 2 = 0 →
      bindNames (before ++ quoteName name ++ behind) parameters = do
        let (front, arguments) ← bindNames before parameters
        let (back, others) ← bindNames behind parameters
        pure (front ++ quoteName name ++ back, arguments ++ others)) ∧
      KeyText.unquote (quoteName name).toList = name.toList := by
  constructor
  · intro before behind parameters hbefore
    rw [bindNames_eq_map, bindNames_eq_map, bindNames_eq_map, quoteName]
    simp only [String.toList_append, String.toList_ofList, List.append_assoc]
    rw [bindFrom_append_quoted _ _ hbefore]
    cases bindFrom parameters {} before.toList with
    | error missing => rfl
    | ok bound =>
        cases bindFrom parameters {} behind.toList with
        | error missing => rfl
        | ok bound' =>
            show Except.ok _ = Except.ok _
            simp only [String.ofList_append, String.append_assoc]
  · rw [quoteName, String.toList_ofList, unquote_quoted]

/-- The placeholder inside of the name has no value and needs none; a colon in front of the name and
the letter behind it begin nothing. -/
theorem bindNames_quoteName_hostile :
    "SELECT \"a\", :x::".toList.count '"' % 2 = 0 ∧
      bindNames ("SELECT \"a\", :x::" ++ quoteName "b\":y\"" ++ "c = :z")
          [("x", .ofNat 1), ("z", .string "\"")] =
        .ok ("SELECT \"a\", ?::\"b\"\":y\"\"\"c = ?", [.bigint 1, .text "\""]) := by
  have heven : "SELECT \"a\", :x::".toList.count '"' % 2 = 0 := by decide
  refine ⟨heven, ?_⟩
  rw [(bindNames_quoteName "b\":y\"").1 _ _ _ heven]
  rfl

end PlainQuery.Sql
