import PlainQuery.Text.CaseMap

/-!
# Where the letters of a lower-case text come from

The lower case of a text can hold letters A–Z that the text itself does not hold in any case: the
dotted `İ` becomes `i` with a dot behind it, and the sign of the kelvin becomes `k`.  So a search in
a lower-case text can succeed on a text without any of the letters searched for.

There are no other such characters.  This is read off the tables by evaluation, once
(`lowerRuns_beyond_ascii`): a run of characters beyond ASCII is moved to characters beyond ASCII,
but for the run of the kelvin sign.  Beyond ASCII a character has only these two letters in its
lower case (`eq_of_mem_mapCase`), and a sigma at the end of a word is no ASCII character either
(`exists_of_mem_lowerAfter`).  Hence every other ASCII character of a lower-case text was there
before, maybe as a capital letter (`exists_of_mem_lower`).
-/

namespace PlainQuery.Text

/-- No run maps into ASCII but that of the kelvin sign, whose only character becomes `k`. -/
theorem lowerRuns_beyond_ascii : ∀ run ∈ lowerRuns,
    128 ≤ run.first + run.offset ∨ run.first = run.last ∧ run.first + run.offset = 107 := by
  decide +kernel

/-- Only the null character stands for numbers that are no code points. -/
theorem toNat_ofNat {code : Nat} (h : 0 < (Char.ofNat code).toNat) :
    (Char.ofNat code).toNat = code := by
  by_cases hvalid : code.isValidChar
  · rw [Char.ofNat, dif_pos hvalid]
    rfl
  · rw [Char.ofNat, dif_neg hvalid] at h
    exact absurd h (by decide)

theorem exists_run_of_moveBy? {runs : List CaseRun} {code moved : Nat}
    (h : moveBy? runs code = some moved) :
    ∃ run ∈ runs, run.first ≤ code ∧ code ≤ run.last ∧ moved = (code + run.offset).toNat := by
  unfold moveBy? at h
  obtain ⟨run, hrun, rfl⟩ := Option.map_eq_some_iff.mp h
  have hfits := List.find?_some hrun
  simp only [Bool.and_eq_true, decide_eq_true_eq] at hfits
  exact ⟨run, List.mem_of_find?_eq_some hrun, hfits.1.1, hfits.1.2, rfl⟩

variable {c d : Char}

/-- Beyond ASCII, only two characters have ASCII characters in their lower case. -/
theorem eq_of_mem_mapCase (hbeyond : 128 ≤ c.toNat) (h : d ∈ mapCase lowerExpansions lowerRuns c)
    (hpos : 0 < d.toNat) (hascii : d.toNat < 128) : d = 'i' ∨ d = 'k' := by
  unfold mapCase at h
  split at h
  · rename_i codes hcodes
    -- the only expansion is that of the dotted capital letter
    have hlookup : codes = [0x69, 0x307] := by
      simp only [lowerExpansions, List.lookup_cons, List.lookup_nil] at hcodes
      split at hcodes
      · exact (Option.some.inj hcodes).symm
      · cases hcodes
    subst hlookup
    simp only [List.map_cons, List.map_nil, List.mem_cons, List.not_mem_nil, or_false] at h
    rcases h with rfl | rfl
    · exact .inl rfl
    · exact absurd hascii (by decide)
  · split at h
    · rename_i code hcode
      obtain ⟨run, hrun, hfirst, hlast, rfl⟩ := exists_run_of_moveBy? hcode
      rw [List.mem_singleton.mp h] at hpos hascii ⊢
      rw [toNat_ofNat hpos] at hascii
      right
      -- a run is moved as a whole, so its first character decides
      rcases lowerRuns_beyond_ascii run hrun with hfar | ⟨hsingle, hkelvin⟩
      · omega
      · have hcode : ((c.toNat : Int) + run.offset).toNat = 107 := by omega
        rw [hcode]
    · rw [List.mem_singleton.mp h] at hascii
      omega

theorem toLower_of_mem_lowerChar (h : d ∈ lowerChar c) (hpos : 0 < d.toNat)
    (hascii : d.toNat < 128) (hi : d ≠ 'i') (hk : d ≠ 'k') : c.toLower = d := by
  unfold lowerChar at h
  split at h
  · exact (List.mem_singleton.mp h).symm
  · rename_i hbeyond
    rcases eq_of_mem_mapCase (Nat.le_of_not_lt hbeyond) h hpos hascii with heq | heq
    · exact absurd heq hi
    · exact absurd heq hk

theorem exists_of_mem_lowerAfter {text before : List Char} (h : d ∈ lowerAfter before text) :
    d = 'ς' ∨ d = 'σ' ∨ ∃ c ∈ text, d ∈ lowerChar c := by
  induction text generalizing before with
  | nil => simp [lowerAfter] at h
  | cons c rest ih =>
      simp only [lowerAfter] at h
      rcases List.mem_append.mp h with h | h
      · split at h
        · split at h
          · exact .inl (List.mem_singleton.mp h)
          · exact .inr (.inl (List.mem_singleton.mp h))
        · exact .inr (.inr ⟨c, List.mem_cons_self, h⟩)
      · rcases ih h with heq | heq | ⟨other, hother, hmem⟩
        · exact .inl heq
        · exact .inr (.inl heq)
        · exact .inr (.inr ⟨other, List.mem_cons_of_mem _ hother, hmem⟩)

/-- **An ASCII character of a lower-case text is that of a character of the text**, unless it is an
`i` or a `k`. -/
theorem exists_of_mem_lower {text : String} (h : d ∈ (lower text).toList) (hpos : 0 < d.toNat)
    (hascii : d.toNat < 128) (hi : d ≠ 'i') (hk : d ≠ 'k') :
    ∃ c ∈ text.toList, c.toLower = d := by
  rw [lower, String.toList_ofList] at h
  rcases exists_of_mem_lowerAfter h with rfl | rfl | ⟨c, hc, hmem⟩
  · exact absurd hascii (by decide)
  · exact absurd hascii (by decide)
  · exact ⟨c, hc, toLower_of_mem_lowerChar hmem hpos hascii hi hk⟩

/-- What occurs in a text consists of characters of the text. -/
theorem mem_of_occursIn {needle text : List Char} (h : occursIn needle text = true)
    (hmem : d ∈ needle) : d ∈ text := by
  induction text with
  | nil =>
      rw [occursIn, List.isEmpty_iff] at h
      rw [h] at hmem
      cases hmem
  | cons c rest ih =>
      rw [occursIn, Bool.or_eq_true] at h
      rcases h with h | h
      · exact (List.isPrefixOf_iff_prefix.mp h).subset hmem
      · exact List.mem_cons_of_mem c (ih h)

end PlainQuery.Text
