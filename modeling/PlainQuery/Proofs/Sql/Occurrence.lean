import PlainQuery.Proofs.Sql.Positions

/-!
# Placeholders in arbitrary texts

Which placeholders a text has can be said without positions (`Occurs`): the text falls apart into
one with an even number of quotes that does not end with a colon, the placeholder, and one that does
not go on with the name.

The two ways to say it agree: these are the names of the positions where a placeholder begins
(`mem_placeholderNames`), since a position is the length of what stands in front of it.  The binder
meets its specification by positions, so it fails if one of these names has no value
(`exists_error_of_occurs`).  That form is the one to use about a text of which only a part is known.
-/

namespace PlainQuery.Sql

/-- A placeholder of the name stands in the text: outside of quotes a colon that does not follow
another one, and the name as far as it goes. -/
def Occurs (text : List Char) (name : SlotName) : Prop :=
  ∃ before after, text = before ++ (name.write ++ after) ∧ Stops after ∧
    before.count '"' % 2 = 0 ∧ before.getLast? ≠ some ':'

theorem mem_placeholderNames {text : List Char} {name : SlotName} (h : Occurs text name) :
    name.key ∈ placeholderNames text := by
  obtain ⟨before, after, rfl, hstops, hquotes, hlast⟩ := h
  have hbegins : BeginsAt (before ++ ':' :: (name.text ++ after)) before.length :=
    beginsAt_iff.mpr ⟨rfl, hquotes, hlast, name.beforeName_append after⟩
  -- the name at the colon goes up to where the text behind it stops
  have hname : nameAt (before ++ ':' :: (name.text ++ after)) before.length = name.key := by
    have hwhole := @nameAt_append before [] (name.text ++ after) nofun
    rw [List.nil_append, List.nil_append, name.takeWhile_append hstops] at hwhole
    exact hwhole
  refine List.mem_map.mpr ⟨before.length, List.mem_filter.mpr ⟨?_, decide_eq_true hbegins⟩, hname⟩
  simp [SlotName.write]

theorem exists_error_of_occurs {sql : String} {parameters : Fields Json} {name : SlotName}
    (hname : Occurs sql.toList name) (hvalue : parameters.get? name.key = none) :
    ∃ missing, bindNames sql parameters = .error missing := by
  have hmeets := meets_bindFrom_start sql.toList parameters
  rw [bindNames_eq_map]
  cases hbind : bindFrom parameters {} sql.toList with
  | error missing => exact ⟨missing, rfl⟩
  | ok bound =>
      -- the arguments would be values of all the names
      rw [hbind] at hmeets
      have hmem : (parameters.get? name.key).map Argument.ofJson ∈ bound.2.map some := by
        rw [hmeets.2]
        exact List.mem_map_of_mem (mem_placeholderNames hname)
      rw [hvalue] at hmem
      simp at hmem

end PlainQuery.Sql
