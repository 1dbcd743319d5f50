import PlainQuery.Proofs.Cache.Runs

/-!
# Progress of the calls

No call waits for ever.  Time is not part of this: a refresh may take as long as it likes, and whose
turn it is lies with whoever schedules the events.  What the program has to provide is that the
turns of a call are few and that there is always somebody who can use one.

* `stepCount_le`: a call makes six steps at most.  Along a run, the steps that a call has made and
  those it has left are never more than six together (`stepCount_add_stepsLeft_le`), since every
  step takes one from those that are left (`Moves.stepsLeft_lt`).  A call that has not arrived has
  made none.
* `canGoOn_of_stepsLeft`: as long as a call has not ended, some call with the same key can make its
  next step.  Only a call that waits can be held up, and only by the holder of the lock
  (`exists_holder_of_not_isFree`), who does not wait for anybody (`canGoOn_of_holdsLock`).

A call that is abandoned makes no step by that, so `Event.stepOf?` leaves this event out.
-/

namespace PlainQuery.Cache.Session

variable {α ε : Type} {session next start last : Session α ε} {event : Event α ε}
  {events : List (Event α ε)} {index : Nat} {key : String}

/-! ## The number of steps -/

/-- The steps of the call at `index`. -/
def stepCount (events : List (Event α ε)) (index : Nat) : Nat :=
  events.countP fun event => event.stepOf? == some index

theorem stepCount_concat (events : List (Event α ε)) (event : Event α ε) (index : Nat) :
    stepCount (events ++ [event]) index =
      stepCount events index + if event.stepOf? = some index then 1 else 0 := by
  simp [stepCount, List.countP_singleton]

/-- The steps that a call has made and those it has before it are six at most. -/
theorem stepCount_add_stepsLeft_le {now : Time} {cache : SnapshotCache α}
    (hrun : (idle now cache).run? events = some last) (index : Nat) :
    (last.calls[index]? = none → stepCount events index = 0) ∧
      ∀ call, last.calls[index]? = some call →
        stepCount events index + call.phase.stepsLeft ≤ 6 := by
  refine run_induction (motive := fun events last =>
    (last.calls[index]? = none → stepCount events index = 0) ∧
      ∀ call, last.calls[index]? = some call →
        stepCount events index + call.phase.stepsLeft ≤ 6) ?_ ?_ hrun
  · exact ⟨fun _ => rfl, fun call hcall => by cases hcall⟩
  · intro events session event next _ hstep ⟨hnone, hsome⟩
    rw [stepCount_concat]
    by_cases hevent : event.stepOf? = some index
    · obtain ⟨request, phase, phase', hcall, hnext, hmoves⟩ :=
        exists_move_of_callOf? hstep (Event.callOf?_of_stepOf? hevent)
      have habandon : event ≠ .abandon index := by
        rintro rfl
        cases hevent
      have hlt := hmoves.stepsLeft_lt habandon
      -- one step more is counted, and one less is left
      have hle : stepCount events index + phase.stepsLeft ≤ 6 := hsome _ hcall
      simp only [hnext, hevent, if_true, reduceCtorEq, false_implies, Option.some.injEq,
        true_and, forall_eq']
      omega
    · rw [if_neg hevent]
      constructor
      · intro habsent
        cases hcall : session.calls[index]? with
        | none => exact hnone hcall
        | some call =>
            obtain ⟨request, phase⟩ := call
            obtain ⟨phase', hphase, -⟩ := exists_call_of_step? hstep hcall
            rw [habsent] at hphase
            cases hphase
      · intro call hcall
        rcases call_of_step? hstep hcall with hbefore | ⟨-, hindex, hphase⟩ |
          ⟨phase, hbefore, hmoves⟩
        · exact hsome call hbefore
        -- the call has just arrived, so nothing has been counted for it
        · have habsent : session.calls[index]? = none := by simp [hindex]
          rw [hnone habsent, hphase]
          exact Nat.le_refl 6
        · have hle : stepCount events index + phase.stepsLeft ≤ 6 := hsome _ hbefore
          have hfewer := hmoves.stepsLeft_le
          omega

/-- **A call makes six steps at most**, in every run. -/
theorem stepCount_le {now : Time} {cache : SnapshotCache α}
    (hrun : (idle now cache).run? events = some last) (index : Nat) :
    stepCount events index ≤ 6 := by
  obtain ⟨hnone, hsome⟩ := stepCount_add_stepsLeft_le hrun index
  cases hcall : last.calls[index]? with
  | none => rw [hnone hcall]; exact Nat.zero_le _
  | some call => exact Nat.le_trans (Nat.le_add_right _ _) (hsome call hcall)

/-! ## The next step -/

/-- A call with the key can make a step. -/
def CanGoOn (session : Session α ε) (key : String) : Prop :=
  ∃ index request phase event, session.calls[index]? = some ⟨request, phase⟩ ∧
    request.key = key ∧ event.stepOf? = some index ∧ (session.step? event).isSome

/-- Whoever holds a lock does not wait for anybody else. -/
theorem canGoOn_of_holdsLock [Nonempty α] {request : Request} {phase : Phase α ε}
    (hcall : session.calls[index]? = some ⟨request, phase⟩) (hholds : phase.holdsLock = true) :
    session.CanGoOn request.key := by
  cases phase with
  | locked requestedAt =>
      exact ⟨index, request, _, .lookAgain index, hcall, rfl, rfl, by simp [step?, hcall]⟩
  | refreshing =>
      obtain ⟨snapshot⟩ := ‹Nonempty α›
      exact ⟨index, request, _, .refresh index (.ok snapshot), hcall, rfl, rfl,
        by simp [step?, hcall]⟩
  | refreshed snapshot =>
      exact ⟨index, request, _, .store index, hcall, rfl, rfl, by simp [step?, hcall]⟩
  | _ => cases hholds

theorem exists_holder_of_not_isFree (h : session.isFree key = false) :
    ∃ (index : Nat) (request : Request) (phase : Phase α ε),
      session.calls[index]? = some ⟨request, phase⟩ ∧ request.key = key ∧
        phase.holdsLock = true := by
  obtain ⟨⟨request, phase⟩, hmem, hholds⟩ := List.all_eq_false.mp h
  obtain ⟨index, hcall⟩ := List.mem_iff_getElem?.mp hmem
  simp only [Bool.or_eq_true, bne_iff_ne, ne_eq, Bool.not_eq_true', not_or, not_not,
    Bool.not_eq_false] at hholds
  exact ⟨index, request, phase, hcall, hholds.1, hholds.2⟩

/-- **No deadlock**: if a call has not ended, a call with its key can go on. -/
theorem canGoOn_of_stepsLeft [Nonempty α] {request : Request} {phase : Phase α ε}
    (hcall : session.calls[index]? = some ⟨request, phase⟩) (hrunning : 0 < phase.stepsLeft) :
    session.CanGoOn request.key := by
  cases phase with
  | arrived =>
      exact ⟨index, request, _, .look index, hcall, rfl, rfl, by simp [step?, hcall]⟩
  | missed =>
      exact ⟨index, request, _, .wait index, hcall, rfl, rfl, by simp [step?, hcall]⟩
  | waiting requestedAt =>
      cases hfree : session.isFree request.key with
      | true =>
          exact ⟨index, request, _, .acquire index, hcall, rfl, rfl, by simp [step?, hcall, hfree]⟩
      | false =>
          -- the call itself is held up, but not the holder of the lock
          obtain ⟨place, holder, phase, hplace, hkey, hholds⟩ := exists_holder_of_not_isFree hfree
          exact hkey ▸ canGoOn_of_holdsLock hplace hholds
  | locked requestedAt | refreshing | refreshed snapshot => exact canGoOn_of_holdsLock hcall rfl
  | finished outcome | abandoned => cases hrunning

end PlainQuery.Cache.Session
