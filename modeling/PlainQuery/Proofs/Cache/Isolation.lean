import Mathlib.Control.Basic
import PlainQuery.Cache.Refresh
import PlainQuery.Proofs.Cache.Omission

/-!
# Isolation

A call whose refresh fails leaves nothing behind, and calls on different keys do not concern each
other at all.  Both are statements about two runs: the one that has taken place, and a second one in
which some of the calls have arrived and do nothing else.

* `failsAlone_of_run`: the call that has failed is left out.  It is given the error of its own
  refresh, the cache is the same with and without it, and so are all other calls.  The lock of its
  key is free as soon as the refresh has failed (`isFree_of_fail`), because the call has held it and
  nobody else can (`lock_unique`); so the next call on the key that finds nothing to reuse begins a
  refresh of its own (`nextRefreshes_of_isFree`).
* `keyApart_of_run`: all calls on a key are left out, however they end.  What is stored under the
  other keys and what the calls on other keys can do next stay the same.

That the second run is possible, and ends in a session that differs only where it may, is
`exists_run_leaveOut`.  What is left to do here is to name the calls that are left out and the keys
under which they may have stored: none for a call that has failed, its own key for the others.

The course of a single call, `getOrRefresh`, says the same of a cache that nobody else uses
(`getOrRefresh_confined`).  It runs in any world, so the clock and the refresh may do whatever they
like besides.  `refreshes_isolated` puts the three together.
-/

namespace PlainQuery

open Std.Do

set_option mvcgen.warning false

namespace SnapshotCache

variable {World α ε : Type}

/-! ## A call by itself -/

/-- What a call on the key leaves behind: if it fails, everything as it was, and it fails with an
error of its own refresh; in any case what is stored under other keys. -/
structure Confined (cache : SnapshotCache α) (key : String) (refresh : StateM World (Except ε α))
    (outcome : Except ε α) (left : SnapshotCache α) : Prop where
  failed : ∀ problem, outcome = .error problem →
    left = cache ∧ ∃ world, (refresh.run world).1 = .error problem
  others : ∀ other, other ≠ key → left.entries.get? other = cache.entries.get? other

theorem getOrRefresh_confined (clock : StateM World Time) (key : String) (force : Bool)
    (refresh : StateM World (Except ε α)) (cache : SnapshotCache α) :
    ⦃fun found => ⌜found = cache⌝⦄
    getOrRefresh clock key force refresh
    ⦃⇓ outcome => fun left => ⌜cache.Confined key refresh outcome left⌝⦄ := by
  have hclock : ⦃⌜True⌝⦄ clock ⦃⇓ _ => ⌜True⌝⦄ := fun _ _ => trivial
  have hrefresh : ⦃⌜True⌝⦄ refresh ⦃⇓ outcome => ⌜∃ world, (refresh.run world).1 = outcome⌝⦄ :=
    fun world _ => ⟨world, rfl⟩
  mvcgen [getOrRefresh, hclock, hrefresh]
  -- The four cases: found at once, found after the wait, not made, and made.
  case vc1.post.success.h_1 =>
    obtain rfl := ‹_ = cache›
    exact ⟨nofun, fun _ _ => rfl⟩
  case vc2.post.success.h_2.post.success.post.success.h_1 =>
    obtain rfl := ‹_ = cache›
    exact ⟨nofun, fun _ _ => rfl⟩
  case vc3.post.success.h_2.post.success.post.success.h_2.post.success.h_1 =>
    rename_i problem _ _ hmade
    obtain rfl := ‹_ = cache›
    refine ⟨fun other hfailed => ?_, fun _ _ => rfl⟩
    cases hfailed
    exact ⟨rfl, hmade⟩
  case vc4.post.success.h_2.post.success.post.success.h_2.post.success.h_2.post.success =>
    obtain rfl := ‹_ = cache›
    exact ⟨nofun, fun _ hne => get?_store_of_ne hne _ _⟩

end SnapshotCache

namespace Cache.Session

variable {α ε : Type} {session next last : Session α ε} {index : Nat} {request : Request}
  {events : List (Event α ε)} {key : String}

/-! ## The next call -/

/-- The lock of the key is free, and the next call on the key that needs a refresh begins one of its
own, whether it waits for the lock or arrives only now. -/
structure NextRefreshes (session : Session α ε) (key : String) : Prop where
  free : session.isFree key = true
  waiting : ∀ index force requestedAt,
    session.calls[index]? = some ⟨⟨key, force⟩, .waiting requestedAt⟩ →
    session.cache.lookupAfterWait? session.now requestedAt force key = none →
    ∃ next, session.run? [.acquire index, .lookAgain index] = some next ∧
      next.isRefreshing index = true
  arriving : ∀ force, session.cache.lookupAfterWait? session.now session.now force key = none →
    ∃ next, session.run? [.arrive ⟨key, force⟩, .look session.calls.length,
        .wait session.calls.length, .acquire session.calls.length,
        .lookAgain session.calls.length] = some next ∧
      next.isRefreshing session.calls.length = true

theorem exists_refreshing_of_waiting {force : Bool} {requestedAt : Time}
    (hfree : session.isFree key = true)
    (hcall : session.calls[index]? = some ⟨⟨key, force⟩, .waiting requestedAt⟩)
    (habsent : session.cache.lookupAfterWait? session.now requestedAt force key = none) :
    ∃ next, session.run? [.acquire index, .lookAgain index] = some next ∧
      next.isRefreshing index = true := by
  obtain ⟨locked, hacquire, hmoved⟩ := exists_step?_of_moves hcall (.acquire hfree)
  have habsent' : locked.cache.lookupAfterWait? locked.now requestedAt force key = none := by
    rw [hmoved.cache_eq rfl, hmoved.now, habsent]
  obtain ⟨refreshing, hlook, hmoved'⟩ :=
    exists_step?_of_moves (hmoved.call hcall) (.refresh habsent')
  refine ⟨refreshing, ?_, ?_⟩
  · simp only [run?, hacquire, hlook, Option.bind_some]
  · simp only [isRefreshing, hmoved'.call (hmoved.call hcall)]

/-- A lock that is free remains so when a call arrives and comes to wait for it. -/
theorem exists_waiting_of_arrive {force : Bool} (hfree : session.isFree key = true)
    (habsent : session.cache.lookupAfterWait? session.now session.now force key = none) :
    ∃ next, session.run? [.arrive ⟨key, force⟩, .look session.calls.length,
        .wait session.calls.length] = some next ∧
      next.now = session.now ∧ next.cache = session.cache ∧ next.isFree key = true ∧
      next.calls[session.calls.length]? = some ⟨⟨key, force⟩, .waiting session.now⟩ := by
  have habsent' : force = false → session.cache.lookup? session.now key = none := by
    rintro rfl
    rwa [SnapshotCache.lookupAfterWait?_of_not_force] at habsent
  let arrived : Session α ε :=
    { session with calls := session.calls ++ [⟨⟨key, force⟩, .arrived⟩] }
  have hcall : arrived.calls[session.calls.length]? = some ⟨⟨key, force⟩, .arrived⟩ :=
    List.getElem?_concat_length
  -- no step of the newcomer touches the cache or a lock: it looks, misses and waits
  obtain ⟨missed, hlook, hmissed⟩ := exists_step?_of_moves hcall (.miss habsent')
  have hcall' := hmissed.call hcall
  obtain ⟨waiting, hwait, hwaiting⟩ := exists_step?_of_moves hcall' .wait
  have hnow : missed.now = session.now := hmissed.now
  refine ⟨waiting, ?_, hwaiting.now.trans hnow, ?_, ?_, hnow ▸ hwaiting.call hcall'⟩
  · have harrive : session.step? (.arrive ⟨key, force⟩) = some arrived := rfl
    simp only [run?, harrive, hlook, hwait, Option.bind_some]
  · rw [hwaiting.cache_eq rfl, hmissed.cache_eq rfl]
  · refine isFree_iff.mpr fun place request phase hplace hkey => ?_
    rw [hwaiting.calls, getElem?_withPhase hcall'] at hplace
    split at hplace
    · cases hplace
      rfl
    · rename_i hne
      rw [hmissed.calls, getElem?_withPhase hcall, if_neg hne, List.getElem?_append] at hplace
      split at hplace
      · exact isFree_iff.mp hfree place request phase hplace hkey
      · obtain ⟨hlt, hsame⟩ := List.getElem?_eq_some_iff.mp hplace
        rw [List.getElem_singleton] at hsame
        cases hsame
        rfl

theorem nextRefreshes_of_isFree (hfree : session.isFree key = true) :
    session.NextRefreshes key where
  free := hfree
  waiting := fun _ _ _ => exists_refreshing_of_waiting hfree
  arriving := by
    intro force habsent
    obtain ⟨waiting, hrun, hnow, hcache, hfree', hcall⟩ := exists_waiting_of_arrive hfree habsent
    have habsent' :
        waiting.cache.lookupAfterWait? waiting.now session.now force key = none := by
      rw [hcache, hnow, habsent]
    obtain ⟨next, hnext, hrefreshing⟩ := exists_refreshing_of_waiting hfree' hcall habsent'
    refine ⟨next, ?_, hrefreshing⟩
    have happend := run?_append session [.arrive ⟨key, force⟩, .look session.calls.length,
      .wait session.calls.length] [.acquire session.calls.length, .lookAgain session.calls.length]
    rw [hrun, Option.bind_some, hnext] at happend
    exact happend

/-! ## Failed refreshes -/

/-- What a call on the key leaves behind that has ended with an error. -/
structure FailsAlone (start : Session α ε) (events : List (Event α ε)) (last : Session α ε)
    (index : Nat) (key : String) (problem : ε) : Prop where
  /-- The error is that of its own refresh, which has left the cache alone and the lock free; -/
  own : ∃ n before after, OccursAt start events n (.refresh index (.error problem)) before ∧
    before.step? (.refresh index (.error problem)) = some after ∧ after.cache = before.cache ∧
    after.NextRefreshes key
  /-- and everything else is as it would be if the call had done nothing. -/
  traceless : ∃ shadow, start.run? (leaveOut (· == index) events) = some shadow ∧
    shadow.now = last.now ∧
    (∀ key, shadow.cache.entries.get? key = last.cache.entries.get? key) ∧
    ∀ place, place ≠ index → shadow.calls[place]? = last.calls[place]? ∧
      ∀ event, event.callOf? = some place →
        (last.step? event).isSome = (shadow.step? event).isSome

variable {now : Time} {cache : SnapshotCache α} {problem : ε}

/-- The lock of a key is free when a refresh of the key has failed. -/
theorem isFree_of_fail (hrun : (idle now cache).run? events = some session)
    (hcall : session.calls[index]? = some ⟨request, .refreshing⟩)
    (hmoved : Moved session index request (.refresh index (.error problem))
      (.finished (.error problem)) next) : next.isFree request.key = true := by
  refine isFree_iff.mpr fun place other phase hplace hkey => ?_
  rw [hmoved.calls, getElem?_withPhase hcall] at hplace
  split at hplace
  · cases hplace
    rfl
  · rename_i hne
    rw [← Bool.not_eq_true]
    intro hholds
    exact hne (lock_unique hrun hplace hcall hkey hholds rfl)

theorem failsAlone_of_run (hrun : (idle now cache).run? events = some last)
    (hfailed : last.calls[index]? = some ⟨request, .finished (.error problem)⟩) :
    FailsAlone (idle now cache) events last index request.key problem where
  own := by
    obtain ⟨n, before, hoccurs⟩ := recorded_of_run hrun hfailed
    obtain ⟨after, hstep, hafter⟩ := hoccurs.exists_step hrun
    obtain ⟨request', phase, phase', hcall, hmoves, hmoved⟩ := exists_moved_of_callOf? hstep rfl
    cases hmoves with
    | fail problem =>
        -- The call has kept its request since.
        obtain ⟨between, hbetween⟩ := exists_run_to_end hrun hafter
        obtain ⟨_, hlast, -⟩ := exists_call_of_run? hbetween (hmoved.call hcall)
        cases hlast.symm.trans hfailed
        exact ⟨n, before, after, hoccurs, hstep, hmoved.cache_eq rfl,
          nextRefreshes_of_isFree (isFree_of_fail hoccurs.run_eq hcall hmoved)⟩
  traceless := by
    obtain ⟨shadow, hshadow, hsame⟩ := exists_run_leaveOut (· == index)
      (fun _ => false) hrun (fun _ _ _ _ => rfl) (by
        intro place call hplace hcall
        rw [beq_iff_eq.mp hplace, hfailed] at hcall
        cases hcall
        -- it has ended with an error, so it has stored nothing under any key
        exact .inr nofun)
    refine ⟨shadow, hshadow, hsame.now, fun key => hsame.entries key rfl, fun place hne => ?_⟩
    have hplace : (place == index) = false := beq_eq_false_iff_ne.mpr hne
    refine ⟨hsame.calls place hplace, fun event hevent => ?_⟩
    refine hsame.isSome_step? hevent hplace (fun _ _ => rfl) ?_
    intro _ _ other request phase hother hcall _
    rw [beq_iff_eq.mp hother, hfailed] at hcall
    cases hcall
    rfl

/-! ## Keys -/

/-- The call at `index` asks for the key. -/
def isOn (session : Session α ε) (key : String) (index : Nat) : Bool :=
  session.calls[index]?.any fun call => call.request.key == key

theorem isOn_eq_true_iff : last.isOn key index = true ↔
    ∃ call, last.calls[index]? = some call ∧ call.request.key = key := by
  simp [isOn, Option.any_eq_true]

/-- Whatever the calls on the key do and however they end, everything else is as it would be if they
had done nothing: what is stored under other keys, the calls on other keys, and what these calls can
do next, be the lock of the key free or not. -/
def KeyApart (start : Session α ε) (events : List (Event α ε)) (last : Session α ε)
    (key : String) : Prop :=
  ∃ shadow, start.run? (leaveOut (last.isOn key) events) = some shadow ∧
    shadow.now = last.now ∧
    (∀ other, other ≠ key → shadow.cache.entries.get? other = last.cache.entries.get? other) ∧
    ∀ index, last.isOn key index = false → shadow.calls[index]? = last.calls[index]? ∧
      ∀ event, event.callOf? = some index →
        (last.step? event).isSome = (shadow.step? event).isSome

theorem keyApart_of_run (hrun : (idle now cache).run? events = some last) (key : String) :
    KeyApart (idle now cache) events last key := by
  have hother : ∀ index call, last.isOn key index = false → last.calls[index]? = some call →
      call.request.key ≠ key := by
    intro index call hindex hcall hkey
    rw [isOn_eq_true_iff.mpr ⟨call, hcall, hkey⟩] at hindex
    cases hindex
  obtain ⟨shadow, hshadow, hsame⟩ := exists_run_leaveOut (last.isOn key) (· == key) hrun
    (fun index call hindex hcall => beq_eq_false_iff_ne.mpr (hother index call hindex hcall)) (by
      intro index call hindex hcall
      obtain ⟨call', hcall', hkey⟩ := isOn_eq_true_iff.mp hindex
      cases hcall.symm.trans hcall'
      exact .inl (beq_iff_eq.mpr hkey))
  refine ⟨shadow, hshadow, hsame.now,
    fun other hne => hsame.entries other (beq_eq_false_iff_ne.mpr hne), fun index hindex => ?_⟩
  refine ⟨hsame.calls index hindex, fun event hevent => ?_⟩
  refine hsame.isSome_step? hevent hindex
    (fun call hcall => beq_eq_false_iff_ne.mpr (hother index call hindex hcall)) ?_
  -- A call that is left out holds the lock of its own key only.
  intro call hcall place request phase hplace hplace' hkey
  obtain ⟨call', hcall', hkey'⟩ := isOn_eq_true_iff.mp hplace
  cases hplace'.symm.trans hcall'
  exact absurd (hkey.symm.trans hkey') (hother index call hindex hcall)

/-! ## The main result -/

/-- **A failed refresh changes nothing, and keys are independent**, for calls that interleave in any
way and for a call by itself. -/
theorem refreshes_isolated (hrun : (idle now cache).run? events = some last) :
    (∀ index request problem, last.calls[index]? = some ⟨request, .finished (.error problem)⟩ →
      FailsAlone (idle now cache) events last index request.key problem) ∧
      (∀ key, KeyApart (idle now cache) events last key) ∧
      ∀ (World : Type) (clock : StateM World Time) (key : String) (force : Bool)
        (refresh : StateM World (Except ε α)) (world : World),
        let (outcome, left) :=
          (((SnapshotCache.getOrRefresh clock key force refresh).run cache).run world).1
        cache.Confined key refresh outcome left :=
  ⟨fun _ _ _ => failsAlone_of_run hrun, keyApart_of_run hrun,
    fun _ clock key force refresh world =>
      SnapshotCache.getOrRefresh_confined clock key force refresh cache cache world rfl⟩

/-- Two calls on a key with an old entry, of which the first one fails, and a call on another
key. -/
def failingRefresh : List (Event Nat String) :=
  [.arrive ⟨"schema", false⟩, .arrive ⟨"schema", true⟩, .arrive ⟨"other", false⟩, .look 0, .look 1,
    .look 2, .wait 0, .wait 1, .wait 2, .acquire 0, .lookAgain 0, .acquire 2, .lookAgain 2,
    .refresh 0 (.error "down"), .refresh 2 (.ok 5), .store 2]

theorem isolated_failingRefresh : ∃ last,
    (idle 500 ⟨100, [("schema", ⟨1, 0⟩)]⟩).run? failingRefresh = some last ∧
      FailsAlone (idle 500 ⟨100, [("schema", ⟨1, 0⟩)]⟩) failingRefresh last 0 "schema" "down" ∧
      KeyApart (idle 500 ⟨100, [("schema", ⟨1, 0⟩)]⟩) failingRefresh last "schema" ∧
      last.cache.entries = [("other", ⟨5, 500⟩), ("schema", ⟨1, 0⟩)] := by
  let last : Session Nat String :=
    { now := 500
      cache := ⟨100, [("other", ⟨5, 500⟩), ("schema", ⟨1, 0⟩)]⟩
      calls := [⟨⟨"schema", false⟩, .finished (.error "down")⟩, ⟨⟨"schema", true⟩, .waiting 500⟩,
        ⟨⟨"other", false⟩, .finished (.ok 5)⟩] }
  have hrun : (idle 500 ⟨100, [("schema", ⟨1, 0⟩)]⟩).run? failingRefresh = some last := rfl
  obtain ⟨hfails, hapart, -⟩ := refreshes_isolated hrun
  exact ⟨last, hrun, hfails 0 ⟨"schema", false⟩ "down" rfl, hapart "schema", rfl⟩

end Cache.Session

end PlainQuery
