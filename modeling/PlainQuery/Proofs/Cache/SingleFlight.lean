import PlainQuery.Proofs.Cache.History
import PlainQuery.Proofs.Cache.Progress

/-!
# Single flight

However calls interleave, the refreshes of a key run one after the other, because a call refreshes
only while it holds the lock of its key (`lock_unique`).

A second refresh is not even needed if nobody insists on a new snapshot and the first snapshot
stays.  `Undisturbed` says so of a run, with one field for each thing that would ask for another
refresh: a call that insists, an entry that is dropped or runs out, a refresh that fails, a call
that is abandoned.  In such a run all calls share what one refresh has made:

* Once a refresh of the key has begun, either a refresh is in flight, whose call holds the lock, or
  there is an entry under the key (`inFlightOrCached_of_run`).  The step is
  `inFlightOrCached_of_step?`: a refresh in flight stays so until its snapshot is stored, and an
  entry stays until it is dropped.
* So no refresh begins after another one (`not_beginsRefresh_after`).  The second call would hold
  the lock, hence nobody else is in flight; then it finds the entry, which is fresh, when it looks
  again.
* There is one refresh at most (`beginsRefresh_unique`), and it ends once (`not_refresh_after`), so
  all refreshes have made one snapshot (`snapshot_unique`).
* Whatever a call is given goes back to a refresh of its key (`exists_refreshes_of_endedWith`), and
  nobody is given an error (`exists_ok_of_endedWith`).

`SharesRefresh` collects this, with the bounds of `Proofs.Cache.Progress`: when the calls cannot go
on any more, all of them have been served.
-/

namespace PlainQuery.Cache.Session

variable {α ε : Type} {start session next last : Session α ε} {event : Event α ε}
  {events : List (Event α ε)} {n m index place : Nat} {key : String} {now timeToLive : Time}

/-- The call at `index` asks for the key. -/
def AsksFor (session : Session α ε) (index : Nat) (key : String) : Prop :=
  ∃ request phase, session.calls[index]? = some ⟨request, phase⟩ ∧ request.key = key

theorem AsksFor.of_run (h : session.AsksFor index key) (hrun : session.run? events = some last) :
    last.AsksFor index key := by
  obtain ⟨request, phase, hcall, hkey⟩ := h
  obtain ⟨phase', hcall', -⟩ := exists_call_of_run? hrun hcall
  exact ⟨request, phase', hcall', hkey⟩

/-- Nothing in the run asks for a second snapshot of the key: no call insists on a new one, none of
the entries is dropped, no refresh fails, no call is abandoned, and from the first time that a
snapshot is stored the time to live does not run out. -/
structure Undisturbed (start : Session α ε) (events : List (Event α ε)) (last : Session α ε)
    (key : String) : Prop where
  unforced : ∀ request, .arrive request ∈ events → request.key = key → request.force = false
  notInvalidated : .invalidate key ∉ events
  notCleared : .clear ∉ events
  succeeds : ∀ index problem, .refresh index (.error problem) ∈ events → ¬ last.AsksFor index key
  notAbandoned : ∀ index, .abandon index ∈ events → ¬ last.AsksFor index key
  lasts : ∀ n index entry, Stores start events key n index entry →
    last.now < entry.storedAt + last.cache.timeToLive

/-- A run that is undisturbed has been so all the time. -/
theorem Undisturbed.of_take (h : Undisturbed start events last key)
    (hrun : start.run? events = some last) (hn : start.run? (events.take n) = some session) :
    Undisturbed start (events.take n) session key := by
  obtain ⟨between, hbetween⟩ := exists_run_to_end hrun hn
  exact
    { unforced := fun request hmem => h.unforced request (List.mem_of_mem_take hmem)
      notInvalidated := fun hmem => h.notInvalidated (List.mem_of_mem_take hmem)
      notCleared := fun hmem => h.notCleared (List.mem_of_mem_take hmem)
      succeeds := fun index problem hmem hasks =>
        h.succeeds index problem (List.mem_of_mem_take hmem) (hasks.of_run hbetween)
      notAbandoned := fun index hmem hasks =>
        h.notAbandoned index (List.mem_of_mem_take hmem) (hasks.of_run hbetween)
      lasts := fun n index entry hstores => by
        have hlast := h.lasts n index entry hstores.of_take
        rw [timeToLive_of_run? hbetween] at hlast
        exact Nat.lt_of_le_of_lt (now_le_of_run? hbetween) hlast }

/-! ## From the first refresh on -/

/-- A refresh of the key is in flight, or there is an entry under the key. -/
def InFlightOrCached (session : Session α ε) (key : String) : Prop :=
  (∃ index, session.InFlight index key) ∨ (session.cache.entries.get? key).isSome

/-- A refresh that is in flight remains so until its snapshot is stored. -/
theorem inFlightOrCached_of_step? (hstep : session.step? event = some next)
    (hundisturbed : Undisturbed start (events ++ [event]) next key)
    (h : session.InFlightOrCached key) : next.InFlightOrCached key := by
  have hevent : event ∈ events ++ [event] := by simp
  rcases h with ⟨index, request, phase, hcall, hkey, hflight⟩ | hcached
  · obtain ⟨phase', hnext, rfl | hmoves⟩ := exists_call_of_step? hstep hcall
    · exact .inl ⟨index, request, phase', hnext, hkey, hflight⟩
    · have hasks : next.AsksFor index key := ⟨request, phase', hnext, hkey⟩
      cases hmoves with
      | succeed snapshot => exact .inl ⟨index, request, _, hnext, hkey, rfl⟩
      | fail problem => exact absurd hasks (hundisturbed.succeeds _ _ hevent)
      | abandon running => exact absurd hasks (hundisturbed.notAbandoned _ hevent)
      | store snapshot =>
          right
          rw [cache_of_store hstep hcall, hkey, SnapshotCache.get?_store_self]
          rfl
      | _ => cases hflight
  -- an entry disappears only if it is dropped, and in an undisturbed run it is not
  · refine .inr (isSome_entry_of_step? hstep hcached ?_ ?_)
    · exact fun heq => hundisturbed.notInvalidated (heq ▸ hevent)
    · exact fun heq => hundisturbed.notCleared (heq ▸ hevent)

/-- Once a refresh of the key has begun, a refresh is in flight or there is an entry. -/
theorem inFlightOrCached_of_run (hrun : start.run? events = some last)
    (hundisturbed : Undisturbed start events last key)
    (hbegins : BeginsRefresh start events key n index) : last.InFlightOrCached key := by
  refine run_induction (motive := fun events last => Undisturbed start events last key →
    ∀ n index, BeginsRefresh start events key n index → last.InFlightOrCached key)
    ?_ ?_ hrun hundisturbed n index hbegins
  · intro _ n index hbegins
    cases hbegins.lt_length
  · intro events session event next hsession hstep ih hundisturbed n index hbegins
    have hnext : start.run? (events ++ [event]) = some next :=
      run?_concat_eq_some_iff.mpr ⟨session, hsession, hstep⟩
    have htake : (events ++ [event]).take events.length = events := List.take_left
    by_cases hlt : n < events.length
    · have hbefore := hundisturbed.of_take (n := events.length) hnext (htake.symm ▸ hsession)
      have hbegan := hbegins.take hlt
      rw [htake] at hbefore hbegan
      exact inFlightOrCached_of_step? hstep hundisturbed (ih hbefore n index hbegan)
    · -- The refresh has begun with the last event, so it is running now.
      obtain ⟨after, force, hafter, hcall⟩ := hbegins.run_succ
      have hlength := hbegins.lt_length
      rw [List.take_of_length_le (by simp only [List.length_append, List.length_singleton]; omega),
        hnext] at hafter
      cases hafter
      exact .inl ⟨index, _, _, hcall, rfl, rfl⟩

/-! ## One refresh -/

/-- An entry in an undisturbed run is fresh. -/
theorem isFresh_of_undisturbed (hrun : (idle now (.empty timeToLive)).run? events = some last)
    (hundisturbed : Undisturbed (idle now (.empty timeToLive)) events last key)
    {entry : CacheEntry α} (hentry : last.cache.entries.get? key = some entry) :
    last.cache.isFresh last.now entry = true := by
  obtain ⟨n, index, hstores, -⟩ := exists_stores_of_run hrun hentry
  rw [SnapshotCache.isFresh_iff (storedAt_le_of_run hrun hentry)]
  exact hundisturbed.lasts n index entry hstores

/-- No refresh begins after another one. -/
theorem not_beginsRefresh_after (hrun : (idle now (.empty timeToLive)).run? events = some last)
    (hundisturbed : Undisturbed (idle now (.empty timeToLive)) events last key)
    (hfirst : BeginsRefresh (idle now (.empty timeToLive)) events key m index)
    (hsecond : BeginsRefresh (idle now (.empty timeToLive)) events key n place) : ¬ m < n := by
  intro hlt
  have hbegan := hfirst.take hlt
  obtain ⟨session, force, requestedAt, hoccurs, hcall, habsent⟩ := hsecond
  have hsofar := hundisturbed.of_take hrun hoccurs.run_eq
  rcases inFlightOrCached_of_run hoccurs.run_eq hsofar hbegan with
    ⟨other, request, phase, hother, hkey, hflight⟩ | hcached
  · -- The call of the first refresh still has the lock that the second call holds.
    have hsame : place = other :=
      lock_unique hoccurs.run_eq hcall hother hkey.symm rfl (Phase.holdsLock_of_inFlight hflight)
    subst hsame
    cases hcall.symm.trans hother
    cases hflight
  · -- The second call finds the entry when it looks again.
    obtain ⟨entry, hentry⟩ := Option.isSome_iff_exists.mp hcached
    have hfresh := isFresh_of_undisturbed hoccurs.run_eq hsofar hentry
    have hforce : force = false :=
      hsofar.unforced ⟨key, force⟩ (arrive_mem_of_run hoccurs.run_eq hcall) rfl
    have hfound : session.cache.lookup? session.now key = some entry.snapshot :=
      SnapshotCache.lookup?_eq_some_iff.mpr ⟨entry, hentry, hfresh, rfl⟩
    rw [hforce, SnapshotCache.lookupAfterWait?_of_not_force, hfound] at habsent
    cases habsent

/-- In an undisturbed run one refresh of the key begins at most. -/
theorem beginsRefresh_unique (hrun : (idle now (.empty timeToLive)).run? events = some last)
    (hundisturbed : Undisturbed (idle now (.empty timeToLive)) events last key)
    (hfirst : BeginsRefresh (idle now (.empty timeToLive)) events key m index)
    (hsecond : BeginsRefresh (idle now (.empty timeToLive)) events key n place) :
    m = n ∧ index = place := by
  have hlt := not_beginsRefresh_after hrun hundisturbed hfirst hsecond
  have hgt := not_beginsRefresh_after hrun hundisturbed hsecond hfirst
  obtain rfl : m = n := by omega
  obtain ⟨_, _, _, hoccurs, -⟩ := hfirst
  obtain ⟨_, _, _, hoccurs', -⟩ := hsecond
  cases (hoccurs.unique hoccurs').1
  exact ⟨rfl, rfl⟩

/-- A call refreshes once at most. -/
theorem not_refresh_after (hrun : start.run? events = some last) {outcome outcome' : Except ε α}
    (hfirst : OccursAt start events m (.refresh index outcome) session)
    (hsecond : OccursAt start events n (.refresh index outcome') next) : ¬ m < n := by
  intro hlt
  obtain ⟨after, hstep, hafter⟩ := hfirst.exists_step hrun
  obtain ⟨later, hstep', -⟩ := hsecond.exists_step hrun
  obtain ⟨request, phase, ended, -, hended, hmoves⟩ := exists_move_of_callOf? hstep rfl
  obtain ⟨request', running, phase', hrunning, hnext, hmoves'⟩ :=
    exists_move_of_callOf? hstep' rfl
  have hfew : ended.stepsLeft ≤ 1 := Nat.le_of_lt_succ <| by
    cases hmoves <;> simp [Phase.stepsLeft]
  have hmany : running.stepsLeft = 2 := by
    cases hmoves' <;> rfl
  -- The call does not get steps back between the two.
  obtain ⟨between, hbetween⟩ := exists_run_of_take_of_le hafter hsecond.run_eq hlt
  obtain ⟨reached, hreached, hle⟩ := exists_call_of_run? hbetween hended
  obtain ⟨-, rfl⟩ : request' = request ∧ running = reached := by
    simpa using hrunning.symm.trans hreached
  exact absurd (Nat.le_trans hle hfew) (by omega)

/-- All refreshes of a key in an undisturbed run have made the same snapshot, since there is only
one. -/
theorem snapshot_unique (hrun : (idle now (.empty timeToLive)).run? events = some last)
    (hundisturbed : Undisturbed (idle now (.empty timeToLive)) events last key)
    {began began' ended ended' : Nat} {snapshot snapshot' : α}
    (hfirst : Refreshes (idle now (.empty timeToLive)) events key index began ended snapshot)
    (hsecond : Refreshes (idle now (.empty timeToLive)) events key place began' ended' snapshot') :
    snapshot = snapshot' := by
  obtain ⟨rfl, rfl⟩ := beginsRefresh_unique hrun hundisturbed hfirst.begins hsecond.begins
  obtain ⟨_, hends⟩ := hfirst.ends
  obtain ⟨_, hends'⟩ := hsecond.ends
  have hended : ended = ended' := by
    have hlt := not_refresh_after hrun hends hends'
    have hgt := not_refresh_after hrun hends' hends
    omega
  subst hended
  cases (hends.unique hends').1
  rfl

/-! ## Outcomes -/

/-- The call at `index` asks for the key and has ended with the outcome. -/
def EndedWith (session : Session α ε) (index : Nat) (key : String) (outcome : Except ε α) : Prop :=
  ∃ request, session.calls[index]? = some ⟨request, .finished outcome⟩ ∧ request.key = key

/-- What a call is given goes back to a refresh of its key. -/
theorem exists_refreshes_of_endedWith {snapshot : α}
    (hrun : (idle now (.empty timeToLive)).run? events = some last)
    (hended : last.EndedWith index key (.ok snapshot)) : ∃ place began ended,
      Refreshes (idle now (.empty timeToLive)) events key place began ended snapshot := by
  obtain ⟨request, hcall, rfl⟩ := hended
  rcases recorded_of_run hrun hcall with ⟨began, ended, hrefreshes⟩ |
    ⟨n, session, entry, rfl, hreads⟩
  · exact ⟨index, began, ended, hrefreshes⟩
  · obtain ⟨stored, place, hstores, -⟩ := exists_stores_of_run hreads.run_eq hreads.cached
    obtain ⟨began, ended, hrefreshes, -⟩ := exists_refreshes_of_stores hstores.of_take
    exact ⟨place, began, ended, hrefreshes⟩

/-- In an undisturbed run nobody is given an error. -/
theorem exists_ok_of_endedWith (hrun : (idle now (.empty timeToLive)).run? events = some last)
    (hundisturbed : Undisturbed (idle now (.empty timeToLive)) events last key)
    {outcome : Except ε α} (hended : last.EndedWith index key outcome) :
    ∃ snapshot, outcome = .ok snapshot := by
  cases outcome with
  | ok snapshot => exact ⟨snapshot, rfl⟩
  | error problem =>
      obtain ⟨request, hcall, hkey⟩ := hended
      obtain ⟨n, session, hoccurs⟩ := recorded_of_run hrun hcall
      exact absurd ⟨request, _, hcall, hkey⟩ (hundisturbed.succeeds _ _ hoccurs.mem)

/-- The calls with the key that a run brings to an end share what one refresh has made. -/
structure SharesRefresh (start : Session α ε) (events : List (Event α ε)) (last : Session α ε)
    (key : String) : Prop where
  /-- One refresh of the key is begun at most. -/
  once : ∀ m n index place, BeginsRefresh start events key m index →
    BeginsRefresh start events key n place → m = n ∧ index = place
  /-- A call that has ended has been given what a refresh of the key has made, -/
  served : ∀ index outcome, last.EndedWith index key outcome →
    ∃ snapshot place began ended, outcome = .ok snapshot ∧
      Refreshes start events key place began ended snapshot
  /-- and every call that has ended has been given the same. -/
  shared : ∀ place began ended snapshot, Refreshes start events key place began ended snapshot →
    ∀ index outcome, last.EndedWith index key outcome → outcome = .ok snapshot
  /-- A call makes six steps at most, -/
  bounded : ∀ index, stepCount events index ≤ 6
  /-- and when no call with the key can make a step any more, all of them have ended. -/
  settled : ¬ last.CanGoOn key → ∀ index, last.AsksFor index key →
    ∃ snapshot, last.EndedWith index key (.ok snapshot)

theorem sharesRefresh_of_undisturbed [Nonempty α]
    (hrun : (idle now (.empty timeToLive)).run? events = some last)
    (hundisturbed : Undisturbed (idle now (.empty timeToLive)) events last key) :
    SharesRefresh (idle now (.empty timeToLive)) events last key := by
  refine { once := ?_, served := ?_, shared := ?_, bounded := stepCount_le hrun, settled := ?_ }
  · intro m n index place hfirst hsecond
    exact beginsRefresh_unique hrun hundisturbed hfirst hsecond
  · intro index outcome hended
    obtain ⟨snapshot, rfl⟩ := exists_ok_of_endedWith hrun hundisturbed hended
    obtain ⟨place, began, ended, hrefreshes⟩ := exists_refreshes_of_endedWith hrun hended
    exact ⟨snapshot, place, began, ended, rfl, hrefreshes⟩
  · intro place began ended snapshot hrefreshes index outcome hended
    obtain ⟨snapshot', rfl⟩ := exists_ok_of_endedWith hrun hundisturbed hended
    obtain ⟨place', began', ended', hrefreshes'⟩ := exists_refreshes_of_endedWith hrun hended
    rw [snapshot_unique hrun hundisturbed hrefreshes hrefreshes']
  · rintro hstuck index ⟨request, phase, hcall, hkey⟩
    -- a call with steps left could go on, or another one with its key
    have hnone : phase.stepsLeft = 0 := by
      by_contra hpos
      exact hstuck (hkey ▸ canGoOn_of_stepsLeft hcall (Nat.pos_of_ne_zero hpos))
    cases phase with
    | finished outcome =>
        have hended : last.EndedWith index key outcome := ⟨request, hcall, hkey⟩
        obtain ⟨snapshot, rfl⟩ := exists_ok_of_endedWith hrun hundisturbed hended
        exact ⟨snapshot, hended⟩
    | abandoned =>
        obtain ⟨n, session, hoccurs⟩ := recorded_of_run hrun hcall
        exact absurd ⟨request, _, hcall, hkey⟩ (hundisturbed.notAbandoned _ hoccurs.mem)
    | _ => cases hnone

/-! ## The main result -/

theorem exists_of_isRefreshing (h : session.isRefreshing index = true) :
    ∃ request, session.calls[index]? = some ⟨request, .refreshing⟩ := by
  unfold isRefreshing at h
  split at h
  · rename_i request hcall
    exact ⟨request, hcall⟩
  · cases h

/-- **Single flight**: at any time one refresh of a key is running at most, and in an undisturbed
run there is only one, whose snapshot is what all calls are given. -/
theorem single_flight [Nonempty α] (hrun : (idle now (.empty timeToLive)).run? events = some last)
    (key : String) :
    (∀ index place, last.isRefreshing index = true → last.isRefreshing place = true →
      last.AsksFor index key → last.AsksFor place key → index = place) ∧
      (Undisturbed (idle now (.empty timeToLive)) events last key →
        SharesRefresh (idle now (.empty timeToLive)) events last key) := by
  refine ⟨fun index place hindex hplace hasks hasks' => ?_, sharesRefresh_of_undisturbed hrun⟩
  obtain ⟨request, hcall⟩ := exists_of_isRefreshing hindex
  obtain ⟨other, hother⟩ := exists_of_isRefreshing hplace
  obtain ⟨_, _, hcall', hkey⟩ := hasks
  obtain ⟨_, _, hother', hkey'⟩ := hasks'
  cases hcall.symm.trans hcall'
  cases hother.symm.trans hother'
  exact lock_unique hrun hcall hother (hkey.trans hkey'.symm) rfl rfl

/-- Two calls miss before the first of them refreshes. -/
def twoMisses : List (Event Nat String) :=
  [.arrive ⟨"schema", false⟩, .arrive ⟨"schema", false⟩, .look 0, .look 1, .wait 0, .wait 1,
    .acquire 0, .lookAgain 0, .tick, .refresh 0 (.ok 7), .store 0, .acquire 1, .lookAgain 1]

theorem single_flight_twoMisses : ∃ last, (idle 0 (.empty 3600000)).run? twoMisses = some last ∧
    Undisturbed (idle 0 (.empty 3600000)) twoMisses last "schema" ∧
    SharesRefresh (idle 0 (.empty 3600000)) twoMisses last "schema" ∧
    last.outcomes.map Except.toOption = [some 7, some 7] := by
  let last : Session Nat String :=
    { now := 1
      cache := ⟨3600000, [("schema", ⟨7, 1⟩)]⟩
      calls := [⟨⟨"schema", false⟩, .finished (.ok 7)⟩, ⟨⟨"schema", false⟩, .finished (.ok 7)⟩] }
  have hrun : (idle 0 (.empty 3600000)).run? twoMisses = some last := rfl
  have hundisturbed : Undisturbed (idle 0 (.empty 3600000)) twoMisses last "schema" :=
    { unforced := by simp [twoMisses]
      notInvalidated := by simp [twoMisses]
      notCleared := by simp [twoMisses]
      succeeds := by simp [twoMisses]
      notAbandoned := by simp [twoMisses]
      lasts := fun n index entry _ => Nat.lt_of_lt_of_le (by decide) (Nat.le_add_left _ _) }
  exact ⟨last, hrun, hundisturbed, (single_flight hrun "schema").2 hundisturbed, rfl⟩

end PlainQuery.Cache.Session
