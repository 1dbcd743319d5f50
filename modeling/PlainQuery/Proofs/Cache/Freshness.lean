import PlainQuery.Proofs.Cache.History

/-!
# Freshness

What is read from the cache is young, in every run: some call has stored it, and at the moment it is
read it has been there for less than the time to live (`HasYoung`).  The age is measured on the
clock of the session, which does not go back, and no entry is from the future
(`storedAt_le_of_run`); so `isFresh`, which compares a difference, says what it should.

`handsOutFresh_of_run` is about the two ways to get a snapshot:

* by a look at the cache, where the entry is young at this moment;
* as the outcome of a call, which goes back to a refresh of its own or to an entry that was young
  when the call has read it (`Reads.young`).  If the call insists on a new snapshot, the entry was
  stored since the call has asked (`StoredSince`).

The comparison with that instant is not strict.  An entry that was there at an earlier instant is
never handed out to such a call (`StoredSince.absent`).  But if the clock stands still between a
store and a request, the call is given an entry that is there when it asks, stored at this very
instant; this is the only such case (`StoredSince.instant`).
-/

namespace PlainQuery.Cache.Session

variable {α ε : Type} {start session last : Session α ε} {events : List (Event α ε)}
  {n index : Nat} {key : String} {request : Request} {entry : CacheEntry α} {snapshot : α}
  {now timeToLive : Time}

/-- After the events, which lead to the session, there is under the key an entry that a call has
stored less than the time to live ago. -/
structure HasYoung (start : Session α ε) (events : List (Event α ε)) (session : Session α ε)
    (key : String) (entry : CacheEntry α) : Prop where
  run_eq : start.run? events = some session
  cached : session.cache.entries.get? key = some entry
  stored : ∃ n index, Stores start events key n index entry
  past : entry.storedAt ≤ session.now
  young : session.now < entry.storedAt + start.cache.timeToLive

theorem hasYoung_of_isFresh (hrun : (idle now (.empty timeToLive)).run? events = some session)
    (hcached : session.cache.entries.get? key = some entry)
    (hfresh : session.cache.isFresh session.now entry = true) :
    HasYoung (idle now (.empty timeToLive)) events session key entry := by
  have hpast : entry.storedAt ≤ session.now := storedAt_le_of_run hrun hcached
  obtain ⟨n, index, hstores, -⟩ := exists_stores_of_run hrun hcached
  refine ⟨hrun, hcached, ⟨n, index, hstores⟩, hpast, ?_⟩
  rw [← timeToLive_of_run? hrun]
  exact (SnapshotCache.isFresh_iff hpast).mp hfresh

/-- The entry was stored at the instant at which the call at `index` asked, or later.  The call has
asked with the event of number `n`, which finds the session as `asking`. -/
structure StoredSince (start : Session α ε) (events : List (Event α ε)) (index : Nat)
    (key : String) (entry : CacheEntry α) (n : Nat) (asking : Session α ε) : Prop where
  asked : OccursAt start events n (.wait index) asking
  le : asking.now ≤ entry.storedAt
  /-- At no earlier instant the entry is in the cache, -/
  absent : ∀ m session, start.run? (events.take m) = some session → session.now < asking.now →
    session.cache.entries.get? key ≠ some entry
  /-- and if it is there when the call asks, it was stored at this very instant. -/
  instant : asking.cache.entries.get? key = some entry → entry.storedAt = asking.now

theorem storedSince_of_le {asking : Session α ε}
    (hasked : OccursAt (idle now (.empty timeToLive)) events n (.wait index) asking)
    (hle : asking.now ≤ entry.storedAt) :
    StoredSince (idle now (.empty timeToLive)) events index key entry n asking where
  asked := hasked
  le := hle
  absent := fun m session hrun hearlier hcached => by
    have hpast : entry.storedAt ≤ session.now := storedAt_le_of_run hrun hcached
    exact Nat.lt_irrefl _ (Nat.lt_of_le_of_lt (Nat.le_trans hle hpast) hearlier)
  instant := fun hcached => Nat.le_antisymm (storedAt_le_of_run hasked.run_eq hcached) hle

/-- What is handed out after the events, which lead to the session `last`. -/
structure HandsOutFresh (start : Session α ε) (events : List (Event α ε)) (last : Session α ε) :
    Prop where
  /-- What is read from the cache is young. -/
  lookup : ∀ key snapshot, last.cache.lookup? last.now key = some snapshot →
    ∃ entry, HasYoung start events last key entry ∧ entry.snapshot = snapshot
  /-- A call is given what its own refresh has made or what was young when the call read it; if it
  insists on a new snapshot, what it reads was stored since it asked. -/
  outcome : ∀ index request snapshot,
    last.calls[index]? = some ⟨request, .finished (.ok snapshot)⟩ →
      (∃ began ended, Refreshes start events request.key index began ended snapshot) ∨
        ∃ n session entry, entry.snapshot = snapshot ∧
          (events[n]? = some (.look index) ∨ events[n]? = some (.lookAgain index)) ∧
          HasYoung start (events.take n) session request.key entry ∧
          (request.force = true → ∃ asked asking, asked < n ∧
            StoredSince start events index request.key entry asked asking)

/-- The entry that a call reads is young, and was stored since the call asked if the call insists on
a new snapshot. -/
theorem Reads.young
    (h : Reads (idle now (.empty timeToLive)) events index request n session entry) :
    (events[n]? = some (.look index) ∨ events[n]? = some (.lookAgain index)) ∧
      HasYoung (idle now (.empty timeToLive)) (events.take n) session request.key entry ∧
      (request.force = true → ∃ asked asking, asked < n ∧ StoredSince
        (idle now (.empty timeToLive)) events index request.key entry asked asking) := by
  have hyoung := hasYoung_of_isFresh h.run_eq h.cached h.fresh
  rcases h.event with ⟨hoccurs, hforce⟩ | ⟨hoccurs, asked, asking, hasked, hlt, hle⟩
  · refine ⟨.inl hoccurs.event_eq, hyoung, fun hforced => ?_⟩
    rw [hforce] at hforced
    cases hforced
  · refine ⟨.inr hoccurs.event_eq, hyoung, fun hforced => ?_⟩
    exact ⟨asked, asking, hlt, storedSince_of_le hasked (hle hforced)⟩

/-- **Only fresh snapshots are handed out**, in every run. -/
theorem handsOutFresh_of_run (hrun : (idle now (.empty timeToLive)).run? events = some last) :
    HandsOutFresh (idle now (.empty timeToLive)) events last where
  lookup := fun key snapshot hlookup => by
    obtain ⟨entry, hcached, hfresh, hsnapshot⟩ := SnapshotCache.lookup?_eq_some_iff.mp hlookup
    exact ⟨entry, hasYoung_of_isFresh hrun hcached hfresh, hsnapshot⟩
  outcome := fun index request snapshot hcall => by
    rcases recorded_of_run hrun hcall with hrefreshed | ⟨n, session, entry, hsnapshot, hreads⟩
    · exact .inl hrefreshed
    · exact .inr ⟨n, session, entry, hsnapshot, hreads.young⟩

/-- Two calls insist on a new snapshot; the second one waits while the first one refreshes. -/
def twoInsist : List (Event Nat String) :=
  [.arrive ⟨"schema", true⟩, .arrive ⟨"schema", true⟩, .look 0, .look 1, .wait 0, .wait 1,
    .acquire 0, .lookAgain 0, .tick, .refresh 0 (.ok 7), .store 0, .acquire 1, .lookAgain 1]

theorem handsOutFresh_twoInsist : ∃ last,
    (idle 0 (.empty 3600000)).run? twoInsist = some last ∧
      last.outcomes.map Except.toOption = [some 7, some 7] ∧
      last.cache.lookup? last.now "schema" = some 7 ∧
      HandsOutFresh (idle 0 (.empty 3600000)) twoInsist last :=
  ⟨_, rfl, rfl, by decide, handsOutFresh_of_run rfl⟩

end PlainQuery.Cache.Session
