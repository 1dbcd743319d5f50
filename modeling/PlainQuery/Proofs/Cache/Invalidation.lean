import PlainQuery.Proofs.Cache.History
import PlainQuery.Proofs.Cache.Progress

/-!
# Invalidation

When a key is invalidated, or the cache cleared, what was stored under the key is gone for good.  A
refresh that is in flight at this moment goes on, because the cache is not locked while a refresh
runs, and its call stores what it has made from older data.  So a snapshot that is handed out later
comes from a refresh that began after the invalidation, or from the one that was in flight
(`madeSince_of_drop`).  There is no more than one, since it holds the lock of the key
(`inFlight_unique`).

The argument compares the numbers of four events: the drop, and the beginning of a refresh, the
store of its snapshot and the read of the entry.

* An entry that is read after the drop was stored after it (`lt_store_of_drops`), since an entry is
  not dropped after its store.
* Its refresh began later than the drop, or earlier; then the drop falls between the beginning and
  the store, and there the refresh is in flight (`inFlight_of_stores`).
* A call that arrives after the drop makes all its steps later (`lt_of_callOf?`), and what it is
  given it has read or made then.

The second case does happen: `staleStore` is a run in which an invalidation falls into a refresh,
and the snapshot of this refresh is handed out afterwards (`staleStore_outlives_invalidate`).
-/

namespace PlainQuery.Cache

/-- The event drops what is stored under the key. -/
def Event.Drops {α ε : Type} (event : Event α ε) (key : String) : Prop :=
  event = .invalidate key ∨ event = .clear

namespace Session

variable {α ε : Type} {start session next last : Session α ε} {event dropped : Event α ε}
  {events : List (Event α ε)} {n m index : Nat} {key : String} {entry : CacheEntry α}
  {now timeToLive : Time}

/-- What is in the cache after an event that drops the entry under the key was stored later. -/
theorem lt_store_of_drops (hrun : (idle now (.empty timeToLive)).run? events = some last)
    (hentry : last.cache.entries.get? key = some entry)
    (hdropped : OccursAt (idle now (.empty timeToLive)) events m dropped session)
    (hdrops : dropped.Drops key) :
    ∃ n index, Stores (idle now (.empty timeToLive)) events key n index entry ∧ m < n := by
  obtain ⟨n, index, hstores, hkept⟩ := exists_stores_of_run hrun hentry
  refine ⟨n, index, hstores, ?_⟩
  by_contra hle
  rcases Nat.lt_or_eq_of_le (Nat.le_of_not_lt hle) with hlt | rfl
  · obtain ⟨hkey, hclear⟩ := hkept m dropped hlt hdropped.event_eq
    exact hdrops.elim hkey hclear
  -- a store is no drop, so the two cannot have one number
  · obtain ⟨storing, force, hstoring, -⟩ := hstores
    obtain ⟨rfl, -⟩ := hdropped.unique hstoring
    rcases hdrops with h | h <;> cases h

/-- Between the beginning of a refresh and the event with which its snapshot is stored, the refresh
is in flight. -/
theorem inFlight_of_stores {began : Nat} (hbegins : BeginsRefresh start events key began index)
    (hstores : Stores start events key n index entry)
    (hsession : start.run? (events.take m) = some session) (hbegan : began < m) (hlt : m < n) :
    session.InFlight index key := by
  obtain ⟨refreshing, force, hrefreshing, hcall⟩ := hbegins.run_succ
  obtain ⟨storing, force', hstoring, hstored, -⟩ := hstores
  obtain ⟨before, hbefore⟩ := exists_run_of_take_of_le hrefreshing hsession hbegan
  obtain ⟨phase, hphase, hatMost⟩ := exists_call_of_run? hbefore hcall
  obtain ⟨after, hafter⟩ := exists_run_of_take_of_le hsession hstoring.run_eq (Nat.le_of_lt hlt)
  obtain ⟨phase', hphase', hatLeast⟩ := exists_call_of_run? hafter hphase
  cases hphase'.symm.trans hstored
  -- The steps that a call has left tell the two phases of a running refresh from all others.
  have hrunning : phase.inFlight = true := Phase.inFlight_of_stepsLeft hatLeast hatMost
  exact ⟨_, phase, hphase, rfl, hrunning⟩

/-- One refresh of a key is in flight at most. -/
theorem inFlight_unique (hrun : (idle now (.empty timeToLive)).run? events = some session)
    {place : Nat} (hindex : session.InFlight index key) (hplace : session.InFlight place key) :
    place = index := by
  obtain ⟨request, phase, hcall, rfl, hflight⟩ := hindex
  obtain ⟨other, phase', hother, hkey, hflight'⟩ := hplace
  exact lock_unique hrun hother hcall hkey (Phase.holdsLock_of_inFlight hflight')
    (Phase.holdsLock_of_inFlight hflight)

/-- The snapshot was made by a refresh of the key that began after the event of number `m`, or by
the only one that was in flight at this event, which finds the session as `session`. -/
def MadeSince (start : Session α ε) (events : List (Event α ε)) (m : Nat) (session : Session α ε)
    (key : String) (snapshot : α) : Prop :=
  ∃ index began ended, Refreshes start events key index began ended snapshot ∧
    (m < began ∨ began < m ∧ session.InFlight index key ∧
      ∀ place, session.InFlight place key → place = index)

theorem MadeSince.of_take {snapshot : α}
    (h : MadeSince start (events.take n) m session key snapshot) :
    MadeSince start events m session key snapshot := by
  obtain ⟨index, began, ended, hrefreshes, hsince⟩ := h
  exact ⟨index, began, ended, hrefreshes.of_take, hsince⟩

/-- What is in the cache after its predecessor was dropped comes from a refresh that began later or
was in flight. -/
theorem madeSince_of_entry (hrun : (idle now (.empty timeToLive)).run? events = some last)
    (hentry : last.cache.entries.get? key = some entry)
    (hdropped : OccursAt (idle now (.empty timeToLive)) events m dropped session)
    (hdrops : dropped.Drops key) :
    MadeSince (idle now (.empty timeToLive)) events m session key entry.snapshot := by
  obtain ⟨n, index, hstores, hlt⟩ := lt_store_of_drops hrun hentry hdropped hdrops
  obtain ⟨began, ended, hrefreshes, -⟩ := exists_refreshes_of_stores hstores
  refine ⟨index, began, ended, hrefreshes, ?_⟩
  rcases Nat.lt_trichotomy m began with hafter | rfl | hbefore
  · exact .inl hafter
  -- the look that begins a refresh is no drop either
  · obtain ⟨_, _, _, hlooks, -⟩ := hrefreshes.begins
    obtain ⟨rfl, -⟩ := hdropped.unique hlooks
    rcases hdrops with h | h <;> cases h
  · have hflight : session.InFlight index key :=
      inFlight_of_stores hrefreshes.begins hstores hdropped.run_eq hbefore hlt
    exact .inr ⟨hbefore, hflight, fun place => inFlight_unique hdropped.run_eq hflight⟩

/-- A call that has not arrived before an event makes its steps after it. -/
theorem lt_of_callOf? (hrun : start.run? events = some last)
    (hsession : start.run? (events.take m) = some session)
    (hlater : session.calls.length ≤ index) (hoccurs : OccursAt start events n event next)
    (hevent : event.callOf? = some index) : m < n := by
  by_contra hle
  obtain ⟨after, hstep, -⟩ := hoccurs.exists_step hrun
  -- otherwise the call would have been there before the drop
  obtain ⟨request, phase, phase', hcall, -, -⟩ := exists_move_of_callOf? hstep hevent
  obtain ⟨between, hbetween⟩ :=
    exists_run_of_take_of_le hoccurs.run_eq hsession (Nat.le_of_not_lt hle)
  obtain ⟨reached, hreached, -⟩ := exists_call_of_run? hbetween hcall
  have hlt : index < session.calls.length := (List.getElem?_eq_some_iff.mp hreached).1
  omega

/-- **What was stored does not come back**: whatever is read under a key after the key has been
invalidated or the cache cleared, and whatever a call is given that arrives afterwards, was made by
a refresh that began afterwards or was in flight. -/
theorem madeSince_of_drop (hrun : (idle now (.empty timeToLive)).run? events = some last)
    (hdropped : OccursAt (idle now (.empty timeToLive)) events m dropped session)
    (hdrops : dropped.Drops key) :
    (∀ snapshot, last.cache.lookup? last.now key = some snapshot →
      MadeSince (idle now (.empty timeToLive)) events m session key snapshot) ∧
      ∀ index force snapshot, session.calls.length ≤ index →
        last.calls[index]? = some ⟨⟨key, force⟩, .finished (.ok snapshot)⟩ →
        MadeSince (idle now (.empty timeToLive)) events m session key snapshot := by
  constructor
  · intro snapshot hlookup
    obtain ⟨entry, hentry, -, rfl⟩ := SnapshotCache.lookup?_eq_some_iff.mp hlookup
    exact madeSince_of_entry hrun hentry hdropped hdrops
  · intro index force snapshot hlater hcall
    rcases recorded_of_run hrun hcall with ⟨began, ended, hrefreshes⟩ |
      ⟨n, reading, entry, rfl, hreads⟩
    · obtain ⟨_, _, _, hlooks, -⟩ := hrefreshes.begins
      have hlt : m < began := lt_of_callOf? hrun hdropped.run_eq hlater hlooks rfl
      exact ⟨index, began, ended, hrefreshes, .inl hlt⟩
    · have hlt : m < n := by
        rcases hreads.event with ⟨hlooks, -⟩ | ⟨hlooks, -⟩ <;>
          exact lt_of_callOf? hrun hdropped.run_eq hlater hlooks rfl
      exact (madeSince_of_entry hreads.run_eq hreads.cached (hdropped.take hlt) hdrops).of_take

/-- The key is invalidated while the refresh of a call is running; another call arrives later. -/
def staleStore : List (Event Nat String) :=
  [.arrive ⟨"schema", false⟩, .look 0, .wait 0, .acquire 0, .lookAgain 0, .invalidate "schema",
    .refresh 0 (.ok 1), .store 0, .arrive ⟨"schema", false⟩, .look 1]

/-- The session that the invalidation finds. -/
def whileRefreshing : Session Nat String :=
  { now := 0
    cache := .empty 3600000
    calls := [⟨⟨"schema", false⟩, .refreshing⟩] }

/-- The session after the run. -/
def afterStaleStore : Session Nat String :=
  { now := 0
    cache := ⟨3600000, [("schema", ⟨1, 0⟩)]⟩
    calls := [⟨⟨"schema", false⟩, .finished (.ok 1)⟩, ⟨⟨"schema", false⟩, .finished (.ok 1)⟩] }

theorem madeSince_staleStore :
    (idle 0 (.empty 3600000)).run? staleStore = some afterStaleStore ∧
      OccursAt (idle 0 (.empty 3600000)) staleStore 5 (.invalidate "schema") whileRefreshing ∧
      MadeSince (idle 0 (.empty 3600000)) staleStore 5 whileRefreshing "schema" 1 := by
  have hrun : (idle 0 (.empty 3600000)).run? staleStore = some afterStaleStore := rfl
  have hdropped : OccursAt (idle 0 (.empty 3600000)) staleStore 5 (.invalidate "schema")
      whileRefreshing := ⟨rfl, rfl⟩
  exact ⟨hrun, hdropped, (madeSince_of_drop hrun hdropped (.inl rfl)).1 1 (by decide)⟩

/-- After the invalidation the snapshot is read and given to a later call, although every refresh
that made it began before. -/
theorem staleStore_outlives_invalidate :
    (idle 0 (.empty 3600000)).run? staleStore = some afterStaleStore ∧
      OccursAt (idle 0 (.empty 3600000)) staleStore 5 (.invalidate "schema") whileRefreshing ∧
      afterStaleStore.cache.lookup? afterStaleStore.now "schema" = some 1 ∧
      whileRefreshing.calls.length ≤ 1 ∧
      afterStaleStore.calls[1]? = some ⟨⟨"schema", false⟩, .finished (.ok 1)⟩ ∧
      Refreshes (idle 0 (.empty 3600000)) staleStore "schema" 0 4 6 1 ∧
      ∀ index began ended,
        Refreshes (idle 0 (.empty 3600000)) staleStore "schema" index began ended 1 →
          began < 5 := by
  have hmade : Refreshes (idle 0 (.empty 3600000)) staleStore "schema" 0 4 6 1 :=
    { begins := ⟨_, false, 0, ⟨rfl, rfl⟩, rfl, rfl⟩
      ends := ⟨_, rfl, rfl⟩
      lt := by decide }
  refine ⟨rfl, ⟨rfl, rfl⟩, by decide, by decide, rfl, hmade, fun index began ended hrefreshes => ?_⟩
  obtain ⟨_, _, _, hlooks, -⟩ := hrefreshes.begins
  by_contra hle
  -- Only the event of number 4 is one with which a refresh can begin.
  have hnone : ∀ event ∈ staleStore.drop 5, event ≠ .lookAgain index := by
    simp [staleStore]
  refine hnone _ (List.mem_of_getElem? (i := began - 5) ?_) rfl
  rw [List.getElem?_drop, Nat.add_sub_cancel' (Nat.le_of_not_lt hle), hlooks.event_eq]

end Session

end PlainQuery.Cache
