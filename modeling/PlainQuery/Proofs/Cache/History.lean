import PlainQuery.Proofs.Cache.Runs

/-!
# The history of a run

The events of a run are counted from zero, and an event with a smaller number happens earlier.
`OccursAt` says of an event which number it has and which session it finds.  What has happened is
not changed by what follows (`OccursAt.append`), and a part of a run is a run
(`exists_run_of_take`), so a fact about an event can be moved along the run, forward and backward.

Four relations name the events that matter to a snapshot:

* `BeginsRefresh`: a call that holds the lock of its key looks again and finds nothing to reuse;
* `Refreshes`: a refresh that has begun ends later, with this snapshot;
* `Stores`: a call stores what it has made, with the instant at which it does;
* `Reads`: a call takes what it is given from a fresh entry, at its first or at its second look.

The state of a session tells which of them have happened.  `Recorded` says it for each phase of a
call: `Recorded.concat` is the step, by cases on how the call `Moves`, and `recorded_of_run` the
run.  For the cache, `exists_stores_of_run` says that an entry was stored by a call and has not been
dropped since, and `exists_refreshes_of_stores` that a call stores what a refresh of its own has
made.

A snapshot is thus known by the refresh that made it.  Two refreshes may make equal snapshots, so
the later modules do not speak of the age of a snapshot but of the refresh that these theorems name.
-/

namespace PlainQuery.Cache.Session

variable {α ε : Type} {start session next last : Session α ε} {event other : Event α ε}
  {events more : List (Event α ε)} {n m index place : Nat} {key : String} {request : Request}

/-! ## Events and their numbers -/

/-- The event has the number `n` in the run and finds the session as `session`. -/
structure OccursAt (start : Session α ε) (events : List (Event α ε)) (n : Nat) (event : Event α ε)
    (session : Session α ε) : Prop where
  event_eq : events[n]? = some event
  run_eq : start.run? (events.take n) = some session

namespace OccursAt

theorem lt_length (h : OccursAt start events n event session) : n < events.length :=
  (List.getElem?_eq_some_iff.mp h.event_eq).1

theorem mem (h : OccursAt start events n event session) : event ∈ events :=
  List.mem_of_getElem? h.event_eq

/-- What has happened is not changed by what follows. -/
theorem append (h : OccursAt start events n event session) (more : List (Event α ε)) :
    OccursAt start (events ++ more) n event session where
  event_eq := by rw [List.getElem?_append_left h.lt_length, h.event_eq]
  run_eq := by rw [List.take_append_of_le_length (Nat.le_of_lt h.lt_length), h.run_eq]

theorem of_take (h : OccursAt start (events.take m) n event session) :
    OccursAt start events n event session := by
  have happend := h.append (events.drop m)
  rwa [List.take_append_drop] at happend

theorem lt_of_take (h : OccursAt start (events.take m) n event session) : n < m :=
  Nat.lt_of_lt_of_le h.lt_length (List.length_take_le _ _)

theorem take (h : OccursAt start events n event session) (hlt : n < m) :
    OccursAt start (events.take m) n event session where
  event_eq := by rw [List.getElem?_take_of_lt hlt, h.event_eq]
  run_eq := by rw [List.take_take, Nat.min_eq_left (Nat.le_of_lt hlt), h.run_eq]

/-- The run up to an event, and the event with it. -/
theorem run_succ (h : OccursAt start events n event session) :
    start.run? (events.take (n + 1)) = session.step? event := by
  rw [List.take_add_one, h.event_eq, Option.toList_some, run?_append, h.run_eq, Option.bind_some]
  simp [run?]

theorem unique (h : OccursAt start events n event session)
    (h' : OccursAt start events n other next) : event = other ∧ session = next :=
  ⟨Option.some.inj (h.event_eq.symm.trans h'.event_eq),
    Option.some.inj (h.run_eq.symm.trans h'.run_eq)⟩

end OccursAt

/-- The last event of a run. -/
theorem occursAt_concat (hrun : start.run? events = some session) (event : Event α ε) :
    OccursAt start (events ++ [event]) events.length event session where
  event_eq := by simp
  run_eq := by rw [List.take_left, hrun]

/-- A part of a run is a run. -/
theorem exists_run_of_take (hrun : start.run? events = some last) (n : Nat) :
    ∃ session, start.run? (events.take n) = some session ∧
      session.run? (events.drop n) = some last := by
  rw [← List.take_append_drop n events, run?_append, Option.bind_eq_some_iff] at hrun
  exact hrun

/-- From one point of a run to a later one. -/
theorem exists_run_of_take_of_le (hn : start.run? (events.take n) = some session)
    (hm : start.run? (events.take m) = some next) (hle : n ≤ m) :
    ∃ between, session.run? between = some next := by
  obtain ⟨middle, hmiddle, hbetween⟩ := exists_run_of_take hm n
  rw [List.take_take, Nat.min_eq_left hle] at hmiddle
  cases hn.symm.trans hmiddle
  exact ⟨_, hbetween⟩

/-- From a point of a run to its end. -/
theorem exists_run_to_end (hrun : start.run? events = some last)
    (hn : start.run? (events.take n) = some session) :
    ∃ between, session.run? between = some last := by
  obtain ⟨middle, hmiddle, hbetween⟩ := exists_run_of_take hrun n
  cases hn.symm.trans hmiddle
  exact ⟨_, hbetween⟩

/-- Every event of a run is possible where it happens. -/
theorem OccursAt.exists_step (hrun : start.run? events = some last)
    (h : OccursAt start events n event session) :
    ∃ next, session.step? event = some next ∧ start.run? (events.take (n + 1)) = some next := by
  obtain ⟨next, hnext, -⟩ := exists_run_of_take hrun (n + 1)
  exact ⟨next, h.run_succ ▸ hnext, hnext⟩

/-! ## Refreshes, stores and reads -/

/-- With the event of number `n` the call at `index` begins a refresh of the key: it holds the lock
and has found nothing to reuse. -/
def BeginsRefresh (start : Session α ε) (events : List (Event α ε)) (key : String)
    (n index : Nat) : Prop :=
  ∃ session force requestedAt, OccursAt start events n (.lookAgain index) session ∧
    session.calls[index]? = some ⟨⟨key, force⟩, .locked requestedAt⟩ ∧
    session.cache.lookupAfterWait? session.now requestedAt force key = none

/-- The refresh of the key that the call at `index` begins with the event of number `began` makes
the snapshot with the event of number `ended`. -/
structure Refreshes (start : Session α ε) (events : List (Event α ε)) (key : String)
    (index began ended : Nat) (snapshot : α) : Prop where
  begins : BeginsRefresh start events key began index
  ends : ∃ session, OccursAt start events ended (.refresh index (.ok snapshot)) session
  lt : began < ended

/-- With the event of number `n` the call at `index` stores the entry under the key. -/
def Stores (start : Session α ε) (events : List (Event α ε)) (key : String) (n index : Nat)
    (entry : CacheEntry α) : Prop :=
  ∃ session force, OccursAt start events n (.store index) session ∧
    session.calls[index]? = some ⟨⟨key, force⟩, .refreshed entry.snapshot⟩ ∧
    entry.storedAt = session.now

/-- With the event of number `n`, which finds the session as `session`, the call at `index` takes
what it is given from a fresh entry: at once if it does not insist on a new snapshot, or when it
looks again, and then a call that insists has asked before the entry was stored. -/
structure Reads (start : Session α ε) (events : List (Event α ε)) (index : Nat)
    (request : Request) (n : Nat) (session : Session α ε) (entry : CacheEntry α) : Prop where
  cached : session.cache.entries.get? request.key = some entry
  fresh : session.cache.isFresh session.now entry = true
  event : OccursAt start events n (.look index) session ∧ request.force = false ∨
    OccursAt start events n (.lookAgain index) session ∧
      ∃ asked asking, OccursAt start events asked (.wait index) asking ∧ asked < n ∧
        (request.force = true → asking.now ≤ entry.storedAt)

/-- The refresh of the key by the call at `index` has begun, and its snapshot is not stored yet. -/
def InFlight (session : Session α ε) (index : Nat) (key : String) : Prop :=
  ∃ request phase, session.calls[index]? = some ⟨request, phase⟩ ∧ request.key = key ∧
    phase.inFlight = true

theorem BeginsRefresh.append (h : BeginsRefresh start events key n index)
    (more : List (Event α ε)) : BeginsRefresh start (events ++ more) key n index := by
  obtain ⟨session, force, requestedAt, hoccurs, hcall, habsent⟩ := h
  exact ⟨session, force, requestedAt, hoccurs.append more, hcall, habsent⟩

theorem BeginsRefresh.of_take (h : BeginsRefresh start (events.take m) key n index) :
    BeginsRefresh start events key n index := by
  rw [← List.take_append_drop m events]
  exact h.append _

theorem BeginsRefresh.take (h : BeginsRefresh start events key n index) (hlt : n < m) :
    BeginsRefresh start (events.take m) key n index := by
  obtain ⟨session, force, requestedAt, hoccurs, hcall, habsent⟩ := h
  exact ⟨session, force, requestedAt, hoccurs.take hlt, hcall, habsent⟩

theorem BeginsRefresh.lt_length (h : BeginsRefresh start events key n index) :
    n < events.length := by
  obtain ⟨session, force, requestedAt, hoccurs, -⟩ := h
  exact hoccurs.lt_length

/-- After the event the refresh is running. -/
theorem BeginsRefresh.run_succ (h : BeginsRefresh start events key n index) :
    ∃ next force, start.run? (events.take (n + 1)) = some next ∧
      next.calls[index]? = some ⟨⟨key, force⟩, .refreshing⟩ := by
  obtain ⟨session, force, requestedAt, hoccurs, hcall, habsent⟩ := h
  refine ⟨session.withPhase index .refreshing, force, ?_, ?_⟩
  · rw [hoccurs.run_succ]
    simp only [step?, hcall, phaseAfterLock, habsent]
  · rw [getElem?_withPhase hcall, if_pos rfl]

theorem Refreshes.append {began ended : Nat} {snapshot : α}
    (h : Refreshes start events key index began ended snapshot) (more : List (Event α ε)) :
    Refreshes start (events ++ more) key index began ended snapshot where
  begins := h.begins.append more
  ends := h.ends.imp fun _ hoccurs => hoccurs.append more
  lt := h.lt

theorem Refreshes.of_take {began ended : Nat} {snapshot : α}
    (h : Refreshes start (events.take m) key index began ended snapshot) :
    Refreshes start events key index began ended snapshot := by
  rw [← List.take_append_drop m events]
  exact h.append _

theorem Stores.append {entry : CacheEntry α} (h : Stores start events key n index entry)
    (more : List (Event α ε)) : Stores start (events ++ more) key n index entry := by
  obtain ⟨session, force, hoccurs, hcall, hstored⟩ := h
  exact ⟨session, force, hoccurs.append more, hcall, hstored⟩

theorem Stores.of_take {entry : CacheEntry α}
    (h : Stores start (events.take m) key n index entry) :
    Stores start events key n index entry := by
  rw [← List.take_append_drop m events]
  exact h.append _

theorem Reads.append {entry : CacheEntry α} (h : Reads start events index request n session entry)
    (more : List (Event α ε)) : Reads start (events ++ more) index request n session entry where
  cached := h.cached
  fresh := h.fresh
  event := by
    rcases h.event with ⟨hoccurs, hforce⟩ | ⟨hoccurs, asked, asking, hasked, hlt, hle⟩
    · exact .inl ⟨hoccurs.append more, hforce⟩
    · exact .inr ⟨hoccurs.append more, asked, asking, hasked.append more, hlt, hle⟩

theorem Reads.run_eq {entry : CacheEntry α}
    (h : Reads start events index request n session entry) :
    start.run? (events.take n) = some session := by
  rcases h.event with ⟨hoccurs, -⟩ | ⟨hoccurs, -⟩ <;> exact hoccurs.run_eq

/-! ## The record of a phase -/

/-- What has happened to a call that is in the given phase. -/
def Recorded (start : Session α ε) (events : List (Event α ε)) (index : Nat) (request : Request) :
    Phase α ε → Prop
  | .arrived => True
  | .missed => True
  | .waiting requestedAt =>
    ∃ n session, OccursAt start events n (.wait index) session ∧ session.now = requestedAt
  | .locked requestedAt =>
    ∃ n session, OccursAt start events n (.wait index) session ∧ session.now = requestedAt
  | .refreshing => ∃ n, BeginsRefresh start events request.key n index
  | .refreshed snapshot =>
    ∃ began ended, Refreshes start events request.key index began ended snapshot
  | .finished (.ok snapshot) =>
    (∃ began ended, Refreshes start events request.key index began ended snapshot) ∨
      ∃ n session entry, entry.snapshot = snapshot ∧
        Reads start events index request n session entry
  | .finished (.error problem) =>
    ∃ n session, OccursAt start events n (.refresh index (.error problem)) session
  | .abandoned => ∃ n session, OccursAt start events n (.abandon index) session

theorem Recorded.append {phase : Phase α ε} (h : Recorded start events index request phase)
    (more : List (Event α ε)) : Recorded start (events ++ more) index request phase := by
  cases phase with
  | arrived | missed => trivial
  | waiting requestedAt | locked requestedAt =>
      obtain ⟨n, session, hoccurs, hnow⟩ := h
      exact ⟨n, session, hoccurs.append more, hnow⟩
  | refreshing => exact h.imp fun n hbegins => hbegins.append more
  | refreshed snapshot =>
      obtain ⟨began, ended, hrefreshes⟩ := h
      exact ⟨began, ended, hrefreshes.append more⟩
  | finished outcome =>
      cases outcome with
      | ok snapshot =>
          rcases h with ⟨began, ended, hrefreshes⟩ | ⟨n, session, entry, hentry, hreads⟩
          · exact .inl ⟨began, ended, hrefreshes.append more⟩
          · exact .inr ⟨n, session, entry, hentry, hreads.append more⟩
      | error problem =>
          obtain ⟨n, session, hoccurs⟩ := h
          exact ⟨n, session, hoccurs.append more⟩
  | abandoned =>
      obtain ⟨n, session, hoccurs⟩ := h
      exact ⟨n, session, hoccurs.append more⟩

/-- A step of a call leaves a record if the phase before had one. -/
theorem Recorded.concat {phase phase' : Phase α ε} (hrun : start.run? events = some session)
    (hcall : session.calls[index]? = some ⟨request, phase⟩)
    (hmoves : Moves session index request event phase phase')
    (h : Recorded start events index request phase) :
    Recorded start (events ++ [event]) index request phase' := by
  have hoccurs := occursAt_concat hrun event
  cases hmoves with
  | hit unforced found =>
      obtain ⟨entry, hcached, hfresh, hsnapshot⟩ := SnapshotCache.lookup?_eq_some_iff.mp found
      exact .inr ⟨_, session, entry, hsnapshot, hcached, hfresh, .inl ⟨hoccurs, unforced⟩⟩
  | miss absent => trivial
  | wait => exact ⟨_, session, hoccurs, rfl⟩
  | acquire free =>
      obtain ⟨n, asking, hasked, hnow⟩ := h
      exact ⟨n, asking, hasked.append _, hnow⟩
  | reuse found =>
      -- the instant it compares with is the one that was noted when it began to wait
      obtain ⟨n, asking, hasked, rfl⟩ := h
      obtain ⟨entry, hcached, hfresh, hforce, hsnapshot⟩ :=
        SnapshotCache.lookupAfterWait?_eq_some_iff.mp found
      exact .inr ⟨_, session, entry, hsnapshot, hcached, hfresh,
        .inr ⟨hoccurs, n, asking, hasked.append _, hasked.lt_length, hforce⟩⟩
  | refresh absent => exact ⟨_, session, request.force, _, hoccurs, hcall, absent⟩
  | succeed snapshot =>
      -- the refresh began with an earlier event, so its number is smaller than that of this one
      obtain ⟨began, hbegins⟩ := h
      exact ⟨began, _, hbegins.append _, ⟨session, hoccurs⟩, hbegins.lt_length⟩
  | fail problem => exact ⟨_, session, hoccurs⟩
  | store snapshot =>
      obtain ⟨began, ended, hrefreshes⟩ := h
      exact .inl ⟨began, ended, hrefreshes.append _⟩
  | abandon running => exact ⟨_, session, hoccurs⟩

/-- **Every phase is recorded**: what a call has done and what it is given goes back to earlier
events. -/
theorem recorded_of_run {now : Time} {cache : SnapshotCache α}
    (hrun : (idle now cache).run? events = some last) {call : Call α ε}
    (hcall : last.calls[index]? = some call) :
    Recorded (idle now cache) events index call.request call.phase := by
  refine run_induction (motive := fun events last => ∀ {index : Nat} {call : Call α ε},
    last.calls[index]? = some call →
    Recorded (idle now cache) events index call.request call.phase) ?_ ?_ hrun hcall
  · intro index call hcall
    cases hcall
  · intro events session event next hsession hstep ih index call hcall
    rcases call_of_step? hstep hcall with hcall | ⟨-, -, hphase⟩ | ⟨phase, hcall, hmoves⟩
    · exact (ih hcall).append _
    · rw [hphase]
      trivial
    · exact (ih hcall).concat hsession hcall hmoves

/-- A call that is there has arrived. -/
theorem arrive_mem_of_run {now : Time} {cache : SnapshotCache α}
    (hrun : (idle now cache).run? events = some last) {call : Call α ε}
    (hcall : last.calls[index]? = some call) : .arrive call.request ∈ events := by
  refine run_induction (motive := fun events last => ∀ {index : Nat} {call : Call α ε},
    last.calls[index]? = some call → Event.arrive call.request ∈ events) ?_ ?_ hrun hcall
  · intro index call hcall
    cases hcall
  · intro events session event next _ hstep ih index call hcall
    rcases call_of_step? hstep hcall with hcall | ⟨rfl, -⟩ | ⟨phase, hcall, -⟩
    · exact List.mem_append_left _ (ih hcall)
    · exact List.mem_append_right _ List.mem_cons_self
    · have harrived := ih hcall
      exact List.mem_append_left _ harrived

/-! ## The record of an entry -/

variable {now timeToLive : Time} {entry : CacheEntry α}

/-- **Every entry was stored by a call** and has not been dropped since. -/
theorem exists_stores_of_run (hrun : (idle now (.empty timeToLive)).run? events = some last)
    (hentry : last.cache.entries.get? key = some entry) :
    ∃ n index, Stores (idle now (.empty timeToLive)) events key n index entry ∧
      ∀ m event, n < m → events[m]? = some event → event ≠ .invalidate key ∧ event ≠ .clear := by
  refine run_induction (motive := fun events last => ∀ {entry : CacheEntry α},
    last.cache.entries.get? key = some entry →
    ∃ n index, Stores (idle now (.empty timeToLive)) events key n index entry ∧
      ∀ m event, n < m → events[m]? = some event → event ≠ .invalidate key ∧ event ≠ .clear)
    ?_ ?_ hrun hentry
  · intro entry hentry
    cases hentry
  · intro events session event next hsession hstep ih entry hentry
    rcases entry_of_step? hstep hentry with ⟨hbefore, hkept⟩ |
      ⟨place, ⟨key', force⟩, rfl, rfl, hcall, hstored⟩
    · obtain ⟨n, index, hstores, hlater⟩ := ih hbefore
      refine ⟨n, index, hstores.append _, fun m event' hlt hevent => ?_⟩
      rw [List.getElem?_append] at hevent
      split at hevent
      · exact hlater m event' hlt hevent
      · obtain ⟨-, rfl⟩ := List.getElem?_eq_some_iff.mp hevent
        simpa using hkept
    -- the entry was stored with the last event, and nothing comes behind it
    · refine ⟨events.length, place,
        ⟨session, force, occursAt_concat hsession _, hcall, hstored⟩, ?_⟩
      intro m event' hlt hevent
      rw [List.getElem?_eq_none (by simp; omega)] at hevent
      cases hevent

/-- What a call stores is what its refresh has made. -/
theorem exists_refreshes_of_stores {cache : SnapshotCache α}
    (hstores : Stores (ε := ε) (idle now cache) events key n index entry) :
    ∃ began ended,
      Refreshes (idle now cache) events key index began ended entry.snapshot ∧ ended < n := by
  obtain ⟨session, force, hoccurs, hcall, -⟩ := hstores
  obtain ⟨began, ended, hrefreshes⟩ := recorded_of_run hoccurs.run_eq hcall
  refine ⟨began, ended, hrefreshes.of_take, ?_⟩
  obtain ⟨_, hended⟩ := hrefreshes.ends
  exact hended.lt_of_take

/-- An entry is not from the future. -/
theorem storedAt_le_of_run (hrun : (idle now (.empty timeToLive)).run? events = some last)
    (hentry : last.cache.entries.get? key = some entry) : entry.storedAt ≤ last.now := by
  obtain ⟨n, index, ⟨session, force, hoccurs, -, hstored⟩, -⟩ := exists_stores_of_run hrun hentry
  obtain ⟨between, hbetween⟩ := exists_run_to_end hrun hoccurs.run_eq
  exact hstored ▸ now_le_of_run? hbetween

end PlainQuery.Cache.Session
