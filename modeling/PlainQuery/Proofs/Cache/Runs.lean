import Mathlib.Data.List.Induction
import PlainQuery.Cache.Interleaving

/-!
# Runs of a session

The invariants of the cache are proved along the runs of a `Session`.  Hardly any of the proofs
takes `step?` apart, because what one event can do is said here once:

* `calls_of_step?`: an event leaves the calls alone, adds one that has just arrived, or takes one
  call from a phase to another.  `Moves` has one constructor for each of these transitions, with
  what the call has found in the cache or at its lock;
* `call_of_step?` and `exists_call_of_step?` say this of a single call, looking back from the
  session after the event and forward from the one before it, and `exists_move_of_callOf?` of the
  call whose event it is;
* `cache_of_step?`, and `entry_of_step?` for a single key: an entry was there before the event,
  which has not dropped it, or a call has just stored it;
* `now_le_of_step?`: the clock does not go back.

A run is taken apart at its last event, so `run_induction` is the induction for all of them: what
holds of the start and is carried over one event holds of every session that is reached.

Two facts about runs are needed everywhere.  Each phase has a number of steps that are left
(`Phase.stepsLeft`), which no event increases, so no call comes back to an earlier phase
(`exists_call_of_run?`).  And the lock of a key is exclusive (`lock_unique`): whoever holds it after
an event has held it before or found it free (`Moves.holdsLock`), and it is not free as long as
somebody else holds it (`isFree_eq_false`).
-/

namespace PlainQuery.Cache

variable {α ε : Type}

/-! ## Phases -/

/-- The event takes the call at the place `index` from one phase to another. -/
inductive Moves (session : Session α ε) (index : Nat) (request : Request) :
    Event α ε → Phase α ε → Phase α ε → Prop
  | hit {snapshot : α} (unforced : request.force = false)
      (found : session.cache.lookup? session.now request.key = some snapshot) :
      Moves session index request (.look index) .arrived (.finished (.ok snapshot))
  | miss (absent : request.force = false →
        session.cache.lookup? session.now request.key = none) :
      Moves session index request (.look index) .arrived .missed
  | wait : Moves session index request (.wait index) .missed (.waiting session.now)
  | acquire {requestedAt : Time} (free : session.isFree request.key = true) :
      Moves session index request (.acquire index) (.waiting requestedAt) (.locked requestedAt)
  | reuse {requestedAt : Time} {snapshot : α}
      (found : session.cache.lookupAfterWait? session.now requestedAt request.force request.key =
        some snapshot) :
      Moves session index request (.lookAgain index) (.locked requestedAt)
        (.finished (.ok snapshot))
  | refresh {requestedAt : Time}
      (absent : session.cache.lookupAfterWait? session.now requestedAt request.force request.key =
        none) :
      Moves session index request (.lookAgain index) (.locked requestedAt) .refreshing
  | succeed (snapshot : α) :
      Moves session index request (.refresh index (.ok snapshot)) .refreshing (.refreshed snapshot)
  | fail (problem : ε) :
      Moves session index request (.refresh index (.error problem)) .refreshing
        (.finished (.error problem))
  | store (snapshot : α) :
      Moves session index request (.store index) (.refreshed snapshot) (.finished (.ok snapshot))
  | abandon {phase : Phase α ε} (running : phase.outcome? = none) :
      Moves session index request (.abandon index) phase .abandoned

/-- The call that makes a step with the event; to go away is not a step. -/
def Event.stepOf? : Event α ε → Option Nat
  | .look index => some index
  | .wait index => some index
  | .acquire index => some index
  | .lookAgain index => some index
  | .refresh index _ => some index
  | .store index => some index
  | _ => none

/-- The call whose event it is. -/
def Event.callOf? : Event α ε → Option Nat
  | .abandon index => some index
  | event => event.stepOf?

theorem Event.callOf?_of_stepOf? {event : Event α ε} {index : Nat}
    (h : event.stepOf? = some index) : event.callOf? = some index := by
  cases event with
  | abandon place => cases h
  | _ => exact h

/-- How many steps a call in this phase has before it at most. -/
def Phase.stepsLeft : Phase α ε → Nat
  | .arrived => 6
  | .missed => 5
  | .waiting _ => 4
  | .locked _ => 3
  | .refreshing => 2
  | .refreshed _ => 1
  | .finished _ => 0
  | .abandoned => 0

/-- The refresh of a call in this phase has begun, and its snapshot is not stored yet. -/
def Phase.inFlight : Phase α ε → Bool
  | .refreshing => true
  | .refreshed _ => true
  | _ => false

theorem Phase.holdsLock_of_inFlight {phase : Phase α ε} (h : phase.inFlight = true) :
    phase.holdsLock = true := by
  cases phase with
  | refreshing | refreshed snapshot => rfl
  | _ => cases h

theorem Phase.inFlight_of_stepsLeft {phase : Phase α ε} (hpos : 0 < phase.stepsLeft)
    (hle : phase.stepsLeft ≤ 2) : phase.inFlight = true := by
  cases phase with
  | refreshing | refreshed snapshot => rfl
  | finished outcome | abandoned => cases hpos
  | _ => simp only [stepsLeft] at hle; omega

namespace Moves

variable {session : Session α ε} {index place : Nat} {request other : Request}
  {event : Event α ε} {phase phase' next next' : Phase α ε}

/-- An event moves one call only. -/
theorem index_eq (hmoves : Moves session index request event phase next)
    (hothers : Moves session place other event phase' next') : index = place := by
  cases hmoves <;> cases hothers <;> rfl

/-- A step brings a call nearer to its end, unless the call is abandoned. -/
theorem stepsLeft_lt (hmoves : Moves session index request event phase next)
    (hevent : event ≠ .abandon index) : next.stepsLeft < phase.stepsLeft := by
  cases hmoves with
  | abandon running => exact absurd rfl hevent
  | _ => simp only [Phase.stepsLeft]; omega

theorem stepsLeft_le (hmoves : Moves session index request event phase next) :
    next.stepsLeft ≤ phase.stepsLeft := by
  cases hmoves with
  | abandon running => exact Nat.zero_le _
  | _ => simp only [Phase.stepsLeft]; omega

theorem callOf?_eq (hmoves : Moves session index request event phase next) :
    event.callOf? = some index := by
  cases hmoves <;> rfl

/-- A call that holds its lock after an event has held it before or found it free. -/
theorem holdsLock (hmoves : Moves session index request event phase next)
    (hholds : next.holdsLock = true) :
    phase.holdsLock = true ∨ session.isFree request.key = true := by
  cases hmoves with
  | acquire free => exact .inr free
  | refresh absent => exact .inl rfl
  | succeed snapshot => exact .inl rfl
  | _ => cases hholds

end Moves

namespace Session

variable {session next start last : Session α ε} {event : Event α ε} {events : List (Event α ε)}
  {index : Nat} {key : String}

/-! ## The calls after an event -/

theorem phaseAfterLook_moves (session : Session α ε) (index : Nat) (request : Request) :
    Moves session index request (.look index) .arrived (session.phaseAfterLook request) := by
  obtain ⟨key, force⟩ := request
  cases force with
  | true => exact .miss fun hforce => by cases hforce
  | false =>
      cases hfound : session.cache.lookup? session.now key with
      | some snapshot =>
          simp only [phaseAfterLook, hfound, Bool.false_eq_true, if_false]
          exact .hit rfl hfound
      | none =>
          simp only [phaseAfterLook, hfound, Bool.false_eq_true, if_false]
          exact .miss fun _ => hfound

theorem phaseAfterLock_moves (session : Session α ε) (index : Nat) (request : Request)
    (requestedAt : Time) :
    Moves session index request (.lookAgain index) (.locked requestedAt)
      (session.phaseAfterLock request requestedAt) := by
  unfold phaseAfterLock
  split
  · rename_i snapshot hfound
    exact .reuse hfound
  · rename_i habsent
    exact .refresh habsent

theorem phaseAfterRefresh_moves (session : Session α ε) (index : Nat) (request : Request)
    (outcome : Except ε α) :
    Moves session index request (.refresh index outcome) .refreshing
      (phaseAfterRefresh outcome) := by
  cases outcome with
  | ok snapshot => exact .succeed snapshot
  | error problem => exact .fail problem

/-- An event leaves the calls alone, adds a new one, or moves one of them. -/
theorem calls_of_step? (hstep : session.step? event = some next) :
    next.calls = session.calls ∧ event.callOf? = none ∨
      (∃ request, event = .arrive request ∧ next.calls = session.calls ++ [⟨request, .arrived⟩]) ∨
      ∃ place request phase phase', session.calls[place]? = some ⟨request, phase⟩ ∧
        Moves session place request event phase phase' ∧
        next.calls = (session.withPhase place phase').calls := by
  cases event with
  | tick | invalidate key | clear =>
      cases hstep
      exact .inl ⟨rfl, rfl⟩
  | arrive request =>
      cases hstep
      exact .inr (.inl ⟨request, rfl, rfl⟩)
  | look place =>
      simp only [step?] at hstep
      split at hstep
      · rename_i request hplace
        cases hstep
        exact .inr (.inr ⟨place, request, _, _, hplace, phaseAfterLook_moves _ _ _, rfl⟩)
      · cases hstep
  | wait place =>
      simp only [step?] at hstep
      split at hstep
      · rename_i request hplace
        cases hstep
        exact .inr (.inr ⟨place, request, _, _, hplace, .wait, rfl⟩)
      · cases hstep
  | acquire place =>
      simp only [step?] at hstep
      split at hstep
      · rename_i request requestedAt hplace
        split at hstep
        · rename_i hfree
          cases hstep
          exact .inr (.inr ⟨place, request, _, _, hplace, .acquire hfree, rfl⟩)
        · cases hstep
      · cases hstep
  | lookAgain place =>
      simp only [step?] at hstep
      split at hstep
      · rename_i request requestedAt hplace
        cases hstep
        exact .inr (.inr ⟨place, request, _, _, hplace, phaseAfterLock_moves _ _ _ _, rfl⟩)
      · cases hstep
  | refresh place outcome =>
      simp only [step?] at hstep
      split at hstep
      · rename_i request hplace
        cases hstep
        exact .inr (.inr ⟨place, request, _, _, hplace, phaseAfterRefresh_moves _ _ _ _, rfl⟩)
      · cases hstep
  | store place =>
      simp only [step?] at hstep
      split at hstep
      · rename_i request snapshot hplace
        cases hstep
        exact .inr (.inr ⟨place, request, _, _, hplace, .store snapshot, rfl⟩)
      · cases hstep
  | abandon place =>
      -- a call that has ended is not abandoned any more
      simp only [step?] at hstep
      split at hstep
      · cases hstep
      · rename_i call hrunning hplace
        obtain ⟨request, phase⟩ := call
        cases hstep
        refine .inr (.inr ⟨place, request, phase, _, hplace, .abandon ?_, rfl⟩)
        cases phase with
        | finished outcome => exact absurd rfl (hrunning request outcome)
        | _ => rfl
      · cases hstep

theorem getElem?_withPhase {place : Nat} {request : Request} {old : Phase α ε}
    (hplace : session.calls[place]? = some ⟨request, old⟩) (phase : Phase α ε) :
    (session.withPhase place phase).calls[index]? =
      if index = place then some ⟨request, phase⟩ else session.calls[index]? := by
  rw [withPhase, List.getElem?_modify]
  by_cases hindex : index = place
  · subst hindex
    simp [hplace]
  · simp [hindex, Ne.symm hindex]

/-- A call after an event is as it was before, has just arrived, or has been moved. -/
theorem call_of_step? (hstep : session.step? event = some next) {call : Call α ε}
    (hcall : next.calls[index]? = some call) :
    session.calls[index]? = some call ∨
      (event = .arrive call.request ∧ index = session.calls.length ∧ call.phase = .arrived) ∨
      ∃ phase, session.calls[index]? = some ⟨call.request, phase⟩ ∧
        Moves session index call.request event phase call.phase := by
  rcases calls_of_step? hstep with ⟨hcalls, -⟩ | ⟨request, rfl, hcalls⟩ |
    ⟨place, request, phase, phase', hplace, hmoves, hcalls⟩
  · rw [hcalls] at hcall
    exact .inl hcall
  · rw [hcalls, List.getElem?_append] at hcall
    split at hcall
    · exact .inl hcall
    · obtain ⟨hlength, rfl⟩ := List.getElem?_eq_some_iff.mp hcall
      have hindex : index = session.calls.length := by
        simp only [List.length_singleton] at hlength
        omega
      exact .inr (.inl ⟨by simp, hindex, by simp⟩)
  · rw [hcalls, getElem?_withPhase hplace] at hcall
    split at hcall
    · rename_i hindex
      subst hindex
      cases hcall
      exact .inr (.inr ⟨phase, hplace, hmoves⟩)
    · exact .inl hcall

/-- A call stays in the session with its request, and keeps its phase or is moved. -/
theorem exists_call_of_step? (hstep : session.step? event = some next) {request : Request}
    {phase : Phase α ε} (hcall : session.calls[index]? = some ⟨request, phase⟩) :
    ∃ phase', next.calls[index]? = some ⟨request, phase'⟩ ∧
      (phase' = phase ∨ Moves session index request event phase phase') := by
  rcases calls_of_step? hstep with ⟨hcalls, -⟩ | ⟨arriving, rfl, hcalls⟩ |
    ⟨place, moved, before, after, hplace, hmoves, hcalls⟩
  · exact ⟨phase, by rw [hcalls, hcall], .inl rfl⟩
  · refine ⟨phase, ?_, .inl rfl⟩
    rw [hcalls, List.getElem?_append_left (List.getElem?_eq_some_iff.mp hcall).1, hcall]
  · by_cases hindex : index = place
    · subst hindex
      cases hcall.symm.trans hplace
      exact ⟨after, by rw [hcalls, getElem?_withPhase hplace, if_pos rfl], .inr hmoves⟩
    · refine ⟨phase, ?_, .inl rfl⟩
      rw [hcalls, getElem?_withPhase hplace, if_neg hindex, hcall]

/-- The event of a call moves this call. -/
theorem exists_move_of_callOf? (hstep : session.step? event = some next)
    (hevent : event.callOf? = some index) :
    ∃ request phase phase', session.calls[index]? = some ⟨request, phase⟩ ∧
      next.calls[index]? = some ⟨request, phase'⟩ ∧
      Moves session index request event phase phase' := by
  rcases calls_of_step? hstep with ⟨-, hnone⟩ | ⟨request, rfl, -⟩ |
    ⟨place, request, phase, phase', hplace, hmoves, hcalls⟩
  · cases hevent.symm.trans hnone
  · cases hevent
  · obtain rfl : index = place := Option.some.inj (hevent.symm.trans hmoves.callOf?_eq)
    refine ⟨request, phase, phase', hplace, ?_, hmoves⟩
    rw [hcalls, getElem?_withPhase hplace, if_pos rfl]

/-! ## The clock and the cache after an event -/

theorem now_le_of_step? (hstep : session.step? event = some next) : session.now ≤ next.now := by
  cases event with
  | tick => cases hstep; exact Nat.le_succ _
  | arrive request | invalidate key | clear => cases hstep; exact Nat.le_refl _
  | _ =>
      simp only [step?] at hstep
      repeat' split at hstep
      all_goals cases hstep
      all_goals exact Nat.le_refl _

/-- The cache after an event: a call stores its snapshot, or entries are dropped, or it is as it was
before. -/
theorem cache_of_step? (hstep : session.step? event = some next) :
    next.cache = session.cache ∧ (∀ key, event ≠ .invalidate key) ∧ event ≠ .clear ∨
      (∃ place request snapshot, event = .store place ∧
        session.calls[place]? = some ⟨request, .refreshed snapshot⟩ ∧
        next.cache = session.cache.store session.now request.key snapshot) ∨
      (∃ key, event = .invalidate key ∧ next.cache = session.cache.invalidate key) ∨
      event = .clear ∧ next.cache = session.cache.clear := by
  cases event with
  | invalidate key => cases hstep; exact .inr (.inr (.inl ⟨key, rfl, rfl⟩))
  | clear => cases hstep; exact .inr (.inr (.inr ⟨rfl, rfl⟩))
  | tick | arrive request => cases hstep; exact .inl ⟨rfl, by simp, by simp⟩
  | store place =>
      simp only [step?] at hstep
      split at hstep
      · rename_i request snapshot hplace
        cases hstep
        exact .inr (.inl ⟨place, request, snapshot, rfl, hplace, rfl⟩)
      · cases hstep
  | _ =>
      simp only [step?] at hstep
      repeat' split at hstep
      all_goals cases hstep
      all_goals exact .inl ⟨rfl, by simp, by simp⟩

theorem cache_of_store (hstep : session.step? (.store index) = some next) {request : Request}
    {snapshot : α} (hcall : session.calls[index]? = some ⟨request, .refreshed snapshot⟩) :
    next.cache = session.cache.store session.now request.key snapshot := by
  simp only [step?, hcall, Option.some.injEq] at hstep
  rw [← hstep]

theorem timeToLive_of_step? (hstep : session.step? event = some next) :
    next.cache.timeToLive = session.cache.timeToLive := by
  rcases cache_of_step? hstep with ⟨hcache, -⟩ | ⟨_, _, _, -, -, hcache⟩ | ⟨_, -, hcache⟩ |
    ⟨-, hcache⟩ <;> simp [hcache]

/-- An entry after an event was there before and has not been dropped, or a call has just stored
it. -/
theorem entry_of_step? (hstep : session.step? event = some next) {entry : CacheEntry α}
    (hentry : next.cache.entries.get? key = some entry) :
    session.cache.entries.get? key = some entry ∧ event ≠ .invalidate key ∧ event ≠ .clear ∨
      ∃ place request, event = .store place ∧ request.key = key ∧
        session.calls[place]? = some ⟨request, .refreshed entry.snapshot⟩ ∧
        entry.storedAt = session.now := by
  rcases cache_of_step? hstep with ⟨hcache, hkeys, hclear⟩ |
    ⟨place, request, snapshot, rfl, hplace, hcache⟩ | ⟨dropped, rfl, hcache⟩ | ⟨rfl, hcache⟩
  · rw [hcache] at hentry
    exact .inl ⟨hentry, hkeys key, hclear⟩
  · rw [hcache] at hentry
    -- what is stored replaces the entry of its own key only
    by_cases hkey : key = request.key
    · subst hkey
      rw [SnapshotCache.get?_store_self] at hentry
      cases hentry
      exact .inr ⟨place, request, rfl, rfl, hplace, rfl⟩
    · rw [SnapshotCache.get?_store_of_ne hkey] at hentry
      exact .inl ⟨hentry, by simp, by simp⟩
  · rw [hcache] at hentry
    by_cases hkey : key = dropped
    · subst hkey
      rw [SnapshotCache.get?_invalidate_self] at hentry
      cases hentry
    · rw [SnapshotCache.get?_invalidate_of_ne hkey] at hentry
      exact .inl ⟨hentry, by simpa [eq_comm] using hkey, by simp⟩
  · rw [hcache, SnapshotCache.get?_clear] at hentry
    cases hentry

/-- A key that has an entry keeps one unless it is invalidated or the cache is cleared. -/
theorem isSome_entry_of_step? (hstep : session.step? event = some next)
    (hentry : (session.cache.entries.get? key).isSome) (hkey : event ≠ .invalidate key)
    (hclear : event ≠ .clear) : (next.cache.entries.get? key).isSome := by
  rcases cache_of_step? hstep with ⟨hcache, -⟩ | ⟨_, request, snapshot, rfl, -, hcache⟩ |
    ⟨dropped, rfl, hcache⟩ | ⟨rfl, -⟩
  · rwa [hcache]
  · rw [hcache]
    by_cases hsame : key = request.key
    · rw [hsame, SnapshotCache.get?_store_self]
      rfl
    · rwa [SnapshotCache.get?_store_of_ne hsame]
  · have hne : key ≠ dropped := fun hsame => hkey (by rw [hsame])
    rwa [hcache, SnapshotCache.get?_invalidate_of_ne hne]
  · exact absurd rfl hclear

/-! ## Runs -/

theorem run?_append (session : Session α ε) (first second : List (Event α ε)) :
    session.run? (first ++ second) =
      (session.run? first).bind fun middle => middle.run? second := by
  induction first generalizing session with
  | nil => rfl
  | cons event first ih =>
      simp only [List.cons_append, run?]
      cases session.step? event with
      | none => rfl
      | some next => exact ih next

theorem run?_concat_eq_some_iff :
    start.run? (events ++ [event]) = some last ↔
      ∃ session, start.run? events = some session ∧ session.step? event = some last := by
  rw [run?_append, Option.bind_eq_some_iff]
  simp [run?]

/-- What holds of the start and is carried over from each session to the next holds at the end of
every run. -/
theorem run_induction {motive : List (Event α ε) → Session α ε → Prop} (nil : motive [] start)
    (concat : ∀ {events session event next}, start.run? events = some session →
      session.step? event = some next → motive events session → motive (events ++ [event]) next)
    (hrun : start.run? events = some last) : motive events last := by
  induction events using List.reverseRecOn generalizing last with
  | nil => cases hrun; exact nil
  | append_singleton events event ih =>
      obtain ⟨session, hsession, hstep⟩ := run?_concat_eq_some_iff.mp hrun
      exact concat hsession hstep (ih hsession)

theorem now_le_of_run? (hrun : start.run? events = some last) : start.now ≤ last.now :=
  run_induction (motive := fun _ last => start.now ≤ last.now) (Nat.le_refl _)
    (fun _ hstep ih => Nat.le_trans ih (now_le_of_step? hstep)) hrun

theorem timeToLive_of_run? (hrun : start.run? events = some last) :
    last.cache.timeToLive = start.cache.timeToLive :=
  run_induction (motive := fun _ last => last.cache.timeToLive = start.cache.timeToLive) rfl
    (fun _ hstep ih => (timeToLive_of_step? hstep).trans ih) hrun

/-- In the course of a run a call stays in the session and keeps its request; its phase does not
become an earlier one. -/
theorem exists_call_of_run? (hrun : start.run? events = some last) {call : Call α ε}
    (hcall : start.calls[index]? = some call) :
    ∃ phase, last.calls[index]? = some ⟨call.request, phase⟩ ∧
      phase.stepsLeft ≤ call.phase.stepsLeft := by
  -- along the run the steps that are left become fewer or stay as they are
  refine run_induction (motive := fun _ last => ∃ phase,
    last.calls[index]? = some ⟨call.request, phase⟩ ∧ phase.stepsLeft ≤ call.phase.stepsLeft)
    ⟨call.phase, hcall, Nat.le_refl _⟩ ?_ hrun
  intro events session event next _ hstep ⟨phase, hphase, hle⟩
  obtain ⟨phase', hphase', rfl | hmoves⟩ := exists_call_of_step? hstep hphase
  · exact ⟨phase', hphase', hle⟩
  · exact ⟨phase', hphase', Nat.le_trans hmoves.stepsLeft_le hle⟩

/-! ## Locks -/

/-- Whoever holds the lock of a key keeps it from being free. -/
theorem isFree_eq_false {call : Call α ε} (hcall : session.calls[index]? = some call)
    (hkey : call.request.key = key) (hholds : call.phase.holdsLock = true) :
    session.isFree key = false := by
  refine List.all_eq_false.mpr ⟨call, List.mem_of_getElem? hcall, ?_⟩
  simp [hkey, hholds]

/-- **The lock of a key is exclusive**: two calls that hold it are the same call. -/
theorem lock_unique {now : Time} {cache : SnapshotCache α}
    (hrun : (idle now cache).run? events = some last) {place : Nat} {call other : Call α ε}
    (hcall : last.calls[index]? = some call) (hother : last.calls[place]? = some other)
    (hkey : call.request.key = other.request.key) (hholds : call.phase.holdsLock = true)
    (hholds' : other.phase.holdsLock = true) : index = place := by
  refine run_induction (motive := fun _ last => ∀ {index place : Nat} {call other : Call α ε},
    last.calls[index]? = some call → last.calls[place]? = some other →
    call.request.key = other.request.key → call.phase.holdsLock = true →
    other.phase.holdsLock = true → index = place) ?_ ?_ hrun hcall hother hkey hholds hholds'
  · intro index place call other hcall
    cases hcall
  · intro events session event next _ hstep ih index place call other hcall hother hkey hholds
      hholds'
    -- A call that has held its lock before falls under the induction hypothesis; a call that has
    -- just acquired it found it free, so that the other one cannot have held it.
    rcases call_of_step? hstep hcall with hcall | ⟨-, -, hphase⟩ | ⟨phase, hcall, hmoves⟩
    · rcases call_of_step? hstep hother with hother | ⟨-, -, hphase⟩ | ⟨phase, hother, hmoves⟩
      · exact ih hcall hother hkey hholds hholds'
      · rw [hphase] at hholds'
        cases hholds'
      · rcases hmoves.holdsLock hholds' with hheld | hfree
        · exact ih hcall hother hkey hholds hheld
        · rw [isFree_eq_false hcall hkey hholds] at hfree
          cases hfree
    · rw [hphase] at hholds
      cases hholds
    · rcases call_of_step? hstep hother with hother | ⟨-, -, hphase⟩ | ⟨phase', -, hmoves'⟩
      · rcases hmoves.holdsLock hholds with hheld | hfree
        · exact ih hcall hother hkey hheld hholds'
        · rw [isFree_eq_false hother hkey.symm hholds'] at hfree
          cases hfree
      · rw [hphase] at hholds'
        cases hholds'
      · exact hmoves.index_eq hmoves'

end Session

end PlainQuery.Cache
