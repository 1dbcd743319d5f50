import PlainQuery.Proofs.Cache.History
import PlainQuery.Proofs.Cache.Progress

/-!
# Leaving out calls

Some calls can be left out of a run without anybody noticing.  This file says which ones, by
comparing the run with a second one, in which these calls have arrived and do nothing else.  They
must arrive there too, so that all others keep their places.

The comparison rests on how little a call depends on: the clock, what is stored under its key and
the lock of its key (`Moves.congr`).  What a step does in turn is as little (`Moved`): it takes one
call to its next phase, and a store writes one entry.  So a transition is possible wherever the call
is in the right phase (`exists_step?_of_moves`), and the two sessions stay alike:

* `SameBut out touched` relates the session to its shadow: the same clock, the same calls outside of
  `out`, and the same entries except under the keys in `touched`;
* `SameBut.step`: an event of a call that is kept, or of no call at all, happens in both sessions,
  if the call does not ask for a touched key;
* `SameBut.step_out`: an event of a call that is left out happens in the first session only, and
  does not show if what it stores has a touched key.

With these two steps `exists_run_leaveOut` is an induction along the run.  What it assumes is said
of the last session, where the calls have ended, since requests do not change and what a call has
stored can be told from its outcome.

The lock takes some care, because it goes one way only: a lock that is free in the session is free
in its shadow (`SameBut.isFree`), where fewer calls hold any.  `SameBut.isSome_step?` has the
converse, for calls whose key nobody locks that is left out.
-/

namespace PlainQuery

namespace SnapshotCache

/-! ## What is found under a key -/

variable {α : Type} {cache other : SnapshotCache α} {key : String}

theorem isFresh_congr (hlasts : other.timeToLive = cache.timeToLive) :
    other.isFresh = cache.isFresh := by
  funext now entry
  rw [isFresh, isFresh, hlasts]

/-- What is found under a key depends on the entry there and on the time to live only. -/
theorem lookup?_congr (hlasts : other.timeToLive = cache.timeToLive)
    (hentry : other.entries.get? key = cache.entries.get? key) (now : Time) :
    other.lookup? now key = cache.lookup? now key := by
  rw [lookup?, lookup?, hentry, isFresh_congr hlasts]

theorem lookupAfterWait?_congr (hlasts : other.timeToLive = cache.timeToLive)
    (hentry : other.entries.get? key = cache.entries.get? key) (now requestedAt : Time)
    (force : Bool) :
    other.lookupAfterWait? now requestedAt force key =
      cache.lookupAfterWait? now requestedAt force key := by
  rw [lookupAfterWait?, lookupAfterWait?, hentry, isFresh_congr hlasts]

end SnapshotCache

namespace Cache

variable {α ε : Type}

/-! ## Events of a call -/

/-- The event stores what a call has made. -/
def Event.isStore : Event α ε → Bool
  | .store _ => true
  | _ => false

/-- What a call can do depends on the clock, on what is stored under its key and on the lock of its
key only. -/
theorem Moves.congr {session other : Session α ε} {index : Nat} {request : Request}
    {event : Event α ε} {phase phase' : Phase α ε}
    (hmoves : Moves session index request event phase phase')
    (hnow : other.now = session.now)
    (hlasts : other.cache.timeToLive = session.cache.timeToLive)
    (hentry : other.cache.entries.get? request.key = session.cache.entries.get? request.key)
    (hfree : session.isFree request.key = true → other.isFree request.key = true) :
    Moves other index request event phase phase' := by
  have hlookup : other.cache.lookup? other.now request.key =
      session.cache.lookup? session.now request.key := by
    rw [hnow, SnapshotCache.lookup?_congr hlasts hentry]
  have hlookupAgain : ∀ requestedAt,
      other.cache.lookupAfterWait? other.now requestedAt request.force request.key =
        session.cache.lookupAfterWait? session.now requestedAt request.force request.key := by
    intro requestedAt
    rw [hnow, SnapshotCache.lookupAfterWait?_congr hlasts hentry]
  cases hmoves with
  | hit unforced found => exact .hit unforced (hlookup.trans found)
  | miss absent => exact .miss fun hforce => hlookup.trans (absent hforce)
  | wait => exact hnow ▸ .wait
  | acquire free => exact .acquire (hfree free)
  | reuse found => exact .reuse ((hlookupAgain _).trans found)
  | refresh absent => exact .refresh ((hlookupAgain _).trans absent)
  | succeed snapshot => exact .succeed snapshot
  | fail problem => exact .fail problem
  | store snapshot => exact .store snapshot
  | abandon running => exact .abandon running

namespace Session

variable {session shadow next last : Session α ε} {index place : Nat} {request : Request}
  {event : Event α ε} {events : List (Event α ε)} {phase phase' : Phase α ε} {key : String}

/-- The event has taken the call to the given phase and has left everything else alone; what is
stored, if it is a store, is what the call is given. -/
structure Moved (session : Session α ε) (index : Nat) (request : Request) (event : Event α ε)
    (phase : Phase α ε) (next : Session α ε) : Prop where
  now : next.now = session.now
  calls : next.calls = (session.withPhase index phase).calls
  cache : next.cache = session.cache ∧ event.isStore = false ∨
    ∃ snapshot, event.isStore = true ∧ phase = .finished (.ok snapshot) ∧
      next.cache = session.cache.store session.now request.key snapshot

theorem Moved.call (h : Moved session index request event phase' next)
    (hcall : session.calls[index]? = some ⟨request, phase⟩) :
    next.calls[index]? = some ⟨request, phase'⟩ := by
  rw [h.calls, getElem?_withPhase hcall, if_pos rfl]

theorem Moved.cache_eq (h : Moved session index request event phase next)
    (hevent : event.isStore = false) : next.cache = session.cache := by
  rcases h.cache with ⟨hcache, -⟩ | ⟨_, hstore, -⟩
  · exact hcache
  · cases hevent.symm.trans hstore

/-- Whatever moves a call is possible. -/
theorem exists_step?_of_moves (hcall : session.calls[index]? = some ⟨request, phase⟩)
    (hmoves : Moves session index request event phase phase') :
    ∃ next, session.step? event = some next ∧
      Moved session index request event phase' next := by
  cases hmoves with
  | hit unforced found =>
      refine ⟨session.withPhase index (.finished (.ok _)), ?_, rfl, rfl, .inl ⟨rfl, rfl⟩⟩
      simp only [step?, hcall, phaseAfterLook, unforced, found, Bool.false_eq_true, if_false]
  | miss absent =>
      refine ⟨session.withPhase index .missed, ?_, rfl, rfl, .inl ⟨rfl, rfl⟩⟩
      simp only [step?, hcall, phaseAfterLook]
      cases hforce : request.force with
      | true => simp only [if_true]
      | false => simp only [absent hforce, Bool.false_eq_true, if_false]
  | wait =>
      refine ⟨session.withPhase index _, ?_, rfl, rfl, .inl ⟨rfl, rfl⟩⟩
      simp only [step?, hcall]
  | acquire free =>
      refine ⟨session.withPhase index _, ?_, rfl, rfl, .inl ⟨rfl, rfl⟩⟩
      simp only [step?, hcall, free, if_true]
  | reuse found =>
      refine ⟨session.withPhase index (.finished (.ok _)), ?_, rfl, rfl, .inl ⟨rfl, rfl⟩⟩
      simp only [step?, hcall, phaseAfterLock, found]
  | refresh absent =>
      refine ⟨session.withPhase index .refreshing, ?_, rfl, rfl, .inl ⟨rfl, rfl⟩⟩
      simp only [step?, hcall, phaseAfterLock, absent]
  | succeed snapshot =>
      refine ⟨session.withPhase index (.refreshed snapshot), ?_, rfl, rfl, .inl ⟨rfl, rfl⟩⟩
      simp only [step?, hcall, phaseAfterRefresh]
  | fail problem =>
      refine ⟨session.withPhase index (.finished (.error problem)), ?_, rfl, rfl,
        .inl ⟨rfl, rfl⟩⟩
      simp only [step?, hcall, phaseAfterRefresh]
  | store snapshot =>
      refine ⟨{ session.withPhase index (.finished (.ok snapshot)) with
        cache := session.cache.store session.now request.key snapshot }, ?_, rfl, rfl,
        .inr ⟨snapshot, rfl, rfl, rfl⟩⟩
      simp only [step?, hcall]
  | abandon running =>
      refine ⟨session.withPhase index .abandoned, ?_, rfl, rfl, .inl ⟨rfl, rfl⟩⟩
      cases phase with
      | finished outcome => cases running
      | _ => simp only [step?, hcall]

/-- The event of a call moves this call and does no more. -/
theorem exists_moved_of_callOf? (hstep : session.step? event = some next)
    (hevent : event.callOf? = some index) :
    ∃ request phase phase', session.calls[index]? = some ⟨request, phase⟩ ∧
      Moves session index request event phase phase' ∧
      Moved session index request event phase' next := by
  obtain ⟨request, phase, phase', hcall, -, hmoves⟩ := exists_move_of_callOf? hstep hevent
  obtain ⟨after, hafter, hmoved⟩ := exists_step?_of_moves hcall hmoves
  cases hstep.symm.trans hafter
  exact ⟨request, phase, phase', hcall, hmoves, hmoved⟩

theorem isFree_iff : session.isFree key = true ↔
    ∀ (index : Nat) (request : Request) (phase : Phase α ε),
      session.calls[index]? = some ⟨request, phase⟩ → request.key = key →
        phase.holdsLock = false := by
  constructor
  · intro hfree index request phase hcall hkey
    rw [← Bool.not_eq_true]
    intro hholds
    rw [isFree_eq_false hcall hkey hholds] at hfree
    cases hfree
  · intro hnone
    by_contra hheld
    obtain ⟨index, request, phase, hcall, hkey, hholds⟩ :=
      exists_holder_of_not_isFree (Bool.eq_false_iff.mpr hheld)
    rw [hnone index request phase hcall hkey] at hholds
    cases hholds

/-! ## Leaving out calls -/

/-- The second session is the first one as it would be if the calls in `out` had arrived and done
nothing else; only what is stored under the keys in `touched` may be different. -/
structure SameBut (out : Nat → Bool) (touched : String → Bool) (session shadow : Session α ε) :
    Prop where
  now : shadow.now = session.now
  lasts : shadow.cache.timeToLive = session.cache.timeToLive
  entries : ∀ key, touched key = false →
    shadow.cache.entries.get? key = session.cache.entries.get? key
  length : shadow.calls.length = session.calls.length
  calls : ∀ index, out index = false → shadow.calls[index]? = session.calls[index]?
  idle : ∀ index call, out index = true → shadow.calls[index]? = some call → call.phase = .arrived

variable {out : Nat → Bool} {touched : String → Bool}

theorem SameBut.isFree (h : SameBut out touched session shadow)
    (hfree : session.isFree key = true) : shadow.isFree key = true := by
  refine isFree_iff.mpr fun index request phase hcall hkey => ?_
  -- a call that is left out has only arrived and holds no lock
  cases hout : out index with
  | true =>
      rw [show phase = .arrived from h.idle index _ hout hcall]
      rfl
  | false =>
      rw [h.calls index hout] at hcall
      exact isFree_iff.mp hfree index request phase hcall hkey

/-- A call that is not left out moves in both sessions alike. -/
theorem SameBut.moved (h : SameBut out touched session shadow) (hout : out index = false)
    (hcall : session.calls[index]? = some ⟨request, phase⟩) {next after : Session α ε}
    (hmoved : Moved session index request event phase' next)
    (hafter : Moved shadow index request event phase' after) :
    SameBut out touched next after where
  now := by rw [hmoved.now, hafter.now, h.now]
  lasts := by
    rcases hmoved.cache with ⟨hcache, -⟩ | ⟨_, -, -, hcache⟩ <;>
      rcases hafter.cache with ⟨hcache', -⟩ | ⟨_, -, -, hcache'⟩ <;>
      simp [hcache, hcache', h.lasts]
  entries := by
    intro key hkey
    rcases hmoved.cache with ⟨hcache, hnot⟩ | ⟨snapshot, hstore, hphase, hcache⟩ <;>
      rcases hafter.cache with ⟨hcache', hnot'⟩ | ⟨snapshot', hstore', hphase', hcache'⟩
    · rw [hcache, hcache', h.entries key hkey]
    · cases hnot.symm.trans hstore'
    · cases hnot'.symm.trans hstore
    · -- both calls are given what they store, so they store the same
      cases hphase.symm.trans hphase'
      rw [hcache, hcache', h.now]
      by_cases hsame : key = request.key
      · rw [hsame, SnapshotCache.get?_store_self, SnapshotCache.get?_store_self]
      · rw [SnapshotCache.get?_store_of_ne hsame, SnapshotCache.get?_store_of_ne hsame,
          h.entries key hkey]
  length := by
    rw [hmoved.calls, hafter.calls]
    simp [withPhase, h.length]
  calls := by
    intro place hplace
    have hshadow := (h.calls index hout).trans hcall
    rw [hmoved.calls, hafter.calls, getElem?_withPhase hcall, getElem?_withPhase hshadow,
      h.calls place hplace]
  idle := by
    intro place call hplace hidle
    have hshadow := (h.calls index hout).trans hcall
    rw [hafter.calls, getElem?_withPhase hshadow] at hidle
    split at hidle
    · rename_i heq
      rw [heq, hout] at hplace
      cases hplace
    · exact h.idle place call hplace hidle

/-- What is no event of a call left out happens in both sessions. -/
theorem SameBut.step (h : SameBut out touched session shadow)
    (hstep : session.step? event = some next) (hevent : event.callOf?.any out = false)
    (huntouched : ∀ index call, out index = false → session.calls[index]? = some call →
      touched call.request.key = false) :
    ∃ after, shadow.step? event = some after ∧ SameBut out touched next after := by
  cases hof : event.callOf? with
  | some index =>
      rw [hof] at hevent
      obtain ⟨request, phase, phase', hcall, hmoves, hmoved⟩ := exists_moved_of_callOf? hstep hof
      have hshadow := (h.calls index hevent).trans hcall
      -- its key is not touched, so the call finds the same in both sessions
      have hkey := huntouched index _ hevent hcall
      have hmoves' := hmoves.congr h.now h.lasts (h.entries _ hkey) h.isFree
      obtain ⟨after, hafter, hmoved'⟩ := exists_step?_of_moves hshadow hmoves'
      exact ⟨after, hafter, h.moved hevent hcall hmoved hmoved'⟩
  | none =>
      cases event with
      | tick =>
          cases hstep
          refine ⟨_, rfl, { h with now := ?_ }⟩
          simp only [h.now]
      | arrive request =>
          cases hstep
          refine ⟨_, rfl, { h with length := ?_, calls := ?_, idle := ?_ }⟩
          · simp [h.length]
          · intro index hout
            rw [List.getElem?_append, List.getElem?_append, h.length, h.calls index hout]
          · intro index call hout hcall
            rw [List.getElem?_append] at hcall
            split at hcall
            · exact h.idle index call hout hcall
            · obtain ⟨-, rfl⟩ := List.getElem?_eq_some_iff.mp hcall
              simp
      | invalidate dropped =>
          cases hstep
          refine ⟨_, rfl, { h with lasts := h.lasts, entries := ?_ }⟩
          intro key hkey
          by_cases hsame : key = dropped
          · rw [hsame, SnapshotCache.get?_invalidate_self, SnapshotCache.get?_invalidate_self]
          · rw [SnapshotCache.get?_invalidate_of_ne hsame,
              SnapshotCache.get?_invalidate_of_ne hsame, h.entries key hkey]
      | clear =>
          cases hstep
          exact ⟨_, rfl, { h with lasts := h.lasts, entries := fun _ _ => rfl }⟩
      | _ => cases hof

/-- A call that is not left out can do the same in both sessions, if no call left out holds its
lock. -/
theorem SameBut.isSome_step? (h : SameBut out touched session shadow)
    (hevent : event.callOf? = some index) (hindex : out index = false)
    (huntouched : ∀ call, session.calls[index]? = some call → touched call.request.key = false)
    (hunlocked : ∀ call, session.calls[index]? = some call →
      ∀ (place : Nat) (request : Request) (phase : Phase α ε), out place = true →
        session.calls[place]? = some ⟨request, phase⟩ → request.key = call.request.key →
          phase.holdsLock = false) :
    (session.step? event).isSome = (shadow.step? event).isSome := by
  rw [Bool.eq_iff_iff, Option.isSome_iff_exists, Option.isSome_iff_exists]
  constructor
  · rintro ⟨next, hstep⟩
    obtain ⟨request, phase, phase', hcall, hmoves, -⟩ := exists_moved_of_callOf? hstep hevent
    have hentry := h.entries _ (huntouched _ hcall)
    obtain ⟨after, hafter, -⟩ := exists_step?_of_moves ((h.calls index hindex).trans hcall)
      (hmoves.congr h.now h.lasts hentry h.isFree)
    exact ⟨after, hafter⟩
  · rintro ⟨after, hstep⟩
    obtain ⟨request, phase, phase', hshadow, hmoves, -⟩ := exists_moved_of_callOf? hstep hevent
    have hcall := (h.calls index hindex).symm.trans hshadow
    have hfree : shadow.isFree request.key = true → session.isFree request.key = true := by
      refine fun hfree => isFree_iff.mpr fun place other phase hplace hkey => ?_
      cases hout : out place with
      | true => exact hunlocked _ hcall place other phase hout hplace hkey
      | false =>
          exact isFree_iff.mp hfree place other phase ((h.calls place hout).trans hplace) hkey
    have hentry := h.entries _ (huntouched _ hcall)
    obtain ⟨next, hnext, -⟩ := exists_step?_of_moves hcall
      (hmoves.congr h.now.symm h.lasts.symm hentry.symm hfree)
    exact ⟨next, hnext⟩

/-- An event of a call that is left out does not show, if it stores under touched keys only. -/
theorem SameBut.step_out (h : SameBut out touched session shadow)
    (hstep : session.step? event = some next) (hevent : event.callOf? = some index)
    (hout : out index = true)
    (hstores : ∀ request snapshot, event = .store index →
      session.calls[index]? = some ⟨request, .refreshed snapshot⟩ → touched request.key = true) :
    SameBut out touched next shadow := by
  obtain ⟨request, phase, phase', hcall, hmoves, hmoved⟩ := exists_moved_of_callOf? hstep hevent
  refine { now := h.now.trans hmoved.now.symm, idle := h.idle,
           lasts := ?_, entries := ?_, length := ?_, calls := ?_ }
  · rcases hmoved.cache with ⟨hcache, -⟩ | ⟨_, -, -, hcache⟩ <;> simp [hcache, h.lasts]
  · intro key hkey
    rcases hmoved.cache with ⟨hcache, -⟩ | ⟨snapshot, hstore, -, hcache⟩
    · rw [hcache, h.entries key hkey]
    -- what the call stores has a touched key, and this one is not
    · have hne : key ≠ request.key := by
        rintro rfl
        cases hmoves with
        | store snapshot =>
            rw [hstores request snapshot rfl hcall] at hkey
            cases hkey
        | _ => exact absurd hstore Bool.false_ne_true
      rw [hcache, SnapshotCache.get?_store_of_ne hne, h.entries key hkey]
  · rw [hmoved.calls]
    simp [withPhase, h.length]
  · intro place hplace
    have hne : place ≠ index := by
      rintro rfl
      rw [hout] at hplace
      cases hplace
    rw [hmoved.calls, getElem?_withPhase hcall, if_neg hne, h.calls place hplace]

/-- The events without those of the calls in `out`, but with their arrival. -/
def leaveOut (out : Nat → Bool) (events : List (Event α ε)) : List (Event α ε) :=
  events.filter fun event => !event.callOf?.any out

theorem leaveOut_concat (out : Nat → Bool) (events : List (Event α ε)) (event : Event α ε) :
    leaveOut out (events ++ [event]) =
      leaveOut out events ++ if event.callOf?.any out then [] else [event] := by
  unfold leaveOut
  rw [List.filter_append]
  cases hevent : event.callOf?.any out <;> simp [hevent]

/-- A call that has ended with a snapshot stays as it is. -/
theorem finished_of_step? {snapshot : α} (hstep : session.step? event = some next)
    (hcall : session.calls[index]? = some ⟨request, .finished (.ok snapshot)⟩) :
    next.calls[index]? = some ⟨request, .finished (.ok snapshot)⟩ := by
  obtain ⟨phase, hnext, rfl | hmoves⟩ := exists_call_of_step? hstep hcall
  · exact hnext
  · cases hmoves with
    | abandon running => cases running

/-- **Calls can be left out** of a run if they store under touched keys only and no other call asks
for such a key. -/
theorem exists_run_leaveOut {now : Time} {cache : SnapshotCache α} (out : Nat → Bool)
    (touched : String → Bool)
    (hrun : (idle now cache).run? events = some last)
    (hkept : ∀ index call, out index = false → last.calls[index]? = some call →
      touched call.request.key = false)
    (hout : ∀ index call, out index = true → last.calls[index]? = some call →
      touched call.request.key = true ∨ ∀ snapshot, call.phase ≠ .finished (.ok snapshot)) :
    ∃ shadow, (idle now cache).run? (leaveOut out events) = some shadow ∧
      SameBut out touched last shadow := by
  refine run_induction (motive := fun events last =>
    (∀ index call, out index = false → last.calls[index]? = some call →
      touched call.request.key = false) →
    (∀ index call, out index = true → last.calls[index]? = some call →
      touched call.request.key = true ∨ ∀ snapshot, call.phase ≠ .finished (.ok snapshot)) →
    ∃ shadow, (idle now cache).run? (leaveOut out events) = some shadow ∧
      SameBut out touched last shadow) ?_ ?_ hrun hkept hout
  · intro _ _
    exact ⟨idle now cache, rfl, rfl, rfl, fun _ _ => rfl, rfl, fun _ _ => rfl, nofun⟩
  · intro events session event next _ hstep ih hkept hout
    -- What is assumed of the last session holds of the one before.
    have hkept' : ∀ index call, out index = false → session.calls[index]? = some call →
        touched call.request.key = false := by
      intro index call hindex hcall
      obtain ⟨phase, hnext, -⟩ := exists_call_of_step? hstep hcall
      exact hkept index ⟨call.request, phase⟩ hindex hnext
    have hout' : ∀ index call, out index = true → session.calls[index]? = some call →
        touched call.request.key = true ∨ ∀ snapshot, call.phase ≠ .finished (.ok snapshot) := by
      rintro index ⟨request, phase⟩ hindex hcall
      obtain ⟨phase', hnext, -⟩ := exists_call_of_step? hstep hcall
      refine (hout index _ hindex hnext).imp_right fun hunstored snapshot hstored => ?_
      cases hstored
      cases hnext.symm.trans (finished_of_step? hstep hcall)
      exact hunstored snapshot rfl
    obtain ⟨shadow, hshadow, hsame⟩ := ih hkept' hout'
    rw [leaveOut_concat]
    cases hevent : event.callOf?.any out with
    | false =>
        obtain ⟨after, hafter, hsame'⟩ := hsame.step hstep hevent hkept'
        exact ⟨after, run?_concat_eq_some_iff.mpr ⟨shadow, hshadow, hafter⟩, hsame'⟩
    | true =>
        obtain ⟨index, hindex, hleave⟩ := (Option.any_eq_true _ _).mp hevent
        rw [if_pos rfl, List.append_nil]
        refine ⟨shadow, hshadow, hsame.step_out hstep hindex hleave ?_⟩
        rintro request snapshot rfl hcall
        obtain ⟨_, _, _, hcall', hmoves, hmoved⟩ := exists_moved_of_callOf? hstep hindex
        cases hcall.symm.trans hcall'
        cases hmoves with
        | store snapshot =>
            rcases hout index _ hleave (hmoved.call hcall) with htouched | hunstored
            · exact htouched
            · exact absurd rfl (hunstored snapshot)

end Session

end Cache

end PlainQuery
