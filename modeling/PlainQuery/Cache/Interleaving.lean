import PlainQuery.Cache.Basic

/-!
# Interleaved calls

Several calls may ask one cache for snapshots at the same time.  A `Session` holds the clock, the
cache and the calls; a call looks at the cache, waits for the lock of its key, checks again,
refreshes and stores.  Every `Event` is one of these steps, which cannot be divided further, and any
order of events in which each is possible is a run.  The lock of a key is held by a call from
`acquire` until the call ends; no other call on the key can acquire it meanwhile.

`callTogether` is one such run: all calls look and wait before the first of them refreshes.
-/

namespace PlainQuery.Cache

variable {α ε : Type}

/-- What a call asks for. -/
structure Request where
  key : String
  /-- The call insists on a snapshot that is newer than its request. -/
  force : Bool
deriving DecidableEq, Repr

/-- How far a call has come. -/
inductive Phase (α ε : Type) where
  | arrived
  /-- There was no fresh snapshot, or the call did not look. -/
  | missed
  /-- The call waits for the lock of its key. -/
  | waiting (requestedAt : Time)
  /-- The call holds the lock and has not looked again. -/
  | locked (requestedAt : Time)
  /-- The refresh of the call is running. -/
  | refreshing
  /-- The refresh has made a snapshot that is not stored yet. -/
  | refreshed (snapshot : α)
  | finished (outcome : Except ε α)
  /-- The caller has gone away. -/
  | abandoned

namespace Phase

/-- A call in this phase holds the lock of its key. -/
def holdsLock : Phase α ε → Bool
  | locked _ => true
  | refreshing => true
  | refreshed _ => true
  | _ => false

/-- The outcome of a call that has ended. -/
def outcome? : Phase α ε → Option (Except ε α)
  | finished outcome => some outcome
  | _ => none

end Phase

/-- A call with its progress. -/
structure Call (α ε : Type) where
  request : Request
  phase : Phase α ε

/-- A cache with its clock and its calls. -/
structure Session (α ε : Type) where
  now : Time
  cache : SnapshotCache α
  /-- The calls in the order of their arrival. -/
  calls : List (Call α ε)

/-- A step of a run; calls are meant by their place in the order of arrival. -/
inductive Event (α ε : Type) where
  | tick
  | arrive (request : Request)
  /-- The call looks at the cache, unless it insists on a new snapshot. -/
  | look (call : Nat)
  /-- The call notes the time and begins to wait for the lock. -/
  | wait (call : Nat)
  /-- The call gets the lock of its key, which is free. -/
  | acquire (call : Nat)
  /-- The call looks again, now that it holds the lock. -/
  | lookAgain (call : Nat)
  /-- The refresh of the call ends. -/
  | refresh (call : Nat) (outcome : Except ε α)
  /-- The call stores its snapshot and ends. -/
  | store (call : Nat)
  | abandon (call : Nat)
  | invalidate (key : String)
  | clear

namespace Session

/-- The session without calls. -/
def idle (now : Time) (cache : SnapshotCache α) : Session α ε := ⟨now, cache, []⟩

/-- The lock of the key is free. -/
def isFree (session : Session α ε) (key : String) : Bool :=
  session.calls.all fun call => call.request.key != key || !call.phase.holdsLock

/-- The session with a call in another phase. -/
def withPhase (session : Session α ε) (index : Nat) (phase : Phase α ε) : Session α ε :=
  { session with calls := session.calls.modify index fun call => { call with phase := phase } }

/-- The next phase of a call that looks at the cache. -/
def phaseAfterLook (session : Session α ε) (request : Request) : Phase α ε :=
  match if request.force then none else session.cache.lookup? session.now request.key with
  | some snapshot => .finished (.ok snapshot)
  | none => .missed

/-- The next phase of a call that looks again. -/
def phaseAfterLock (session : Session α ε) (request : Request) (requestedAt : Time) : Phase α ε :=
  match session.cache.lookupAfterWait? session.now requestedAt request.force request.key with
  | some snapshot => .finished (.ok snapshot)
  | none => .refreshing

/-- The next phase of a call whose refresh ends. -/
def phaseAfterRefresh : Except ε α → Phase α ε
  | .ok snapshot => .refreshed snapshot
  | .error problem => .finished (.error problem)

/-- The session after an event, if the event is possible. -/
def step? (session : Session α ε) : Event α ε → Option (Session α ε)
  | .tick => some { session with now := session.now + 1 }
  | .arrive request => some { session with calls := session.calls ++ [⟨request, .arrived⟩] }
  | .look index =>
    match session.calls[index]? with
    | some ⟨request, .arrived⟩ => some (session.withPhase index (session.phaseAfterLook request))
    | _ => none
  | .wait index =>
    match session.calls[index]? with
    | some ⟨_, .missed⟩ => some (session.withPhase index (.waiting session.now))
    | _ => none
  | .acquire index =>
    match session.calls[index]? with
    | some ⟨request, .waiting requestedAt⟩ =>
      if session.isFree request.key then some (session.withPhase index (.locked requestedAt))
      else none
    | _ => none
  | .lookAgain index =>
    match session.calls[index]? with
    | some ⟨request, .locked requestedAt⟩ =>
      some (session.withPhase index (session.phaseAfterLock request requestedAt))
    | _ => none
  | .refresh index outcome =>
    match session.calls[index]? with
    | some ⟨_, .refreshing⟩ => some (session.withPhase index (phaseAfterRefresh outcome))
    | _ => none
  | .store index =>
    match session.calls[index]? with
    -- storing ends the call, so its lock is free in the same step
    | some ⟨request, .refreshed snapshot⟩ =>
      some
        { session.withPhase index (.finished (.ok snapshot)) with
          cache := session.cache.store session.now request.key snapshot }
    | _ => none
  | .abandon index =>
    match session.calls[index]? with
    -- nobody waits any more for a call that has ended
    | some ⟨_, .finished _⟩ => none
    | some _ => some (session.withPhase index .abandoned)
    | none => none
  | .invalidate key => some { session with cache := session.cache.invalidate key }
  | .clear => some { session with cache := session.cache.clear }

/-- The session after the events, if they are possible in this order. -/
def run? (session : Session α ε) : List (Event α ε) → Option (Session α ε)
  | [] => some session
  | event :: events => (session.step? event).bind fun next => next.run? events

/-- The session after those of the events that are possible. -/
def runPossible (session : Session α ε) (events : List (Event α ε)) : Session α ε :=
  events.foldl (fun session event => (session.step? event).getD session) session

/-- The outcomes of the calls that have ended, in the order of arrival. -/
def outcomes (session : Session α ε) : List (Except ε α) :=
  session.calls.filterMap fun call => call.phase.outcome?

/-! ## Calls at the same time -/

/-- The refresh of the call is running. -/
def isRefreshing (session : Session α ε) (index : Nat) : Bool :=
  match session.calls[index]? with
  | some ⟨_, .refreshing⟩ => true
  | _ => false

/-- The last steps of a call: it gets the lock, looks again and refreshes if it has to. -/
def finishCall {m : Type → Type} [Monad m] (refresh : m (Except ε α)) (session : Session α ε)
    (index : Nat) : m (Session α ε) := do
  let checked := session.runPossible [.acquire index, .lookAgain index, .tick]
  if checked.isRefreshing index then
    let outcome ← refresh
    pure (checked.runPossible [.refresh index outcome, .store index, .tick])
  else pure checked

/-- The calls arrive and wait for their locks, one after the other, before the first of them gets
its lock; then each runs to its end. -/
def callTogether {m : Type → Type} [Monad m] (refresh : m (Except ε α))
    (requests : List Request) (session : Session α ε) : m (Session α ε) := do
  let first := session.calls.length
  let indices := List.range' first requests.length
  let waiting := session.runPossible
    (requests.map .arrive ++
      indices.flatMap fun index => [.tick, .look index, .wait index, .tick])
  indices.foldlM (finishCall refresh) waiting

end Session

end PlainQuery.Cache
