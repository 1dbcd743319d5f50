import PlainQuery.Cache.Basic

/-!
# Refreshing a snapshot

`getOrRefresh` hands out a fresh snapshot, and makes a new one when there is none or when its caller
insists.  This is the course of a single call; how several calls interleave is described in
`Cache.Interleaving`.
-/

namespace PlainQuery.SnapshotCache

variable {m : Type → Type} [Monad m] {α ε : Type}

/-- A snapshot of the key, new if there is no fresh one or if `force` is set.  A refresh that fails
leaves the cache as it is. -/
def getOrRefresh (clock : m Time) (key : String) (force : Bool) (refresh : m (Except ε α)) :
    StateT (SnapshotCache α) m (Except ε α) := do
  let cache ← get
  let askedAt ← clock
  match if force then none else cache.lookup? askedAt key with
  | some snapshot => pure (.ok snapshot)
  | none =>
    -- a single call has no lock to wait for, but the clock goes on between its looks
    let requestedAt ← clock
    let now ← clock
    match cache.lookupAfterWait? now requestedAt force key with
    | some snapshot => pure (.ok snapshot)
    | none =>
      match ← (refresh : m _) with
      | .error problem => pure (.error problem)
      | .ok snapshot =>
        let storedAt ← clock
        set (cache.store storedAt key snapshot)
        pure (.ok snapshot)

end PlainQuery.SnapshotCache
