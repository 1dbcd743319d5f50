import PlainQuery.Fields

/-!
# Caches of snapshots

A `SnapshotCache` keeps snapshots under keys, each with the time at which it was stored.  A snapshot
is handed out only as long as it is younger than the time to live.  Times are milliseconds on a
clock that never goes back.
-/

namespace PlainQuery

/-- A point in time, in milliseconds. -/
abbrev Time := Nat

/-- A stored snapshot. -/
structure CacheEntry (α : Type) where
  snapshot : α
  storedAt : Time
deriving DecidableEq, Repr

/-- Snapshots by their keys. -/
structure SnapshotCache (α : Type) where
  /-- How long a snapshot is handed out. -/
  timeToLive : Time
  entries : Fields (CacheEntry α)
deriving DecidableEq, Repr

namespace SnapshotCache

variable {α : Type}

/-- The cache without snapshots. -/
def empty (timeToLive : Time) : SnapshotCache α := ⟨timeToLive, []⟩

/-- The time to live in seconds. -/
def seconds (cache : SnapshotCache α) : Nat := cache.timeToLive / 1000

/-- The entry is younger than the time to live. -/
def isFresh (cache : SnapshotCache α) (now : Time) (entry : CacheEntry α) : Bool :=
  now - entry.storedAt < cache.timeToLive

/-- The fresh snapshot under a key. -/
def lookup? (cache : SnapshotCache α) (now : Time) (key : String) : Option α :=
  ((cache.entries.get? key).filter (cache.isFresh now)).map CacheEntry.snapshot

/-- What a caller finds that has waited since `requestedAt` for its turn to refresh: a fresh
snapshot, which must have been stored in the meantime if the caller insists on a new one. -/
def lookupAfterWait? (cache : SnapshotCache α) (now requestedAt : Time) (force : Bool)
    (key : String) : Option α :=
  ((cache.entries.get? key).filter fun entry =>
    cache.isFresh now entry && (decide (requestedAt ≤ entry.storedAt) || !force)).map
      CacheEntry.snapshot

/-- The cache with a snapshot under a key. -/
def store (cache : SnapshotCache α) (now : Time) (key : String) (snapshot : α) :
    SnapshotCache α :=
  { cache with entries := cache.entries.insert key ⟨snapshot, now⟩ }

/-- The cache without the snapshot under a key. -/
def invalidate (cache : SnapshotCache α) (key : String) : SnapshotCache α :=
  { cache with entries := Fields.erase key cache.entries }

/-- The cache without its snapshots. -/
def clear (cache : SnapshotCache α) : SnapshotCache α := { cache with entries := [] }

/-! ## What an operation does to the entries -/

variable {cache : SnapshotCache α}

@[simp] theorem timeToLive_store (now : Time) (key : String) (snapshot : α) :
    (cache.store now key snapshot).timeToLive = cache.timeToLive := rfl

@[simp] theorem timeToLive_invalidate (key : String) :
    (cache.invalidate key).timeToLive = cache.timeToLive := rfl

@[simp] theorem timeToLive_clear : cache.clear.timeToLive = cache.timeToLive := rfl

theorem get?_store_self (now : Time) (key : String) (snapshot : α) :
    (cache.store now key snapshot).entries.get? key = some ⟨snapshot, now⟩ :=
  Fields.get?_insert_self _ _ _

theorem get?_store_of_ne {key other : String} (hne : other ≠ key) (now : Time) (snapshot : α) :
    (cache.store now key snapshot).entries.get? other = cache.entries.get? other :=
  Fields.get?_insert_of_ne hne _ _

theorem get?_invalidate_self (key : String) : (cache.invalidate key).entries.get? key = none :=
  Fields.get?_erase_self _ _

theorem get?_invalidate_of_ne {key other : String} (hne : other ≠ key) :
    (cache.invalidate key).entries.get? other = cache.entries.get? other :=
  Fields.get?_erase_of_ne hne _

@[simp] theorem get?_clear (key : String) : cache.clear.entries.get? key = none := rfl

@[simp] theorem get?_empty (timeToLive : Time) (key : String) :
    (empty timeToLive : SnapshotCache α).entries.get? key = none := rfl

/-! ## What is handed out -/

variable {now requestedAt : Time} {force : Bool} {key : String} {snapshot : α}

theorem lookup?_eq_some_iff : cache.lookup? now key = some snapshot ↔
    ∃ entry, cache.entries.get? key = some entry ∧ cache.isFresh now entry = true ∧
      entry.snapshot = snapshot := by
  simp only [lookup?, Option.map_eq_some_iff, Option.filter_eq_some_iff, and_assoc]

theorem lookupAfterWait?_eq_some_iff :
    cache.lookupAfterWait? now requestedAt force key = some snapshot ↔
      ∃ entry, cache.entries.get? key = some entry ∧ cache.isFresh now entry = true ∧
        (force = true → requestedAt ≤ entry.storedAt) ∧ entry.snapshot = snapshot := by
  cases force <;>
    simp only [lookupAfterWait?, Option.map_eq_some_iff, Option.filter_eq_some_iff, and_assoc,
      Bool.and_eq_true, Bool.or_eq_true, Bool.not_true, Bool.not_false, or_false, or_true,
      decide_eq_true_eq, Bool.false_eq_true, false_implies, forall_const, and_true, true_and]

/-- A caller that does not insist on a new snapshot finds after its wait what it would find at
once. -/
theorem lookupAfterWait?_of_not_force :
    cache.lookupAfterWait? now requestedAt false key = cache.lookup? now key := by
  simp only [lookupAfterWait?, lookup?, Bool.not_false, Bool.or_true, Bool.and_true]

/-- An entry that is not from the future is fresh up to the time to live after it was stored. -/
theorem isFresh_iff {entry : CacheEntry α} (hpast : entry.storedAt ≤ now) :
    cache.isFresh now entry = true ↔ now < entry.storedAt + cache.timeToLive := by
  rw [isFresh, decide_eq_true_eq]
  exact Nat.sub_lt_iff_lt_add' hpast

end SnapshotCache

end PlainQuery
