import PlainQuery.Proofs.Catalog.Snapshot

/-!
# Discoveries that share a cache

A discovery lists only tables that its filter lets pass (`snapshot_spec`).  What it is given may
come from the cache, though, and was then made by another discovery that keeps its snapshots under
the same key.  The key tells only whether internal tables are included, not which tables are
internal.

What holds of a shared cache is therefore no more than that every snapshot was made for its key
(`WellFiled`): by some discovery with this key, whose filter lets its tables pass.  Each operation
keeps this, the empty cache has it, and what `getOrRefresh` hands out is from the cache or new
(`getOrRefresh_spec`).  So every discovery is given what was made for its key, whatever is done with
the cache (`discover_spec`, and `serve_spec` along a list of uses).

A discovery that includes internal tables is then always given what its filter lets pass, since all
such filters are alike (`allows_eq_of_includeInternal`).  One that leaves them out is, provided that
no discovery it shares the cache with lets more pass (`respects_of_serve`).  The proviso is needed:
of two discoveries that disagree about a table, the one that forbids it is given it after the other
has filled the cache (`exists_disrespect`).
-/

namespace PlainQuery

open Std.Do

set_option mvcgen.warning false

variable {World : Type} {timeToLive : Time}

/-- A computation about which nothing is known. -/
theorem stateM_spec {α : Type} (x : StateM World α) : ⦃⌜True⌝⦄ x ⦃⇓ _ => ⌜True⌝⦄ := by
  intro world _
  trivial

namespace SnapshotCache

variable {α ε : Type} {refresh : StateM World (Except ε α)} {P : α → Prop}

/-- A call hands out a snapshot from the cache or one that the refresh has made, and at most stores
the latter. -/
theorem getOrRefresh_spec (clock : StateM World Time) (key : String) (force : Bool)
    (cache : SnapshotCache α)
    (hcached : ∀ entry, cache.entries.get? key = some entry → P entry.snapshot)
    (hrefresh : ⦃⌜True⌝⦄ refresh ⦃⇓ outcome => ⌜∀ snapshot, outcome = .ok snapshot → P snapshot⌝⦄) :
    ⦃fun found => ⌜found = cache⌝⦄
    getOrRefresh clock key force refresh
    ⦃⇓ outcome => fun left => ⌜(∀ snapshot, outcome = .ok snapshot → P snapshot) ∧
      (left = cache ∨ ∃ now snapshot, P snapshot ∧ left = cache.store now key snapshot)⌝⦄ := by
  have hclock := stateM_spec clock
  mvcgen [getOrRefresh, hclock, hrefresh]
  -- the four cases: found at once, found after the wait, not made, and made
  case vc1.post.success.h_1 =>
    rename_i snapshot hfound _
    obtain rfl := ‹_ = cache›
    refine ⟨fun other hok => ?_, .inl rfl⟩
    cases hok
    split at hfound
    · cases hfound
    · obtain ⟨entry, hentry, -, rfl⟩ := lookup?_eq_some_iff.mp hfound
      exact hcached entry hentry
  case vc2.post.success.h_2.post.success.post.success.h_1 =>
    rename_i snapshot hfound _
    obtain rfl := ‹_ = cache›
    refine ⟨fun other hok => ?_, .inl rfl⟩
    cases hok
    obtain ⟨entry, hentry, -, -, rfl⟩ := lookupAfterWait?_eq_some_iff.mp hfound
    exact hcached entry hentry
  case vc3.post.success.h_2.post.success.post.success.h_2.post.success.h_1 =>
    rename_i hnone
    exact ⟨hnone, .inl ‹_ = cache›⟩
  case vc4.post.success.h_2.post.success.post.success.h_2.post.success.h_2.post.success =>
    rename_i snapshot _ _ hmade storedAt _
    obtain rfl := ‹_ = cache›
    have hsnapshot : P snapshot := hmade snapshot rfl
    exact ⟨hmade, .inr ⟨storedAt, snapshot, hsnapshot, rfl⟩⟩

theorem run_getOrRefresh_of_lookup? {cache : SnapshotCache α} {now : Time} {key : String}
    {snapshot : α} (hfound : cache.lookup? now key = some snapshot)
    (refresh : StateM World (Except ε α)) (world : World) :
    ((getOrRefresh (pure now) key false refresh).run cache).run world =
      pure ((.ok snapshot, cache), world) := by
  simp [getOrRefresh, hfound]

theorem run_getOrRefresh_of_absent {cache : SnapshotCache α} {key : String}
    (habsent : cache.entries.get? key = none) {snapshot : α} {world world' : World}
    (hrefresh : refresh.run world = pure (.ok snapshot, world')) (now : Time) :
    ((getOrRefresh (pure now) key false refresh).run cache).run world =
      pure ((.ok snapshot, cache.store now key snapshot), world') := by
  have hfirst : cache.lookup? now key = none := by simp [lookup?, habsent]
  have hsecond : cache.lookupAfterWait? now now false key = none := by
    rw [lookupAfterWait?_of_not_force, hfirst]
  simp [getOrRefresh, hfirst, hsecond, hrefresh]

end SnapshotCache

namespace Discovery

/-! ## Snapshots -/

/-- The filter of the discovery lets all tables of the schema pass. -/
def Respects (discovery : Discovery) (schema : Schema) : Prop :=
  ∀ table ∈ schema.tables, discovery.filter.allows table.name = true

variable (catalog : Catalog (StateM World)) (clock : StateM World Time)
  (today : StateM World Calendar.Instant)

/-- A new snapshot lists only tables that the filter lets pass. -/
theorem respects_of_snapshot {discovery : Discovery} {schema : Schema} {world : World}
    (hschema : ((discovery.snapshot catalog today).run world).1 = .ok schema) :
    discovery.Respects schema := by
  cases hrows : (catalog.columns.run world).1 with
  | error problem =>
      rw [snapshot_of_error hrows] at hschema
      cases hschema
  | ok rows =>
      obtain ⟨listed, hlisted, htables⟩ := exists_snapshot_groupTables hrows discovery today
      cases hlisted.symm.trans hschema
      intro table hmem
      have hgrouped : table.without .all ∈ groupTables discovery.filter rows :=
        htables ▸ List.mem_map_of_mem hmem
      have hallows := allows_of_mem_groupTables hgrouped
      exact hallows

theorem snapshot_spec (discovery : Discovery) :
    ⦃⌜True⌝⦄
    discovery.snapshot catalog today
    ⦃⇓ outcome => ⌜∀ schema, outcome = .ok schema → discovery.Respects schema⌝⦄ := by
  intro world _
  exact fun schema => respects_of_snapshot catalog today

/-! ## Sharing -/

/-- What is done with a cache that several discoveries share. -/
inductive Use where
  | discover (discovery : Discovery) (force : Bool)
  | clear

/-- The discovery that uses the cache. -/
def Use.discovery? : Use → Option Discovery
  | .discover discovery _ => some discovery
  | .clear => none

/-- What the discoveries are given, one use of the cache after the other. -/
def serve : List Use →
    StateT (SnapshotCache Schema) (StateM World) (List (Discovery × Except Failure Schema))
  | [] => pure []
  | .discover discovery force :: uses => do
    let outcome ← discovery.discover catalog clock today force
    let later ← serve uses
    pure ((discovery, outcome) :: later)
  | .clear :: uses => do
    clearCache
    serve uses

/-- One of the discoveries that keep their snapshots under the key lets all tables pass. -/
def MadeFor (discoveries : List Discovery) (key : String) (schema : Schema) : Prop :=
  ∃ discovery ∈ discoveries, discovery.cacheKey = key ∧ discovery.Respects schema

/-- Whatever is in the cache was made for its key. -/
def WellFiled (discoveries : List Discovery) (cache : SnapshotCache Schema) : Prop :=
  ∀ key entry, cache.entries.get? key = some entry → MadeFor discoveries key entry.snapshot

variable {discoveries : List Discovery} {discovery other : Discovery}

theorem wellFiled_empty : WellFiled discoveries (.empty timeToLive) := by
  intro key entry hentry
  cases hentry

theorem wellFiled_clear {cache : SnapshotCache Schema} : WellFiled discoveries cache.clear := by
  intro key entry hentry
  cases hentry

theorem wellFiled_store {cache : SnapshotCache Schema} (h : WellFiled discoveries cache)
    {key : String} {schema : Schema} (hmade : MadeFor discoveries key schema) (now : Time) :
    WellFiled discoveries (cache.store now key schema) := by
  intro stored entry hentry
  by_cases hkey : stored = key
  · subst hkey
    rw [SnapshotCache.get?_store_self] at hentry
    cases hentry
    exact hmade
  · rw [SnapshotCache.get?_store_of_ne hkey] at hentry
    exact h stored entry hentry

/-- What a discovery is given was made for its key, and so is what it leaves in the cache. -/
theorem discover_spec (hmem : discovery ∈ discoveries) (force : Bool) :
    ⦃fun cache => ⌜WellFiled discoveries cache⌝⦄
    discovery.discover catalog clock today force
    ⦃⇓ outcome => fun cache => ⌜(∀ schema, outcome = .ok schema →
        MadeFor discoveries discovery.cacheKey schema) ∧ WellFiled discoveries cache⌝⦄ := by
  have hsnapshot : ⦃⌜True⌝⦄ discovery.snapshot catalog today ⦃⇓ outcome =>
      ⌜∀ schema, outcome = .ok schema → MadeFor discoveries discovery.cacheKey schema⌝⦄ := by
    have hrespects := snapshot_spec catalog today discovery
    mvcgen [hrespects]
    intro _ hschema schema hok
    exact ⟨discovery, hmem, rfl, hschema schema hok⟩
  -- what is filed well can be handed out, and what is handed out can be filed
  have hcall := fun cache hcached =>
    SnapshotCache.getOrRefresh_spec clock discovery.cacheKey force cache hcached hsnapshot
  mvcgen [discover, hcall]
  case vc1.post.success =>
    rename_i before _ hbefore outcome after
    intro _ hgiven hafter
    refine ⟨hgiven, ?_⟩
    rcases hafter with rfl | ⟨now, schema, hmade, rfl⟩
    · exact hbefore
    · exact wellFiled_store hbefore hmade now
  case vc2 => exact fun cache _ hcache => hcache discovery.cacheKey

/-- Whatever is done with a shared cache, a discovery is given what was made for its key. -/
theorem serve_spec (uses : List Use)
    (hmem : ∀ discovery force, .discover discovery force ∈ uses → discovery ∈ discoveries) :
    ⦃fun cache => ⌜WellFiled discoveries cache⌝⦄
    serve catalog clock today uses
    ⦃⇓ given => ⌜∀ discovery schema, (discovery, .ok schema) ∈ given →
      MadeFor discoveries discovery.cacheKey schema⌝⦄ := by
  induction uses with
  | nil =>
      mvcgen [serve]
      intro other schema hgiven
      cases hgiven
  | cons use uses ih =>
      -- the uses that follow find whatever the first one leaves, if it is filed well
      have hlater := ih fun discovery force hlater =>
        hmem discovery force (List.mem_cons_of_mem _ hlater)
      cases use with
      | discover discovery force =>
          have hfirst :=
            discover_spec catalog clock today (hmem discovery force List.mem_cons_self) force
          mvcgen [serve, hfirst, hlater]
          case vc2.cons.discover.post.success.pre =>
            rename_i hfirst
            exact hfirst.2
          case vc3.cons.discover.post.success.post.success =>
            rename_i outcome _ _ hfirst given _ _ hgiven
            intro other schema hother
            rcases List.mem_cons.mp hother with heq | hother
            · cases heq
              exact hfirst.1 schema rfl
            · exact hgiven other schema hother
      | clear =>
          mvcgen [serve, clearCache, hlater]
          exact wellFiled_clear

/-! ## Filters -/

theorem includeInternal_eq_of_cacheKey_eq (h : other.cacheKey = discovery.cacheKey) :
    other.filter.includeInternal = discovery.filter.includeInternal := by
  unfold cacheKey at h
  split at h <;> split at h <;> simp_all

/-- Filters that include internal tables let the same tables pass. -/
theorem allows_eq_of_includeInternal {filter filter' : TableFilter}
    (h : filter.includeInternal = true) (h' : filter'.includeInternal = true) (table : String) :
    filter.allows table = filter'.allows table := by
  simp only [TableFilter.allows, h, h', Bool.true_or]

/-! ## A database with one table -/

/-- A database with one table, which is empty. -/
def singleTable (table : String) : Catalog (StateM Unit) where
  columns := pure (.ok [{ table := table, column := "id" }])
  rowCount := fun _ => pure (.ok 0)
  sampleValues := fun _ _ _ => pure (.ok [])

theorem groupTables_singleTable {filter : TableFilter} {table : String}
    (hallows : filter.allows table = true) :
    groupTables filter [{ table := table, column := "id" }] =
      [{ name := table
         columns := [CatalogColumn.toColumn { table := table, column := "id" }] }] := by
  simp [groupTables, addRow, hallows]

theorem exists_snapshot_singleTable {table : String} (hallows : other.filter.allows table = true) :
    ∃ schema, (other.snapshot (singleTable table) (pure default)).run () = pure (.ok schema, ()) ∧
      ∃ listed ∈ schema.tables, listed.name = table := by
  simp only [snapshot, introspect, singleTable, pure_bind, groupTables_singleTable hallows,
    List.mapM_cons, List.mapM_nil]
  exact ⟨_, rfl, _, List.mem_cons_self, rfl⟩

/-- If a discovery lets the table pass, another one with the same key is given it from the cache. -/
theorem exists_given_singleTable (hlasting : 0 < timeToLive)
    (hkey : discovery.cacheKey = other.cacheKey) {table : String}
    (hallows : other.filter.allows table = true) :
    ∃ schema, (discovery, .ok schema) ∈ (((serve (singleTable table) (pure 0) (pure default)
        [.discover other false, .discover discovery false]).run (.empty timeToLive)).run ()).1.1 ∧
      ∃ listed ∈ schema.tables, listed.name = table := by
  obtain ⟨schema, hsnapshot, hlisted⟩ := exists_snapshot_singleTable hallows
  have hfirst := SnapshotCache.run_getOrRefresh_of_absent
    (SnapshotCache.get?_empty timeToLive other.cacheKey) hsnapshot 0
  have hfound : (SnapshotCache.store (.empty timeToLive) 0 other.cacheKey schema).lookup? 0
      discovery.cacheKey = some schema := by
    rw [hkey]
    exact SnapshotCache.lookup?_eq_some_iff.mpr ⟨⟨schema, 0⟩, SnapshotCache.get?_store_self _ _ _,
      decide_eq_true hlasting, rfl⟩
  have hsecond := SnapshotCache.run_getOrRefresh_of_lookup? hfound
    (discovery.snapshot (singleTable table) (pure default)) ()
  refine ⟨schema, ?_, hlisted⟩
  simp only [serve, discover, StateT.run_bind, StateT.run_pure, hfirst, hsecond, pure_bind]
  exact List.mem_cons_of_mem _ List.mem_cons_self

/-! ## What a discovery is given -/

/-- **A discovery is given only tables that its filter lets pass**, provided that no discovery which
shares the cache and leaves out internal tables as it does lets more pass. -/
theorem respects_of_serve {uses : List Use} {world : World} {schema : Schema}
    (hgiven : (discovery, .ok schema) ∈
      (((serve catalog clock today uses).run (.empty timeToLive)).run world).1.1)
    (hagree : discovery.filter.includeInternal = false →
      ∀ other ∈ uses.filterMap Use.discovery?, other.filter.includeInternal = false →
        ∀ table, other.filter.allows table = true → discovery.filter.allows table = true) :
    discovery.Respects schema := by
  have hmem : ∀ discovery force, .discover discovery force ∈ uses →
      discovery ∈ uses.filterMap Use.discovery? :=
    fun discovery force huse => List.mem_filterMap.mpr ⟨_, huse, rfl⟩
  have hserve := serve_spec catalog clock today uses hmem (.empty timeToLive) world wellFiled_empty
  obtain ⟨other, hother, hkey, hrespects⟩ := hserve discovery schema hgiven
  have hflag := includeInternal_eq_of_cacheKey_eq hkey
  intro table htable
  have hallows : other.filter.allows table.name = true := hrespects table htable
  cases hinternal : discovery.filter.includeInternal with
  | true => rw [← hallows, allows_eq_of_includeInternal hinternal (hflag.trans hinternal)]
  | false => exact hagree hinternal other hother (hflag.trans hinternal) table.name hallows

/-- A discovery that leaves out the standard internal tables. -/
def standard : Discovery where
  filter := .ofTables false TableFilter.standardInternal

theorem respects_orders : ∃ schema,
    (standard, .ok schema) ∈ (((serve (singleTable "orders") (pure 0) (pure default)
      [.discover { standard with sampleSize := 3 } false,
        .discover standard false]).run (.empty 3600000)).run ()).1.1 ∧
      (∃ listed ∈ schema.tables, listed.name = "orders") ∧ standard.Respects schema := by
  have hlasting : (0 : Time) < 3600000 := by decide
  have hkey : standard.cacheKey = { standard with sampleSize := 3 }.cacheKey := rfl
  have hallows : { standard with sampleSize := 3 }.filter.allows "orders" = true := by decide
  obtain ⟨schema, hgiven, hlisted⟩ := exists_given_singleTable hlasting hkey hallows
  refine ⟨schema, hgiven, hlisted, respects_of_serve _ _ _ hgiven ?_⟩
  intro _ other hother _ table hallows
  rcases List.mem_cons.mp hother with rfl | hother
  · exact hallows
  · rw [List.mem_singleton.mp hother] at hallows
    exact hallows

/-- **The proviso is needed**: if another discovery lets a table pass that a discovery forbids, and
both leave out internal tables, there is a use of the shared cache in which the latter is given the
table. -/
theorem exists_disrespect (hlasting : 0 < timeToLive)
    (hdiscovery : discovery.filter.includeInternal = false)
    (hother : other.filter.includeInternal = false) {table : String}
    (hallows : other.filter.allows table = true)
    (hforbids : discovery.filter.allows table = false) :
    ∃ schema, (discovery, .ok schema) ∈ (((serve (singleTable table) (pure 0) (pure default)
        [.discover other false, .discover discovery false]).run (.empty timeToLive)).run ()).1.1 ∧
      ¬ discovery.Respects schema := by
  have hkey : discovery.cacheKey = other.cacheKey := by simp [cacheKey, hdiscovery, hother]
  obtain ⟨schema, hgiven, listed, hlisted, hname⟩ := exists_given_singleTable hlasting hkey hallows
  refine ⟨schema, hgiven, fun hrespects => ?_⟩
  have hallowed : discovery.filter.allows listed.name = true := hrespects listed hlisted
  rw [hname, hforbids] at hallowed
  cases hallowed

/-- The standard discovery is given a table of users which another one has left in the cache. -/
theorem exists_disrespect_users : ∃ schema,
    (standard, .ok schema) ∈ (((serve (singleTable "users") (pure 0) (pure default)
      [.discover { filter := .ofTables false ["equipment"] } false,
        .discover standard false]).run (.empty 3600000)).run ()).1.1 ∧
      ¬ standard.Respects schema :=
  exists_disrespect (by decide) rfl rfl (by decide) (by decide)

end Discovery

end PlainQuery
