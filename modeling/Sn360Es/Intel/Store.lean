import Sn360Es.Intel.Indicator
import Sn360Es.Lib.Upsert

/-!
# The indicator stores (`internal/repository/intel.go`, `internal/repository/memory_intel.go`)

A feed reports a list of indicators, and the store keeps one row per hash and feed, with the highest severity that was
reported. The store in memory takes the indicators one after another. The one in Postgres sends them in statements of
5000 rows, and a statement that meets a row twice fails as a whole.

* `IntelTables.lookupByHash` — what the Tier 0 gate asks;
* `MemoryIntelStore.upsertIndicators`, `PgIntelStore.upsertIndicators` — the two stores, over the same tables;
* `upsertAll_severity` — the severity of a row is the highest reported one;
* `upsertIndicators_eq` — what the statements leave, if they succeed;
* `stores_agree_iff` — exactly when the second store succeeds and does what the first does.
-/

namespace Sn360Es.Intel

open Lib

/-! ### The tables -/

/-- A row of `intel_indicators`. -/
structure IntelRow where
  hash : Bytes
  indicator : Bytes
  typ : IndicatorType
  feedID : Bytes
  lastSeen : ℤ
  severity : ℤ
  tags : List Bytes
deriving DecidableEq, Repr

/-- The primary key. -/
def IntelRow.key (r : IntelRow) : Bytes × Bytes := (r.hash, r.feedID)

/-- `Feed`. -/
structure Feed where
  id : Bytes
  name : Bytes
deriving DecidableEq, Repr

/-- A feed has the id. -/
def hasFeed (feeds : List Feed) (id : Bytes) : Bool := feeds.any fun f => f.id = id

/-- The tables `intel_feeds` and `intel_indicators`, with their keys; `uuid` says which texts are of the type of the
ids. -/
structure IntelTables (uuid : Bytes → Bool) where
  feeds : List Feed
  rows : List IntelRow
  keys : (rows.map IntelRow.key).Nodup
  owned : ∀ r ∈ rows, hasFeed feeds r.feedID = true
  uuids : ∀ f ∈ feeds, uuid f.id = true

/-- `MatchedIndicator`. -/
structure MatchedIndicator where
  hash : Bytes
  indicator : Bytes
  indicatorType : IndicatorType
  feedID : Bytes
  feedName : Bytes
  severity : ℤ
  tags : List Bytes
  lastSeen : ℤ
deriving DecidableEq, Repr

/-- A row with the name of its feed. -/
def IntelRow.matched (r : IntelRow) (f : Feed) : MatchedIndicator where
  hash := r.hash
  indicator := r.indicator
  indicatorType := r.typ
  feedID := r.feedID
  feedName := f.name
  severity := r.severity
  tags := r.tags
  lastSeen := r.lastSeen

/-- The rows, each with its feed. -/
def IntelTables.joined {uuid : Bytes → Bool} (s : IntelTables uuid) : List MatchedIndicator :=
  s.rows.filterMap fun r => (s.feeds.find? fun f => f.id = r.feedID).map r.matched

/-- `LookupByHash`. -/
def IntelTables.lookupByHash {uuid : Bytes → Bool} (s : IntelTables uuid) (hashes : List Bytes) : List MatchedIndicator :=
  s.joined.filter fun m => hashes.any (· = m.hash)

/-- The row that an indicator stands for. -/
def Indicator.row (feedID : Bytes) (now : ℤ) (ind : Indicator) : IntelRow where
  hash := ind.hash
  indicator := ind.indicator
  typ := ind.typ
  feedID := feedID
  lastSeen := now
  severity := ind.severity
  tags := ind.tags

inductive UpsertError where
  /-- `ErrFeedNotFound`. -/
  | feedNotFound
  | invalidFeedID (id : Bytes)
  /-- The statement fails. -/
  | statement
deriving DecidableEq, Repr

/-! ### In memory -/

namespace MemoryIntelStore

/-- `findByHashAndFeed`. -/
def findByHashAndFeed (rows : List IntelRow) (hash feedID : Bytes) : Option ℕ :=
  rows.findIdx? fun r => r.key = (hash, feedID)

/-- The row at the index of the same hash and feed. -/
def update (row new : IntelRow) : IntelRow :=
  { row with
    indicator := new.indicator
    typ := new.typ
    lastSeen := new.lastSeen
    severity := if row.severity < new.severity then new.severity else row.severity
    tags := new.tags }

/-- One round of the loop. -/
def upsertRow (rows : List IntelRow) (new : IntelRow) : List IntelRow :=
  match findByHashAndFeed rows new.hash new.feedID with
  | none => rows ++ [new]
  | some i =>
    match rows[i]? with
    | none => rows
    | some row => rows.set i (update row new)

end MemoryIntelStore

/-! ### In Postgres -/

/-- The database and its driver. -/
structure Postgres where
  /-- `uuid.Parse` accepts the text. -/
  uuid : Bytes → Bool
  /-- A `TEXT` column can hold the bytes. -/
  text : Bytes → Bool
  /-- `pq.Array` sends the tags as `NULL`. -/
  null : List Bytes → Bool

namespace PgIntelStore

def upsertBatchSize : ℕ := 5000

/-- `ON CONFLICT … DO UPDATE SET …`. -/
def onConflict (row excluded : IntelRow) : IntelRow :=
  { row with
    indicator := excluded.indicator
    typ := excluded.typ
    lastSeen := excluded.lastSeen
    severity := max row.severity excluded.severity
    tags := excluded.tags }

variable (pg : Postgres)

/-- The types and the checks of the columns let the indicator in. -/
def storable (ind : Indicator) : Bool :=
  ind.indicator ≠ [] ∧ pg.text ind.indicator ∧ ind.typ.valid ∧ 0 ≤ ind.severity ∧ ind.severity ≤ 100 ∧
    !pg.null ind.tags ∧ ind.tags.all pg.text

/-- `upsertIndicatorsBatch`: one statement. -/
def upsertIndicatorsBatch (feeds : List Feed) (feedID : Bytes) (now : ℤ) (rows : List IntelRow)
    (chunk : List Indicator) : Option (List IntelRow) :=
  if chunk = [] then some rows
  else if chunk.all (storable pg) && hasFeed feeds feedID then
    insertAll IntelRow.key onConflict rows (chunk.map (Indicator.row feedID now))
  else none

/-- The statements of `UpsertIndicators`; those of a long list are in one transaction. -/
def statements (feeds : List Feed) (feedID : Bytes) (now : ℤ) (rows : List IntelRow) (inds : List Indicator) :
    Option (List IntelRow) :=
  if inds.length ≤ upsertBatchSize then upsertIndicatorsBatch pg feeds feedID now rows inds
  else (chunks upsertBatchSize inds).foldlM (upsertIndicatorsBatch pg feeds feedID now) rows

end PgIntelStore

/-! ### One row after another -/

section Rows

variable {rows news : List IntelRow} {new : IntelRow}

lemma key_onConflict (row excluded : IntelRow) : (PgIntelStore.onConflict row excluded).key = row.key := rfl

lemma update_eq_onConflict (row new : IntelRow) : MemoryIntelStore.update row new = PgIntelStore.onConflict row new := by
  have hmax : (if row.severity < new.severity then new.severity else row.severity) = max row.severity new.severity := by
    split_ifs <;> omega
  unfold MemoryIntelStore.update PgIntelStore.onConflict
  rw [hmax]

/-- The loop body is an upsert. -/
lemma upsertRow_eq (hkeys : (rows.map IntelRow.key).Nodup) :
    MemoryIntelStore.upsertRow rows new = upsert IntelRow.key PgIntelStore.onConflict rows new := by
  unfold MemoryIntelStore.upsertRow MemoryIntelStore.findByHashAndFeed
  cases hfind : rows.findIdx? fun r => r.key = (new.hash, new.feedID) with
  | none => exact (upsert_eq_append hfind).symm
  | some i =>
    obtain ⟨row, hrow, -, hset⟩ := upsert_eq_set PgIntelStore.onConflict hkeys hfind
    simp only [hrow]
    rw [hset, update_eq_onConflict]

lemma foldl_upsertRow_eq (hkeys : (rows.map IntelRow.key).Nodup) (news : List IntelRow) :
    news.foldl MemoryIntelStore.upsertRow rows = upsertAll IntelRow.key PgIntelStore.onConflict rows news := by
  induction news generalizing rows with
  | nil => rfl
  | cons new news ih =>
    rw [List.foldl_cons, upsertRow_eq hkeys]
    exact ih (nodup_upsert key_onConflict hkeys)

/-- The severities that were reported for a key: the one in the table, and those of the new rows. -/
def reported (rows news : List IntelRow) (k : Bytes × Bytes) : List ℤ :=
  ((rows ++ news).filter fun r => r.key = k).map IntelRow.severity

/-- The highest of a list. -/
def Highest (x : ℤ) (xs : List ℤ) : Prop := x ∈ xs ∧ ∀ y ∈ xs, y ≤ x

lemma mem_reported {k : Bytes × Bytes} {x : ℤ} :
    x ∈ reported rows news k ↔ ∃ r ∈ rows ++ news, r.key = k ∧ r.severity = x := by
  unfold reported
  simp only [List.mem_map, List.mem_filter, decide_eq_true_iff, and_assoc]

lemma mem_reported_concat {k : Bytes × Bytes} {x : ℤ} :
    x ∈ reported rows (news ++ [new]) k ↔ x ∈ reported rows news k ∨ new.key = k ∧ new.severity = x := by
  rw [mem_reported, mem_reported, ← List.append_assoc]
  constructor
  · rintro ⟨r, hr, hkey, hsev⟩
    rcases List.mem_append.mp hr with hr | hr
    · exact .inl ⟨r, hr, hkey, hsev⟩
    · rw [List.mem_singleton.mp hr] at hkey hsev
      exact .inr ⟨hkey, hsev⟩
  · rintro (⟨r, hr, hkey, hsev⟩ | ⟨hkey, hsev⟩)
    · exact ⟨r, List.mem_append_left _ hr, hkey, hsev⟩
    · exact ⟨new, List.mem_append_right _ List.mem_cons_self, hkey, hsev⟩

/-- **The severity of a row** is the highest that was reported. -/
lemma upsertAll_severity (hkeys : (rows.map IntelRow.key).Nodup) (news : List IntelRow) :
    ∀ r ∈ upsertAll IntelRow.key PgIntelStore.onConflict rows news, Highest r.severity (reported rows news r.key) := by
  induction news using List.reverseRecOn with
  | nil =>
    intro r hr
    have hr : r ∈ rows := hr
    refine ⟨mem_reported.mpr ⟨r, List.mem_append_left _ hr, rfl, rfl⟩, fun y hy => ?_⟩
    obtain ⟨r', hr', hkey, rfl⟩ := mem_reported.mp hy
    rw [List.append_nil] at hr'
    rw [List.inj_on_of_nodup_map hkeys hr' hr hkey]
  | append_singleton news new ih =>
    intro r hr
    rw [upsertAll_concat] at hr
    rcases mem_upsert hr with ⟨hr, hne⟩ | ⟨row, hrow, hkey, rfl⟩ | ⟨rfl, hfresh⟩
    · obtain ⟨hmem, hle⟩ := ih r hr
      refine ⟨mem_reported_concat.mpr (.inl hmem), fun y hy => ?_⟩
      rcases mem_reported_concat.mp hy with hy | ⟨hkey, -⟩
      · exact hle y hy
      · exact absurd hkey.symm hne
    · obtain ⟨hmem, hle⟩ := ih row hrow
      rw [key_onConflict]
      refine ⟨mem_reported_concat.mpr ?_, fun y hy => ?_⟩
      · rcases le_total new.severity row.severity with h | h
        · left
          rw [show (PgIntelStore.onConflict row new).severity = row.severity from max_eq_left h]
          exact hmem
        · right
          exact ⟨hkey.symm, (max_eq_right h).symm⟩
      · rcases mem_reported_concat.mp hy with hy | ⟨-, rfl⟩
        · exact (hle y hy).trans (le_max_left _ _)
        · exact le_max_right _ _
    · -- a new key: nothing else was reported for it
      refine ⟨mem_reported_concat.mpr (.inr ⟨rfl, rfl⟩), fun y hy => ?_⟩
      rcases mem_reported_concat.mp hy with hy | ⟨-, rfl⟩
      · obtain ⟨r', hr', hkey, -⟩ := mem_reported.mp hy
        refine absurd ((mem_keys_upsertAll key_onConflict).mpr ?_) hfresh
        rw [← List.mem_append, ← List.map_append, ← hkey]
        exact List.mem_map_of_mem hr'
      · exact le_refl _

/-- Every row belongs to a feed. -/
lemma owned_upsertAll {has : Bytes → Bool} (hrows : ∀ r ∈ rows, has r.feedID = true)
    (hnews : ∀ r ∈ news, has r.feedID = true) :
    ∀ r ∈ upsertAll IntelRow.key PgIntelStore.onConflict rows news, has r.feedID = true := by
  intro r hr
  rcases (mem_keys_upsertAll key_onConflict).mp (List.mem_map_of_mem hr) with h | h
  · obtain ⟨r', hr', hkey⟩ := List.mem_map.mp h
    have hfeed : r'.feedID = r.feedID := congrArg Prod.snd hkey
    exact hfeed ▸ hrows r' hr'
  · obtain ⟨r', hr', hkey⟩ := List.mem_map.mp h
    have hfeed : r'.feedID = r.feedID := congrArg Prod.snd hkey
    exact hfeed ▸ hnews r' hr'

end Rows

/-! ### The statements -/

section Statements

variable {pg : Postgres} {feeds : List Feed} {feedID : Bytes} {now : ℤ} {rows rows' : List IntelRow}
  {inds : List Indicator}

open PgIntelStore

/-- What a statement asks: a feed, indicators that the columns take, and no hash twice. -/
structure Fits (pg : Postgres) (feeds : List Feed) (feedID : Bytes) (chunk : List Indicator) : Prop where
  feed : chunk ≠ [] → hasFeed feeds feedID = true
  columns : ∀ ind ∈ chunk, storable pg ind = true
  hashes : (chunk.map Indicator.hash).Nodup

lemma nodup_keys_row {chunk : List Indicator} :
    ((chunk.map (Indicator.row feedID now)).map IntelRow.key).Nodup ↔ (chunk.map Indicator.hash).Nodup := by
  have hmap : (chunk.map (Indicator.row feedID now)).map IntelRow.key =
      (chunk.map Indicator.hash).map fun h => (h, feedID) := by
    rw [List.map_map, List.map_map]
    rfl
  rw [hmap]
  exact List.nodup_map_iff fun a b h => congrArg Prod.fst h

lemma upsertIndicatorsBatch_eq_some_iff {chunk : List Indicator} :
    upsertIndicatorsBatch pg feeds feedID now rows chunk = some rows' ↔
      Fits pg feeds feedID chunk ∧
        rows' = upsertAll IntelRow.key onConflict rows (chunk.map (Indicator.row feedID now)) := by
  unfold upsertIndicatorsBatch
  by_cases hnil : chunk = []
  · subst hnil
    rw [if_pos rfl, Option.some.injEq, eq_comm]
    refine ⟨fun h => ⟨⟨fun h => absurd rfl h, by simp, List.nodup_nil⟩, h⟩, fun h => h.2⟩
  · rw [if_neg hnil]
    split
    · next hok =>
      rw [Bool.and_eq_true] at hok
      rw [insertAll_eq_some_iff, nodup_keys_row]
      refine and_congr_left fun _ => ⟨fun h => ⟨fun _ => hok.2, List.all_eq_true.mp hok.1, h⟩, fun h => h.hashes⟩
    · next hno =>
      refine iff_of_false (by simp) fun h => hno ?_
      rw [Bool.and_eq_true]
      exact ⟨List.all_eq_true.mpr h.1.columns, h.1.feed hnil⟩

lemma foldlM_upsertIndicatorsBatch_eq_some_iff {cs : List (List Indicator)} :
    cs.foldlM (upsertIndicatorsBatch pg feeds feedID now) rows = some rows' ↔
      (∀ c ∈ cs, Fits pg feeds feedID c) ∧
        rows' = upsertAll IntelRow.key onConflict rows (cs.flatten.map (Indicator.row feedID now)) := by
  induction cs generalizing rows with
  | nil =>
    have hpure : ([] : List (List Indicator)).foldlM (upsertIndicatorsBatch pg feeds feedID now) rows = some rows := rfl
    rw [hpure]
    simp [upsertAll, eq_comm]
  | cons c cs ih =>
    rw [List.foldlM_cons, List.flatten_cons, List.map_append, upsertAll_append, List.forall_mem_cons]
    show (upsertIndicatorsBatch pg feeds feedID now rows c).bind _ = _ ↔ _
    rw [Option.bind_eq_some_iff]
    constructor
    · rintro ⟨mid, hmid, hrest⟩
      obtain ⟨hc, rfl⟩ := upsertIndicatorsBatch_eq_some_iff.mp hmid
      obtain ⟨hcs, hrows'⟩ := ih.mp hrest
      exact ⟨⟨hc, hcs⟩, hrows'⟩
    · rintro ⟨⟨hc, hcs⟩, hrows'⟩
      exact ⟨_, upsertIndicatorsBatch_eq_some_iff.mpr ⟨hc, rfl⟩, ih.mpr ⟨hcs, hrows'⟩⟩

/-- The batches of a list. -/
def batches (inds : List Indicator) : List (List Indicator) := chunks upsertBatchSize inds

lemma flatten_batches (inds : List Indicator) : (batches inds).flatten = inds := flatten_chunks (by decide) inds

/-- **What the statements leave**, if they succeed. -/
lemma statements_eq_some_iff (hinds : inds ≠ []) : statements pg feeds feedID now rows inds = some rows' ↔
    (∀ c ∈ batches inds, Fits pg feeds feedID c) ∧
      rows' = upsertAll IntelRow.key onConflict rows (inds.map (Indicator.row feedID now)) := by
  unfold statements
  split
  · next hlen =>
    rw [batches, chunks_of_length_le hinds hlen, upsertIndicatorsBatch_eq_some_iff]
    simp
  · rw [foldlM_upsertIndicatorsBatch_eq_some_iff, ← batches, flatten_batches]

/-- The batches fit, in terms of the list. -/
lemma forall_fits_iff (hinds : inds ≠ []) : (∀ c ∈ batches inds, Fits pg feeds feedID c) ↔
    hasFeed feeds feedID = true ∧ (∀ ind ∈ inds, storable pg ind = true) ∧
      ∀ c ∈ batches inds, (c.map Indicator.hash).Nodup := by
  have hmem : ∀ ind, ind ∈ inds ↔ ∃ c ∈ batches inds, ind ∈ c := fun ind => by
    rw [← List.mem_flatten, flatten_batches]
  constructor
  · intro h
    refine ⟨?_, fun ind hind => ?_, fun c hc => (h c hc).hashes⟩
    · obtain ⟨ind, hind⟩ := List.exists_mem_of_ne_nil inds hinds
      obtain ⟨c, hc, hindc⟩ := (hmem ind).mp hind
      exact (h c hc).feed (List.ne_nil_of_mem hindc)
    · obtain ⟨c, hc, hindc⟩ := (hmem ind).mp hind
      exact (h c hc).columns ind hindc
  · rintro ⟨hfeed, hcolumns, hhashes⟩ c hc
    exact ⟨fun _ => hfeed, fun ind hind => hcolumns ind ((hmem ind).mpr ⟨c, hc, hind⟩), hhashes c hc⟩

end Statements

/-! ### The two stores -/

/-- `MemoryIntelStore.UpsertIndicators`. -/
def MemoryIntelStore.upsertIndicators {uuid : Bytes → Bool} (s : IntelTables uuid) (feedID : Bytes)
    (inds : List Indicator) (now : ℤ) : Except UpsertError ℕ × IntelTables uuid :=
  if h : hasFeed s.feeds feedID then
    (.ok inds.length,
      { s with
        rows := (inds.map (Indicator.row feedID now)).foldl upsertRow s.rows
        keys := by
          rw [foldl_upsertRow_eq s.keys]
          exact nodup_upsertAll key_onConflict s.keys
        owned := by
          rw [foldl_upsertRow_eq s.keys]
          refine owned_upsertAll s.owned fun r hr => ?_
          obtain ⟨ind, -, rfl⟩ := List.mem_map.mp hr
          exact h })
  else (.error .feedNotFound, s)

/-- `PgIntelStore.UpsertIndicators`; when a statement fails, the transaction is rolled back. -/
def PgIntelStore.upsertIndicators (pg : Postgres) (s : IntelTables pg.uuid) (feedID : Bytes) (inds : List Indicator)
    (now : ℤ) : Except UpsertError ℕ × IntelTables pg.uuid :=
  if !pg.uuid feedID then (.error (.invalidFeedID feedID), s)
  else if hinds : inds = [] then (.ok 0, s)
  else
    match h : statements pg s.feeds feedID now s.rows inds with
    | none => (.error .statement, s)
    | some rows =>
      (.ok inds.length,
        { s with
          rows := rows
          keys := by
            rw [((statements_eq_some_iff hinds).mp h).2]
            exact nodup_upsertAll key_onConflict s.keys
          owned := by
            obtain ⟨hfits, rfl⟩ := (statements_eq_some_iff hinds).mp h
            refine owned_upsertAll s.owned fun r hr => ?_
            obtain ⟨ind, -, rfl⟩ := List.mem_map.mp hr
            exact ((forall_fits_iff hinds).mp hfits).1 })

section Stores

variable {names : Names} {pg : Postgres} {s : IntelTables pg.uuid} {feedID : Bytes} {now : ℤ} {inds : List Indicator}

lemma memory_rows (h : hasFeed s.feeds feedID = true) :
    (MemoryIntelStore.upsertIndicators s feedID inds now).2.rows =
      upsertAll IntelRow.key PgIntelStore.onConflict s.rows (inds.map (Indicator.row feedID now)) := by
  unfold MemoryIntelStore.upsertIndicators
  rw [dif_pos h]
  exact foldl_upsertRow_eq s.keys _

/-- The store in memory changes nothing for an empty list. -/
lemma memory_rows_nil : (MemoryIntelStore.upsertIndicators s feedID [] now).2.rows = s.rows := by
  unfold MemoryIntelStore.upsertIndicators
  split
  · rfl
  · rfl

/-- The second store, where the list is not empty. -/
lemma pg_ok_iff (hinds : inds ≠ []) : (PgIntelStore.upsertIndicators pg s feedID inds now).1 = .ok inds.length ↔
    pg.uuid feedID = true ∧ ∀ c ∈ batches inds, Fits pg s.feeds feedID c := by
  unfold PgIntelStore.upsertIndicators
  cases huuid : pg.uuid feedID with
  | false => simp
  | true =>
    rw [if_neg (by simp), dif_neg hinds]
    split
    · next hnone =>
      refine iff_of_false (by simp) fun h => ?_
      rw [(statements_eq_some_iff hinds).mpr ⟨h.2, rfl⟩] at hnone
      cases hnone
    · next hsome => exact iff_of_true rfl ⟨rfl, ((statements_eq_some_iff hinds).mp hsome).1⟩

lemma pg_rows (hinds : inds ≠ []) (h : (PgIntelStore.upsertIndicators pg s feedID inds now).1 = .ok inds.length) :
    (PgIntelStore.upsertIndicators pg s feedID inds now).2.rows =
      upsertAll IntelRow.key PgIntelStore.onConflict s.rows (inds.map (Indicator.row feedID now)) := by
  obtain ⟨huuid, hfits⟩ := (pg_ok_iff hinds).mp h
  unfold PgIntelStore.upsertIndicators
  rw [huuid, if_neg (by simp), dif_neg hinds]
  split
  · next hnone =>
    rw [(statements_eq_some_iff hinds).mpr ⟨hfits, rfl⟩] at hnone
    cases hnone
  · next hsome => exact ((statements_eq_some_iff hinds).mp hsome).2

/-- The second store succeeds and leaves the rows of the first, with the highest severity ever reported for each. -/
structure Agrees (pg : Postgres) (s : IntelTables pg.uuid) (feedID : Bytes) (inds : List Indicator) (now : ℤ) :
    Prop where
  succeeds : (PgIntelStore.upsertIndicators pg s feedID inds now).1 = .ok inds.length
  rows : (PgIntelStore.upsertIndicators pg s feedID inds now).2.rows =
    (MemoryIntelStore.upsertIndicators s feedID inds now).2.rows
  severity : ∀ r ∈ (PgIntelStore.upsertIndicators pg s feedID inds now).2.rows,
    Highest r.severity (reported s.rows (inds.map (Indicator.row feedID now)) r.key)

/-- No batch has a hash twice; the feed is there, if there is anything to store; and the database takes every text and
every list of tags. -/
structure Acceptable (pg : Postgres) (s : IntelTables pg.uuid) (feedID : Bytes) (inds : List Indicator) : Prop where
  uuid : pg.uuid feedID = true
  feed : inds ≠ [] → hasFeed s.feeds feedID = true
  texts : ∀ ind ∈ inds, pg.text ind.indicator = true ∧ pg.null ind.tags = false ∧ ∀ t ∈ ind.tags, pg.text t = true
  hashes : ∀ c ∈ batches inds, (c.map Indicator.hash).Nodup

lemma storable_iff {ind : Indicator} (h : names.Canonicalised ind) : PgIntelStore.storable pg ind = true ↔
    pg.text ind.indicator = true ∧ pg.null ind.tags = false ∧ ∀ t ∈ ind.tags, pg.text t = true := by
  obtain ⟨hnil, hvalid, hlow, hhigh⟩ := h.checks
  unfold PgIntelStore.storable
  rw [decide_eq_true_iff]
  constructor
  · rintro ⟨-, htext, -, -, -, hnull, htags⟩
    exact ⟨htext, by simpa using hnull, List.all_eq_true.mp htags⟩
  · rintro ⟨htext, hnull, htags⟩
    exact ⟨hnil, htext, hvalid, hlow, hhigh, by simpa using hnull, List.all_eq_true.mpr htags⟩

/-- **The stores agree** exactly on lists that are acceptable. -/
theorem stores_agree_iff (hcanon : ∀ ind ∈ inds, names.Canonicalised ind) :
    Agrees pg s feedID inds now ↔ Acceptable pg s feedID inds := by
  by_cases hinds : inds = []
  · subst hinds
    have hpg : pg.uuid feedID = true → PgIntelStore.upsertIndicators pg s feedID [] now = (.ok 0, s) := by
      intro huuid
      unfold PgIntelStore.upsertIndicators
      rw [huuid]
      rfl
    constructor
    · intro h
      refine ⟨?_, fun h => absurd rfl h, by simp, by simp [batches, chunks]⟩
      cases huuid : pg.uuid feedID with
      | true => rfl
      | false =>
        have hfail := h.succeeds
        unfold PgIntelStore.upsertIndicators at hfail
        rw [huuid] at hfail
        cases hfail
    · intro h
      refine ⟨by rw [hpg h.uuid]; rfl, by rw [hpg h.uuid, memory_rows_nil], ?_⟩
      rw [hpg h.uuid]
      exact upsertAll_severity s.keys []
  · have hstorable : (∀ ind ∈ inds, PgIntelStore.storable pg ind = true) ↔ ∀ ind ∈ inds,
        pg.text ind.indicator = true ∧ pg.null ind.tags = false ∧ ∀ t ∈ ind.tags, pg.text t = true :=
      forall₂_congr fun ind hind => storable_iff (hcanon ind hind)
    have hfits : (∀ c ∈ batches inds, Fits pg s.feeds feedID c) ↔ hasFeed s.feeds feedID = true ∧
        (∀ ind ∈ inds, PgIntelStore.storable pg ind = true) ∧ ∀ c ∈ batches inds, (c.map Indicator.hash).Nodup :=
      forall_fits_iff hinds
    constructor
    · intro h
      obtain ⟨huuid, hbatches⟩ := (pg_ok_iff hinds).mp h.succeeds
      obtain ⟨hfeed, hcolumns, hhashes⟩ := hfits.mp hbatches
      exact ⟨huuid, fun _ => hfeed, hstorable.mp hcolumns, hhashes⟩
    · intro h
      have hok : (PgIntelStore.upsertIndicators pg s feedID inds now).1 = .ok inds.length :=
        (pg_ok_iff hinds).mpr ⟨h.uuid, hfits.mpr ⟨h.feed hinds, hstorable.mpr h.texts, h.hashes⟩⟩
      refine ⟨hok, by rw [pg_rows hinds hok, memory_rows (h.feed hinds)], ?_⟩
      rw [pg_rows hinds hok]
      exact upsertAll_severity s.keys _

end Stores

/-! ### Several URLs on one host -/

namespace Sample

/-- The functions of the names, on ASCII. -/
def names : Names where
  lower r := if 0x41 ≤ r ∧ r ≤ 0x5A then r + 0x20 else r
  parseAddr _ := none
  toASCII v := some v

def postgres : Postgres where
  uuid id := id.length = 36
  text t := t.all fun c => 0 < c.toNat ∧ c.toNat < 0x80
  null tags := tags = []

def feedID : Bytes := bytesOf "7d3f1c52-6a0e-4a68-9d55-2f2b8d1f0a11"

/-- A feed that was not polled yet. -/
def tables : IntelTables postgres.uuid where
  feeds := [⟨feedID, bytesOf "urlhaus-recent"⟩]
  rows := []
  keys := List.nodup_nil
  owned := by simp
  uuids := by decide +kernel

def record (url : String) : List Bytes :=
  ["1", "2026-01-05 10:00:00", url, "online", "2026-01-05 10:00:00", "malware_download", "elf"].map bytesOf

/-- The indicators of two URLs on one host. -/
def twoPaths : List Indicator :=
  [record "http://evil.test/a", record "http://evil.test/b"].flatMap (Urlhaus.decodeRecord names)

def onePath : List Indicator := [record "http://evil.test/a"].flatMap (Urlhaus.decodeRecord names)

end Sample

/-- Every indicator of the decoder is canonical. -/
lemma Urlhaus.decodeRecord_canonicalised {names : Names} {row : List Bytes} :
    ∀ ind ∈ Urlhaus.decodeRecord names row, names.Canonicalised ind := by
  intro ind hind
  unfold Urlhaus.decodeRecord at hind
  split at hind
  · cases hind
  · dsimp only at hind
    split at hind
    · cases hind
    · next urlInd hurl =>
      split at hind
      · rw [List.mem_singleton.mp hind]
        exact ⟨_, hurl⟩
      · split at hind
        · rw [List.mem_singleton.mp hind]
          exact ⟨_, hurl⟩
        · next domInd hdom =>
          rcases List.mem_cons.mp hind with rfl | hind
          · exact ⟨_, hurl⟩
          · rw [List.mem_singleton.mp hind]
            exact ⟨_, hdom⟩

lemma flatMap_decodeRecord_canonicalised {names : Names} (rows : List (List Bytes)) :
    ∀ ind ∈ rows.flatMap (Urlhaus.decodeRecord names), names.Canonicalised ind := by
  intro ind hind
  obtain ⟨row, -, hind⟩ := List.mem_flatMap.mp hind
  exact Urlhaus.decodeRecord_canonicalised ind hind

theorem one_path_agrees : Agrees Sample.postgres Sample.tables Sample.feedID Sample.onePath 1000 := by
  refine (stores_agree_iff (flatMap_decodeRecord_canonicalised [Sample.record "http://evil.test/a"])).mpr ⟨?_, ?_, ?_, ?_⟩
  · decide +kernel
  · decide +kernel
  · decide +kernel
  · decide +kernel

/-- Two URLs on one host: the decoder reports the host twice, and the statement fails. -/
theorem two_paths_disagree :
    Urlhaus.decode Sample.names [Sample.record "http://evil.test/a", Sample.record "http://evil.test/b"] =
      .ok Sample.twoPaths ∧
    (∀ ind ∈ Sample.twoPaths, Sample.names.Canonicalised ind) ∧
    (PgIntelStore.upsertIndicators Sample.postgres Sample.tables Sample.feedID Sample.twoPaths 1000).1 =
      .error .statement ∧
    ¬ Agrees Sample.postgres Sample.tables Sample.feedID Sample.twoPaths 1000 := by
  have hfail : (PgIntelStore.upsertIndicators Sample.postgres Sample.tables Sample.feedID Sample.twoPaths 1000).1 =
      .error .statement := by
    decide +kernel
  refine ⟨?_, flatMap_decodeRecord_canonicalised _, hfail, fun h => ?_⟩
  · decide +kernel
  · rw [h.succeeds] at hfail
    cases hfail

end Sn360Es.Intel
