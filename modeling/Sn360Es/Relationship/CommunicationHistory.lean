import Mathlib.Data.List.Nodup
import Mathlib.Data.List.Sort
import Sn360Es.Lib.GoTime
import Sn360Es.Lib.Hex

/-!
# Communication histories (`internal/repository`: `CommunicationHistory`, `memoryCommHistory`)

One row for each tenant, sender and recipient. `RecordSighting` counts up when a mail is ingested; the relationship
worker writes `Count7d` back with `UpdateCountsIfFresh`, a compare-and-set on `UpdatedAt`. Instants are nanoseconds
since the zero time.

* `CommTable` — the table: the keys are distinct, and every row has an id, a tenant and an instant of its last write;
* `CommTable.mem_iff_get` — a row is in the table if and only if it is found under its key;
* `CommTable.get_retouch`, `CommTable.get_recordSighting` — what a write and a sighting change.
-/

namespace Sn360Es.Relationship

open Lib

/-- `repository.CommunicationHistory`. -/
structure CommunicationHistory where
  id : String := ""
  tenantID : String
  senderHash : Bytes
  recipientHash : Bytes
  senderDomainHash : Bytes := []
  senderDomain : String := ""
  count7d : ℤ
  count30d : ℤ
  firstSeenAt : ℤ
  lastSeenAt : ℤ
  relationship : String := ""
  typicalHour : ℤ := -1
  updatedAt : ℤ := 0
  deriving DecidableEq, Repr

/-- `TypicalHourUnset`. -/
def typicalHourUnset : ℤ := -1

/-- The key of a row: `commKey`. -/
structure CommKey where
  tenantID : String
  senderHash : Bytes
  recipientHash : Bytes
  deriving DecidableEq, Repr

def CommunicationHistory.key (r : CommunicationHistory) : CommKey := ⟨r.tenantID, r.senderHash, r.recipientHash⟩

/-- `repository.Sighting`. -/
structure Sighting where
  tenantID : String
  senderHash : Bytes
  recipientHash : Bytes
  senderDomainHash : Bytes := []
  senderDomain : String := ""
  sentAt : ℤ
  deriving DecidableEq, Repr

def Sighting.key (s : Sighting) : CommKey := ⟨s.tenantID, s.senderHash, s.recipientHash⟩

/-- What `time.Now` yields is after the zero time. -/
abbrev Instant := { t : ℤ // 0 < t }

instance : Inhabited Instant := ⟨1, by decide⟩

/-- What `uuid.NewString` yields is not empty. -/
abbrev UUID := { s : String // s ≠ "" }

instance : Inhabited UUID := ⟨"id", by decide⟩

/-- The row has been written: all but its identity may have changed, and it is stamped. -/
def CommunicationHistory.retouch (now : Instant) (f : CommunicationHistory → CommunicationHistory)
    (r : CommunicationHistory) : CommunicationHistory :=
  { f r with id := r.id, tenantID := r.tenantID, senderHash := r.senderHash, recipientHash := r.recipientHash
             updatedAt := now.1 }

@[simp] lemma CommunicationHistory.retouch_key (now : Instant) (f : CommunicationHistory → CommunicationHistory)
    (r : CommunicationHistory) : (r.retouch now f).key = r.key := rfl

/-- The table. -/
structure CommTable where
  rows : List CommunicationHistory := []
  keys_nodup : (rows.map (·.key)).Nodup := by exact List.nodup_nil
  stamped : ∀ r ∈ rows, r.id ≠ "" ∧ r.tenantID ≠ "" ∧ r.updatedAt ≠ 0 := by exact nofun

namespace CommTable

variable (T : CommTable)

/-- `Get`. -/
def get (k : CommKey) : Option CommunicationHistory := T.rows.find? fun r => decide (r.key = k)

/-- Writes the row of a key, if it is there. -/
def retouch (now : Instant) (k : CommKey) (f : CommunicationHistory → CommunicationHistory) : CommTable where
  rows := T.rows.map fun r => if r.key = k then r.retouch now f else r
  keys_nodup := by
    have hkeys : (T.rows.map fun r => if r.key = k then r.retouch now f else r).map (·.key) = T.rows.map (·.key) := by
      rw [List.map_map]
      refine List.map_congr_left fun r _ => ?_
      by_cases h : r.key = k
      · simp [h]
      · simp [h]
    rw [hkeys]
    exact T.keys_nodup
  stamped := by
    intro r' hr'
    obtain ⟨r, hr, rfl⟩ := List.mem_map.mp hr'
    have hold := T.stamped r hr
    by_cases h : r.key = k
    · rw [if_pos h]
      exact ⟨hold.1, hold.2.1, now.2.ne'⟩
    · rw [if_neg h]
      exact hold

/-- Adds a row under a new key. -/
def add (row : CommunicationHistory) (hnew : row.key ∉ T.rows.map (·.key))
    (hstamped : row.id ≠ "" ∧ row.tenantID ≠ "" ∧ row.updatedAt ≠ 0) : CommTable where
  rows := T.rows ++ [row]
  keys_nodup := by
    rw [List.map_append]
    exact List.nodup_append'.mpr ⟨T.keys_nodup, List.nodup_singleton _, by simpa using hnew⟩
  stamped := by
    intro r hr
    rcases List.mem_append.mp hr with hr | hr
    · exact T.stamped r hr
    · rw [List.mem_singleton.mp hr]
      exact hstamped

/-- The row of a first sighting. -/
def firstRow (s : Sighting) (now : Instant) (id : UUID) : CommunicationHistory where
  id := id.1
  tenantID := s.tenantID
  senderHash := s.senderHash
  recipientHash := s.recipientHash
  senderDomainHash := s.senderDomainHash
  senderDomain := s.senderDomain
  count7d := 1
  count30d := 1
  firstSeenAt := s.sentAt
  lastSeenAt := s.sentAt
  relationship := ""
  typicalHour := typicalHourUnset
  updatedAt := now.1

/-- What another sighting changes. -/
def sighted (s : Sighting) (r : CommunicationHistory) : CommunicationHistory :=
  { r with
    count30d := r.count30d + 1
    count7d := r.count7d + 1
    lastSeenAt := if r.lastSeenAt < s.sentAt then s.sentAt else r.lastSeenAt
    senderDomain := if r.senderDomain = "" ∧ s.senderDomain ≠ "" then s.senderDomain else r.senderDomain
    senderDomainHash := if r.senderDomainHash = [] ∧ s.senderDomainHash ≠ [] then s.senderDomainHash
      else r.senderDomainHash }

/-- `RecordSighting`: the error, or the new table. -/
def recordSighting (s : Sighting) (now : Instant) (id : UUID) : Except String CommTable :=
  if htenant : s.tenantID = "" then .error "repository: RecordSighting requires a tenant id"
  else if s.senderHash = [] ∨ s.recipientHash = [] then
    .error "repository: RecordSighting requires non-empty sender and recipient hashes"
  else if s.sentAt = 0 then .error "repository: RecordSighting requires a non-zero SentAt"
  else if hnew : s.key ∈ T.rows.map (·.key) then .ok (T.retouch now s.key (sighted s))
  else .ok (T.add (firstRow s now id) hnew ⟨id.2, htenant, now.2.ne'⟩)

/-- `CommHistoryListByTenantMaxLimit`. -/
def listByTenantMaxLimit : ℕ := 10000

/-- `clampCommHistoryLimit`. -/
def clampLimit (limit : ℤ) : ℕ :=
  if limit ≤ 0 ∨ listByTenantMaxLimit < limit then listByTenantMaxLimit else limit.toNat

/-- `ListByTenant`: the last seen first. -/
def listByTenant (tenantID : String) (since : ℤ) (limit : ℤ) : List CommunicationHistory :=
  ((T.rows.filter fun r => r.tenantID = tenantID ∧ ¬ (since ≠ 0 ∧ r.lastSeenAt < since)).insertionSort
    fun a b => b.lastSeenAt ≤ a.lastSeenAt).take (clampLimit limit)

/-- What the worker writes. An hour that is none is not written. -/
def refreshed (h : CommunicationHistory) (r : CommunicationHistory) : CommunicationHistory :=
  { r with
    count7d := h.count7d
    relationship := h.relationship
    typicalHour := if 0 ≤ h.typicalHour ∧ h.typicalHour < 24 then h.typicalHour else r.typicalHour }

/-- `UpdateCountsIfFresh`: whether the row was still the one that was read. -/
def updateCountsIfFresh (h : CommunicationHistory) (readAt : ℤ) (now : Instant) : Except String (Bool × CommTable) :=
  if h.id = "" then .error "repository: UpdateCountsIfFresh requires a row id"
  else if h.tenantID = "" then .error "repository: UpdateCountsIfFresh requires a tenant id"
  else if readAt = 0 then .error "repository: UpdateCountsIfFresh requires a non-zero readAt"
  else
    match T.get h.key with
    | none => .error "repository: not found"
    | some cur =>
      if cur.updatedAt ≠ readAt then .ok (false, T) else .ok (true, T.retouch now h.key (refreshed h))

/-! ### The table as a map -/

variable {T}

lemma get_key {k : CommKey} {r : CommunicationHistory} (h : T.get k = some r) : r.key = k := by
  simpa using List.find?_some h

/-- **A row is in the table if and only if it is found under its key.** -/
lemma mem_iff_get {r : CommunicationHistory} : r ∈ T.rows ↔ T.get r.key = some r := by
  constructor
  · intro hr
    have hsome : (T.get r.key).isSome := by
      rw [get, List.find?_isSome]
      exact ⟨r, hr, by simp⟩
    obtain ⟨r', hr'⟩ := Option.isSome_iff_exists.mp hsome
    have hmem : r' ∈ T.rows := List.mem_of_find?_eq_some hr'
    rw [hr', List.inj_on_of_nodup_map T.keys_nodup hmem hr (get_key hr')]
  · exact List.mem_of_find?_eq_some

lemma get_retouch (now : Instant) (k k' : CommKey) (f : CommunicationHistory → CommunicationHistory) :
    (T.retouch now k f).get k' =
      if k' = k then (T.get k').map (CommunicationHistory.retouch now f) else T.get k' := by
  have hcomp : ((fun r : CommunicationHistory => decide (r.key = k')) ∘
      fun r => if r.key = k then r.retouch now f else r) = fun r => decide (r.key = k') := by
    funext r
    by_cases h : r.key = k
    · simp [h]
    · simp [h]
  rw [get, get, retouch, List.find?_map, hcomp]
  cases hfind : T.rows.find? fun r => decide (r.key = k') with
  | none => simp
  | some r =>
    have hkey : r.key = k' := by simpa using List.find?_some hfind
    simp only [Option.map_some, hkey]
    by_cases h : k' = k
    · simp [h]
    · simp [h]

lemma get_eq_none {k : CommKey} (hnew : k ∉ T.rows.map (·.key)) : T.get k = none := by
  rw [get, List.find?_eq_none]
  intro r hr
  simpa using fun heq : r.key = k => hnew (heq ▸ List.mem_map_of_mem hr)

lemma get_add {row : CommunicationHistory} (hnew : row.key ∉ T.rows.map (·.key))
    (hstamped : row.id ≠ "" ∧ row.tenantID ≠ "" ∧ row.updatedAt ≠ 0) (k : CommKey) :
    (T.add row hnew hstamped).get k = if k = row.key then some row else T.get k := by
  have hadd : (T.add row hnew hstamped).get k = (T.get k).or ([row].find? fun r => decide (r.key = k)) :=
    List.find?_append
  rw [hadd]
  by_cases hk : k = row.key
  · subst hk
    simp [get_eq_none hnew]
  · simp [hk, Ne.symm hk]

/-- **What `RecordSighting` changes**: the row of its key. -/
lemma get_recordSighting {T' : CommTable} {s : Sighting} {now : Instant} {id : UUID}
    (h : T.recordSighting s now id = .ok T') (k : CommKey) :
    T'.get k = if k = s.key then
        some (match T.get k with
          | some r => r.retouch now (sighted s)
          | none => firstRow s now id)
      else T.get k := by
  unfold recordSighting at h
  split at h
  · cases h
  · split at h
    · cases h
    · split at h
      · cases h
      · split at h
        · next hmem =>
          cases h
          rw [get_retouch]
          by_cases hk : k = s.key
          · subst hk
            obtain ⟨r, hr, hkey⟩ := List.mem_map.mp hmem
            have hget : T.get s.key = some r := by rw [← hkey]; exact mem_iff_get.mp hr
            simp [hget]
          · simp [hk]
        · next hnew =>
          cases h
          refine (get_add _ _ k).trans ?_
          rw [show (firstRow s now id).key = s.key from rfl]
          by_cases hk : k = s.key
          · subst hk
            simp [get_eq_none hnew]
          · simp [hk]

/-- The rows of a tenant. -/
def rowsOf (T : CommTable) (tenantID : String) : List CommunicationHistory := T.rows.filter (·.tenantID = tenantID)

/-- A write leaves the rows of the other tenants alone. -/
lemma rowsOf_retouch {tenantID : String} {k : CommKey} (hne : k.tenantID ≠ tenantID) (now : Instant)
    (f : CommunicationHistory → CommunicationHistory) : (T.retouch now k f).rowsOf tenantID = T.rowsOf tenantID := by
  have hcomp : ((fun r : CommunicationHistory => decide (r.tenantID = tenantID)) ∘
      fun r => if r.key = k then r.retouch now f else r) = fun r => decide (r.tenantID = tenantID) := by
    funext r
    by_cases h : r.key = k
    · simp [h, CommunicationHistory.retouch]
    · simp [h]
  unfold rowsOf retouch
  rw [List.filter_map, hcomp]
  refine (List.map_congr_left fun r hr => ?_).trans (List.map_id _)
  have htenant : r.tenantID = tenantID := by simpa using (List.mem_filter.mp hr).2
  rw [if_neg fun hk : r.key = k => hne (by rw [← hk]; exact htenant)]
  rfl

/-- `ListByTenant` reads the rows of the tenant. -/
lemma listByTenant_congr {T' : CommTable} {tenantID : String} (h : T'.rowsOf tenantID = T.rowsOf tenantID)
    (since limit : ℤ) : T'.listByTenant tenantID since limit = T.listByTenant tenantID since limit := by
  have hfilter : ∀ T : CommTable,
      (T.rows.filter fun r => decide (r.tenantID = tenantID ∧ ¬ (since ≠ 0 ∧ r.lastSeenAt < since))) =
        (T.rowsOf tenantID).filter fun r => decide (¬ (since ≠ 0 ∧ r.lastSeenAt < since)) := by
    intro T
    rw [rowsOf, List.filter_filter]
    refine List.filter_congr fun r _ => ?_
    rw [Bool.and_comm, ← Bool.decide_and]
  unfold listByTenant
  rw [hfilter T', hfilter T, h]

lemma mem_listByTenant {tenantID : String} {since limit : ℤ} {r : CommunicationHistory}
    (h : r ∈ T.listByTenant tenantID since limit) : r ∈ T.rows ∧ r.tenantID = tenantID := by
  have hmem := (List.mem_insertionSort _).mp (List.mem_of_mem_take h)
  obtain ⟨hr, hcond⟩ := List.mem_filter.mp hmem
  exact ⟨hr, (of_decide_eq_true hcond).1⟩

lemma listByTenant_nodup (tenantID : String) (since limit : ℤ) :
    ((T.listByTenant tenantID since limit).map (·.key)).Nodup := by
  have hsort : ((T.rows.filter fun r => r.tenantID = tenantID ∧ ¬ (since ≠ 0 ∧ r.lastSeenAt < since)).insertionSort
      fun a b => b.lastSeenAt ≤ a.lastSeenAt).Perm _ := List.perm_insertionSort _ _
  refine List.Nodup.sublist ((List.take_sublist _ _).map _) ?_
  refine (hsort.map (·.key)).nodup_iff.mpr ?_
  exact T.keys_nodup.sublist (List.filter_sublist.map _)

end CommTable

end Sn360Es.Relationship
