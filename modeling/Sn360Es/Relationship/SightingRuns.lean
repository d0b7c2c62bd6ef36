import Mathlib.Data.List.Perm.Basic
import Sn360Es.Lib.Lts
import Sn360Es.Relationship.Sightings

/-!
# Sightings beside the worker (`internal/repository`: `memoryCommHistory`)

`RecordSighting` takes its time before it waits for the lock, so the rows are not stamped in the order of the times.
`UpdateCountsIfFresh` writes if the row still has the stamp that the worker has read. Its own time is taken under the
lock.

* `Spent` — a timestamp that no write will use again: those of all rows and snapshots;
* `RunInv` — a row with the stamp of a snapshot is that snapshot, and every row tallies its sightings;
* `runInv_step`, `runInv_run` — every step keeps this if the timestamps are distinct;
* `sightings_never_lost` — so no write of the worker hides a sighting.
-/

namespace Sn360Es.Relationship

open Lib.Lts

/-- A row that a worker has read, and the number of sightings that had been recorded by then. -/
structure Snapshot where
  row : CommunicationHistory
  seen : ℕ
  deriving DecidableEq, Repr

/-- The repository and the calls that are under way. -/
structure SightingState where
  table : CommTable := {}
  /-- The calls of `RecordSighting` that have taken their time and wait for the lock. -/
  waiting : List (Sighting × Instant) := []
  snapshots : List Snapshot := []
  /-- The sightings that were recorded, the last of them first. -/
  recorded : List Sighting := []
  /-- The timestamps that were taken. -/
  stamps : List ℤ := []

inductive SightingStep where
  /-- `RecordSighting` checks its sighting and takes its time. -/
  | arrive (s : Sighting) (now : Instant)
  /-- One of the calls that wait gets the lock. -/
  | record (i : ℕ) (id : UUID)
  /-- A worker reads the rows of a tenant, or one row. -/
  | listByTenant (tenantID : String) (since limit : ℤ)
  | get (k : CommKey)
  /-- A worker calls `UpdateCountsIfFresh` for a row that it has read. -/
  | update (i : ℕ) (h : CommunicationHistory) (now : Instant)

namespace SightingState

variable (σ : SightingState)

def snapshot (row : CommunicationHistory) : Snapshot := ⟨row, σ.recorded.length⟩

/-- The sightings of a pair. -/
def sightingsOf (k : CommKey) : List Sighting := σ.recorded.filter fun s => s.key = k

/-- The sightings that were recorded after a snapshot. -/
def recordedSince (p : Snapshot) : List Sighting := σ.recorded.take (σ.recorded.length - p.seen)

def step (σ : SightingState) : SightingStep → Option SightingState
  | .arrive s now =>
    if s.Valid then some { σ with waiting := σ.waiting ++ [(s, now)], stamps := now.1 :: σ.stamps } else some σ
  | .record i id =>
    match σ.waiting[i]? with
    | none => none
    | some (s, now) =>
      match σ.table.recordSighting s now id with
      | .error _ => some { σ with waiting := σ.waiting.eraseIdx i }
      | .ok T => some { σ with table := T, waiting := σ.waiting.eraseIdx i, recorded := s :: σ.recorded }
  | .listByTenant tenantID since limit =>
    some { σ with snapshots := (σ.table.listByTenant tenantID since limit).map σ.snapshot ++ σ.snapshots }
  | .get k => some { σ with snapshots := (σ.table.get k).toList.map σ.snapshot ++ σ.snapshots }
  | .update i h now =>
    match σ.snapshots[i]? with
    | none => none
    | some p =>
      if h.key ≠ p.row.key then none
      else
        match σ.table.updateCountsIfFresh h p.row.updatedAt now with
        | .error _ | .ok (false, _) => some σ
        | .ok (true, T) => some { σ with table := T, stamps := now.1 :: σ.stamps }

/-- The tenant whose row a step may write. -/
def tenantOf : SightingStep → Option String
  | .record i _ => (σ.waiting[i]?).map fun w => w.1.tenantID
  | .update _ h _ => some h.tenantID
  | _ => none

/-- A timestamp that was taken and that no call is going to write. -/
def Spent (t : ℤ) : Prop := t ∈ σ.stamps ∧ ∀ w ∈ σ.waiting, w.2.1 ≠ t

end SightingState

/-- The row is what the snapshot says, and no sighting of it has come since. -/
def Unchanged (σ : SightingState) (p : Snapshot) (r : CommunicationHistory) : Prop :=
  r = p.row ∧ ∀ s ∈ σ.recordedSince p, s.key ≠ p.row.key

/-- What holds in every state. -/
structure RunInv (σ : SightingState) : Prop where
  waiting_mem : ∀ w ∈ σ.waiting, w.2.1 ∈ σ.stamps
  waiting_nodup : (σ.waiting.map fun w => w.2.1).Nodup
  rows : ∀ k r, σ.table.get k = some r → σ.Spent r.updatedAt
  spent : ∀ p ∈ σ.snapshots, σ.Spent p.row.updatedAt
  seen : ∀ p ∈ σ.snapshots, p.seen ≤ σ.recorded.length
  fresh : ∀ p ∈ σ.snapshots, ∀ r, σ.table.get p.row.key = some r → r.updatedAt = p.row.updatedAt → Unchanged σ p r
  tallied : ∀ k, (σ.table.get k = none ∧ σ.sightingsOf k = []) ∨
    ∃ r, σ.table.get k = some r ∧ Tallied (σ.sightingsOf k) r

/-! ### The steps -/

section Steps

variable {σ : SightingState}

lemma Spent.of_le {σ' : SightingState} {t : ℤ} (h : σ.Spent t) (hstamps : ∀ u ∈ σ.stamps, u ∈ σ'.stamps)
    (hwaiting : ∀ w ∈ σ'.waiting, w ∈ σ.waiting) : σ'.Spent t :=
  ⟨hstamps t h.1, fun w hw => h.2 w (hwaiting w hw)⟩

lemma runInv_arrive (hinv : RunInv σ) (s : Sighting) {now : Instant} (hnew : now.1 ∉ σ.stamps) :
    RunInv { σ with waiting := σ.waiting ++ [(s, now)], stamps := now.1 :: σ.stamps } := by
  have hspent : ∀ t, σ.Spent t →
      SightingState.Spent { σ with waiting := σ.waiting ++ [(s, now)], stamps := now.1 :: σ.stamps } t := by
    intro t ht
    refine ⟨List.mem_cons_of_mem _ ht.1, fun w hw => ?_⟩
    rcases List.mem_append.mp hw with hw | hw
    · exact ht.2 w hw
    · rw [List.mem_singleton.mp hw]
      exact fun heq => hnew (heq ▸ ht.1)
  constructor
  case waiting_mem =>
    intro w hw
    rcases List.mem_append.mp hw with hw | hw
    · exact List.mem_cons_of_mem _ (hinv.waiting_mem w hw)
    · rw [List.mem_singleton.mp hw]
      exact List.mem_cons_self
  case waiting_nodup =>
    rw [List.map_append, List.map_singleton, List.nodup_append']
    refine ⟨hinv.waiting_nodup, List.nodup_singleton _, ?_⟩
    rw [List.disjoint_singleton]
    intro hmem
    obtain ⟨w, hw, hweq⟩ := List.mem_map.mp hmem
    exact hnew (hweq ▸ hinv.waiting_mem w hw)
  case rows => exact fun k r hr => hspent _ (hinv.rows k r hr)
  case spent => exact fun p hp => hspent _ (hinv.spent p hp)
  case seen => exact hinv.seen
  case fresh => exact hinv.fresh
  case tallied => exact hinv.tallied

/-- Rows that are read as they stand. -/
lemma runInv_read (hinv : RunInv σ) {rows : List CommunicationHistory}
    (hrows : ∀ r ∈ rows, σ.table.get r.key = some r) :
    RunInv { σ with snapshots := rows.map σ.snapshot ++ σ.snapshots } := by
  constructor
  case waiting_mem => exact hinv.waiting_mem
  case waiting_nodup => exact hinv.waiting_nodup
  case rows => exact hinv.rows
  case spent =>
    intro p hp
    rcases List.mem_append.mp hp with hp | hp
    · obtain ⟨r, hr, rfl⟩ := List.mem_map.mp hp
      exact hinv.rows r.key r (hrows r hr)
    · exact hinv.spent p hp
  case seen =>
    intro p hp
    rcases List.mem_append.mp hp with hp | hp
    · obtain ⟨r, -, rfl⟩ := List.mem_map.mp hp
      exact le_refl _
    · exact hinv.seen p hp
  case fresh =>
    intro p hp r hget hstamp
    rcases List.mem_append.mp hp with hp | hp
    · obtain ⟨r', hr', rfl⟩ := List.mem_map.mp hp
      refine ⟨Option.some.inj (hget.symm.trans (hrows r' hr')), fun s hs => ?_⟩
      -- nothing has been recorded since
      have hnone : σ.recordedSince (σ.snapshot r') = [] := by
        show σ.recorded.take (σ.recorded.length - σ.recorded.length) = []
        rw [Nat.sub_self, List.take_zero]
      have hs' : s ∈ σ.recordedSince (σ.snapshot r') := hs
      rw [hnone] at hs'
      cases hs'
    · exact hinv.fresh p hp r hget hstamp
  case tallied => exact hinv.tallied

lemma recordedSince_cons {p : Snapshot} (hseen : p.seen ≤ σ.recorded.length) {T : CommTable}
    {waiting : List (Sighting × Instant)} {s : Sighting} : SightingState.recordedSince
      { σ with table := T, waiting := waiting, recorded := s :: σ.recorded } p = s :: σ.recordedSince p := by
  show (s :: σ.recorded).take (σ.recorded.length + 1 - p.seen) = _
  rw [Nat.succ_sub hseen, List.take_succ_cons]
  rfl

/-- No other call waits with the timestamp of one. -/
lemma ne_of_mem_eraseIdx {ws : List (Sighting × Instant)} (hnodup : (ws.map fun w => w.2.1).Nodup) {i : ℕ}
    {x : Sighting × Instant} (hi : ws[i]? = some x) : ∀ w ∈ ws.eraseIdx i, w.2.1 ≠ x.2.1 := by
  obtain ⟨hlt, rfl⟩ := List.getElem?_eq_some_iff.mp hi
  have hperm := ((List.getElem_cons_eraseIdx_perm hlt).map fun w : Sighting × Instant => w.2.1).nodup_iff.mpr hnodup
  rw [List.map_cons, List.nodup_cons] at hperm
  intro w hw heq
  exact hperm.1 (heq ▸ List.mem_map_of_mem hw)

/-- A call that fails leaves its timestamp unused. -/
lemma runInv_drop (hinv : RunInv σ) (i : ℕ) : RunInv { σ with waiting := σ.waiting.eraseIdx i } := by
  have hsub : ∀ w ∈ σ.waiting.eraseIdx i, w ∈ σ.waiting := fun w hw => List.mem_of_mem_eraseIdx hw
  have hspent : ∀ t, σ.Spent t → SightingState.Spent { σ with waiting := σ.waiting.eraseIdx i } t :=
    fun t ht => Spent.of_le ht (fun _ hu => hu) hsub
  constructor
  case waiting_mem => exact fun w hw => hinv.waiting_mem w (hsub w hw)
  case waiting_nodup => exact hinv.waiting_nodup.sublist ((List.eraseIdx_sublist _ _).map _)
  case rows => exact fun k r hr => hspent _ (hinv.rows k r hr)
  case spent => exact fun p hp => hspent _ (hinv.spent p hp)
  case seen => exact hinv.seen
  case fresh => exact hinv.fresh
  case tallied => exact hinv.tallied

/-- The call that gets the lock writes a timestamp that is no longer waiting. -/
lemma runInv_record (hinv : RunInv σ) {i : ℕ} {s : Sighting} {now : Instant} {id : UUID} {T : CommTable}
    (hi : σ.waiting[i]? = some (s, now)) (hrec : σ.table.recordSighting s now id = .ok T) :
    RunInv { σ with table := T, waiting := σ.waiting.eraseIdx i, recorded := s :: σ.recorded } := by
  have hmem : (s, now) ∈ σ.waiting := List.mem_of_getElem? hi
  have hdrop := runInv_drop hinv i
  have hget := CommTable.get_upserted hrec
  constructor
  case waiting_mem => exact hdrop.waiting_mem
  case waiting_nodup => exact hdrop.waiting_nodup
  case rows =>
    intro k r hr
    rw [hget] at hr
    split_ifs at hr with hk
    · cases hr
      rw [CommTable.upserted_updatedAt]
      exact ⟨hinv.waiting_mem _ hmem, ne_of_mem_eraseIdx hinv.waiting_nodup hi⟩
    · exact hdrop.rows k r hr
  case spent => exact hdrop.spent
  case seen => exact fun p hp => (hinv.seen p hp).trans (Nat.le_succ _)
  case fresh =>
    intro p hp r hr hstamp
    rw [hget] at hr
    split_ifs at hr with hk
    · -- the new stamp is not that of the snapshot
      cases hr
      rw [CommTable.upserted_updatedAt] at hstamp
      exact absurd hstamp ((hinv.spent p hp).2 _ hmem)
    · obtain ⟨hrow, hsince⟩ := hinv.fresh p hp r hr hstamp
      refine ⟨hrow, fun s' hs' => ?_⟩
      rcases List.mem_cons.mp (recordedSince_cons (hinv.seen p hp) ▸ hs') with rfl | hs'
      · exact fun heq => hk heq.symm
      · exact hsince s' hs'
  case tallied =>
    intro k
    have hcons : SightingState.sightingsOf
        { σ with table := T, waiting := σ.waiting.eraseIdx i, recorded := s :: σ.recorded } k =
        if s.key = k then s :: σ.sightingsOf k else σ.sightingsOf k := by
      simp only [SightingState.sightingsOf, List.filter_cons, decide_eq_true_eq]
    rw [hcons]
    show (T.get k = none ∧ _) ∨ ∃ r, T.get k = some r ∧ _
    rw [hget]
    by_cases hk : k = s.key
    · rw [if_pos hk, if_pos hk.symm]
      refine Or.inr ⟨_, rfl, ?_⟩
      rcases hinv.tallied k with ⟨hnone, hnil⟩ | ⟨r, hr, htally⟩
      · rw [hnone, hnil]
        exact Tallied.first s now id
      · rw [hr]
        exact htally.sighted s now
    · rw [if_neg hk, if_neg (Ne.symm hk)]
      exact hinv.tallied k

/-- What a write of the worker finds and leaves. -/
lemma updateCountsIfFresh_eq_true {T T' : CommTable} {h : CommunicationHistory} {readAt : ℤ} {now : Instant}
    (hupdate : T.updateCountsIfFresh h readAt now = .ok (true, T')) :
    ∃ r, T.get h.key = some r ∧ r.updatedAt = readAt ∧ T' = T.retouch now h.key (CommTable.refreshed h) := by
  unfold CommTable.updateCountsIfFresh at hupdate
  split_ifs at hupdate
  cases hget : T.get h.key with
  | none =>
    rw [hget] at hupdate
    cases hupdate
  | some r =>
    rw [hget] at hupdate
    simp only at hupdate
    split_ifs at hupdate with hstamp
    · cases hupdate
    · cases hupdate
      exact ⟨r, rfl, not_not.mp hstamp, rfl⟩

lemma runInv_update (hinv : RunInv σ) {h : CommunicationHistory} {now : Instant} (hnew : now.1 ∉ σ.stamps) :
    RunInv { σ with table := σ.table.retouch now h.key (CommTable.refreshed h), stamps := now.1 :: σ.stamps } := by
  have hspent : ∀ t, σ.Spent t → SightingState.Spent
      { σ with table := σ.table.retouch now h.key (CommTable.refreshed h), stamps := now.1 :: σ.stamps } t :=
    fun t ht => Spent.of_le ht (fun _ hu => List.mem_cons_of_mem _ hu) fun _ hw => hw
  have hget : ∀ k, (σ.table.retouch now h.key (CommTable.refreshed h)).get k = if k = h.key then
      (σ.table.get k).map (CommunicationHistory.retouch now (CommTable.refreshed h)) else σ.table.get k :=
    fun k => CommTable.get_retouch now h.key k _
  constructor
  case waiting_mem => exact fun w hw => List.mem_cons_of_mem _ (hinv.waiting_mem w hw)
  case waiting_nodup => exact hinv.waiting_nodup
  case rows =>
    intro k r hr
    rw [hget] at hr
    split_ifs at hr with hk
    · obtain ⟨r', -, rfl⟩ := Option.map_eq_some_iff.mp hr
      refine ⟨List.mem_cons_self, fun w hw heq => hnew ?_⟩
      have hstamp : w.2.1 = now.1 := heq
      exact hstamp ▸ hinv.waiting_mem w hw
    · exact hspent _ (hinv.rows k r hr)
  case spent => exact fun p hp => hspent _ (hinv.spent p hp)
  case seen => exact hinv.seen
  case fresh =>
    intro p hp r hr hstamp
    rw [hget] at hr
    split_ifs at hr with hk
    · obtain ⟨r', -, rfl⟩ := Option.map_eq_some_iff.mp hr
      exact absurd ((hinv.spent p hp).1) (hstamp ▸ hnew)
    · exact hinv.fresh p hp r hr hstamp
  case tallied =>
    intro k
    show (CommTable.get _ k = none ∧ σ.sightingsOf k = []) ∨
      ∃ r, CommTable.get _ k = some r ∧ Tallied (σ.sightingsOf k) r
    rw [hget]
    by_cases hk : k = h.key
    · rw [if_pos hk]
      rcases hinv.tallied k with ⟨hnone, hnil⟩ | ⟨r, hr, htally⟩
      · exact Or.inl ⟨by rw [hnone]; rfl, hnil⟩
      · rw [hr]
        exact Or.inr ⟨_, rfl, htally.count30d, htally.latest⟩
    · rw [if_neg hk]
      exact hinv.tallied k

/-- A step takes at most one timestamp. -/
lemma stamps_step {σ' : SightingState} {a : SightingStep} (hstep : σ.step a = some σ') : σ.stamps <:+ σ'.stamps := by
  cases a with
  | arrive s now =>
    simp only [SightingState.step] at hstep
    split_ifs at hstep
    · cases hstep
      exact List.suffix_cons _ _
    · cases hstep
      exact List.suffix_refl _
  | record i id =>
    simp only [SightingState.step] at hstep
    split at hstep
    · cases hstep
    · split at hstep <;> cases hstep <;> exact List.suffix_refl _
  | listByTenant tenantID since limit =>
    cases hstep
    exact List.suffix_refl _
  | get k =>
    cases hstep
    exact List.suffix_refl _
  | update i h now =>
    simp only [SightingState.step] at hstep
    split at hstep
    · cases hstep
    · split_ifs at hstep
      split at hstep <;> cases hstep
      · exact List.suffix_refl _
      · exact List.suffix_refl _
      · exact List.suffix_cons _ _

/-- **Every step keeps the invariant** if its timestamp is a new one. -/
lemma runInv_step {σ' : SightingState} {a : SightingStep} (hinv : RunInv σ) (hstep : σ.step a = some σ')
    (hdistinct : σ'.stamps.Nodup) : RunInv σ' := by
  cases a with
  | arrive s now =>
    simp only [SightingState.step] at hstep
    split_ifs at hstep
    · cases hstep
      exact runInv_arrive hinv s (List.nodup_cons.mp hdistinct).1
    · cases hstep
      exact hinv
  | record i id =>
    simp only [SightingState.step] at hstep
    split at hstep
    · cases hstep
    · next s now hi =>
      split at hstep
      · cases hstep
        exact runInv_drop hinv i
      · next T hrec =>
        cases hstep
        exact runInv_record hinv hi hrec
  | listByTenant tenantID since limit =>
    cases hstep
    exact runInv_read hinv fun r hr => CommTable.mem_iff_get.mp (CommTable.mem_listByTenant hr).1
  | get k =>
    cases hstep
    refine runInv_read hinv fun r hr => ?_
    have hget : σ.table.get k = some r := Option.mem_toList.mp hr
    rw [CommTable.get_key hget]
    exact hget
  | update i h now =>
    simp only [SightingState.step] at hstep
    split at hstep
    · cases hstep
    · split_ifs at hstep
      split at hstep
      · cases hstep
        exact hinv
      · cases hstep
        exact hinv
      · next T hupdate =>
        cases hstep
        obtain ⟨r, -, -, rfl⟩ := updateCountsIfFresh_eq_true hupdate
        exact runInv_update hinv (List.nodup_cons.mp hdistinct).1

end Steps

lemma runInv_init : RunInv {} where
  waiting_mem := nofun
  waiting_nodup := List.nodup_nil
  rows := nofun
  spent := nofun
  seen := nofun
  fresh := nofun
  tallied _ := Or.inl ⟨rfl, rfl⟩

/-- **The invariant of every run** with distinct timestamps. -/
lemma runInv_run {as : List SightingStep} {σ : SightingState} (hrun : run SightingState.step {} as = some σ) :
    σ.stamps.Nodup → RunInv σ := by
  refine reach_induct (I := fun σ => σ.stamps.Nodup → RunInv σ) ?_ (fun _ => runInv_init) ⟨as, hrun⟩
  intro σ a σ' hI hstep hdistinct
  exact runInv_step (hI (hdistinct.sublist (stamps_step hstep).sublist)) hstep hdistinct

/-- A step writes rows of one tenant only. -/
lemma get_step_of_ne {σ σ' : SightingState} {a : SightingStep} (hstep : σ.step a = some σ') {k : CommKey}
    (hk : k.tenantID ∉ σ.tenantOf a) : σ'.table.get k = σ.table.get k := by
  cases a with
  | arrive s now =>
    simp only [SightingState.step] at hstep
    split_ifs at hstep <;> cases hstep <;> rfl
  | record i id =>
    simp only [SightingState.step] at hstep
    split at hstep
    · cases hstep
    · next s now hi =>
      split at hstep
      · cases hstep
        rfl
      · next T hrec =>
        cases hstep
        refine (CommTable.get_upserted hrec k).trans (if_neg fun hkey => hk ?_)
        rw [SightingState.tenantOf, hi, hkey]
        rfl
  | listByTenant tenantID since limit =>
    cases hstep
    rfl
  | get k' =>
    cases hstep
    rfl
  | update i h now =>
    simp only [SightingState.step] at hstep
    split at hstep
    · cases hstep
    · split_ifs at hstep
      split at hstep
      · cases hstep
        rfl
      · cases hstep
        rfl
      · next T hupdate =>
        cases hstep
        obtain ⟨r, -, -, rfl⟩ := updateCountsIfFresh_eq_true hupdate
        refine (CommTable.get_retouch now h.key k _).trans (if_neg fun hkey => hk ?_)
        rw [hkey]
        rfl

/-- In every state of every interleaving with distinct timestamps each row counts the sightings of its pair and has the
last of their instants, a write of the worker that succeeds finds the row that the worker has read, with no sighting
since, and a step leaves the rows of the other tenants alone. -/
theorem sightings_never_lost {as : List SightingStep} {σ : SightingState}
    (hrun : run SightingState.step {} as = some σ) (hdistinct : σ.stamps.Nodup) :
    (∀ k r, σ.table.get k = some r → r.count30d = (σ.sightingsOf k).length ∧
        IsGreatest {t | ∃ s ∈ σ.sightingsOf k, s.sentAt = t} r.lastSeenAt) ∧
      (∀ s ∈ σ.recorded, ∃ r, σ.table.get s.key = some r) ∧
      (∀ p ∈ σ.snapshots, ∀ h now T, h.key = p.row.key →
        σ.table.updateCountsIfFresh h p.row.updatedAt now = .ok (true, T) →
        σ.table.get h.key = some p.row ∧ ∀ s ∈ σ.recordedSince p, s.key ≠ h.key) ∧
      ∀ a σ', σ.step a = some σ' → ∀ k : CommKey, k.tenantID ∉ σ.tenantOf a → σ'.table.get k = σ.table.get k := by
  have hinv := runInv_run hrun hdistinct
  refine ⟨fun k r hr => ?_, fun s hs => ?_, fun p hp h now T hkey hupdate => ?_,
    fun a σ' hstep k => get_step_of_ne hstep⟩
  · rcases hinv.tallied k with ⟨hnone, -⟩ | ⟨r', hr', htally⟩
    · rw [hnone] at hr
      cases hr
    · rw [hr'] at hr
      cases hr
      exact ⟨htally.count30d, htally.latest⟩
  · rcases hinv.tallied s.key with ⟨-, hnil⟩ | ⟨r, hr, -⟩
    · exact absurd (List.mem_filter.mpr ⟨hs, decide_eq_true rfl⟩) (List.eq_nil_iff_forall_not_mem.mp hnil s)
    · exact ⟨r, hr⟩
  · obtain ⟨r, hr, hstamp, -⟩ := updateCountsIfFresh_eq_true hupdate
    rw [hkey] at hr ⊢
    obtain ⟨rfl, hsince⟩ := hinv.fresh p hp r hr hstamp
    exact ⟨hr, hsince⟩

/-- The first call to take its time is the last to get the lock, while a worker holds a snapshot. -/
def overtaken : List SightingStep :=
  [.arrive (sightedAt 5).sighting ⟨7, by decide⟩, .arrive (sightedAt 3).sighting ⟨8, by decide⟩, .record 1 default,
    .get ⟨"t", [1], [2]⟩, .record 0 default,
    .update 0 { CommTable.firstRow (sightedAt 3).sighting default default with count7d := 0 } ⟨9, by decide⟩]

theorem sightings_overtaken : (run SightingState.step {} overtaken).isSome ∧
    ∀ σ ∈ run SightingState.step {} overtaken, σ.stamps.Nodup ∧
      (σ.table.get ⟨"t", [1], [2]⟩).map (fun r => (r.count7d, r.lastSeenAt, r.updatedAt)) = some (2, 5, 7) ∧
      ∀ r, σ.table.get ⟨"t", [1], [2]⟩ = some r → r.count30d = (σ.sightingsOf ⟨"t", [1], [2]⟩).length := by
  have hstamps : ∀ σ ∈ run SightingState.step {} overtaken, σ.stamps.Nodup := by decide
  have hrow : ∀ σ ∈ run SightingState.step {} overtaken, (σ.table.get ⟨"t", [1], [2]⟩).map
      (fun r => (r.count7d, r.lastSeenAt, r.updatedAt)) = some (2, 5, 7) := by decide
  refine ⟨by decide, fun σ hσ => ⟨hstamps σ hσ, hrow σ hσ, fun r hr => ?_⟩⟩
  exact ((sightings_never_lost hσ (hstamps σ hσ)).1 _ r hr).1

end Sn360Es.Relationship
