import Sn360Es.Config.ScoreEngine
import Sn360Es.Lib.Record

/-!
# Reading the configuration while it is written

Any number of loads and updates of any tenants, interleaved operation by operation. The run is recorded: an
operation has a time, and the table at a time can be looked up. A load that misses the cache reads the row and
stores it later, so that an update can come in between.

* `config_run_recorded` — recording changes nothing: every run of the calls is one of those;
* `keeps_load`, `keeps_writeConfig_recorded` — what the cache serves is at least as new as every update that has
  invalidated it, as long as no load stores a row that such an update has replaced;
* `no_stale_config` — so a load that starts after an update has returned yields values at least as new;
* `stale_config_cached` — a load that reads before the update and stores after its `Invalidate`.
-/

namespace Sn360Es.Config

open Lib Sn360Es.Evaluate

/-! ### Phases -/

/-- Where a call stands. The first number of a load is the time of its `lookup`, that of an update the time of its
write; then come those of the `Get` and of the `Invalidate`. -/
inductive ConfigPhase where
  | idle
  | looked (tenantID : String) (start : ℕ)
  | hit (tenantID : String) (start : ℕ) (value : TenantScoringConfig)
  | read (tenantID : String) (start readAt : ℕ) (row : Option ScoreEngine)
  | wrote (tenantID : String) (wroteAt : ℕ)
  | settled (tenantID : String) (wroteAt settledAt : ℕ)
  deriving DecidableEq, Repr

def ConfigPhase.next : ConfigPhase → (o : ConfigOp) → Stamped ConfigOp.Ans o → ConfigPhase
  | _, .lookup tenantID, (t, some entry) => .hit tenantID t entry.value
  | _, .lookup tenantID, (t, none) => .looked tenantID t
  | .looked tenantID l, .get _, (t, .ok row) => .read tenantID l t (some row)
  | .looked tenantID l, .get _, (t, .error .notFound) => .read tenantID l t none
  | .read tenantID l t row, .storeFull _ _ _, _ => .read tenantID l t row
  | _, .update tenantID _, (t, none) => .wrote tenantID t
  | _, .upsert row, (t, none) => .wrote row.tenantID t
  | .wrote tenantID t, .invalidate _, (i, _) => .settled tenantID t i
  | _, _, _ => .idle

/-- The update has invalidated the cache, and it wrote after the `Get` of the load. -/
def ConfigPhase.Overtakes : ConfigPhase → ConfigPhase → Prop
  | .settled tenantID t _, .read tenantID' _ t' _ => tenantID = tenantID' ∧ t' ≤ t
  | _, _ => False

/-- The condition on a `storeFull`: no update has overtaken the call. -/
def StoresCurrent (gs : List ConfigPhase) (n : ℕ) : ConfigOp → Prop
  | .storeFull _ _ _ => ∀ g ∈ gs[n]?, ∀ u ∈ gs, ¬ u.Overtakes g
  | _ => True

/-- What the cache and the loads have is at least as new as the updates that were settled before. -/
structure FreshInv (w : Recorded ConfigWorld) (gs : List ConfigPhase) : Prop where
  cached : ∀ tenantID entry, w.now.cache tenantID = some entry → ∃ m s, w.atTime m = some s ∧
    (entry.value, entry.tier2Provider) = configOf (s.table.rows tenantID) ∧
    ∀ τ i, .settled tenantID τ i ∈ gs → τ < m
  hits : ∀ tenantID l v, .hit tenantID l v ∈ gs → l < w.time ∧ ∃ m s, w.atTime m = some s ∧
    v = (configOf (s.table.rows tenantID)).1 ∧ ∀ τ i, .settled tenantID τ i ∈ gs → i < l → τ < m
  misses : ∀ tenantID l, .looked tenantID l ∈ gs → l < w.time
  reads : ∀ tenantID l t row, .read tenantID l t row ∈ gs → l < t ∧ ∃ s, w.atTime t = some s ∧
    s.table.rows tenantID = row
  writes : ∀ tenantID t, .wrote tenantID t ∈ gs → t < w.time
  settles : ∀ tenantID t i, .settled tenantID t i ∈ gs → t < i ∧ i < w.time

def freshTracker (ttl : ℤ) :
    Tracker ConfigOp (Stamped ConfigOp.Ans) (Recorded ConfigWorld) ConfigEnv ConfigPhase where
  exec := record (ConfigOp.exec ttl)
  start := .idle
  next := ConfigPhase.next
  allows _ gs n o _ := StoresCurrent gs n o
  inv := FreshInv

section Keeps

variable {ttl : ℤ} {w : Recorded ConfigWorld} {gs : List ConfigPhase} {n : ℕ} {g g' : ConfigPhase}

/-- What an operation has to show: where a new entry of the cache, a new phase come from. -/
structure FreshStep (w : Recorded ConfigWorld) (gs : List ConfigPhase) (g : ConfigPhase) (s' : ConfigWorld)
    (g' : ConfigPhase) : Prop where
  cache : ∀ tenantID entry, s'.cache tenantID = some entry → w.now.cache tenantID = some entry ∨
    ∃ m s, w.atTime m = some s ∧ (entry.value, entry.tier2Provider) = configOf (s.table.rows tenantID) ∧
      ∀ τ i, .settled tenantID τ i ∈ gs → τ < m
  hit : ∀ tenantID l v, g' = .hit tenantID l v → l = w.time ∧ ∃ entry, w.now.cache tenantID = some entry ∧
    v = entry.value
  miss : ∀ tenantID l, g' = .looked tenantID l → l = w.time
  read : ∀ tenantID l t row, g' = .read tenantID l t row → g = .read tenantID l t row ∨
    l < t ∧ t = w.time ∧ w.now.table.rows tenantID = row
  wrote : ∀ tenantID t, g' = .wrote tenantID t → t = w.time
  settled : ∀ tenantID t i, g' = .settled tenantID t i → t < i ∧ i = w.time ∧ s'.cache tenantID = none

/-- **The step lemma.** -/
lemma FreshInv.step (h : FreshInv w gs) (hn : gs[n]? = some g) {s' : ConfigWorld} (hs : FreshStep w gs g s' g') :
    FreshInv (w.push s') (gs.set n g') := by
  refine ⟨fun tenantID entry hentry => ?_, fun tenantID l v hmem => ?_, fun tenantID l hmem => ?_,
    fun tenantID l t row hmem => ?_, fun tenantID t hmem => ?_, fun tenantID t i hmem => ?_⟩
  · obtain ⟨m, s, hm, hval, hset⟩ : ∃ m s, w.atTime m = some s ∧
        (entry.value, entry.tier2Provider) = configOf (s.table.rows tenantID) ∧
        ∀ τ i, .settled tenantID τ i ∈ gs → τ < m := by
      rcases hs.cache tenantID entry hentry with hold | hnew
      · exact h.cached tenantID entry hold
      · exact hnew
    refine ⟨m, s, Recorded.atTime_push hm, hval, fun τ i hmem => ?_⟩
    rcases List.mem_or_eq_of_mem_set hmem with hold | hnew
    · exact hset τ i hold
    · have hnone := (hs.settled tenantID τ i hnew.symm).2.2
      rw [Recorded.push_now, hnone] at hentry
      cases hentry
  · rw [Recorded.time_push]
    rcases List.mem_or_eq_of_mem_set hmem with hold | hnew
    · obtain ⟨hl, m, s, hm, hval, hset⟩ := h.hits tenantID l v hold
      refine ⟨by omega, m, s, Recorded.atTime_push hm, hval, fun τ i hmem' hi => ?_⟩
      rcases List.mem_or_eq_of_mem_set hmem' with hold' | hnew'
      · exact hset τ i hold' hi
      · have := (hs.settled tenantID τ i hnew'.symm).2.1
        omega
    · obtain ⟨rfl, entry, hentry, rfl⟩ := hs.hit tenantID l v hnew.symm
      obtain ⟨m, s, hm, hval, hset⟩ := h.cached tenantID entry hentry
      refine ⟨by omega, m, s, Recorded.atTime_push hm, congrArg Prod.fst hval, fun τ i hmem' hi => ?_⟩
      rcases List.mem_or_eq_of_mem_set hmem' with hold' | hnew'
      · exact hset τ i hold'
      · have := (hs.settled tenantID τ i hnew'.symm).2.1
        omega
  · rw [Recorded.time_push]
    rcases List.mem_or_eq_of_mem_set hmem with hold | hnew
    · have := h.misses tenantID l hold
      omega
    · have := hs.miss tenantID l hnew.symm
      omega
  · have hold : ∀ x, .read tenantID l t row = x → x ∈ gs → l < t ∧ ∃ s, (w.push s').atTime t = some s ∧
        s.table.rows tenantID = row := by
      rintro x rfl hx
      obtain ⟨hlt, s, hs, hrow⟩ := h.reads tenantID l t row hx
      exact ⟨hlt, s, Recorded.atTime_push hs, hrow⟩
    rcases List.mem_or_eq_of_mem_set hmem with hmem | hnew
    · exact hold _ rfl hmem
    · rcases hs.read tenantID l t row hnew.symm with rfl | ⟨hlt, rfl, hrow⟩
      · exact hold _ rfl (List.mem_of_getElem? hn)
      · exact ⟨hlt, w.now, Recorded.atTime_push Recorded.atTime_now, hrow⟩
  · rw [Recorded.time_push]
    rcases List.mem_or_eq_of_mem_set hmem with hold | hnew
    · have := h.writes tenantID t hold
      omega
    · have := hs.wrote tenantID t hnew.symm
      omega
  · rw [Recorded.time_push]
    rcases List.mem_or_eq_of_mem_set hmem with hold | hnew
    · have := h.settles tenantID t i hold
      omega
    · have := hs.settled tenantID t i hnew.symm
      omega

/-- An operation that leaves the cache alone, and a phase of no interest. -/
lemma freshStep_idle {s' : ConfigWorld} (hcache : s'.cache = w.now.cache) : FreshStep w gs g s' .idle :=
  ⟨fun _ _ h => .inl (hcache ▸ h), fun _ _ _ => nofun, fun _ _ => nofun, fun _ _ _ _ => nofun, fun _ _ => nofun,
    fun _ _ _ => nofun⟩

lemma freshStep_wrote {s' : ConfigWorld} {tenantID : String} (hcache : s'.cache = w.now.cache) :
    FreshStep w gs g s' (.wrote tenantID w.time) := by
  refine ⟨fun _ _ h => .inl (hcache ▸ h), fun _ _ _ => nofun, fun _ _ => nofun, fun _ _ _ _ => nofun,
    fun _ _ h => ?_, fun _ _ _ => nofun⟩
  cases h
  rfl

variable {tenantID : String}

lemma keeps_lookup {Q : Option CacheEntry → ConfigPhase → Prop}
    (hhit : ∀ l entry, Q (some entry) (.hit tenantID l entry.value)) (hmiss : ∀ l, Q none (.looked tenantID l)) :
    (freshTracker ttl).Keeps (ConfigM.lookup tenantID).stamp .idle Q := by
  refine Tracker.keeps_stamp_perform rfl fun e w gs n hinv hn _ a s' hexec => ?_
  obtain ⟨ha, rfl⟩ := Prod.mk.inj hexec
  cases a with
  | none =>
    refine ⟨FreshInv.step hinv hn ⟨fun _ _ h => .inl h, fun _ _ _ => nofun, fun _ _ h => ?_, fun _ _ _ _ => nofun,
      fun _ _ => nofun, fun _ _ _ => nofun⟩, hmiss _⟩
    cases h
    rfl
  | some entry =>
    have hentry : w.now.cache tenantID = some entry := (Option.filter_eq_some_iff.mp ha).1
    refine ⟨FreshInv.step hinv hn ⟨fun _ _ h => .inl h, fun _ _ _ h => ?_, fun _ _ => nofun, fun _ _ _ _ => nofun,
      fun _ _ => nofun, fun _ _ _ => nofun⟩, hhit _ entry⟩
    cases h
    exact ⟨rfl, entry, hentry, rfl⟩

lemma keeps_get_looked {l : ℕ} {Q : Except RepoError ScoreEngine → ConfigPhase → Prop}
    (hok : ∀ t row, Q (.ok row) (.read tenantID l t (some row)))
    (hnone : ∀ t, Q (.error .notFound) (.read tenantID l t none)) (hfail : ∀ err, Q (.error (.failed err)) .idle) :
    (freshTracker ttl).Keeps (ConfigM.get tenantID).stamp (.looked tenantID l) Q := by
  refine Tracker.keeps_stamp_perform rfl fun e w gs n hinv hn _ a s' hexec => ?_
  have hl : l < w.time := FreshInv.misses hinv tenantID l (List.mem_of_getElem? hn)
  have hread : ∀ row, w.now.table.rows tenantID = row →
      FreshStep w gs (.looked tenantID l) (w.now.pass e) (.read tenantID l w.time row) := by
    intro row hrow
    refine ⟨fun _ _ h => .inl h, fun _ _ _ => nofun, fun _ _ => nofun, fun _ _ _ _ h => ?_, fun _ _ => nofun,
      fun _ _ _ => nofun⟩
    cases h
    exact .inr ⟨hl, rfl, hrow⟩
  obtain ⟨rfl, ⟨err, rfl⟩ | ⟨rfl, hrow⟩ | ⟨row, rfl, hrow, -⟩⟩ := exec_get_cases ttl hexec
  · exact ⟨FreshInv.step hinv hn (freshStep_idle rfl), hfail err⟩
  · exact ⟨FreshInv.step hinv hn (hread none hrow), hnone _⟩
  · exact ⟨FreshInv.step hinv hn (hread (some row) hrow), hok _ row⟩

/-- **A store**: the row is that of the call's `Get`, which no settled update has overtaken. -/
lemma keeps_storeFull {l t : ℕ} {row : Option ScoreEngine} {Q : Unit → ConfigPhase → Prop}
    (h : Q () (.read tenantID l t row)) :
    (freshTracker ttl).Keeps (ConfigM.storeFull tenantID (configOf row).1 (configOf row).2).stamp
      (.read tenantID l t row) Q := by
  refine Tracker.keeps_stamp_perform rfl fun e w gs n hinv hn hok a s' hexec => ?_
  cases hexec
  obtain ⟨-, s, hs, hrow⟩ := FreshInv.reads hinv tenantID l t row (List.mem_of_getElem? hn)
  refine ⟨FreshInv.step hinv hn ⟨fun k entry hk => ?_, fun _ _ _ => nofun, fun _ _ => nofun,
    fun _ _ _ _ heq => .inl heq, fun _ _ => nofun, fun _ _ _ => nofun⟩, h⟩
  change Function.update w.now.cache tenantID _ k = some entry at hk
  by_cases hkt : k = tenantID
  · subst hkt
    rw [Function.update_self] at hk
    cases hk
    refine .inr ⟨t, s, hs, by rw [hrow], fun τ i hmem => ?_⟩
    have hnot := hok _ (Option.mem_def.mpr hn) _ hmem
    exact not_le.mp fun hle => hnot ⟨rfl, hle⟩
  · rw [Function.update_of_ne hkt] at hk
    exact .inl hk

/-- The phase in which a load yields a value; a load of the empty tenant performs no operation. -/
def ConfigPhase.Yields (v : TenantScoringConfig) : ConfigPhase → Prop
  | .hit _ _ v' => v = v'
  | .read _ _ _ row => v = (configOf row).1
  | .idle => v = (configOf none).1
  | _ => False

lemma keeps_loadAndCache {l : ℕ} {Q : Except String (TenantScoringConfig × String) → ConfigPhase → Prop}
    (hok : ∀ t row, Q (.ok (configOf row)) (.read tenantID l t row)) (hfail : ∀ err, Q (.error err) .idle) :
    (freshTracker ttl).Keeps (loadAndCacheTenantRow tenantID).stamp (.looked tenantID l) Q := by
  unfold loadAndCacheTenantRow
  refine .stamp_bind (keeps_get_looked (fun t row => ?_) (fun t => ?_) fun err => hfail err)
  · exact .stamp_bind (keeps_storeFull (hok t (some row)))
  · exact .stamp_bind (keeps_storeFull (hok t none))

lemma keeps_loadConfig : (freshTracker ttl).Keeps (loadTenantScoringConfig tenantID).stamp .idle
    fun r g => ∀ v, r = .ok v → g.Yields v := by
  unfold loadTenantScoringConfig
  by_cases ht : tenantID = ""
  · rw [if_pos ht]
    intro v hv
    cases hv
    rfl
  · rw [if_neg ht]
    refine .stamp_bind (keeps_lookup (fun l entry v hv => ?_) fun l => ?_)
    · cases hv
      rfl
    · refine .stamp_bind (keeps_loadAndCache (fun t row v hv => ?_) fun err v => nofun)
      cases hv
      rfl

lemma keeps_loadProvider : (freshTracker ttl).Keeps (loadTenantTier2Provider tenantID).stamp .idle
    fun _ _ => True := by
  unfold loadTenantTier2Provider
  by_cases ht : tenantID = ""
  · rw [if_pos ht]
    exact trivial
  · rw [if_neg ht]
    refine .stamp_bind (keeps_lookup (fun l entry => trivial) fun l => ?_)
    exact .stamp_bind (keeps_loadAndCache (fun t row => trivial) fun err => trivial)

variable {s : PostgresConfigStore} {u : ColumnUpdate}

lemma keeps_update_recorded {Q : Option RepoError → ConfigPhase → Prop} (hok : ∀ t, Q none (.wrote tenantID t))
    (hfail : ∀ err, Q (some err) .idle) :
    (freshTracker ttl).Keeps (ConfigM.update tenantID u).stamp .idle Q := by
  refine Tracker.keeps_stamp_perform rfl fun e w gs n hinv hn _ a s' hexec => ?_
  obtain ⟨⟨err, rfl⟩, rfl⟩ | ⟨rfl, rfl, -⟩ | ⟨row, rfl, -, -, rfl⟩ := exec_update_cases ttl hexec
  · exact ⟨FreshInv.step hinv hn (freshStep_idle rfl), hfail _⟩
  · exact ⟨FreshInv.step hinv hn (freshStep_idle rfl), hfail _⟩
  · exact ⟨FreshInv.step hinv hn (freshStep_wrote rfl), hok _⟩

lemma keeps_upsert_recorded {row : ScoreEngine} (hrow : row.tenantID = tenantID)
    {Q : Option String → ConfigPhase → Prop} (hok : ∀ t, Q none (.wrote tenantID t))
    (hfail : ∀ err, Q (some err) .idle) : (freshTracker ttl).Keeps (ConfigM.upsert row).stamp .idle Q := by
  subst hrow
  refine Tracker.keeps_stamp_perform rfl fun e w gs n hinv hn _ a s' hexec => ?_
  obtain ⟨⟨err, rfl⟩, rfl⟩ | ⟨rfl, rfl⟩ := exec_upsert_cases ttl hexec
  · exact ⟨FreshInv.step hinv hn (freshStep_idle rfl), hfail _⟩
  · exact ⟨FreshInv.step hinv hn (freshStep_wrote rfl), hok _⟩

lemma keeps_invalidate_recorded {t : ℕ} (hs : s.invalidator = true) {Q : Unit → ConfigPhase → Prop}
    (h : ∀ i, Q () (.settled tenantID t i)) :
    (freshTracker ttl).Keeps (s.invalidate tenantID).stamp (.wrote tenantID t) Q := by
  unfold PostgresConfigStore.invalidate
  rw [if_pos hs]
  refine Tracker.keeps_stamp_perform rfl fun e w gs n hinv hn _ a s' hexec => ?_
  cases hexec
  have ht : t < w.time := FreshInv.writes hinv tenantID t (List.mem_of_getElem? hn)
  refine ⟨FreshInv.step hinv hn ⟨fun k entry hk => ?_, fun _ _ _ => nofun, fun _ _ => nofun, fun _ _ _ _ => nofun,
    fun _ _ => nofun, fun k τ i heq => ?_⟩, h _⟩
  · change Function.update w.now.cache tenantID none k = some entry at hk
    by_cases hkt : k = tenantID
    · subst hkt
      rw [Function.update_self] at hk
      cases hk
    · rw [Function.update_of_ne hkt] at hk
      exact .inl hk
  · cases heq
    exact ⟨ht, rfl, Function.update_self ..⟩

lemma keeps_loadOrSeed_recorded {Q : Except String ScoreEngine → ConfigPhase → Prop}
    (hok : ∀ row, row.tenantID = tenantID → Q (.ok row) .idle) (hfail : ∀ err, Q (.error err) .idle) :
    (freshTracker ttl).Keeps (PostgresConfigStore.loadOrSeed tenantID).stamp .idle Q := by
  unfold PostgresConfigStore.loadOrSeed
  refine .stamp_bind (Tracker.keeps_stamp_perform rfl fun e w gs n hinv hn _ a s' hexec => ?_)
  obtain ⟨rfl, ⟨err, rfl⟩ | ⟨rfl, -⟩ | ⟨row, rfl, -, hkey⟩⟩ := exec_get_cases ttl hexec
  · exact ⟨FreshInv.step hinv hn (freshStep_idle rfl), hfail err⟩
  · exact ⟨FreshInv.step hinv hn (freshStep_idle rfl), hok _ rfl⟩
  · exact ⟨FreshInv.step hinv hn (freshStep_idle rfl), hok row hkey⟩

/-- **An update** that returns nil has written and then invalidated. -/
theorem keeps_writeConfig_recorded (hs : s.invalidator = true) (what : String) :
    (freshTracker ttl).Keeps (s.writeConfig tenantID what u).stamp .idle
      fun err g => err = none → ∃ t i, g = .settled tenantID t i := by
  have hdone : ∀ t, (freshTracker ttl).Keeps (do s.invalidate tenantID; return none : ConfigM _).stamp
      (.wrote tenantID t) fun (err : Option String) g => err = none → ∃ t i, g = .settled tenantID t i :=
    fun t => .stamp_bind (keeps_invalidate_recorded hs fun i _ => ⟨t, i, rfl⟩)
  unfold PostgresConfigStore.writeConfig
  split
  · exact nofun
  refine .stamp_bind (keeps_update_recorded hdone fun err => ?_)
  cases err with
  | failed err => exact nofun
  | notFound =>
    refine .stamp_bind (keeps_loadOrSeed_recorded (fun row hrow => ?_) fun err => ?_)
    · have hkey : (u.apply row).tenantID = tenantID := by rw [ColumnUpdate.apply_tenantID, hrow]
      refine .stamp_bind (keeps_upsert_recorded hkey hdone fun err => ?_)
      exact nofun
    · exact nofun

end Keeps

/-! ### Runs -/

/-- A call of the adapter or of the store. -/
inductive ConfigCall where
  | load (tenantID : String)
  | loadProvider (tenantID : String)
  | updateWeights (tenantID : String) (w : ScoreWeights)
  | updateThresholds (tenantID : String) (t : AgentThresholds)

inductive ConfigResult where
  | config (r : Except String TenantScoringConfig)
  | provider (r : Except String String)
  | updated (err : Option String)
  deriving DecidableEq

def ConfigCall.body (s : PostgresConfigStore) : ConfigCall → ConfigM ConfigResult
  | load tenantID => do return .config (← loadTenantScoringConfig tenantID)
  | loadProvider tenantID => do return .provider (← loadTenantTier2Provider tenantID)
  | updateWeights tenantID w => do return .updated (← s.updateWeights tenantID w)
  | updateThresholds tenantID t => do return .updated (← s.updateThresholds tenantID t)

/-- The recorded state of the calls. -/
abbrev ConfigPool := Pool ConfigOp (Stamped ConfigOp.Ans) ConfigResult (Recorded ConfigWorld)

section Runs

variable (ttl : ℤ) (s : PostgresConfigStore)

/-- The calls, operation by operation, recorded. -/
def configStep : ConfigPool → Pool.Label ConfigCall ConfigEnv → Option ConfigPool :=
  Pool.step (record (ConfigOp.exec ttl)) fun c => (c.body s).stamp

variable {ttl s}

/-- What a call knows when it returns. -/
def Returned : ConfigResult → ConfigPhase → Prop
  | .config (.ok v), g => g.Yields v
  | .updated none, g => ∃ tenantID t i, g = .settled tenantID t i
  | _, _ => True

lemma keeps_body (hs : s.invalidator = true) (c : ConfigCall) :
    (freshTracker ttl).Keeps (c.body s).stamp .idle Returned := by
  have hupdated : ∀ {tenantID : String} (r : Option String) (g : ConfigPhase),
      (r = none → ∃ t i, g = .settled tenantID t i) → Returned (.updated r) g := by
    intro tenantID r g h
    cases r with
    | some err => exact trivial
    | none =>
      obtain ⟨t, i, hg⟩ := h rfl
      exact ⟨tenantID, t, i, hg⟩
  cases c with
  | load tenantID =>
    refine .stamp_bind (keeps_loadConfig.mono fun r g h => ?_)
    cases r with
    | error err => exact trivial
    | ok v => exact h v rfl
  | loadProvider tenantID => exact .stamp_bind (keeps_loadProvider.mono fun _ _ _ => trivial)
  | updateWeights tenantID w => exact .stamp_bind ((keeps_writeConfig_recorded hs _).mono hupdated)
  | updateThresholds tenantID t => exact .stamp_bind ((keeps_writeConfig_recorded hs _).mono hupdated)

/-- **Every run of the calls is recorded**: with the same labels, and with the same results. -/
theorem config_run_recorded {world : ConfigWorld} {ls : List (Pool.Label ConfigCall ConfigEnv)}
    {p : Pool ConfigOp ConfigOp.Ans ConfigResult ConfigWorld}
    (hrun : Lts.run (Pool.step (ConfigOp.exec ttl) (ConfigCall.body s)) ⟨world, []⟩ ls = some p) :
    ∃ q, Lts.run (configStep ttl s) ⟨{ now := world }, []⟩ ls = some q ∧ p.Follows q :=
  Pool.Follows.run ⟨rfl, .nil⟩ hrun

lemma freshInv_init (table : ScoreTable) (clock : ℤ) :
    FreshInv { now := { table := table, clock := clock } } [] :=
  ⟨fun _ _ => nofun, fun _ _ _ => nofun, fun _ _ => nofun, fun _ _ _ _ => nofun, fun _ _ => nofun,
    fun _ _ _ => nofun⟩

lemma freshInv_spawn {w : Recorded ConfigWorld} {gs : List ConfigPhase} (h : FreshInv w gs) :
    FreshInv w (gs ++ [.idle]) := by
  have hmem : ∀ {g : ConfigPhase}, g ≠ .idle → g ∈ gs ++ [.idle] → g ∈ gs := by
    intro g hne hg
    rcases List.mem_append.mp hg with hold | hnew
    · exact hold
    · exact absurd (List.mem_singleton.mp hnew) hne
  refine ⟨fun k entry hk => ?_, fun k l v hk => ?_, fun k l hk => h.misses k l (hmem nofun hk),
    fun k l t row hk => h.reads k l t row (hmem nofun hk), fun k t hk => h.writes k t (hmem nofun hk),
    fun k t i hk => h.settles k t i (hmem nofun hk)⟩
  · obtain ⟨m, world, hm, hval, hset⟩ := h.cached k entry hk
    exact ⟨m, world, hm, hval, fun τ i hsettled => hset τ i (hmem nofun hsettled)⟩
  · obtain ⟨hl, m, world, hm, hval, hset⟩ := h.hits k l v (hmem nofun hk)
    exact ⟨hl, m, world, hm, hval, fun τ i hsettled => hset τ i (hmem nofun hsettled)⟩

/-- The tenant of a load that has its value, and the time at which it started. -/
def ConfigPhase.started : ConfigPhase → Option (String × ℕ)
  | .hit tenantID l _ => some (tenantID, l)
  | .read tenantID l _ _ => some (tenantID, l)
  | _ => none

/-- **No stale configuration.** For every TTL and every interleaving of loads and updates in which no load stores a
row after an update has overtaken it: an update that has returned nil wrote at some time and invalidated at a later
one, and every load of the tenant that has started after that yields the values of the row at some time after the
write. -/
theorem no_stale_config (hs : s.invalidator = true) {table : ScoreTable} {clock : ℤ}
    {ls : List (Pool.Label ConfigCall ConfigEnv)} {p : ConfigPool}
    (hcurrent : Lts.Meets (configStep ttl s) (freshTracker ttl).Allows
      ⟨{ now := { table := table, clock := clock } }, []⟩ ls)
    (hrun : Lts.run (configStep ttl s) ⟨{ now := { table := table, clock := clock } }, []⟩ ls = some p) :
    ∀ u ∈ p.threads, u.result? = some (.updated none) →
      ∃ tenantID t i, (freshTracker ttl).phase u = .settled tenantID t i ∧
        ∀ c ∈ p.threads, ∀ v l, c.result? = some (.config (.ok v)) →
          ((freshTracker ttl).phase c).started = some (tenantID, l) → i < l →
          ∃ m world, t < m ∧ p.shared.atTime m = some world ∧
            v = (configOf (world.table.rows tenantID)).1 := by
  have hholds := Tracker.run_holds (T := freshTracker ttl) (R := fun _ => Returned)
    (fun _ _ h => freshInv_spawn h) (fun c _ => keeps_body hs c)
    (Tracker.holds_nil (freshInv_init table clock)) hcurrent hrun
  have hphase : ∀ x ∈ p.threads, ∀ r, x.result? = some r → Returned r ((freshTracker ttl).phase x) ∧
      (freshTracker ttl).phase x ∈ (freshTracker ttl).phases p := by
    intro x hx r hr
    obtain ⟨n, hn⟩ := List.mem_iff_getElem?.mp hx
    exact ⟨hholds.returned hn hr, List.mem_map_of_mem hx⟩
  intro u hu hret
  obtain ⟨⟨tenantID, t, i, hsettled⟩, hmem⟩ := hphase u hu _ hret
  refine ⟨tenantID, t, i, hsettled, fun c hc v l hv hstart hil => ?_⟩
  rw [hsettled] at hmem
  obtain ⟨hyields, hcmem⟩ := hphase c hc _ hv
  have hti := (hholds.inv.settles tenantID t i hmem).1
  cases hg : (freshTracker ttl).phase c with
  | hit k l' v' =>
    rw [hg] at hstart hyields hcmem
    cases hstart
    obtain ⟨-, m, world, hm, hval, hset⟩ := hholds.inv.hits tenantID l v' hcmem
    exact ⟨m, world, hset t i hmem hil, hm, hyields.trans hval⟩
  | read k l' g row =>
    rw [hg] at hstart hyields hcmem
    cases hstart
    obtain ⟨hlt, world, hm, hrow⟩ := hholds.inv.reads tenantID l g row hcmem
    refine ⟨g, world, by omega, hm, ?_⟩
    rw [hrow]
    exact hyields
  | looked k l' => rw [hg] at hstart; cases hstart
  | idle => rw [hg] at hstart; cases hstart
  | wrote k τ => rw [hg] at hstart; cases hstart
  | settled k τ j => rw [hg] at hstart; cases hstart

end Runs

/-! ### One update and two loads -/

instance : ∀ u g : ConfigPhase, Decidable (u.Overtakes g)
  | .settled tenantID t _, .read tenantID' _ t' _ => inferInstanceAs (Decidable (tenantID = tenantID' ∧ t' ≤ t))
  | .settled _ _ _, .idle => isFalse nofun
  | .settled _ _ _, .looked _ _ => isFalse nofun
  | .settled _ _ _, .hit _ _ _ => isFalse nofun
  | .settled _ _ _, .wrote _ _ => isFalse nofun
  | .settled _ _ _, .settled _ _ _ => isFalse nofun
  | .idle, _ => isFalse nofun
  | .looked _ _, _ => isFalse nofun
  | .hit _ _ _, _ => isFalse nofun
  | .read _ _ _ _, _ => isFalse nofun
  | .wrote _ _, _ => isFalse nofun

instance (gs : List ConfigPhase) (n : ℕ) : ∀ o : ConfigOp, Decidable (StoresCurrent gs n o)
  | .storeFull _ _ _ => inferInstanceAs (Decidable (∀ g ∈ gs[n]?, ∀ u ∈ gs, ¬ u.Overtakes g))
  | .get _ => isTrue trivial
  | .update _ _ => isTrue trivial
  | .upsert _ => isTrue trivial
  | .lookup _ => isTrue trivial
  | .invalidate _ => isTrue trivial

instance (ttl : ℤ) (w : Recorded ConfigWorld) (gs : List ConfigPhase) (n : ℕ) (o : ConfigOp) (e : ConfigEnv) :
    Decidable ((freshTracker ttl).allows w gs n o e) :=
  inferInstanceAs (Decidable (StoresCurrent gs n o))

lemma keyed_none : ∀ {tenantID : String} {row : ScoreEngine}, none = some row → row.tenantID = tenantID := by
  simp

/-- A table with one tenant, as it was seeded. -/
def seededTable : ScoreTable := ({ keyed := @keyed_none } : ScoreTable).put (seedRow "t")

/-- The tuning agent lowers every threshold to 1. -/
def tunedThresholds : AgentThresholds := ⟨1, 2, 1, 1, 1, 1, 1⟩

/-- A load reads the row, and an update writes it and invalidates. The load has stored the row before that, or it does
so now; then a second load starts. -/
def loadsAndUpdate (storesFirst : Bool) : List (Pool.Label ConfigCall ConfigEnv) :=
  [.spawn (.load "t"), .spawn (.updateThresholds "t" tunedThresholds), .advance 0 {}, .advance 0 {}] ++
    (if storesFirst then [.advance 0 {}, .advance 1 {}, .advance 1 {}]
      else [.advance 1 {}, .advance 1 {}, .advance 0 {}]) ++
    [.spawn (.load "t"), .advance 2 {}] ++ if storesFirst then [.advance 2 {}, .advance 2 {}] else []

/-- The threshold that a load yields. -/
def passThreshold (c : Thread ConfigOp (Stamped ConfigOp.Ans) ConfigResult) : Option ℤ :=
  match c.result? with
  | some (.config (.ok v)) => v.tier1PassThreshold
  | _ => none

lemma config_of_passThreshold {c : Thread ConfigOp (Stamped ConfigOp.Ans) ConfigResult} {n : ℤ}
    (h : passThreshold c = some n) : ∃ v, c.result? = some (.config (.ok v)) ∧ v.tier1PassThreshold = some n := by
  unfold passThreshold at h
  split at h
  · next v hv => exact ⟨v, hv, h⟩
  · cases h

theorem no_stale_config_in_order : ∃ p,
    Lts.run (configStep 0 {}) ⟨{ now := { table := seededTable, clock := 0 } }, []⟩ (loadsAndUpdate true) = some p ∧
      p.threads.map passThreshold = [some 20, none, some 1] ∧
      ∀ u ∈ p.threads, u.result? = some (.updated none) →
        ∃ tenantID t i, (freshTracker 0).phase u = .settled tenantID t i ∧
          ∀ c ∈ p.threads, ∀ v l, c.result? = some (.config (.ok v)) →
            ((freshTracker 0).phase c).started = some (tenantID, l) → i < l →
            ∃ m world, t < m ∧ p.shared.atTime m = some world ∧
              v = (configOf (world.table.rows tenantID)).1 := by
  have hend : (Lts.run (configStep 0 {}) ⟨{ now := { table := seededTable, clock := 0 } }, []⟩
      (loadsAndUpdate true)).map (fun p => p.threads.map passThreshold) = some [some 20, none, some 1] := by
    decide +kernel
  obtain ⟨p, hrun, hp⟩ := Option.map_eq_some_iff.mp hend
  exact ⟨p, hrun, hp, no_stale_config rfl (by decide +kernel) hrun⟩

/-- **A stale row in the cache.** The update has written at time 2 and invalidated at time 3; the load that starts at
time 5 yields the threshold from before. -/
theorem stale_config_cached : ∃ p,
    Lts.run (configStep 0 {}) ⟨{ now := { table := seededTable, clock := 0 } }, []⟩ (loadsAndUpdate false) = some p ∧
      ∃ u ∈ p.threads, ∃ c ∈ p.threads, ∃ v, u.result? = some (.updated none) ∧
        (freshTracker 0).phase u = .settled "t" 2 3 ∧ c.result? = some (.config (.ok v)) ∧
        ((freshTracker 0).phase c).started = some ("t", 5) ∧
        ¬ ∃ m world, 2 < m ∧ p.shared.atTime m = some world ∧ v = (configOf (world.table.rows "t")).1 := by
  set run := Lts.run (configStep 0 {}) ⟨{ now := { table := seededTable, clock := 0 } }, []⟩ (loadsAndUpdate false)
    with hset
  have hpass : run.map (fun p => p.threads.map passThreshold) = some [some 20, none, some 20] := by
    decide +kernel
  have hupd : run.map (fun p => p.threads.map fun u => decide (u.result? = some (.updated none) ∧
      (freshTracker 0).phase u = .settled "t" 2 3)) = some [false, true, false] := by
    decide +kernel
  have hstart : run.map (fun p => p.threads.map fun c => ((freshTracker 0).phase c).started) =
      some [some ("t", 0), none, some ("t", 5)] := by
    decide +kernel
  have hrows : run.map (fun p => ((p.shared.past ++ [p.shared.now]).drop 3).map fun world =>
      (configOf (world.table.rows "t")).1.tier1PassThreshold) = some [some 1, some 1, some 1, some 1] := by
    decide +kernel
  obtain ⟨p, hrun, hpass⟩ := Option.map_eq_some_iff.mp hpass
  rw [hrun, Option.map_some, Option.some.injEq] at hupd hstart hrows
  have hlen : p.threads.length = 3 := by
    rw [← List.length_map passThreshold, hpass]
    rfl
  obtain ⟨a, u, c, hthreads⟩ := List.length_eq_three.mp hlen
  rw [hthreads] at hpass hupd hstart
  obtain ⟨v, hv, hvpass⟩ : ∃ v, c.result? = some (.config (.ok v)) ∧ v.tier1PassThreshold = some 20 :=
    config_of_passThreshold (List.cons.inj (List.cons.inj (List.cons.inj hpass).2).2).1
  obtain ⟨hret, hphase⟩ := of_decide_eq_true (List.cons.inj (List.cons.inj hupd).2).1
  have hstart' := (List.cons.inj (List.cons.inj (List.cons.inj hstart).2).2).1
  refine ⟨p, hrun, u, by simp [hthreads], c, by simp [hthreads], v, hret, hphase, hv, hstart', ?_⟩
  rintro ⟨m, world, hm, hworld, rfl⟩
  have hmem : world ∈ (p.shared.past ++ [p.shared.now]).drop 3 := by
    refine List.mem_of_getElem? (i := m - 3) ?_
    rw [List.getElem?_drop, show 3 + (m - 3) = m by omega]
    exact hworld
  have hone := List.mem_map_of_mem (f := fun world : ConfigWorld =>
    (configOf (world.table.rows "t")).1.tier1PassThreshold) hmem
  rw [hrows, hvpass] at hone
  revert hone
  decide

end Sn360Es.Config
