import Sn360Es.Evaluate.Evaluator
import Sn360Es.Lib.GoTime
import Sn360Es.Lib.Prog
import Sn360Es.Repository

/-!
# Per-tenant scoring configuration (`cmd/sn360-es/adapters.go`)

The `score_engine` row of a tenant is written by the tuning agent through `postgresConfigStore` and read by the
evaluator through the cache of `tenantScoringConfigAdapter`. The functions are programs over the operations of the
repository and of the cache, each of which is atomic: a statement of the database, or a section under the mutex.

* `exec_get_cases`, `exec_update_cases`, `exec_upsert_cases` — what an operation of the repository can do;
* `writeConfig` — what `UpdateWeights` and `UpdateThresholds` both do: the column-scoped update, and the seed if
  there is no row;
* `loadTenantScoringConfig` — the cache, and on a miss the row.
-/

namespace Sn360Es.Config

open Lib Sn360Es.Evaluate

/-- `ScoreWeightUpdate`: the columns that `UpdateWeights` writes. -/
structure ScoreWeightUpdate where
  ai : ℤ
  rspamd : ℤ
  attachments : ℤ
  links : ℤ
  deriving DecidableEq, Repr

/-- `ScoreThresholdUpdate`: the columns that `UpdateThresholds` writes. -/
structure ScoreThresholdUpdate where
  blocked : ℤ
  high : ℤ
  warning : ℤ
  caution : ℤ
  info : ℤ
  tier1PassBelow : ℤ
  tier1FlagAbove : ℤ
  deriving DecidableEq, Repr

/-- `repository.ScoreEngine`, with the columns of the two updates together. -/
structure ScoreEngine where
  tenantID : String
  scoreBase : ℤ
  weights : ScoreWeightUpdate
  thresholds : ScoreThresholdUpdate
  subjectTagEnabled : Bool
  subjectTagPrefix : String
  tier2Provider : Option String
  deriving DecidableEq, Repr

/-- A column-scoped update. -/
inductive ColumnUpdate where
  | weights (w : ScoreWeightUpdate)
  | thresholds (t : ScoreThresholdUpdate)
  deriving DecidableEq, Repr

def ColumnUpdate.apply : ColumnUpdate → ScoreEngine → ScoreEngine
  | weights w, row => { row with weights := w }
  | thresholds t, row => { row with thresholds := t }

/-- The table `score_engine`, with the tenant as its key. -/
structure ScoreTable where
  rows : String → Option ScoreEngine := fun _ => none
  keyed : ∀ {tenantID row}, rows tenantID = some row → row.tenantID = tenantID := by simp

/-- The row is written under its key. -/
def ScoreTable.put (table : ScoreTable) (row : ScoreEngine) : ScoreTable where
  rows := Function.update table.rows row.tenantID (some row)
  keyed := by
    intro tenantID row' h
    by_cases hk : tenantID = row.tenantID
    · rw [hk, Function.update_self, Option.some.injEq] at h
      rw [hk, h]
    · rw [Function.update_of_ne hk] at h
      exact table.keyed h

lemma ScoreTable.put_self {table : ScoreTable} {row : ScoreEngine} {tenantID : String}
    (h : row.tenantID = tenantID) : (table.put row).rows tenantID = some row := by
  subst h
  exact Function.update_self ..

@[simp] lemma ColumnUpdate.apply_tenantID (u : ColumnUpdate) (row : ScoreEngine) :
    (u.apply row).tenantID = row.tenantID := by
  cases u <;> rfl

/-- `agent.ScoreWeights`. -/
abbrev ScoreWeights := Weights

/-- `agent.Thresholds`. -/
structure AgentThresholds where
  tier1PassBelow : ℤ
  tier1FlagAbove : ℤ
  bannerBlocked : ℤ
  bannerHighRisk : ℤ
  bannerWarning : ℤ
  bannerCaution : ℤ
  bannerInfo : ℤ
  deriving DecidableEq, Repr

/-- `clampWeightToPercent`. -/
def clampWeightToPercent (w : Float64) : ℤ :=
  if w ≤ 0 then 0
  else if .ofInt 1 ≤ w then 100
  else ⌊(w * .ofInt 100 + .ofRat (1 / 2)).1⌋

def weightUpdate (w : ScoreWeights) : ScoreWeightUpdate where
  ai := clampWeightToPercent w.ai
  rspamd := clampWeightToPercent w.rspamd
  attachments := clampWeightToPercent w.attachments
  links := clampWeightToPercent w.links

def thresholdUpdate (t : AgentThresholds) : ScoreThresholdUpdate where
  blocked := t.bannerBlocked
  high := t.bannerHighRisk
  warning := t.bannerWarning
  caution := t.bannerCaution
  info := t.bannerInfo
  tier1PassBelow := t.tier1PassBelow
  tier1FlagAbove := t.tier1FlagAbove

/-- The row that `loadOrSeed` starts from when there is none. -/
def seedRow (tenantID : String) : ScoreEngine where
  tenantID
  scoreBase := 100
  weights := ⟨60, 10, 15, 15⟩
  thresholds := ⟨85, 70, 50, 30, 15, 20, 60⟩
  subjectTagEnabled := false
  subjectTagPrefix := ""
  tier2Provider := none

/-- What `loadAndCacheTenantRow` makes of a row, or of none. -/
def configOf : Option ScoreEngine → TenantScoringConfig × String
  | none => (⟨⟨0, 0, 0, 0⟩, none, none⟩, "")
  | some row =>
    ({ weights :=
        { ai := .ofInt row.weights.ai / .ofInt 100
          rspamd := .ofInt row.weights.rspamd / .ofInt 100
          attachments := .ofInt row.weights.attachments / .ofInt 100
          links := .ofInt row.weights.links / .ofInt 100 }
       tier1PassThreshold := some row.thresholds.tier1PassBelow
       tier1FlagThreshold := some row.thresholds.tier1FlagAbove },
      row.tier2Provider.getD "")

/-! ### Operations -/

/-- `tenantScoringConfigCacheEntry`. -/
structure CacheEntry where
  value : TenantScoringConfig
  tier2Provider : String
  expiresAt : ℤ
  deriving DecidableEq, Repr

/-- The methods of `ScoreEngineRepository` and the sections under the mutex of the cache. -/
inductive ConfigOp where
  | get (tenantID : String)
  | update (tenantID : String) (u : ColumnUpdate)
  | upsert (row : ScoreEngine)
  | lookup (tenantID : String)
  | storeFull (tenantID : String) (tc : TenantScoringConfig) (tier2Provider : String)
  | invalidate (tenantID : String)
  deriving DecidableEq, Repr

abbrev ConfigOp.Ans : ConfigOp → Type
  | get _ => Except RepoError ScoreEngine
  | update _ _ => Option RepoError
  | upsert _ => Option String
  | lookup _ => Option CacheEntry
  | storeFull _ _ _ => Unit
  | invalidate _ => Unit

abbrev ConfigM := Prog ConfigOp ConfigOp.Ans

/-- The table, the cache and the clock. -/
structure ConfigWorld where
  table : ScoreTable := {}
  cache : String → Option CacheEntry := fun _ => none
  clock : ℤ := 0

/-- The time that passes before an operation, and the error of the database, if it fails. -/
structure ConfigEnv where
  tick : ℕ := 0
  fail : Option String := none
  deriving DecidableEq, Repr

def ConfigWorld.pass (w : ConfigWorld) (e : ConfigEnv) : ConfigWorld := { w with clock := w.clock + e.tick }

def ConfigWorld.putRow (w : ConfigWorld) (row : ScoreEngine) : ConfigWorld := { w with table := w.table.put row }

def ConfigWorld.setCache (w : ConfigWorld) (tenantID : String) (entry : Option CacheEntry) : ConfigWorld :=
  { w with cache := Function.update w.cache tenantID entry }

/-- `newTenantScoringConfigAdapter`: the TTL of the cache. -/
def effectiveTTL (ttl : ℤ) : ℤ := if ttl ≤ 0 then 60 * GoTime.second else ttl

/-- The effect of an operation, once the clock has moved on. An operation of the database that fails has none. -/
def ConfigOp.effect (ttl : ℤ) (e : ConfigEnv) (w : ConfigWorld) : (o : ConfigOp) → o.Ans × ConfigWorld
  | .get tenantID =>
    match e.fail, w.table.rows tenantID with
    | some err, _ => (.error (.failed err), w)
    | none, none => (.error .notFound, w)
    | none, some row => (.ok row, w)
  | .update tenantID u =>
    match e.fail, w.table.rows tenantID with
    | some err, _ => (some (.failed err), w)
    | none, none => (some .notFound, w)
    | none, some row => (none, w.putRow (u.apply row))
  | .upsert row =>
    match e.fail with
    | some err => (some err, w)
    | none => (none, w.putRow row)
  | .lookup tenantID => ((w.cache tenantID).filter fun entry => ¬ entry.expiresAt < w.clock, w)
  | .storeFull tenantID tc provider =>
    ((), w.setCache tenantID (some ⟨tc, provider, w.clock + effectiveTTL ttl⟩))
  | .invalidate tenantID => ((), w.setCache tenantID none)

def ConfigOp.exec (ttl : ℤ) (o : ConfigOp) (e : ConfigEnv) (w : ConfigWorld) : o.Ans × ConfigWorld :=
  ConfigOp.effect ttl e (w.pass e) o

/-! ### What the repository answers -/

section Cases

variable (ttl : ℤ) {tenantID : String} {e : ConfigEnv} {w w' : ConfigWorld}

lemma exec_get_cases {a : Except RepoError ScoreEngine} (h : ConfigOp.exec ttl (.get tenantID) e w = (a, w')) :
    w' = w.pass e ∧ ((∃ err, a = .error (.failed err)) ∨ (a = .error .notFound ∧ w.table.rows tenantID = none) ∨
      ∃ row, a = .ok row ∧ w.table.rows tenantID = some row ∧ row.tenantID = tenantID) := by
  change ConfigOp.effect ttl e (w.pass e) (.get tenantID) = (a, w') at h
  have hsame : (w.pass e).table.rows tenantID = w.table.rows tenantID := rfl
  unfold ConfigOp.effect at h
  cases hfail : e.fail with
  | some err =>
    simp only [hfail] at h
    cases h
    exact ⟨rfl, .inl ⟨err, rfl⟩⟩
  | none =>
    cases hrow : w.table.rows tenantID with
    | none =>
      simp only [hfail, hsame, hrow] at h
      cases h
      exact ⟨rfl, .inr (.inl ⟨rfl, rfl⟩)⟩
    | some row =>
      simp only [hfail, hsame, hrow] at h
      cases h
      exact ⟨rfl, .inr (.inr ⟨row, rfl, rfl, w.table.keyed hrow⟩)⟩

lemma exec_update_cases {u : ColumnUpdate} {a : Option RepoError}
    (h : ConfigOp.exec ttl (.update tenantID u) e w = (a, w')) :
    ((∃ err, a = some (.failed err)) ∧ w' = w.pass e) ∨
      (a = some .notFound ∧ w' = w.pass e ∧ w.table.rows tenantID = none) ∨
      ∃ row, a = none ∧ w.table.rows tenantID = some row ∧ row.tenantID = tenantID ∧
        w' = (w.pass e).putRow (u.apply row) := by
  change ConfigOp.effect ttl e (w.pass e) (.update tenantID u) = (a, w') at h
  have hsame : (w.pass e).table.rows tenantID = w.table.rows tenantID := rfl
  unfold ConfigOp.effect at h
  cases hfail : e.fail with
  | some err =>
    simp only [hfail] at h
    cases h
    exact .inl ⟨⟨err, rfl⟩, rfl⟩
  | none =>
    cases hrow : w.table.rows tenantID with
    | none =>
      simp only [hfail, hsame, hrow] at h
      cases h
      exact .inr (.inl ⟨rfl, rfl, rfl⟩)
    | some row =>
      simp only [hfail, hsame, hrow] at h
      cases h
      exact .inr (.inr ⟨row, rfl, rfl, w.table.keyed hrow, rfl⟩)

lemma exec_upsert_cases {row : ScoreEngine} {a : Option String}
    (h : ConfigOp.exec ttl (.upsert row) e w = (a, w')) :
    ((∃ err, a = some err) ∧ w' = w.pass e) ∨ a = none ∧ w' = (w.pass e).putRow row := by
  change ConfigOp.effect ttl e (w.pass e) (.upsert row) = (a, w') at h
  unfold ConfigOp.effect at h
  cases hfail : e.fail with
  | some err =>
    simp only [hfail] at h
    cases h
    exact .inl ⟨⟨err, rfl⟩, rfl⟩
  | none =>
    simp only [hfail] at h
    cases h
    exact .inr ⟨rfl, rfl⟩

end Cases

namespace ConfigM

def get (tenantID : String) : ConfigM (Except RepoError ScoreEngine) := Prog.perform (ConfigOp.get tenantID)

def update (tenantID : String) (u : ColumnUpdate) : ConfigM (Option RepoError) :=
  Prog.perform (ConfigOp.update tenantID u)

def upsert (row : ScoreEngine) : ConfigM (Option String) := Prog.perform (ConfigOp.upsert row)

def lookup (tenantID : String) : ConfigM (Option CacheEntry) := Prog.perform (ConfigOp.lookup tenantID)

def storeFull (tenantID : String) (tc : TenantScoringConfig) (tier2Provider : String) : ConfigM Unit :=
  Prog.perform (ConfigOp.storeFull tenantID tc tier2Provider)

def invalidate (tenantID : String) : ConfigM Unit := Prog.perform (ConfigOp.invalidate tenantID)

end ConfigM

/-! ### The configuration store -/

/-- `postgresConfigStore`: which of its two dependencies it has. -/
structure PostgresConfigStore where
  repo : Bool := true
  invalidator : Bool := true
  deriving DecidableEq, Repr

namespace PostgresConfigStore

variable (s : PostgresConfigStore)

def invalidate (tenantID : String) : ConfigM Unit :=
  if s.invalidator then ConfigM.invalidate tenantID else pure ()

/-- `loadOrSeed`. -/
def loadOrSeed (tenantID : String) : ConfigM (Except String ScoreEngine) := do
  match ← ConfigM.get tenantID with
  | .ok row => return .ok row
  | .error .notFound => return .ok (seedRow tenantID)
  | .error (.failed err) => return .error err

def quoted (tenantID : String) : String := "\"" ++ tenantID ++ "\""

/-- What `UpdateWeights` and `UpdateThresholds` do, with the word that tells their errors apart. -/
def writeConfig (tenantID what : String) (u : ColumnUpdate) : ConfigM (Option String) := do
  if !s.repo then return some "postgres config store: score-engine repository is nil"
  match ← ConfigM.update tenantID u with
  | none =>
    s.invalidate tenantID
    return none
  | some (.failed err) =>
    return some ("postgres config store: update tenant " ++ quoted tenantID ++ " " ++ what ++ ": " ++ err)
  | some .notFound =>
    -- the first write of a tenant: the whole row is written back
    match ← loadOrSeed tenantID with
    | .error err => return some ("postgres config store: seed tenant " ++ quoted tenantID ++ ": " ++ err)
    | .ok row =>
      match ← ConfigM.upsert (u.apply row) with
      | some err =>
        return some ("postgres config store: upsert tenant " ++ quoted tenantID ++ " " ++ what ++ ": " ++ err)
      | none =>
        s.invalidate tenantID
        return none

/-- `UpdateWeights`. -/
def updateWeights (tenantID : String) (w : ScoreWeights) : ConfigM (Option String) :=
  s.writeConfig tenantID "weights" (.weights (weightUpdate w))

/-- `UpdateThresholds`. -/
def updateThresholds (tenantID : String) (t : AgentThresholds) : ConfigM (Option String) :=
  s.writeConfig tenantID "thresholds" (.thresholds (thresholdUpdate t))

end PostgresConfigStore

/-! ### The cache -/

/-- `loadAndCacheTenantRow`. -/
def loadAndCacheTenantRow (tenantID : String) : ConfigM (Except String (TenantScoringConfig × String)) := do
  match ← ConfigM.get tenantID with
  | .error (.failed err) => return .error err
  | .error .notFound =>
    ConfigM.storeFull tenantID (configOf none).1 (configOf none).2
    return .ok (configOf none)
  | .ok row =>
    ConfigM.storeFull tenantID (configOf (some row)).1 (configOf (some row)).2
    return .ok (configOf (some row))

/-- `LoadTenantScoringConfig`. -/
def loadTenantScoringConfig (tenantID : String) : ConfigM (Except String TenantScoringConfig) := do
  if tenantID = "" then return .ok (configOf none).1
  match ← ConfigM.lookup tenantID with
  | some entry => return .ok entry.value
  | none => return (← loadAndCacheTenantRow tenantID).map Prod.fst

/-- `LoadTenantTier2Provider`. -/
def loadTenantTier2Provider (tenantID : String) : ConfigM (Except String String) := do
  if tenantID = "" then return .ok ""
  match ← ConfigM.lookup tenantID with
  | some entry => return .ok entry.tier2Provider
  | none => return (← loadAndCacheTenantRow tenantID).map Prod.snd

end Sn360Es.Config
