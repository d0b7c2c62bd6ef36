import Sn360Es.Agent.Types
import Sn360Es.Config.ScoreEngine
import Sn360Es.Onboarding.Service

/-!
# The onboarding agent (`internal/service/agent/onboarding.go`)

`Onboard` discovers the users and groups of a tenant, labels their mailboxes, seeds the weights and thresholds, and
looks for vendors. A consent starts it (`internal/service/onboarding/discovery.go`), and so does an event
`tenant.created` (`cmd/sn360-es/consumers.go`), each as often as it happens. The seeds go through the same two calls of
the configuration store as the changes of the tuning agent and of an administrator, which write whether or not there
is a row.

* `eval_writeConfig_row` — what such a call does to a tenant that has settings;
* `onboard_keeps_iff` — so `Onboard` keeps them exactly if it does not come to the seeds, or both fail;
* `reonboarding_keeps_settings_iff` — over every run of triggers and changes.
-/

namespace Sn360Es.Agent

open Lib Config

/-! ### The agent -/

/-- `OnboardingConfig`: which of the dependencies there are, and the values. -/
structure OnboardingConfig where
  directory : Bool := true
  vendorScanner : Bool := false
  labels : Bool := true
  events : Bool := false
  audit : Bool := false
  config : Option PostgresConfigStore := none
  hasher : Option (String → String → String) := none
  persister : Bool := false
  sensitivityClassifier : Bool := false
  vendorScanWindow : ℤ := 0
  minVendorConfidence : Float64 := 0
  defaultWeights : ScoreWeights := ⟨0, 0, 0, 0⟩
  defaultThresholds : AgentThresholds := ⟨0, 0, 0, 0, 0, 0, 0⟩

/-- `NewOnboardingAgent`. -/
def newOnboardingAgent (cfg : OnboardingConfig) : Except String OnboardingConfig :=
  if !cfg.directory then .error "agent: onboarding requires a DirectoryClient"
  else if !cfg.labels then .error "agent: onboarding requires a LabelApplier"
  else .ok
    { cfg with
      vendorScanWindow := if cfg.vendorScanWindow ≤ 0 then 30 * 24 * 3600 * GoTime.second else cfg.vendorScanWindow
      minVendorConfidence := if cfg.minVendorConfidence ≤ 0 then .ofRat (6 / 10) else cfg.minVendorConfidence
      defaultWeights := if cfg.defaultWeights = ⟨0, 0, 0, 0⟩ then Evaluate.defaultWeights else cfg.defaultWeights
      defaultThresholds :=
        if cfg.defaultThresholds = ⟨0, 0, 0, 0, 0, 0, 0⟩ then ⟨20, 60, 85, 70, 50, 30, 15⟩
        else cfg.defaultThresholds }

structure VendorCandidate where
  domain : String
  confidence : Float64
  seenCount : ℤ
  deriving DecidableEq, Repr

/-- What the calls of one `Onboard` return, and the times it reads. The errors that are only logged are left out. -/
structure OnboardEnv where
  toLower : String → String
  startedAt : ℤ := 0
  users : Except String (List DiscoveredUser)
  groups : Except String (List DiscoveredGroup)
  classifyBatch : List UserClassifyInput → Except String (List ClassifyResult) := fun _ => .ok []
  /-- The answer of `EnsureTierLabels` for the user at a position. -/
  labelError : ℕ → Option String := fun _ => none
  /-- The time of the event for the user or the vendor at a position. -/
  userAt : ℕ → ℤ := fun _ => 0
  vendorAt : ℕ → ℤ := fun _ => 0
  /-- The answers of the database to the two writes. -/
  weights : ℕ → ConfigEnv := fun _ => {}
  thresholds : ℕ → ConfigEnv := fun _ => {}
  scanAt : ℤ := 0
  scanRecentSenders : ℤ → Except String (List VendorCandidate) := fun _ => .ok []
  completedAt : ℤ := 0

structure OnboardingResult where
  tenantID : String := ""
  usersDiscovered : ℕ := 0
  groupsDiscovered : ℕ := 0
  labelsApplied : ℕ := 0
  vendorsSeeded : ℕ := 0
  startedAt : ℤ := 0
  completedAt : ℤ := 0
  deriving DecidableEq, Repr

/-- The payload of `es.onboarding.user.created`. -/
structure UserCreated where
  tenantID : String
  provider : String
  userID : String
  emailHash : String
  displayHash : String
  department : String
  sensitivity : String
  confidence : Float64
  occurredAt : ℤ
  deriving DecidableEq, Repr

/-- The payload of `es.onboarding.vendor.seeded`. -/
structure VendorSeeded where
  tenantID : String
  domain : String
  confidence : Float64
  seenCount : ℤ
  occurredAt : ℤ
  deriving DecidableEq, Repr

/-- What `Onboard` asks others to do. A write to the configuration store comes with the error it returns. -/
inductive OnboardEffect where
  | ensureTierLabels (tenantID mailbox : String)
  | userCreated (e : UserCreated)
  | persistDiscoveredUsers (tenantID : String) (users : List DiscoveredUser) (groups : List DiscoveredGroup)
  | updateWeights (tenantID : String) (w : ScoreWeights) (err : Option String)
  | updateThresholds (tenantID : String) (t : AgentThresholds) (err : Option String)
  | vendorSeeded (e : VendorSeeded)
  | recordCompleted (res : OnboardingResult)
  deriving DecidableEq, Repr

/-- A write of the defaults that succeeds. -/
def OnboardEffect.Seeds : OnboardEffect → Prop
  | updateWeights _ _ err => err = none
  | updateThresholds _ _ err => err = none
  | _ => False

/-- How a run of `Onboard` ends. -/
structure Onboarded where
  result : OnboardingResult
  err : Option String := none
  effects : List OnboardEffect := []
  world : ConfigWorld

namespace OnboardingConfig

variable (cfg : OnboardingConfig) (env : OnboardEnv) (tctx : TenantContext)

def classifyByKeywords (groups : List DiscoveredGroup) (u : DiscoveredUser) : DiscoveredUser :=
  { u with
    sensitivityHint := classifyUserSensitivity env.toLower groups u
    sensitivityConfidence := .ofInt 1 }

def classifyInput (groups : List DiscoveredGroup) (u : DiscoveredUser) : UserClassifyInput :=
  ⟨u.jobTitle, u.department, u.displayName, groupNames groups u, u.isAdmin⟩

/-- The answer of the classifier for a user, if it is long enough. -/
def classified (u : DiscoveredUser) : Option ClassifyResult → DiscoveredUser
  | some r =>
    { u with
      sensitivityHint := r.sensitivity
      sensitivityConfidence := r.confidence
      needsAdminReview := r.needsReview }
  | none => u

/-- Step 2 of `Onboard`. -/
def classifyUsers (users : List DiscoveredUser) (groups : List DiscoveredGroup) : List DiscoveredUser :=
  if cfg.sensitivityClassifier && !users.isEmpty then
    match env.classifyBatch (users.map (classifyInput groups)) with
    | .error _ => users.map (classifyByKeywords env groups)
    | .ok results => users.mapIdx fun i u => classified u results[i]?
  else users.map (classifyByKeywords env groups)

/-- `publishUserEvent`. -/
def publishUserEvent (u : DiscoveredUser) (now : ℤ) : List OnboardEffect :=
  if cfg.events then
    [.userCreated
      { tenantID := tctx.tenantID
        provider := tctx.provider.name
        userID := u.id
        emailHash := (cfg.hasher.map fun hash => hash tctx.tenantID u.email).getD "<redacted>"
        displayHash := (cfg.hasher.map fun hash => hash tctx.tenantID u.displayName).getD "<redacted>"
        department := u.department
        sensitivity := u.sensitivityHint.name
        confidence := u.sensitivityConfidence
        occurredAt := now }]
  else []

/-- Step 3 of `Onboard`, with the events of step 6: how many mailboxes were labelled, and what was asked for. The
first argument is the position of the first of the users. -/
def labelUsers : ℕ → List DiscoveredUser → ℕ × List OnboardEffect
  | _, [] => (0, [])
  | i, u :: us =>
    let (n, effects) := labelUsers (i + 1) us
    if u.isSuspended || u.email = "" then (n, effects)
    else
      let label := .ensureTierLabels tctx.tenantID u.email
      match env.labelError i with
      | some _ => (n, label :: effects)
      | none => (n + 1, label :: (cfg.publishUserEvent tctx u (env.userAt i) ++ effects))

/-- Step 4 of `Onboard`. -/
def seedConfig (ttl : ℤ) (tenantID : String) (w : ConfigWorld) : List OnboardEffect × ConfigWorld :=
  match cfg.config with
  | none => ([], w)
  | some s =>
    let r := (s.updateWeights tenantID cfg.defaultWeights).eval (ConfigOp.exec ttl) env.weights w
    let r' := (s.updateThresholds tenantID cfg.defaultThresholds).eval (ConfigOp.exec ttl) env.thresholds r.2.1
    ([.updateWeights tenantID cfg.defaultWeights r.1, .updateThresholds tenantID cfg.defaultThresholds r'.1], r'.2.1)

/-- `publishVendorSeed`. -/
def publishVendorSeed (c : VendorCandidate) (now : ℤ) : List OnboardEffect :=
  if cfg.events then [.vendorSeeded ⟨tctx.tenantID, c.domain, c.confidence, c.seenCount, now⟩] else []

/-- Step 5 of `Onboard`. -/
def seedVendors : ℕ × List OnboardEffect :=
  if cfg.vendorScanner then
    match env.scanRecentSenders (env.scanAt - cfg.vendorScanWindow) with
    | .error _ => (0, [])
    | .ok candidates =>
      let kept := candidates.filter fun c => ¬ c.confidence < cfg.minVendorConfidence
      (kept.length, (kept.mapIdx fun i c => cfg.publishVendorSeed tctx c (env.vendorAt i)).flatten)
  else (0, [])

/-- `Onboard`. -/
def onboard (ttl : ℤ) (w : ConfigWorld) : Onboarded :=
  match tctx.validate with
  | some err => { result := {}, err := some err, world := w }
  | none =>
    let res : OnboardingResult := { tenantID := tctx.tenantID, startedAt := env.startedAt }
    match env.users with
    | .error err => { result := res, err := some ("onboarding: list users: " ++ err), world := w }
    | .ok users =>
      let res := { res with usersDiscovered := users.length }
      match env.groups with
      | .error err => { result := res, err := some ("onboarding: list groups: " ++ err), world := w }
      | .ok groups =>
        let users := cfg.classifyUsers env users groups
        let (labelsApplied, labelled) := cfg.labelUsers env tctx 0 users
        let persisted := if cfg.persister then [.persistDiscoveredUsers tctx.tenantID users groups] else []
        let (seeded, w') := cfg.seedConfig env ttl tctx.tenantID w
        let (vendorsSeeded, vendors) := cfg.seedVendors env tctx
        let res :=
          { res with
            groupsDiscovered := groups.length
            labelsApplied
            vendorsSeeded
            completedAt := env.completedAt }
        { result := res
          effects := labelled ++ persisted ++ seeded ++ vendors ++ if cfg.audit then [.recordCompleted res] else []
          world := w' }

end OnboardingConfig

/-! ### Tenants that have settings -/

/-- The weights and thresholds of a tenant. -/
def settings (w : ConfigWorld) (tenantID : String) : Option (ScoreWeightUpdate × ScoreThresholdUpdate) :=
  (w.table.rows tenantID).map fun row => (row.weights, row.thresholds)

/-- A write to the configuration of a tenant that has a row fails. -/
def WriteFails (s : PostgresConfigStore) (env : ℕ → ConfigEnv) : Prop := s.repo = false ∨ (env 0).fail ≠ none

instance (s : PostgresConfigStore) (env : ℕ → ConfigEnv) : Decidable (WriteFails s env) :=
  inferInstanceAs (Decidable (_ ∨ _))

section Writes

variable {ttl : ℤ} {s : PostgresConfigStore} {tenantID what : String} {u : ColumnUpdate} {env : ℕ → ConfigEnv}
  {w : ConfigWorld} {row : ScoreEngine}

lemma eval_invalidate_table : ((s.invalidate tenantID).eval (ConfigOp.exec ttl) env w).2.1.table = w.table := by
  unfold PostgresConfigStore.invalidate
  split <;> rfl

variable (ttl s what u env) in
/-- **A write to a tenant that has settings.** -/
lemma eval_writeConfig_row (hrow : w.table.rows tenantID = some row) :
    ((s.writeConfig tenantID what u).eval (ConfigOp.exec ttl) env w).1 ≠ none ∧ WriteFails s env ∧
        ((s.writeConfig tenantID what u).eval (ConfigOp.exec ttl) env w).2.1.table = w.table ∨
      ((s.writeConfig tenantID what u).eval (ConfigOp.exec ttl) env w).1 = none ∧ ¬ WriteFails s env ∧
        ((s.writeConfig tenantID what u).eval (ConfigOp.exec ttl) env w).2.1.table.rows tenantID =
          some (u.apply row) := by
  unfold PostgresConfigStore.writeConfig
  split
  · next hrepo =>
    have hrepo : s.repo = false := by simpa using hrepo
    exact .inl ⟨nofun, .inl hrepo, rfl⟩
  next hrepo =>
  have hrepo : s.repo ≠ false := by simpa using hrepo
  have heval : (ConfigM.update tenantID u).eval (ConfigOp.exec ttl) env w =
      ((ConfigOp.exec ttl (.update tenantID u) (env 0) w).1, (ConfigOp.exec ttl (.update tenantID u) (env 0) w).2,
        fun n => env (n + 1)) := rfl
  have hsame : (w.pass (env 0)).table.rows tenantID = some row := hrow
  rw [Prog.eval_bind, heval]
  cases hfail : (env 0).fail with
  | some err =>
    have hexec : ConfigOp.exec ttl (.update tenantID u) (env 0) w = (some (.failed err), w.pass (env 0)) := by
      simp only [ConfigOp.exec, ConfigOp.effect, hfail]
    rw [hexec]
    exact .inl ⟨nofun, .inr (by rw [hfail]; nofun), rfl⟩
  | none =>
    have hexec : ConfigOp.exec ttl (.update tenantID u) (env 0) w =
        (none, (w.pass (env 0)).putRow (u.apply row)) := by
      simp only [ConfigOp.exec, ConfigOp.effect, hfail, hsame]
    rw [hexec]
    refine .inr ⟨?_, ?_, ?_⟩
    · show (Prog.eval _ (s.invalidate tenantID >>= fun _ => pure none) _ _).1 = none
      rw [Prog.eval_bind]
      rfl
    · rintro (h | h)
      · exact hrepo h
      · exact h hfail
    · show (Prog.eval (ConfigOp.exec ttl) (s.invalidate tenantID >>= fun _ => pure none) (fun n => env (n + 1))
        ((w.pass (env 0)).putRow (u.apply row))).2.1.table.rows tenantID = some (u.apply row)
      rw [Prog.eval_bind, Prog.pure_eq, Prog.eval_ret, eval_invalidate_table]
      exact ScoreTable.put_self (by rw [ColumnUpdate.apply_tenantID, w.table.keyed hrow])

end Writes

/-! ### One run of the agent -/

namespace OnboardingConfig

variable (cfg : OnboardingConfig) (env : OnboardEnv) (tctx : TenantContext) (ttl : ℤ)

/-- `Onboard` comes to the seeds of the configuration store. -/
def ReachesSeed (s : PostgresConfigStore) : Prop :=
  tctx.validate = none ∧ env.users.isOk ∧ env.groups.isOk ∧ cfg.config = some s

/-- Of a tenant that has settings, `Onboard` keeps them and writes no defaults. -/
def KeepsSettings (w : ConfigWorld) : Prop :=
  ∀ v, settings w tctx.tenantID = some v →
    settings (cfg.onboard env tctx ttl w).world tctx.tenantID = some v ∧
      ∀ e ∈ (cfg.onboard env tctx ttl w).effects, ¬ e.Seeds

variable {cfg env tctx ttl} {w : ConfigWorld}

lemma labelUsers_seeds (i : ℕ) (us : List DiscoveredUser) : ∀ e ∈ (cfg.labelUsers env tctx i us).2, ¬ e.Seeds := by
  induction us generalizing i with
  | nil => exact fun e he => absurd he List.not_mem_nil
  | cons u us ih =>
    intro e he
    unfold labelUsers at he
    simp only at he
    split at he
    · exact ih _ e he
    split at he
    · rcases List.mem_cons.mp he with rfl | he
      · exact id
      · exact ih _ e he
    · rcases List.mem_cons.mp he with rfl | he
      · exact id
      rcases List.mem_append.mp he with he | he
      · unfold publishUserEvent at he
        split at he
        · rw [List.mem_singleton.mp he]
          exact id
        · cases he
      · exact ih _ e he

lemma seedVendors_seeds : ∀ e ∈ (cfg.seedVendors env tctx).2, ¬ e.Seeds := by
  intro e he
  unfold seedVendors at he
  split at he
  swap
  · cases he
  split at he
  · cases he
  · obtain ⟨l, hl, he⟩ := List.mem_flatten.mp he
    obtain ⟨i, hi, rfl⟩ := List.mem_mapIdx.mp hl
    unfold publishVendorSeed at he
    split at he
    · rw [List.mem_singleton.mp he]
      exact id
    · cases he

variable (cfg env tctx ttl w) in
/-- What `Onboard` does to the configuration is what the seeds do. -/
lemma onboard_cases :
    ¬ (tctx.validate = none ∧ env.users.isOk ∧ env.groups.isOk) ∧ (cfg.onboard env tctx ttl w).world = w ∧
        (cfg.onboard env tctx ttl w).effects = [] ∨
      (tctx.validate = none ∧ env.users.isOk ∧ env.groups.isOk) ∧
        (cfg.onboard env tctx ttl w).world = (cfg.seedConfig env ttl tctx.tenantID w).2 ∧
        ∀ e : OnboardEffect, e.Seeds → (e ∈ (cfg.onboard env tctx ttl w).effects ↔
          e ∈ (cfg.seedConfig env ttl tctx.tenantID w).1) := by
  unfold onboard
  cases hvalid : tctx.validate with
  | some err => exact .inl ⟨nofun, rfl, rfl⟩
  | none =>
    cases husers : env.users with
    | error err => exact .inl ⟨nofun, rfl, rfl⟩
    | ok users =>
      cases hgroups : env.groups with
      | error err => exact .inl ⟨nofun, rfl, rfl⟩
      | ok groups =>
        refine .inr ⟨⟨rfl, rfl, rfl⟩, rfl, fun e he => ?_⟩
        have hlabels : e ∉ (cfg.labelUsers env tctx 0 (cfg.classifyUsers env users groups)).2 :=
          fun h => labelUsers_seeds _ _ e h he
        have hvendors : e ∉ (cfg.seedVendors env tctx).2 := fun h => seedVendors_seeds e h he
        have hpersist : ∀ us, e ∉ if cfg.persister then [.persistDiscoveredUsers tctx.tenantID us groups] else [] := by
          intro us hmem
          split at hmem
          · rw [List.mem_singleton.mp hmem] at he
            exact he
          · cases hmem
        have haudit : ∀ res, e ∉ if cfg.audit then [.recordCompleted res] else [] := by
          intro res hmem
          split at hmem
          · rw [List.mem_singleton.mp hmem] at he
            exact he
          · cases hmem
        simp only [List.mem_append]
        constructor
        · rintro ((((h | h) | h) | h) | h)
          · exact absurd h hlabels
          · exact absurd h (hpersist _)
          · exact h
          · exact absurd h hvendors
          · exact absurd h (haudit _)
        · intro h
          exact .inl (.inl (.inr h))

/-- **The seeds of a tenant that has settings.** -/
lemma seedConfig_keeps_iff {s : PostgresConfigStore} (hs : cfg.config = some s) {row : ScoreEngine}
    (hrow : w.table.rows tctx.tenantID = some row) :
    (settings (cfg.seedConfig env ttl tctx.tenantID w).2 tctx.tenantID = some (row.weights, row.thresholds) ∧
        ∀ e ∈ (cfg.seedConfig env ttl tctx.tenantID w).1, ¬ e.Seeds) ↔
      WriteFails s env.weights ∧ WriteFails s env.thresholds := by
  unfold seedConfig
  rw [hs]
  simp only [List.mem_cons, List.not_mem_nil, or_false, forall_eq_or_imp, forall_eq, OnboardEffect.Seeds]
  rcases eval_writeConfig_row ttl s "weights" (.weights (weightUpdate cfg.defaultWeights)) env.weights hrow with
    ⟨herr, hfails, htable⟩ | ⟨hok, hdone, -⟩
  swap
  · exact iff_of_false (fun h => h.2.1 hok) (fun h => hdone h.1)
  have hrow' : (Prog.eval (ConfigOp.exec ttl) (s.updateWeights tctx.tenantID cfg.defaultWeights) env.weights
      w).2.1.table.rows tctx.tenantID = some row := by
    rw [← hrow]
    exact congrArg (fun t : ScoreTable => t.rows tctx.tenantID) htable
  rcases eval_writeConfig_row ttl s "thresholds" (.thresholds (thresholdUpdate cfg.defaultThresholds)) env.thresholds
      hrow' with
    ⟨herr', hfails', htable'⟩ | ⟨hok', hdone', -⟩
  · refine iff_of_true ⟨?_, herr, herr'⟩ ⟨hfails, hfails'⟩
    unfold settings PostgresConfigStore.updateThresholds
    rw [htable', hrow']
    rfl
  · exact iff_of_false (fun h => h.2.2 hok') (fun h => hdone' h.2)

/-- **`Onboard` keeps the settings of a tenant** exactly if it does not come to the seeds, or both of them fail. -/
lemma onboard_keeps_iff : cfg.KeepsSettings env tctx ttl w ↔
    ((settings w tctx.tenantID).isSome → ∀ s, cfg.ReachesSeed env tctx s →
      WriteFails s env.weights ∧ WriteFails s env.thresholds) := by
  unfold KeepsSettings
  cases hrow : w.table.rows tctx.tenantID with
  | none =>
    have hnone : settings w tctx.tenantID = none := by rw [settings, hrow]; rfl
    rw [hnone]
    exact iff_of_true (fun v hv => by cases hv) (fun hsome => by cases hsome)
  | some row =>
    have hsome : settings w tctx.tenantID = some (row.weights, row.thresholds) := by rw [settings, hrow]; rfl
    rw [hsome]
    simp only [Option.some.injEq, forall_eq', Option.isSome_some, forall_const]
    rcases onboard_cases cfg env tctx ttl w with
      ⟨hnot, hworld, heffects⟩ | ⟨hall, hworld, heffects⟩
    · rw [hworld, heffects, hsome]
      exact iff_of_true ⟨rfl, fun e he => absurd he List.not_mem_nil⟩ (fun s hs => absurd ⟨hs.1, hs.2.1, hs.2.2.1⟩ hnot)
    have hmem : (∀ e ∈ (cfg.onboard env tctx ttl w).effects, ¬ e.Seeds) ↔
        ∀ e ∈ (cfg.seedConfig env ttl tctx.tenantID w).1, ¬ e.Seeds :=
      ⟨fun h e he hseeds => h e ((heffects e hseeds).mpr he) hseeds,
        fun h e he hseeds => h e ((heffects e hseeds).mp he) hseeds⟩
    rw [hworld, hmem]
    cases hconfig : cfg.config with
    | none =>
      refine iff_of_true ?_ (fun s hs => ?_)
      · unfold seedConfig
        rw [hconfig]
        exact ⟨hsome, fun e he => absurd he List.not_mem_nil⟩
      · cases hconfig.symm.trans hs.2.2.2
    | some s =>
      rw [seedConfig_keeps_iff hconfig hrow]
      constructor
      · intro h s' hs'
        cases hconfig.symm.trans hs'.2.2.2
        exact h
      · intro h
        exact h s ⟨hall.1, hall.2.1, hall.2.2, hconfig⟩

end OnboardingConfig

/-! ### Triggers -/

/-- What starts the agent: `AgentBridge` and the `application`, which have the same one. -/
structure Triggers where
  onboardAgent : Option OnboardingConfig
  locale : String := ""

/-- `agentProvider`. -/
def agentProvider (p : String) : Provider :=
  if p = Onboarding.providerGoogle then .google
  else if p = Onboarding.providerMicrosoft then .microsoft
  else .unknown

/-- The data of `es.onboarding.tenant.created`. -/
structure TenantCreated where
  tenantID : String := ""
  provider : String := ""
  deriving DecidableEq, Repr

/-- A run of the agent that a trigger starts. -/
structure OnboardRun where
  cfg : OnboardingConfig
  tctx : TenantContext
  env : OnboardEnv

namespace Triggers

variable (app : Triggers)

/-- `StartOnboarding`. -/
def startOnboarding (draining : Bool) (now : ℤ) (tenantID provider : String) :
    Except String (OnboardingConfig × TenantContext) :=
  match app.onboardAgent with
  | none => .error "onboarding: agent not configured"
  | some cfg =>
    if draining then .error "onboarding: server is shutting down"
    else .ok (cfg, ⟨tenantID, agentProvider provider, app.locale, now⟩)

/-- `handleOnboarding`: the data is as `json.Unmarshal` reads it, and `bound` says whether the connection could be
bound to the tenant. -/
def handleOnboarding (draining : Bool) (now : ℤ) (subject : String) (data : Option TenantCreated) (bound : Bool) :
    Option (OnboardingConfig × TenantContext) :=
  if ".tenant.created".toList <:+ subject.toList then
    match app.onboardAgent, data with
    | some cfg, some d =>
      let p := Provider.ofString d.provider
      if d.tenantID = "" then none
      else if !p.valid || p = .unknown then none
      else if draining || !bound then none
      else some (cfg, { tenantID := d.tenantID, provider := p, startedAt := now })
    | _, _ => none
  else none

end Triggers

/-! ### Runs -/

/-- What happens to the settings of tenants: a consent, an event of the onboarding stream, and a change by the tuning
agent or an administrator. -/
inductive SettingsCall where
  | consent (draining : Bool) (now : ℤ) (tenantID provider : String) (env : OnboardEnv)
  | event (draining : Bool) (now : ℤ) (subject : String) (data : Option TenantCreated) (bound : Bool)
      (env : OnboardEnv)
  | updateWeights (s : PostgresConfigStore) (tenantID : String) (w : ScoreWeights) (env : ℕ → ConfigEnv)
  | updateThresholds (s : PostgresConfigStore) (tenantID : String) (t : AgentThresholds) (env : ℕ → ConfigEnv)

/-- The run of the agent in a call, if there is one. -/
def Triggers.onboards (app : Triggers) : SettingsCall → Option OnboardRun
  | .consent draining now tenantID provider env =>
    (app.startOnboarding draining now tenantID provider).toOption.map fun r => ⟨r.1, r.2, env⟩
  | .event draining now subject data bound env =>
    (app.handleOnboarding draining now subject data bound).map fun r => ⟨r.1, r.2, env⟩
  | _ => none

/-- One call after the other. -/
def settingsStep (app : Triggers) (ttl : ℤ) (w : ConfigWorld) : SettingsCall → Option ConfigWorld
  | .updateWeights s tenantID ws env => some ((s.updateWeights tenantID ws).eval (ConfigOp.exec ttl) env w).2.1
  | .updateThresholds s tenantID t env => some ((s.updateThresholds tenantID t).eval (ConfigOp.exec ttl) env w).2.1
  | call =>
    match app.onboards call with
    | some r => some (r.cfg.onboard r.env r.tctx ttl w).world
    | none => some w

/-- **Re-onboarding keeps tuned settings** exactly if no onboarding of a tenant that has settings comes to the seeds
with a database that takes one of the two writes. -/
theorem reonboarding_keeps_settings_iff (app : Triggers) (ttl : ℤ) (w : ConfigWorld) (calls : List SettingsCall) :
    Lts.Meets (settingsStep app ttl)
        (fun w call => ∀ r ∈ app.onboards call, r.cfg.KeepsSettings r.env r.tctx ttl w) w calls ↔
      Lts.Meets (settingsStep app ttl)
        (fun w call => ∀ r ∈ app.onboards call, (settings w r.tctx.tenantID).isSome →
          ∀ s, r.cfg.ReachesSeed r.env r.tctx s → WriteFails s r.env.weights ∧ WriteFails s r.env.thresholds)
        w calls := by
  simp only [OnboardingConfig.onboard_keeps_iff]

/-! ### A second consent -/

namespace Sample

/-- A directory without users. -/
def emptyDirectory : OnboardEnv := { toLower := id, users := .ok [], groups := .ok [] }

/-- The agent that `NewOnboardingAgent` makes of a configuration without values. -/
def agent : OnboardingConfig where
  config := some {}
  vendorScanWindow := 30 * 24 * 3600 * GoTime.second
  minVendorConfidence := .ofRat (6 / 10)
  defaultWeights := Evaluate.defaultWeights
  defaultThresholds := ⟨20, 60, 85, 70, 50, 30, 15⟩

def tuned : AgentThresholds := ⟨25, 65, 90, 75, 55, 35, 20⟩

/-- The tenant consents, is tuned, and consents again. -/
def consentTwice : List SettingsCall :=
  [.consent false 0 "t" Onboarding.providerGoogle emptyDirectory, .updateThresholds {} "t" tuned fun _ => {},
    .consent false 1 "t" Onboarding.providerGoogle emptyDirectory]

end Sample

/-- **The second consent undoes the tuning.** -/
theorem second_consent_resets_thresholds :
    newOnboardingAgent { config := some {} } = .ok Sample.agent ∧
      ¬ Lts.Meets (settingsStep ⟨some Sample.agent, ""⟩ 0)
        (fun w call => ∀ r ∈ (⟨some Sample.agent, ""⟩ : Triggers).onboards call,
          r.cfg.KeepsSettings r.env r.tctx 0 w) {} Sample.consentTwice ∧
      (Lts.run (settingsStep ⟨some Sample.agent, ""⟩ 0) {} (Sample.consentTwice.take 2)).bind
        (fun w => (settings w "t").map Prod.snd) = some (thresholdUpdate Sample.tuned) ∧
      (Lts.run (settingsStep ⟨some Sample.agent, ""⟩ 0) {} Sample.consentTwice).bind
        (fun w => (settings w "t").map Prod.snd) = some (thresholdUpdate Sample.agent.defaultThresholds) := by
  refine ⟨rfl, fun hkeeps => ?_, rfl, rfl⟩
  have hlast := ((hkeeps.2 _ rfl).2 _ rfl).1
    ⟨Sample.agent, ⟨"t", .google, "", 1⟩, Sample.emptyDirectory⟩ rfl
  obtain ⟨hfails, -⟩ := OnboardingConfig.onboard_keeps_iff.mp hlast rfl {} ⟨rfl, rfl, rfl, rfl⟩
  rcases hfails with h | h
  · cases h
  · exact h rfl

end Sn360Es.Agent
