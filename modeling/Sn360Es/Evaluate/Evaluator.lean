import Sn360Es.Evaluate.Categorizer
import Sn360Es.Evaluate.Scorer
import Sn360Es.Tier0.Gate
import Sn360Es.Tier1.Thresholds

/-!
# The per-message evaluator (`internal/service/evaluate/evaluator.go`)

Tier 0, then Rspamd and Tier 1, then Tier 2, then the aggregation. A client is what `runTier1`, `runTier2` or
`runRspamd` makes of it: the call behind its circuit breaker, where an open breaker is one more error. The
fan-out writes into channels that are drained in a fixed order, so the merge is sequential. Metrics and logs
are left out.

* `evaluate_escalated` — the verdict of an escalated message, from what the services answered;
* `suspected_severity_iff` — when a suspected sender's verdict is at least as severe as its score.
-/

namespace Sn360Es.Evaluate

open Sn360Es.Action Sn360Es.Tier1

/-- `TenantScoringConfig`; an unset threshold is `none`. -/
structure TenantScoringConfig where
  weights : Weights
  tier1PassThreshold : Option ℤ := none
  tier1FlagThreshold : Option ℤ := none
  deriving DecidableEq, Repr

/-- The `Categorizer` interface. -/
abbrev Categorizer := EvaluateResult → RiskSignals → Category × List Category × List String

/-- `evaluate.Config`, as `NewEvaluator` leaves it. -/
structure Config where
  tier0 : Option (EvaluateRequest → RiskSignals → Tier0Outcome)
  tier1 : Option (EvaluateRequest → Except String Tier1Outcome) := none
  tier2 : Option (EvaluateRequest → Tier1Outcome → Except String Tier2Outcome) := none
  rspamd : Option (EvaluateRequest → Except String RspamdOutcome) := none
  categorizer : Option Categorizer := none
  tierDecider : Option (ℤ → Option Category → RiskSignals → Tier) := none
  weights : Weights := defaultWeights
  tier1PassThreshold : ℤ := 20
  tier1FlagThreshold : ℤ := 60
  tier1SuppressPartner : ℤ := 0
  tenantConfig : Option (String → Except String TenantScoringConfig) := none

/-- The defaults of `NewEvaluator`. A zero `tier1SuppressPartner` is an operator's choice and stays. -/
def newEvaluator (cfg : Config) : Config :=
  { cfg with
    tier1PassThreshold := if cfg.tier1PassThreshold = 0 then 20 else cfg.tier1PassThreshold
    tier1FlagThreshold := if cfg.tier1FlagThreshold = 0 then 60 else cfg.tier1FlagThreshold
    weights := if cfg.weights.total = 0 then defaultWeights else cfg.weights }

/-- What both `resolveTenantConfig` functions do with the loader's answer. -/
def applyTenantConfig (weights : Weights) (thresholds : Thresholds) :
    Except String TenantScoringConfig → Weights × Thresholds
  | .error _ => (weights, thresholds)
  | .ok tc =>
    (if 0 < tc.weights.total then tc.weights else weights,
      { thresholds with
        passBelow := tc.tier1PassThreshold.getD thresholds.passBelow
        flagAbove := tc.tier1FlagThreshold.getD thresholds.flagAbove })

/-- `ForcedTierFor`. -/
def forcedTierFor : Option Category → Tier
  | some .internalTrusted | some .vendorTrusted => .trusted
  | some .newsletter => .informational
  | some .likelyPhishing => .blocked
  | some .suspiciousURL => .highRisk
  | _ => .trusted

namespace Config

variable (e : Config)

/-- `Evaluator.resolveTenantConfig`. -/
def resolveTenantConfig (tenantID : String) : Weights × Thresholds :=
  let thresholds : Thresholds :=
    ⟨e.tier1PassThreshold, e.tier1FlagThreshold, e.tier1SuppressPartner⟩
  match e.tenantConfig with
  | none => (e.weights, thresholds)
  | some load =>
    if tenantID = "" then (e.weights, thresholds)
    else applyTenantConfig e.weights thresholds (load tenantID)

/-- `shouldRunTier2`. Without a Tier 1 outcome everything escalates. -/
def shouldRunTier2 (tier0 : Tier0Outcome) (t1 : Option Tier1Outcome) : Bool :=
  if tier0.skipML || tier0.rspamdOnly then false
  else if tier0.forceEscalate then true
  else
    match t1 with
    | none => true
    | some t1 => t1.escalate || t1.flag

/-- The outcome of Tier 1 with the verdict the thresholds give its score. -/
def judgeTier1 (th : Thresholds) (tier0 : Tier0Outcome) (o : Tier1Outcome) : Tier1Outcome :=
  let pass := if 0 < tier0.tier1ThresholdOverride then tier0.tier1ThresholdOverride else th.passBelow
  let verdict := Thresholds.decision ⟨pass, th.flagAbove, 0⟩ o.score
  { o with pass := verdict = .pass, flag := verdict = .flag, escalate := verdict = .escalate }

/-- The partial result and the services that failed so far. -/
structure Gathered where
  res : EvaluateResult
  degraded : List String := []

/-- The drain of the Rspamd channel; `none` is a channel that was closed unused. -/
def mergeRspamd (answer : Option (Except String RspamdOutcome)) (g : Gathered) : Gathered :=
  match answer with
  | none => g
  | some (.error _) => { g with degraded := g.degraded ++ ["rspamd"] }
  | some (.ok o) => { g with res := { g.res with rspamd := some o } }

def mergeTier1 (th : Thresholds) (tier0 : Tier0Outcome)
    (answer : Option (Except String Tier1Outcome)) (g : Gathered) : Gathered :=
  match answer with
  | none => g
  | some (.error _) => { g with degraded := g.degraded ++ ["tier1"] }
  | some (.ok o) =>
    { g with
      res := { g.res with
        reasonCodes := g.res.reasonCodes ++ o.reasonCodes
        tier1 := some (judgeTier1 th tier0 o) } }

/-- The escalation to Tier 2. The client gets the Tier 1 outcome as a hint. -/
def mergeTier2 (req : EvaluateRequest) (tier0 : Tier0Outcome) (g : Gathered) : Gathered :=
  match e.tier2 with
  | none => g
  | some client =>
    if shouldRunTier2 tier0 g.res.tier1 then
      match client req (g.res.tier1.getD {}) with
      | .error _ => { g with degraded := g.degraded ++ ["tier2"] }
      | .ok o => { g with res := { g.res with tier2 := some o } }
    else g

/-- Steps 2 and 3 of `Evaluate`: the answers of the services, merged in a fixed order. -/
def gather (th : Thresholds) (req : EvaluateRequest) (tier0 : Tier0Outcome) (res : EvaluateResult) :
    Gathered :=
  let tier1Skipped := tier0.skipML || tier0.rspamdOnly
  let g := mergeRspamd (e.rspamd.map fun f => f req) { res }
  let g := mergeTier1 th tier0 (if tier1Skipped then none else e.tier1.map fun f => f req) g
  e.mergeTier2 req tier0 g

/-- Step 4 of `Evaluate`: score, category, tier. -/
def aggregate (weights : Weights) (sig : RiskSignals) (g : Gathered) : EvaluateResult :=
  let res := { g.res with score := scoreWithAvailability (fromResultEx g.res) weights }
  let res := match e.categorizer with
    | none => res
    | some categorise =>
      let (primary, secondary, reasons) := categorise res sig
      { res with primary := some primary, secondary, reasonCodes := res.reasonCodes ++ reasons }
  let res := match e.tierDecider with
    | none => res
    | some decide => { res with tier := some (decide res.score res.primary sig) }
  { res with degraded := g.degraded ≠ [], degradedServices := g.degraded }

/-- `Evaluator.Evaluate`. -/
def evaluate (now : ℕ) (req : EvaluateRequest) (sig : RiskSignals) : Except String EvaluateResult :=
  let res : EvaluateResult :=
    { messageID := req.messageID, tenantID := req.tenantID, correlationID := req.correlationID,
      evaluatedAt := now }
  let (weights, base) := e.resolveTenantConfig req.tenantID
  let th := base.adjustForRelationship sig.relationshipCategory
  match e.tier0 with
  | none => .error "evaluate: Tier0 gate is required"
  | some gate =>
    let tier0 := gate req sig
    let res := { res with tier0 := some tier0 }
    if tier0.bypass then
      .ok { res with
        primary := tier0.forcedCategory
        tier := some (forcedTierFor tier0.forcedCategory)
        score := 0
        reasonCodes := if tier0.reason = "" then [] else [tier0.reason] }
    else .ok (e.aggregate weights sig (e.gather th req tier0 res))

/-! ### What the services answered -/

/-- The answer of Tier 1, if it is configured and does not fail. -/
def tier1Answer (req : EvaluateRequest) : Option Tier1Outcome :=
  e.tier1.bind fun f => (f req).toOption

def tier2Answer (req : EvaluateRequest) (hint : Tier1Outcome) : Option Tier2Outcome :=
  e.tier2.bind fun f => (f req hint).toOption

def rspamdAnswer (req : EvaluateRequest) : Option RspamdOutcome :=
  e.rspamd.bind fun f => (f req).toOption

/-- The answers of all services to a message whose stages are all on, and the weighted score of their
scores under the tenant's weights. -/
def evidence (req : EvaluateRequest) (sig : RiskSignals) (tier0 : Tier0Outcome) : EvaluateResult :=
  let (weights, base) := e.resolveTenantConfig req.tenantID
  let th := base.adjustForRelationship sig.relationshipCategory
  let tier1 := (e.tier1Answer req).map (judgeTier1 th tier0)
  let r : EvaluateResult :=
    { tier1
      tier2 := e.tier2Answer req (tier1.getD {})
      rspamd := e.rspamdAnswer req
      reasonCodes := ((e.tier1Answer req).map Tier1Outcome.reasonCodes).getD [] }
  { r with score := scoreWithAvailability (fromResultEx r) weights }

end Config

/-! ### Routing fields -/

section Ids

variable {e : Config} {req : EvaluateRequest} {sig : RiskSignals}

lemma gather_ids (th : Thresholds) (tier0 : Tier0Outcome) (res : EvaluateResult) :
    (e.gather th req tier0 res).res.messageID = res.messageID ∧
      (e.gather th req tier0 res).res.tenantID = res.tenantID := by
  have hR : ∀ a (g : Config.Gathered), (Config.mergeRspamd a g).res.messageID = g.res.messageID ∧
      (Config.mergeRspamd a g).res.tenantID = g.res.tenantID := by
    intro a g
    rcases a with _ | _ | o <;> exact ⟨rfl, rfl⟩
  have hT : ∀ a (g : Config.Gathered), (Config.mergeTier1 th tier0 a g).res.messageID =
      g.res.messageID ∧ (Config.mergeTier1 th tier0 a g).res.tenantID = g.res.tenantID := by
    intro a g
    rcases a with _ | _ | o <;> exact ⟨rfl, rfl⟩
  have hL : ∀ g : Config.Gathered, (e.mergeTier2 req tier0 g).res.messageID = g.res.messageID ∧
      (e.mergeTier2 req tier0 g).res.tenantID = g.res.tenantID := by
    intro g
    unfold Config.mergeTier2
    split
    · exact ⟨rfl, rfl⟩
    · split_ifs
      · split <;> exact ⟨rfl, rfl⟩
      · exact ⟨rfl, rfl⟩
  unfold Config.gather
  simp only [hL, hT, hR, and_self]

lemma aggregate_ids (w : Weights) (g : Config.Gathered) :
    (e.aggregate w sig g).messageID = g.res.messageID ∧
      (e.aggregate w sig g).tenantID = g.res.tenantID := by
  unfold Config.aggregate
  cases e.categorizer <;> cases e.tierDecider <;> exact ⟨rfl, rfl⟩

/-- A result carries the ids of its request. -/
theorem evaluate_ids {now : ℕ} {res : EvaluateResult} (h : e.evaluate now req sig = .ok res) :
    res.messageID = req.messageID ∧ res.tenantID = req.tenantID := by
  unfold Config.evaluate at h
  dsimp only at h
  split at h
  · cases h
  · split at h
    · cases h
      exact ⟨rfl, rfl⟩
    · cases h
      simp only [aggregate_ids, gather_ids, and_self]

end Ids

/-! ### Suspected senders -/

section Suspected

variable {e : Config} {c : RuleCategorizer} {d : TierDecider} {req : EvaluateRequest}
  {sig : RiskSignals}

/-- The categoriser reads the score, the Tier 2 outcome and the reason codes. -/
lemma decide_congr {r r' : EvaluateResult} (hs : r.score = r'.score) (h2 : r.tier2 = r'.tier2)
    (hr : r.reasonCodes = r'.reasonCodes) : c.decide r sig = c.decide r' sig := by
  simp only [RuleCategorizer.decide, RuleCategorizer.votes, hs, h2, hr]

lemma mergeRspamd_res {a : Option (Except String RspamdOutcome)} {g : Config.Gathered}
    (h : g.res.rspamd = none) :
    (Config.mergeRspamd a g).res = { g.res with rspamd := a.bind Except.toOption } := by
  rcases a with _ | _ | o
  · simp only [Config.mergeRspamd, Option.bind_none, ← h]
  · simp only [Config.mergeRspamd, Option.bind_some, Except.toOption, ← h]
  · rfl

lemma mergeTier1_res (th : Thresholds) (tier0 : Tier0Outcome) {g : Config.Gathered}
    {a : Option (Except String Tier1Outcome)} (h : g.res.tier1 = none) :
    (Config.mergeTier1 th tier0 a g).res =
      { g.res with
        reasonCodes := g.res.reasonCodes ++
          ((a.bind Except.toOption).map Tier1Outcome.reasonCodes).getD []
        tier1 := (a.bind Except.toOption).map (Config.judgeTier1 th tier0) } := by
  have hnone : g.res = { g.res with reasonCodes := g.res.reasonCodes ++ [], tier1 := none } := by
    simp only [List.append_nil, ← h]
  rcases a with _ | _ | o
  · exact hnone
  · exact hnone
  · rfl

lemma mergeTier2_res {tier0 : Tier0Outcome} {g : Config.Gathered} (h : g.res.tier2 = none)
    (hrun : Config.shouldRunTier2 tier0 g.res.tier1 = true) :
    (e.mergeTier2 req tier0 g).res =
      { g.res with tier2 := e.tier2Answer req (g.res.tier1.getD {}) } := by
  unfold Config.mergeTier2 Config.tier2Answer
  rcases e.tier2 with _ | client
  · simp only [Option.bind_none, ← h]
  · simp only [hrun, if_true, Option.bind_some]
    cases client req (g.res.tier1.getD {}) with
    | error _ => simp only [Except.toOption, ← h]
    | ok o => rfl

/-- With every stage on, the gathered result holds the answers of the services. -/
lemma gather_res {tier0 : Tier0Outcome} {res : EvaluateResult} (th : Thresholds)
    (hskip : tier0.skipML = false) (hrs : tier0.rspamdOnly = false)
    (hf : tier0.forceEscalate = true) (h1 : res.tier1 = none) (h2 : res.tier2 = none)
    (hr : res.rspamd = none) :
    (e.gather th req tier0 res).res =
      { res with
        rspamd := e.rspamdAnswer req
        tier1 := (e.tier1Answer req).map (Config.judgeTier1 th tier0)
        tier2 := e.tier2Answer req (((e.tier1Answer req).map (Config.judgeTier1 th tier0)).getD {})
        reasonCodes := res.reasonCodes ++
          ((e.tier1Answer req).map Tier1Outcome.reasonCodes).getD [] } := by
  have hrun : ∀ t1, Config.shouldRunTier2 tier0 t1 = true := fun t1 => by
    simp [Config.shouldRunTier2, hskip, hrs, hf]
  have hbind : ∀ {α : Type} (f : Option (EvaluateRequest → Except String α)),
      (f.map fun g => g req).bind Except.toOption = f.bind fun g => (g req).toOption := by
    intro α f
    cases f <;> rfl
  have hR := mergeRspamd_res (a := e.rspamd.map fun f => f req) (g := { res }) hr
  have hT := mergeTier1_res th tier0 (a := e.tier1.map fun f => f req)
    (g := Config.mergeRspamd (e.rspamd.map fun f => f req) { res }) (by rw [hR]; exact h1)
  unfold Config.gather
  simp only [hskip, hrs, Bool.or_self, Bool.false_eq_true, if_false]
  rw [mergeTier2_res (by rw [hT, hR]; exact h2) (hrun _), hT, hR]
  simp only [hbind, Config.rspamdAnswer, Config.tier1Answer]

/-- **An escalated message.** With every stage on, the score and the tier are those of the evidence. -/
theorem evaluate_escalated (now : ℕ) {gate : EvaluateRequest → RiskSignals → Tier0Outcome}
    (hgate : e.tier0 = some gate) (hcat : e.categorizer = some c.categorise)
    (hdec : e.tierDecider = some (tierDeciderAdapter (some d)))
    (hby : (gate req sig).bypass = false) (hskip : (gate req sig).skipML = false)
    (hrs : (gate req sig).rspamdOnly = false) (hf : (gate req sig).forceEscalate = true) :
    ∃ res, e.evaluate now req sig = .ok res ∧ res.score = (e.evidence req sig (gate req sig)).score ∧
      res.tier = some (decideTier c d (e.evidence req sig (gate req sig)) sig) := by
  refine ⟨_, by simp only [Config.evaluate, hgate, hby, Bool.false_eq_true, if_false]; rfl, ?_⟩
  simp only [Config.aggregate, hcat, hdec]
  rw [gather_res _ hskip hrs hf rfl rfl rfl]
  refine ⟨rfl, ?_⟩
  rw [decideTier, ← decide_congr rfl rfl rfl]
  rfl

/-- **Suspected senders.** When the gate refuses a bypass because it suspects compromise, the verdict is at
least as severe as its score exactly when no sender-trust signal and no benign category of Tier 2 stands
against the evidence. -/
theorem suspected_severity_iff (g : Tier0.Gate) (now : ℕ) (hgate : e.tier0 = some g.applyWithContext)
    (hcat : e.categorizer = some c.categorise)
    (hdec : e.tierDecider = some (tierDeciderAdapter (some d)))
    (hsus : Tier0.Suspects (g.applyWithContext req sig)) :
    ∃ res t, e.evaluate now req sig = .ok res ∧ res.tier = some t ∧
      ((d.tierFromScore res.score).severity ≤ t.severity ↔
        NoBenignOverride c d (e.evidence req sig (g.applyWithContext req sig)) sig) := by
  obtain ⟨hby, hf, -⟩ := hsus
  obtain ⟨hskip, hrs⟩ := Tier0.applyWithContext_forceEscalate hf
  obtain ⟨res, hres, hscore, htier⟩ := evaluate_escalated now hgate hcat hdec hby hskip hrs hf
  refine ⟨res, _, hres, htier, ?_⟩
  rw [hscore]
  exact decideTier_severity_iff c d _ sig

end Suspected

/-- The gate of `NewGate` with its defaults, on senders that parse as bare addresses. -/
def defaultGate : Tier0.Gate where
  cfg := Tier0.defaultGateConfig
  recurring := ⟨some, String.toLower⟩
  ato := ⟨Tier0.defaultATOHeuristicConfig, String.toLower, fun a b => a.toLower = b.toLower⟩

/-- The default pipeline with a Tier 1 model that answers `score`. -/
def tier1Pipeline (score : ℤ) : Config where
  tier0 := some defaultGate.applyWithContext
  tier1 := some fun _ => .ok { score }
  categorizer := some newRuleCategorizer.categorise
  tierDecider := some (tierDeciderAdapter (some defaultTierDecider))

/-- An internal sender whose mail failed authentication. -/
def spoofedInternal : RiskSignals := { isInternal := true, hasFailedAuth := true }

/-- A Tier 1 score of 10 stays below the Informational cutoff, where Trusted is what the score says. -/
theorem suspected_severity_low_score :
    ∃ res t, (tier1Pipeline 10).evaluate 0 { messageID := "m" } spoofedInternal = .ok res ∧
      res.tier = some t ∧
      ((defaultTierDecider.tierFromScore res.score).severity ≤ t.severity ↔
        NoBenignOverride newRuleCategorizer defaultTierDecider
          ((tier1Pipeline 10).evidence { messageID := "m" } spoofedInternal
            (defaultGate.applyWithContext { messageID := "m" } spoofedInternal)) spoofedInternal) :=
  suspected_severity_iff defaultGate 0 rfl rfl rfl (by decide +kernel)

/-- At a Tier 1 score of 100 the same sender is escalated, scores 86 and is published as Trusted. -/
theorem suspected_severity_trusted :
    ¬ ∀ (e : Config) (c : RuleCategorizer) (d : TierDecider) (g : Tier0.Gate) (now : ℕ)
        (req : EvaluateRequest) (sig : RiskSignals),
        e.tier0 = some g.applyWithContext → e.categorizer = some c.categorise →
        e.tierDecider = some (tierDeciderAdapter (some d)) →
        Tier0.Suspects (g.applyWithContext req sig) →
        ∃ res t, e.evaluate now req sig = .ok res ∧ res.tier = some t ∧
          (d.tierFromScore res.score).severity ≤ t.severity := by
  intro h
  obtain ⟨res, t, hres, htier, hle⟩ := h (tier1Pipeline 100) newRuleCategorizer defaultTierDecider
    defaultGate 0 { messageID := "m" } spoofedInternal rfl rfl rfl (by decide +kernel)
  have hout : (tier1Pipeline 100).evaluate 0 { messageID := "m" } spoofedInternal = .ok res →
      res.score = 86 ∧ res.tier = some .trusted := by
    intro hev
    have hsc : ((tier1Pipeline 100).evaluate 0 { messageID := "m" } spoofedInternal).map
        (fun r => (r.score, r.tier)) = .ok (86, some .trusted) := by decide +kernel
    rw [hev] at hsc
    simpa [Except.map] using hsc
  obtain ⟨hs, ht⟩ := hout hres
  rw [ht] at htier
  cases htier
  rw [hs] at hle
  exact absurd hle (by decide)

end Sn360Es.Evaluate
