import Sn360Es.Evaluate.Batch

/-!
# The order of the Tier 1 thresholds

The pair that judges a Tier 1 score is rewritten three times on its way: the tenant's row replaces the static pair,
`AdjustForRelationship` shifts it and restores the order, and the override of Tier 0 then replaces the lower threshold
by a fixed number. `usedThresholds` is the pair that both evaluators end up with.

* `evaluate_judged`, `verdictFor_eq` — both decide by it;
* `applyWithContext_override` — when Tier 0 overrides;
* `usedThresholds_inOrder_iff` — the pair is in order exactly if the override stays below the shifted upper threshold.
-/

namespace Sn360Es.Evaluate

open Sn360Es.Tier0 Sn360Es.Tier1

/-- The tenant's pair, shifted for the relationship and overridden by Tier 0. -/
def usedThresholds (base : Thresholds) (sig : RiskSignals) (tier0 : Tier0Outcome) : Thresholds :=
  let t := base.adjustForRelationship sig.relationshipCategory
  if 0 < tier0.tier1ThresholdOverride then { t with passBelow := tier0.tier1ThresholdOverride } else t

/-- The lower threshold is below the upper one, and nothing above the upper one passes. -/
structure InOrder (t : Thresholds) : Prop where
  ordered : t.passBelow < t.flagAbove
  above : ∀ score, t.flagAbove < score → t.decision score ≠ .pass

lemma inOrder_iff {t : Thresholds} : InOrder t ↔ t.passBelow < t.flagAbove := by
  constructor
  · exact InOrder.ordered
  · intro h
    refine ⟨h, fun score hscore => ?_⟩
    have hnot : ¬ score < t.passBelow := by omega
    simp [Thresholds.decision, hnot, hscore]

/-! ### Both evaluators -/

lemma judgeTier1_eq (base : Thresholds) (sig : RiskSignals) (tier0 : Tier0Outcome) (o : Tier1Outcome) :
    Config.judgeTier1 (base.adjustForRelationship sig.relationshipCategory) tier0 o =
      { o with
        pass := (usedThresholds base sig tier0).decision o.score = .pass
        flag := (usedThresholds base sig tier0).decision o.score = .flag
        escalate := (usedThresholds base sig tier0).decision o.score = .escalate } := by
  unfold Config.judgeTier1 usedThresholds
  split_ifs <;> rfl

lemma mergeTier2_tier1 (e : Config) (req : EvaluateRequest) (tier0 : Tier0Outcome) (g : Config.Gathered) :
    (e.mergeTier2 req tier0 g).res.tier1 = g.res.tier1 := by
  unfold Config.mergeTier2
  split
  · rfl
  · split_ifs
    · split <;> rfl
    · rfl

lemma aggregate_tier1 (e : Config) (weights : Weights) (sig : RiskSignals) (g : Config.Gathered) :
    (e.aggregate weights sig g).tier1 = g.res.tier1 := by
  unfold Config.aggregate
  cases e.categorizer <;> cases e.tierDecider <;> rfl

/-- The Tier 1 outcome of a gathered result is what the client answered, judged. -/
lemma gather_judged {e : Config} {th : Thresholds} {req : EvaluateRequest} {tier0 : Tier0Outcome}
    {res : EvaluateResult} (hres : res.tier1 = none) {t1 : Tier1Outcome}
    (h : (e.gather th req tier0 res).res.tier1 = some t1) : ∃ o, t1 = Config.judgeTier1 th tier0 o := by
  unfold Config.gather at h
  rw [mergeTier2_tier1] at h
  have hnone : ∀ a, (Config.mergeRspamd a { res }).res.tier1 = none := by
    intro a
    rcases a with _ | _ | o <;> exact hres
  generalize (if tier0.skipML || tier0.rspamdOnly then none else e.tier1.map fun f => f req) = answer at h
  rcases answer with _ | _ | o
  · simp [Config.mergeTier1, hnone] at h
  · simp [Config.mergeTier1, hnone] at h
  · exact ⟨o, (Option.some.inj h).symm⟩

/-- `Evaluate` decides by the used thresholds. -/
lemma evaluate_judged {e : Config} {gate : EvaluateRequest → RiskSignals → Tier0Outcome} {now : ℕ}
    {req : EvaluateRequest} {sig : RiskSignals} {res : EvaluateResult} {t1 : Tier1Outcome}
    (hgate : e.tier0 = some gate) (h : e.evaluate now req sig = .ok res) (ht1 : res.tier1 = some t1) :
    t1.pass = decide ((usedThresholds (e.resolveTenantConfig req.tenantID).2 sig (gate req sig)).decision t1.score =
      .pass) := by
  simp only [Config.evaluate, hgate] at h
  cases hbypass : (gate req sig).bypass with
  | true =>
    rw [hbypass, if_pos rfl] at h
    obtain rfl := Except.ok.inj h
    cases ht1
  | false =>
    rw [hbypass, if_neg (by simp)] at h
    obtain rfl := Except.ok.inj h
    rw [aggregate_tier1] at ht1
    obtain ⟨o, rfl⟩ := gather_judged rfl ht1
    rw [judgeTier1_eq]

/-- So does the batch. -/
lemma verdictFor_eq (o : BatchOrchestrator) (p : Pending) (resp : PredictResponse) :
    o.verdictFor p resp =
      (usedThresholds (o.resolveTenantConfig p.req.tenantID).2 p.sig p.tier0Outcome).decision resp.score := rfl

/-! ### The override -/

/-- No earlier stage of the gate settles the message. -/
def reachesModifiers (g : Gate) (req : EvaluateRequest) (sig : RiskSignals) : Bool :=
  (g.applyTIMatch req sig).isNone && !(g.cfg.skipInternal && sig.isInternal) &&
    !(g.cfg.skipVendor && sig.isFromVendor) &&
    !(g.cfg.skipRecurring && (sig.isRecurringService || g.recurring.isRecurring req.sender)) &&
    !(g.cfg.highVolumeRspamdOnly && sig.isHighVolumeSender)

lemma tiOutcome_override (m : MatchedIndicator) (ms : List MatchedIndicator) :
    (tiOutcome m ms).tier1ThresholdOverride = 0 := by
  simp only [tiOutcome]
  split <;> rfl

lemma applyTIMatch_override {g : Gate} {req : EvaluateRequest} {sig : RiskSignals} {out : Tier0Outcome}
    (h : g.applyTIMatch req sig = some out) : out.tier1ThresholdOverride = 0 := by
  unfold Gate.applyTIMatch at h
  split at h
  · cases h
  · split at h
    · cases h
    · cases h
    · rw [← Option.some.inj h]
      exact tiOutcome_override _ _

lemma modifiers_override (g : Gate) (sig : RiskSignals) : (g.modifiers sig).tier1ThresholdOverride =
    if sig.lowerTier1Threshold ∧ 0 < g.cfg.tier1PartnerThreshold then g.cfg.tier1PartnerThreshold else 0 := by
  unfold Gate.modifiers
  split_ifs <;> rfl

/-- Tier 0 overrides for a partner or customer that no earlier stage has settled. -/
lemma applyWithContext_override (g : Gate) (req : EvaluateRequest) (sig : RiskSignals) :
    (g.applyWithContext req sig).tier1ThresholdOverride =
      if reachesModifiers g req sig then (g.modifiers sig).tier1ThresholdOverride else 0 := by
  unfold Gate.applyWithContext reachesModifiers
  cases hti : g.applyTIMatch req sig with
  | some out => simpa using applyTIMatch_override hti
  | none =>
    simp only [Option.isNone_none, Bool.true_and]
    -- each stage that settles the message returns before the modifiers
    generalize (g.cfg.skipInternal && sig.isInternal) = internal
    generalize (g.cfg.skipVendor && sig.isFromVendor) = vendor
    generalize (g.cfg.skipRecurring && (sig.isRecurringService || g.recurring.isRecurring req.sender)) = recurring
    generalize (g.cfg.highVolumeRspamdOnly && sig.isHighVolumeSender) = volume
    cases internal with
    | true => cases (g.ato.check req sig).flagged <;> rfl
    | false =>
      cases vendor with
      | true => cases sig.looksLikeVendorCompromise <;> rfl
      | false => cases recurring <;> cases volume <;> rfl

/-- For a partner or customer the shifted pair ends at the shifted upper threshold, or at one. -/
lemma adjusted_flagAbove {base : Thresholds} {cat : RelationshipCategory} (hcat : cat = .partner ∨ cat = .customer)
    (hbase : base.passBelow < base.flagAbove) :
    (base.adjustForRelationship cat).flagAbove = max (base.flagAbove + base.suppressPartner) 1 := by
  rcases hcat with rfl | rfl <;> simp only [Thresholds.adjustForRelationship, Thresholds.shift] <;>
    split_ifs <;> omega

/-- `AdjustForRelationship` restores the order. -/
lemma adjusted_ordered (base : Thresholds) (cat : RelationshipCategory) :
    (base.adjustForRelationship cat).passBelow < (base.adjustForRelationship cat).flagAbove := by
  simp only [Thresholds.adjustForRelationship]
  split_ifs <;> omega

lemma usedThresholds_inOrder_iff {g : Gate} {base : Thresholds} (req : EvaluateRequest) (sig : RiskSignals)
    (hbase : base.passBelow < base.flagAbove) (hpos : 0 < g.cfg.tier1PartnerThreshold) :
    InOrder (usedThresholds base sig (g.applyWithContext req sig)) ↔
      (reachesModifiers g req sig → sig.lowerTier1Threshold →
        g.cfg.tier1PartnerThreshold < base.flagAbove + base.suppressPartner) := by
  have hadjusted := adjusted_ordered base sig.relationshipCategory
  rw [inOrder_iff, usedThresholds, applyWithContext_override, modifiers_override]
  cases hreach : reachesModifiers g req sig with
  | false => simpa using hadjusted
  | true =>
    cases hlower : sig.lowerTier1Threshold with
    | false => simpa using hadjusted
    | true =>
      have hcat : sig.relationshipCategory = .partner ∨ sig.relationshipCategory = .customer := by
        simpa [RiskSignals.lowerTier1Threshold] using hlower
      simp only [hpos, and_self, if_true, forall_const]
      rw [adjusted_flagAbove hcat hbase]
      omega

/-- Both evaluators judge a Tier 1 score by the used thresholds, and these are in order exactly if the override for
partners and customers, where it is made, stays below the shifted upper threshold. -/
theorem tier1_order_iff (g : Gate) (base : Thresholds) (req : EvaluateRequest) (sig : RiskSignals)
    (hbase : base.passBelow < base.flagAbove) (hpos : 0 < g.cfg.tier1PartnerThreshold) :
    (∀ (e : Config) (now : ℕ) (res : EvaluateResult) (t1 : Tier1Outcome), e.tier0 = some g.applyWithContext →
      (e.resolveTenantConfig req.tenantID).2 = base → e.evaluate now req sig = .ok res → res.tier1 = some t1 →
        t1.pass = decide ((usedThresholds base sig (g.applyWithContext req sig)).decision t1.score = .pass)) ∧
    (∀ (o : BatchOrchestrator) (p : Pending) (resp : PredictResponse), p.req = req → p.sig = sig →
      p.tier0Outcome = g.applyWithContext req sig → (o.resolveTenantConfig req.tenantID).2 = base →
        o.verdictFor p resp = (usedThresholds base sig (g.applyWithContext req sig)).decision resp.score) ∧
    (InOrder (usedThresholds base sig (g.applyWithContext req sig)) ↔
      (reachesModifiers g req sig → sig.lowerTier1Threshold →
        g.cfg.tier1PartnerThreshold < base.flagAbove + base.suppressPartner)) := by
  refine ⟨?_, ?_, usedThresholds_inOrder_iff req sig hbase hpos⟩
  · intro e now res t1 hgate hres heval ht1
    rw [← hres]
    exact evaluate_judged hgate heval ht1
  · rintro o p resp rfl rfl htier0 hres
    rw [verdictFor_eq, hres, htier0]

namespace Sample

/-- The default gate, without a threat-intel lookup. -/
def partnerGate : Gate where
  cfg := defaultGateConfig
  recurring := ⟨some, id⟩
  ato := ⟨defaultATOHeuristicConfig, id, fun a b => a == b⟩

def partnerMail : EvaluateRequest := { messageID := "m1", tenantID := "acme", sender := "bob@partner.example" }

def fromPartner : RiskSignals := { relationshipCategory := .partner }

end Sample

open Sample in
theorem tier1_order_default :
    InOrder (usedThresholds defaultThresholds fromPartner (partnerGate.applyWithContext partnerMail fromPartner)) :=
  (tier1_order_iff partnerGate defaultThresholds partnerMail fromPartner (by decide) (by decide)).2.2.mpr
    fun _ _ => by decide

open Sample in
/-- A tenant that flags above `25` and passes below `5`: for a partner the pair is `30` and `15`, and a score of `20`,
which is above the upper threshold, passes. -/
theorem tier1_order_overridden :
    (⟨5, 25, -10⟩ : Thresholds).passBelow < (⟨5, 25, -10⟩ : Thresholds).flagAbove ∧
      usedThresholds ⟨5, 25, -10⟩ fromPartner (partnerGate.applyWithContext partnerMail fromPartner) = ⟨30, 15, -10⟩ ∧
      (⟨30, 15, -10⟩ : Thresholds).decision 20 = .pass := by
  refine ⟨by decide, ?_, by decide⟩
  have hout : partnerGate.applyWithContext partnerMail fromPartner =
      { tier1ThresholdOverride := 30, reason := "partner_or_customer" } := by decide
  rw [hout]
  decide

end Sn360Es.Evaluate
