import Sn360Es.Dto

/-!
# The tier decider (`internal/service/action/tier_decider.go`)

`TierDecider` carries validated thresholds, so `tierFromScore` is a monotone step function; the category
overrides of `decide` are what can put a verdict below it (`decide_severity_iff`), and the first-contact floor, which
stands in the lowest band only, is what can break the order of the scores (`decide_monotone_iff`).
-/

namespace Sn360Es.Action

structure TierThresholds where
  blocked : ℤ := 0
  highRisk : ℤ := 0
  warning : ℤ := 0
  caution : ℤ := 0
  informational : ℤ := 0
  /-- `none` is a value outside the six tiers. -/
  firstContactFloor : Option Tier := none
  deriving DecidableEq, Repr

def defaultTierThresholds : TierThresholds := ⟨85, 70, 50, 30, 15, some .informational⟩

def TierThresholds.validate (t : TierThresholds) : Except String Unit :=
  if t.blocked ≤ t.highRisk ∨ t.highRisk ≤ t.warning ∨ t.warning ≤ t.caution ∨
      t.caution ≤ t.informational then
    .error "action: tier thresholds must be strictly descending"
  else if 100 < t.blocked ∨ t.informational < 0 then
    .error "action: tier thresholds out of [0,100]"
  else if t.firstContactFloor.isNone then
    .error "action: first-contact floor must be a known tier"
  else .ok ()

/-- Validated thresholds. -/
structure TierDecider where
  thresholds : TierThresholds
  valid : thresholds.validate = .ok ()

def newTierDecider (t : TierThresholds) : Except String TierDecider :=
  let t := if t = {} then defaultTierThresholds else t
  match h : t.validate with
  | .error e => .error e
  | .ok () => .ok ⟨t, h⟩

/-- The decider that `NewTierDecider(TierThresholds{})` returns. -/
def defaultTierDecider : TierDecider := ⟨defaultTierThresholds, by decide⟩

/-- The category overrides: the switch of `Decide` over `Primary`, and again over `ForcedCategory`. -/
def overrideTier : Option Category → Option Tier
  | some .internalTrusted | some .vendorTrusted => some .trusted
  | some .newsletter => some .informational
  | _ => none

namespace TierDecider

def tierFromScore (d : TierDecider) (score : ℤ) : Tier :=
  if d.thresholds.blocked ≤ score then .blocked
  else if d.thresholds.highRisk ≤ score then .highRisk
  else if d.thresholds.warning ≤ score then .warning
  else if d.thresholds.caution ≤ score then .caution
  else if d.thresholds.informational ≤ score then .informational
  else .trusted

/-- The override of a Tier 0 bypass. -/
def forcedTier : Option Tier0Outcome → Option Tier
  | some t0 => if t0.bypass then overrideTier t0.forcedCategory else none
  | none => none

/-- `TierDecider.Decide`: category override, Tier 0 override, score, first-contact floor. -/
def decide (d : TierDecider) (r : EvaluateResult) : Tier :=
  match overrideTier r.primary with
  | some t => t
  | none =>
    match forcedTier r.tier0 with
    | some t => t
    | none =>
      let t := d.tierFromScore r.score
      if t = .trusted ∧ r.primary = some .firstContactExternal then
        d.thresholds.firstContactFloor.getD .trusted
      else t

end TierDecider

/-- `tierDeciderAdapter` of `cmd/sn360-es/adapters.go`: the decider sees the score and the primary
category and nothing else. -/
def tierDeciderAdapter (d : Option TierDecider) (score : ℤ) (primary : Option Category)
    (_sig : RiskSignals) : Tier :=
  match d with
  | none => .informational
  | some d => d.decide { score, primary }

/-! ### Overrides against the plain score mapping -/

section Severity

variable (d : TierDecider)

/-- What `Validate` accepted. -/
lemma TierDecider.descending : d.thresholds.highRisk < d.thresholds.blocked ∧
    d.thresholds.warning < d.thresholds.highRisk ∧ d.thresholds.caution < d.thresholds.warning ∧
    d.thresholds.informational < d.thresholds.caution := by
  have h := d.valid
  unfold TierThresholds.validate at h
  split_ifs at h with h1
  push Not at h1
  exact h1

/-- The smallest score whose tier is more severe than an overriding tier. -/
def TierDecider.cutoff : Tier → ℤ
  | .trusted => d.thresholds.informational
  | .informational => d.thresholds.caution
  | .caution => d.thresholds.warning
  | .warning => d.thresholds.highRisk
  | .highRisk => d.thresholds.blocked
  | .blocked => 101

lemma tierFromScore_severity_le {t : Tier} (ht : t ≠ .blocked) (s : ℤ) :
    (d.tierFromScore s).severity ≤ t.severity ↔ s < d.cutoff t := by
  obtain ⟨h1, h2, h3, h4⟩ := d.descending
  unfold TierDecider.tierFromScore
  cases t <;> simp only [TierDecider.cutoff, ne_eq, not_true_eq_false] at ht ⊢ <;>
    split_ifs <;> simp only [Tier.severity] <;> omega

/-- **Where a verdict falls below its score.** An override keeps the verdict at least as severe as the
score exactly when the score is below the override's cutoff; without an override it always is. -/
theorem decide_severity_iff (primary : Option Category) (s : ℤ) (sig : RiskSignals) :
    (d.tierFromScore s).severity ≤ (tierDeciderAdapter (some d) s primary sig).severity ↔
      ∀ t ∈ overrideTier primary, s < d.cutoff t := by
  unfold tierDeciderAdapter TierDecider.decide
  cases ho : overrideTier primary with
  | some t =>
    have ht : t ≠ .blocked := by
      rintro rfl
      unfold overrideTier at ho
      split at ho <;> simp at ho
    simpa [ho] using tierFromScore_severity_le d ht s
  | none =>
    simp only [TierDecider.forcedTier, Option.mem_def, reduceCtorEq, false_implies, implies_true,
      iff_true]
    split_ifs with hf
    · rw [hf.1]
      exact Nat.zero_le _
    · exact le_rfl

/-! ### Monotonicity in the score -/

lemma tierFromScore_mono {s s' : ℤ} (h : s ≤ s') : (d.tierFromScore s).severity ≤ (d.tierFromScore s').severity := by
  by_cases ht : d.tierFromScore s' = .blocked
  · rw [ht]
    cases d.tierFromScore s <;> decide
  · have hcut := (tierFromScore_severity_le d ht s').mp le_rfl
    exact (tierFromScore_severity_le d ht s).mpr (h.trans_lt hcut)

lemma tierFromScore_eq_trusted_iff (s : ℤ) : d.tierFromScore s = .trusted ↔ s < d.thresholds.informational := by
  obtain ⟨h1, h2, h3, h4⟩ := d.descending
  unfold TierDecider.tierFromScore
  split_ifs <;> simp <;> omega

/-- The tier of the floor. -/
def TierDecider.floor : Tier := d.thresholds.firstContactFloor.getD .trusted

/-- A first-contact message that nothing overrides: the floor stands where the score says trusted. -/
lemma decide_firstContact {r : EvaluateResult} (hp : r.primary = some .firstContactExternal)
    (hf : TierDecider.forcedTier r.tier0 = none) :
    d.decide r = if r.score < d.thresholds.informational then d.floor else d.tierFromScore r.score := by
  unfold TierDecider.decide
  simp only [hf, hp, and_true, tierFromScore_eq_trusted_iff]
  rfl

lemma informational_le_of_not_trusted {s : ℤ} (h : ¬ s < d.thresholds.informational) :
    Tier.informational.severity ≤ (d.tierFromScore s).severity := by
  have hne : d.tierFromScore s ≠ .trusted := by rwa [Ne, tierFromScore_eq_trusted_iff]
  cases ht : d.tierFromScore s <;> simp [ht, Tier.severity] at hne ⊢

/-- The floor breaks the order exactly if it is above the lowest band it is not applied in. -/
lemma firstContact_mono_iff {r : EvaluateResult} (hp : r.primary = some .firstContactExternal)
    (hf : TierDecider.forcedTier r.tier0 = none) :
    (∀ s s' : ℤ, s ≤ s' → (d.decide { r with score := s }).severity ≤ (d.decide { r with score := s' }).severity) ↔
      d.floor.severity ≤ Tier.informational.severity := by
  have hdecide : ∀ s : ℤ, d.decide { r with score := s } =
      if s < d.thresholds.informational then d.floor else d.tierFromScore s := fun s =>
    decide_firstContact d (r := { r with score := s }) hp hf
  constructor
  · intro h
    have hstep := h (d.thresholds.informational - 1) d.thresholds.informational (by omega)
    have hband : d.tierFromScore d.thresholds.informational = .informational := by
      obtain ⟨h1, h2, h3, h4⟩ := d.descending
      unfold TierDecider.tierFromScore
      split_ifs <;> first | rfl | omega
    rw [hdecide, hdecide, if_pos (by omega), if_neg (by omega), hband] at hstep
    exact hstep
  · intro hfloor s s' hs
    rw [hdecide, hdecide]
    split_ifs with h h'
    · exact le_rfl
    · exact hfloor.trans (informational_le_of_not_trusted d h')
    · omega
    · exact tierFromScore_mono d hs

/-- The severity of a decision grows with the score, whatever else the result says, except for first-contact messages
that nothing overrides under a floor above `Informational`, where it does not. -/
theorem decide_monotone_iff (r : EvaluateResult) :
    (∀ s s' : ℤ, s ≤ s' → (d.decide { r with score := s }).severity ≤ (d.decide { r with score := s' }).severity) ↔
      (r.primary = some .firstContactExternal → TierDecider.forcedTier r.tier0 = none →
        d.floor.severity ≤ Tier.informational.severity) := by
  by_cases hp : r.primary = some .firstContactExternal
  · cases hf : TierDecider.forcedTier r.tier0 with
    | none => simpa [hp] using firstContact_mono_iff d hp hf
    | some t =>
      have hconst : ∀ s : ℤ, d.decide { r with score := s } = t := by
        intro s
        have ho : overrideTier r.primary = none := by rw [hp]; rfl
        simp only [TierDecider.decide, ho, hf]
      simp [hconst]
  · refine iff_of_true ?_ fun h => absurd h hp
    intro s s' hs
    unfold TierDecider.decide
    dsimp only
    cases overrideTier r.primary with
    | some t => exact le_rfl
    | none =>
      cases TierDecider.forcedTier r.tier0 with
      | some t => exact le_rfl
      | none =>
        simp only [hp, and_false, if_false]
        exact tierFromScore_mono d hs

/-- With a floor of `Blocked`, a first contact that scores `0` is blocked and one that scores `15` is not. -/
theorem decide_not_monotone : ∃ d : TierDecider,
    newTierDecider { defaultTierThresholds with firstContactFloor := some .blocked } = .ok d ∧
      (d.decide { score := 15, primary := some .firstContactExternal }).severity <
        (d.decide { score := 0, primary := some .firstContactExternal }).severity :=
  ⟨⟨{ defaultTierThresholds with firstContactFloor := some .blocked }, by decide⟩, rfl, by decide⟩

end Severity

end Sn360Es.Action
