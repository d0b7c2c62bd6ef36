import Sn360Es.Tier0.AtoHeuristic
import Sn360Es.Tier0.Recurring

/-!
# The Tier 0 gate (`internal/service/tier0/gate.go`, `ti_match.go`)

Threat intel first, then the internal, vendor and recurring bypasses, then the modifiers that only tune the
stages behind the gate. A gate that escalates keeps every stage
on (`applyWithContext_forceEscalate`).
-/

namespace Sn360Es.Tier0

/-- `intel.MatchedIndicator`. -/
structure MatchedIndicator where
  indicator : String
  indicatorType : String
  feedID : String
  feedName : String
  severity : ℤ
  tags : List String := []
  deriving DecidableEq, Repr

/-- `SeverityTier`. -/
def severityTier (severity : ℤ) : Option Category × Bool :=
  if 75 ≤ severity then (some .likelyPhishing, true)
  else if 50 ≤ severity then (some .suspiciousURL, true)
  else (none, false)

/-- The feed names of `PickStrongest`: one per feed that is not in `seen` yet. -/
def otherFeeds : List String → List MatchedIndicator → List String
  | _, [] => []
  | seen, m :: ms =>
    if m.feedID ∈ seen then otherFeeds seen ms else m.feedName :: otherFeeds (m.feedID :: seen) ms

/-- `PickStrongest` on a non-empty list: the first match of the highest severity. -/
def pickStrongest (m : MatchedIndicator) (ms : List MatchedIndicator) :
    MatchedIndicator × List String :=
  let strongest := ms.foldl (fun s m => if s.severity < m.severity then m else s) m
  (strongest, otherFeeds [strongest.feedID] (m :: ms))

structure GateConfig where
  skipInternal : Bool
  skipVendor : Bool
  skipRecurring : Bool
  highVolumeRspamdOnly : Bool
  tier1PartnerThreshold : ℤ
  deriving DecidableEq, Repr

def defaultGateConfig : GateConfig := ⟨true, true, true, true, 30⟩

/-- A gate. `ti` is the threat-intel lookup, with its store and its cache behind it. -/
structure Gate where
  cfg : GateConfig
  recurring : RecurringDetector
  ato : ATOHeuristic
  ti : Option (EvaluateRequest → RiskSignals → Except String (List MatchedIndicator)) := none

/-- The outcome of a threat-intel hit. -/
def tiOutcome (m : MatchedIndicator) (ms : List MatchedIndicator) : Tier0Outcome :=
  let (strongest, otherFeeds) := pickStrongest m ms
  let out : Tier0Outcome :=
    { reason := "ti_match"
      tiMatch := some
        { indicator := strongest.indicator
          indicatorType := strongest.indicatorType
          feedID := strongest.feedID
          feedName := strongest.feedName
          severity := strongest.severity
          tags := strongest.tags
          additionalFeeds := otherFeeds } }
  match severityTier strongest.severity with
  | (cat, true) => { out with bypass := true, skipML := true, forcedCategory := cat }
  | (_, false) => { out with forceEscalate := true }

/-- `applyTIMatch`: `none` when there is no checker, no match, or the lookup failed. -/
def Gate.applyTIMatch (g : Gate) (req : EvaluateRequest) (sig : RiskSignals) : Option Tier0Outcome :=
  match g.ti with
  | none => none
  | some check =>
    match check req sig with
    | .error _ => none
    | .ok [] => none
    | .ok (m :: ms) => some (tiOutcome m ms)

/-- The relationship modifiers, the last stage of the gate. -/
def Gate.modifiers (g : Gate) (sig : RiskSignals) : Tier0Outcome :=
  let out : Tier0Outcome :=
    if sig.forceEscalate then
      { forceEscalate := true
        reason := if sig.relationshipCategory = .lapsedContact then "lapsed_contact"
          else "first_time_external" }
    else {}
  if sig.lowerTier1Threshold ∧ 0 < g.cfg.tier1PartnerThreshold then
    { out with
      tier1ThresholdOverride := g.cfg.tier1PartnerThreshold
      reason := if out.reason = "" then "partner_or_customer" else out.reason }
  else out

/-- `Gate.ApplyWithContext`. -/
def Gate.applyWithContext (g : Gate) (req : EvaluateRequest) (sig : RiskSignals) : Tier0Outcome :=
  match g.applyTIMatch req sig with
  | some out => out
  | none =>
    if g.cfg.skipInternal && sig.isInternal then
      if (g.ato.check req sig).flagged then
        { forceEscalate := true, reason := "internal_ato_suspected" }
      else
        { bypass := true, skipML := true, reason := "internal_trusted",
          forcedCategory := some .internalTrusted }
    else if g.cfg.skipVendor && sig.isFromVendor then
      if sig.looksLikeVendorCompromise then
        { forceEscalate := true, reason := "vendor_compromise_suspected" }
      else
        { bypass := true, skipML := true, reason := "vendor_trusted",
          forcedCategory := some .vendorTrusted }
    else if g.cfg.skipRecurring && (sig.isRecurringService || g.recurring.isRecurring req.sender) then
      { bypass := true, skipML := true, reason := "recurring_service",
        forcedCategory := some .newsletter }
    else if g.cfg.highVolumeRspamdOnly && sig.isHighVolumeSender then
      { skipML := true, rspamdOnly := true, reason := "high_volume_sender" }
    else g.modifiers sig

/-! ### Refused bypasses -/

/-- The gate refuses the bypass because it suspects compromise: an internal sender that the heuristic
flags, a vendor that looks compromised, or a threat-intel match below the bypass severities. -/
def Suspects (out : Tier0Outcome) : Prop :=
  out.bypass = false ∧ out.forceEscalate = true ∧
    (out.reason = "internal_ato_suspected" ∨ out.reason = "vendor_compromise_suspected" ∨
      out.reason = "ti_match")

instance : DecidablePred Suspects := fun _ => inferInstanceAs (Decidable (_ ∧ _ ∧ _))

lemma tiOutcome_forceEscalate {m : MatchedIndicator} {ms : List MatchedIndicator}
    (h : (tiOutcome m ms).forceEscalate = true) :
    (tiOutcome m ms).skipML = false ∧ (tiOutcome m ms).rspamdOnly = false := by
  revert h
  simp only [tiOutcome]
  split
  · exact fun h => absurd h (by simp)
  · exact fun _ => ⟨rfl, rfl⟩

/-- The modifiers never skip a stage. -/
lemma modifiers_stages (g : Gate) (sig : RiskSignals) :
    (g.modifiers sig).skipML = false ∧ (g.modifiers sig).rspamdOnly = false := by
  unfold Gate.modifiers
  split_ifs <;> exact ⟨rfl, rfl⟩

/-- A gate that escalates leaves every stage behind it on. -/
theorem applyWithContext_forceEscalate {g : Gate} {req : EvaluateRequest} {sig : RiskSignals}
    (h : (g.applyWithContext req sig).forceEscalate = true) :
    (g.applyWithContext req sig).skipML = false ∧
      (g.applyWithContext req sig).rspamdOnly = false := by
  revert h
  unfold Gate.applyWithContext
  cases hti : g.applyTIMatch req sig with
  | some out =>
    intro h
    obtain ⟨m, ms, rfl⟩ : ∃ m ms, out = tiOutcome m ms := by
      unfold Gate.applyTIMatch at hti
      split at hti
      · cases hti
      · split at hti
        · cases hti
        · cases hti
        · exact ⟨_, _, (Option.some.inj hti).symm⟩
    exact tiOutcome_forceEscalate h
  | none =>
    simp only
    split_ifs <;> intro h
    · exact ⟨rfl, rfl⟩
    · cases h
    · exact ⟨rfl, rfl⟩
    · cases h
    · cases h
    · cases h
    · exact modifiers_stages g sig

end Sn360Es.Tier0
