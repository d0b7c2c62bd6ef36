import Mathlib.Tactic.Linarith
import Sn360Es.Action.TierDecider
import Sn360Es.Config.ScoreEngine

/-!
# The tuning policy (`internal/service/agent/tuning.go`)

`Decide` moves weight between AI and Rspamd and moves the banner thresholds by what the feedback of a tenant asks for,
each by no more than a cap; `clampWeights` and `clampThresholds` then repair the result. Weights and rates are exact
rationals here.

* `clampThresholds_ordered` — the repair gives an ordered bundle, and leaves one as it is;
* `shiftThresholds_within` — a shifted and repaired bundle stays within the cap of the bundle it started from;
* `clampWeights_within_iff` — the renormalisation keeps the shifted weights within the cap exactly if their sum is
  `Balanced`; it is if the weights started from a sum of one (`balanced_of_sum_one`);
* `balanced_iff_tolerated` — what that asks of the current weights and of the shift: their sum lies between bounds that
  close in on one as the shift takes up the cap (`sum_of_whole_shift`).
-/

namespace Sn360Es.Agent

open Lib Config Sn360Es.Action

/-! ### Thresholds -/

/-- The closure `clamp` of `clampThresholds`. -/
def clampInt (v lo hi : ℤ) : ℤ := if v < lo then lo else if hi < v then hi else v

/-- One step of the descending repair. -/
def below (v cap : ℤ) : ℤ := if cap ≤ v then cap - 1 else v

/-- The first half of `clampThresholds`. -/
def clampTier1 (t : AgentThresholds) : AgentThresholds :=
  let t := { t with
    tier1PassBelow := clampInt t.tier1PassBelow 0 100
    tier1FlagAbove := clampInt t.tier1FlagAbove 0 100 }
  if t.tier1FlagAbove ≤ t.tier1PassBelow then
    let t := { t with tier1PassBelow := t.tier1FlagAbove - 1 }
    if t.tier1PassBelow < 0 then { t with tier1PassBelow := 0, tier1FlagAbove := 1 } else t
  else t

def clampThresholds (t : AgentThresholds) : AgentThresholds :=
  let t := clampTier1 t
  let t := { t with
    bannerBlocked := clampInt t.bannerBlocked 50 100
    bannerHighRisk := clampInt t.bannerHighRisk 40 99
    bannerWarning := clampInt t.bannerWarning 20 90
    bannerCaution := clampInt t.bannerCaution 10 80
    bannerInfo := clampInt t.bannerInfo 0 60 }
  let t := { t with bannerHighRisk := below t.bannerHighRisk t.bannerBlocked }
  let t := { t with bannerWarning := below t.bannerWarning t.bannerHighRisk }
  let t := { t with bannerCaution := below t.bannerCaution t.bannerWarning }
  { t with bannerInfo := below t.bannerInfo t.bannerCaution }

lemma clampInt_eq {v lo hi : ℤ} (h : lo ≤ hi) : clampInt v lo hi = max lo (min hi v) := by
  unfold clampInt
  split_ifs <;> omega

lemma below_eq (v cap : ℤ) : below v cap = min v (cap - 1) := by
  unfold below
  split_ifs <;> omega

lemma clampInt_bounds (v : ℤ) {lo hi : ℤ} (h : lo ≤ hi) : lo ≤ clampInt v lo hi ∧ clampInt v lo hi ≤ hi := by
  rw [clampInt_eq h]
  omega

lemma clampInt_eq_self {v lo hi : ℤ} (h : lo ≤ v ∧ v ≤ hi) : clampInt v lo hi = v := by
  rw [clampInt_eq (h.1.trans h.2)]
  omega

/-- A threshold after the repair stays within its range and below the next one. -/
lemma below_clampInt (v : ℤ) {lo hi cap : ℤ} (h : lo ≤ hi) (hcap : lo < cap) :
    lo ≤ below (clampInt v lo hi) cap ∧ below (clampInt v lo hi) cap ≤ hi ∧ below (clampInt v lo hi) cap < cap := by
  have hclamp := clampInt_bounds v h
  rw [below_eq]
  omega

lemma below_clampInt_eq_self {v lo hi cap : ℤ} (h : lo ≤ v ∧ v ≤ hi) (hcap : v < cap) :
    below (clampInt v lo hi) cap = v := by
  rw [clampInt_eq_self h, below_eq]
  omega

/-- What `clampThresholds` repairs a bundle to. -/
structure Repaired (t : AgentThresholds) : Prop where
  pass_nonneg : 0 ≤ t.tier1PassBelow
  pass_lt_flag : t.tier1PassBelow < t.tier1FlagAbove
  flag_le : t.tier1FlagAbove ≤ 100
  blocked : 50 ≤ t.bannerBlocked ∧ t.bannerBlocked ≤ 100
  highRisk : 40 ≤ t.bannerHighRisk ∧ t.bannerHighRisk < t.bannerBlocked
  warning : 20 ≤ t.bannerWarning ∧ t.bannerWarning ≤ 90 ∧ t.bannerWarning < t.bannerHighRisk
  caution : 10 ≤ t.bannerCaution ∧ t.bannerCaution ≤ 80 ∧ t.bannerCaution < t.bannerWarning
  info : 0 ≤ t.bannerInfo ∧ t.bannerInfo ≤ 60 ∧ t.bannerInfo < t.bannerCaution

lemma clampTier1_repaired (t : AgentThresholds) : 0 ≤ (clampTier1 t).tier1PassBelow ∧
    (clampTier1 t).tier1PassBelow < (clampTier1 t).tier1FlagAbove ∧ (clampTier1 t).tier1FlagAbove ≤ 100 := by
  have hp := (clampInt_bounds t.tier1PassBelow (show (0 : ℤ) ≤ 100 by omega)).1
  have hf := (clampInt_bounds t.tier1FlagAbove (show (0 : ℤ) ≤ 100 by omega)).2
  unfold clampTier1
  dsimp only
  split_ifs <;> dsimp only at * <;> omega

lemma clampThresholds_repaired (t : AgentThresholds) : Repaired (clampThresholds t) := by
  obtain ⟨hp, hpf, hf⟩ := clampTier1_repaired t
  -- from the highest threshold down
  have hb := clampInt_bounds (clampTier1 t).bannerBlocked (show (50 : ℤ) ≤ 100 by omega)
  have hh := below_clampInt (clampTier1 t).bannerHighRisk (show (40 : ℤ) ≤ 99 by omega) (lt_of_lt_of_le (by omega) hb.1)
  have hw := below_clampInt (clampTier1 t).bannerWarning (show (20 : ℤ) ≤ 90 by omega) (lt_of_lt_of_le (by omega) hh.1)
  have hc := below_clampInt (clampTier1 t).bannerCaution (show (10 : ℤ) ≤ 80 by omega) (lt_of_lt_of_le (by omega) hw.1)
  have hi := below_clampInt (clampTier1 t).bannerInfo (show (0 : ℤ) ≤ 60 by omega) (lt_of_lt_of_le (by omega) hc.1)
  exact ⟨hp, hpf, hf, hb, ⟨hh.1, hh.2.2⟩, hw, hc, hi⟩

lemma clampTier1_eq_self {t : AgentThresholds} (h : Repaired t) : clampTier1 t = t := by
  have hp := h.pass_nonneg
  have hpf := h.pass_lt_flag
  have hf := h.flag_le
  have hpass : clampInt t.tier1PassBelow 0 100 = t.tier1PassBelow := clampInt_eq_self ⟨hp, by omega⟩
  have hflag : clampInt t.tier1FlagAbove 0 100 = t.tier1FlagAbove := clampInt_eq_self ⟨by omega, hf⟩
  unfold clampTier1
  rw [hpass, hflag]
  exact if_neg (by simpa using hpf)

/-- A bundle that is in order stays as it is. -/
lemma clampThresholds_eq_self {t : AgentThresholds} (h : Repaired t) : clampThresholds t = t := by
  have htier1 := clampTier1_eq_self h
  obtain ⟨-, -, -, hb, hh, hw, hc, hi⟩ := h
  simp only [clampThresholds, htier1]
  rw [clampInt_eq_self hb, below_clampInt_eq_self ⟨hh.1, by omega⟩ hh.2, below_clampInt_eq_self ⟨hw.1, hw.2.1⟩ hw.2.2,
    below_clampInt_eq_self ⟨hc.1, hc.2.1⟩ hc.2.2, below_clampInt_eq_self ⟨hi.1, hi.2.1⟩ hi.2.2]

lemma repaired_iff {t : AgentThresholds} : clampThresholds t = t ↔ Repaired t := by
  constructor
  · intro h
    rw [← h]
    exact clampThresholds_repaired t
  · exact clampThresholds_eq_self

/-- The `CHECK` constraints on the threshold columns of `score_engine`. -/
def schemaCheck (u : ScoreThresholdUpdate) : Bool :=
  decide (u.high < u.blocked ∧ u.warning < u.high ∧ u.caution < u.warning ∧ u.info < u.caution ∧
    u.tier1PassBelow < u.tier1FlagAbove)

/-- The banner thresholds as the tier decider takes them. -/
def tierThresholds (t : AgentThresholds) (floor : Tier) : TierThresholds where
  blocked := t.bannerBlocked
  highRisk := t.bannerHighRisk
  warning := t.bannerWarning
  caution := t.bannerCaution
  informational := t.bannerInfo
  firstContactFloor := some floor

/-- Whatever the seven integers are, the result is in order and within `[0, 100]`, the schema and the tier decider take
it, and repairing it again changes nothing. -/
theorem clampThresholds_ordered (t : AgentThresholds) :
    (0 ≤ (clampThresholds t).tier1PassBelow ∧
      (clampThresholds t).tier1PassBelow < (clampThresholds t).tier1FlagAbove ∧
      (clampThresholds t).tier1FlagAbove ≤ 100) ∧
    (0 ≤ (clampThresholds t).bannerInfo ∧
      (clampThresholds t).bannerInfo < (clampThresholds t).bannerCaution ∧
      (clampThresholds t).bannerCaution < (clampThresholds t).bannerWarning ∧
      (clampThresholds t).bannerWarning < (clampThresholds t).bannerHighRisk ∧
      (clampThresholds t).bannerHighRisk < (clampThresholds t).bannerBlocked ∧
      (clampThresholds t).bannerBlocked ≤ 100) ∧
    schemaCheck (thresholdUpdate (clampThresholds t)) = true ∧
    (∀ floor, (tierThresholds (clampThresholds t) floor).validate = .ok ()) ∧
    clampThresholds (clampThresholds t) = clampThresholds t := by
  have hr := clampThresholds_repaired t
  have hidem := clampThresholds_eq_self hr
  generalize clampThresholds t = u at hr hidem ⊢
  obtain ⟨hp, hpf, hf, hb, hh, hw, hc, hi⟩ := hr
  refine ⟨⟨hp, hpf, hf⟩, ⟨hi.1, hi.2.2, hc.2.2, hw.2.2, hh.2, hb.2⟩, ?_, ?_, hidem⟩
  · exact decide_eq_true ⟨hh.2, hw.2.2, hc.2.2, hi.2.2, hpf⟩
  · intro floor
    have hdesc : ¬ (u.bannerBlocked ≤ u.bannerHighRisk ∨ u.bannerHighRisk ≤ u.bannerWarning ∨
        u.bannerWarning ≤ u.bannerCaution ∨ u.bannerCaution ≤ u.bannerInfo) := by omega
    have hrange : ¬ (100 < u.bannerBlocked ∨ u.bannerInfo < 0) := by omega
    simp [TierThresholds.validate, tierThresholds, hdesc, hrange]

/-! ### Weights -/

/-- `agent.ScoreWeights`, over exact rationals. -/
structure RatWeights where
  ai : ℚ
  rspamd : ℚ
  attachments : ℚ
  links : ℚ
  deriving DecidableEq, Repr

def RatWeights.sum (w : RatWeights) : ℚ := w.ai + w.rspamd + w.attachments + w.links

/-- The closure `clamp` of `clampWeights`. -/
def clampUnit (v : ℚ) : ℚ := if v < 0 then 0 else if 1 < v then 1 else v

/-- The first half of `clampWeights`. -/
def RatWeights.clamped (w : RatWeights) : RatWeights :=
  ⟨clampUnit w.ai, clampUnit w.rspamd, clampUnit w.attachments, clampUnit w.links⟩

def clampWeights (w : RatWeights) : RatWeights :=
  let w := w.clamped
  let sum := w.sum
  if 0 < sum then ⟨w.ai / sum, w.rspamd / sum, w.attachments / sum, w.links / sum⟩ else w

/-! ### The policy -/

/-- The part of `TuningConfig` that `Decide` reads. -/
structure TuningConfig where
  minSampleSize : ℤ := 0
  maxWeightShiftPerRun : ℚ := 0
  maxThresholdShiftPerRun : ℤ := 0
  fpRateTarget : ℚ := 0
  fnRateTarget : ℚ := 0
  deriving DecidableEq, Repr

/-- A configuration that `NewTuningAgent` has completed. -/
structure TuningAgent where
  cfg : TuningConfig
  minSampleSize_pos : 0 < cfg.minSampleSize
  maxWeightShift_pos : 0 < cfg.maxWeightShiftPerRun
  maxThresholdShift_pos : 0 < cfg.maxThresholdShiftPerRun

/-- `orDefault` is what `NewTuningAgent` does for each of its numbers. -/
def orDefault {α : Type} [Zero α] [LE α] [DecidableLE α] (v dflt : α) : α := if v ≤ 0 then dflt else v

lemma orDefault_pos {α : Type} [Zero α] [LinearOrder α] (v : α) {dflt : α} (h : 0 < dflt) : 0 < orDefault v dflt := by
  unfold orDefault
  split_ifs with hv
  · exact h
  · exact not_le.mp hv

def newTuningAgent (cfg : TuningConfig) : TuningAgent where
  cfg :=
    { minSampleSize := orDefault cfg.minSampleSize 25
      maxWeightShiftPerRun := orDefault cfg.maxWeightShiftPerRun (5 / 100)
      maxThresholdShiftPerRun := orDefault cfg.maxThresholdShiftPerRun 5
      fpRateTarget := orDefault cfg.fpRateTarget (5 / 100)
      fnRateTarget := orDefault cfg.fnRateTarget (2 / 100) }
  minSampleSize_pos := orDefault_pos _ (by decide)
  maxWeightShift_pos := orDefault_pos _ (by norm_num)
  maxThresholdShift_pos := orDefault_pos _ (by decide)

/-- The part of `TuningSnapshot` that `Decide` reads. -/
structure TuningSnapshot where
  totalEvaluations : ℤ
  falsePositives : ℤ
  falseNegatives : ℤ
  currentWeights : RatWeights
  currentThresholds : AgentThresholds
  deriving DecidableEq, Repr

namespace TuningSnapshot

variable (s : TuningSnapshot)

def fpRate : ℚ := s.falsePositives / s.totalEvaluations

def fnRate : ℚ := s.falseNegatives / s.totalEvaluations

end TuningSnapshot

/-- A line of the decision's notes. -/
inductive Note where
  | belowFloor (samples floor : ℤ)
  | fpWeights (rate target delta : ℚ)
  | fnWeights (rate target delta : ℚ)
  | fpThresholds (delta : ℤ)
  | fnThresholds (delta : ℤ)
  | withinBand
  deriving DecidableEq, Repr

/-- The text of a note; `f3` is the format `%.3f`. -/
def Note.text (f3 : ℚ → String) : Note → String
  | belowFloor samples floor => "samples=" ++ toString samples ++ " below floor=" ++ toString floor
  | fpWeights rate target delta =>
    "fp_rate=" ++ f3 rate ++ " > target=" ++ f3 target ++ " → AI−=" ++ f3 delta ++ " Rspamd+=" ++ f3 delta
  | fnWeights rate target delta =>
    "fn_rate=" ++ f3 rate ++ " > target=" ++ f3 target ++ " → Rspamd−=" ++ f3 delta ++ " AI+=" ++ f3 delta
  | fpThresholds delta => "fp_rate high → banner thresholds +" ++ toString delta
  | fnThresholds delta => "fn_rate high → banner thresholds −" ++ toString delta
  | withinBand => "within target band; no change"

/-- What `Decide` returns. -/
structure Tuned where
  newWeights : Option RatWeights := none
  newThresholds : Option AgentThresholds := none
  notes : List Note := []
  deriving DecidableEq, Repr

namespace TuningAgent

variable (a : TuningAgent) (s : TuningSnapshot)

/-- The weight that goes from AI to Rspamd, if too much is reported as harmless. -/
def fpWeightShift : Option ℚ :=
  if a.cfg.fpRateTarget < s.fpRate ∧ s.falseNegatives < s.falsePositives then
    some (min a.cfg.maxWeightShiftPerRun (s.fpRate - a.cfg.fpRateTarget))
  else none

/-- The weight that goes from Rspamd to AI, if too much is reported as phishing. -/
def fnWeightShift : Option ℚ :=
  if a.cfg.fnRateTarget < s.fnRate ∧ s.falsePositives < s.falseNegatives then
    some (min a.cfg.maxWeightShiftPerRun (s.fnRate - a.cfg.fnRateTarget))
  else none

/-- What the thresholds rise by. -/
def fpThresholdShift : Option ℤ :=
  if a.cfg.fpRateTarget + 1 / 100 < s.fpRate then
    some (min a.cfg.maxThresholdShiftPerRun ⌈(s.fpRate - a.cfg.fpRateTarget) * 100⌉)
  else none

/-- What the thresholds fall by. -/
def fnThresholdShift : Option ℤ :=
  if a.cfg.fnRateTarget + 5 / 1000 < s.fnRate then
    some (min a.cfg.maxThresholdShiftPerRun ⌈(s.fnRate - a.cfg.fnRateTarget) * 200⌉)
  else none

def shiftWeights (w : RatWeights) : RatWeights :=
  let w := match a.fpWeightShift s with
    | some delta => { w with ai := w.ai - delta, rspamd := w.rspamd + delta }
    | none => w
  match a.fnWeightShift s with
  | some delta => { w with rspamd := w.rspamd - delta, ai := w.ai + delta }
  | none => w

def shiftThresholds (t : AgentThresholds) : AgentThresholds :=
  let t := match a.fpThresholdShift s with
    | some delta => { t with
        bannerWarning := t.bannerWarning + delta
        bannerCaution := t.bannerCaution + delta
        bannerInfo := t.bannerInfo + delta }
    | none => t
  match a.fnThresholdShift s with
  | some delta => { t with
      bannerWarning := t.bannerWarning - delta
      bannerCaution := t.bannerCaution - delta }
  | none => t

def shiftNotes : List Note :=
  ((a.fpWeightShift s).map (Note.fpWeights s.fpRate a.cfg.fpRateTarget)).toList ++
    ((a.fnWeightShift s).map (Note.fnWeights s.fnRate a.cfg.fnRateTarget)).toList ++
    ((a.fpThresholdShift s).map Note.fpThresholds).toList ++
    ((a.fnThresholdShift s).map Note.fnThresholds).toList

/-- `TuningAgent.Decide`. -/
def decide : Tuned :=
  if s.totalEvaluations < a.cfg.minSampleSize then
    { notes := [.belowFloor s.totalEvaluations a.cfg.minSampleSize] }
  else
    let weights := clampWeights (a.shiftWeights s s.currentWeights)
    let thresholds := clampThresholds (a.shiftThresholds s s.currentThresholds)
    let weightsChanged := (a.fpWeightShift s).isSome || (a.fnWeightShift s).isSome
    let thresholdsChanged := (a.fpThresholdShift s).isSome || (a.fnThresholdShift s).isSome
    { newWeights := if weightsChanged then some weights else none
      newThresholds := if thresholdsChanged then some thresholds else none
      notes := a.shiftNotes s ++ if weightsChanged || thresholdsChanged then [] else [.withinBand] }

end TuningAgent

/-! ### The caps -/

/-- No threshold is further than the cap from its current value. -/
structure ThresholdsWithin (cap : ℤ) (t u : AgentThresholds) : Prop where
  pass : |u.tier1PassBelow - t.tier1PassBelow| ≤ cap
  flag : |u.tier1FlagAbove - t.tier1FlagAbove| ≤ cap
  blocked : |u.bannerBlocked - t.bannerBlocked| ≤ cap
  highRisk : |u.bannerHighRisk - t.bannerHighRisk| ≤ cap
  warning : |u.bannerWarning - t.bannerWarning| ≤ cap
  caution : |u.bannerCaution - t.bannerCaution| ≤ cap
  info : |u.bannerInfo - t.bannerInfo| ≤ cap

/-- The thresholds with the two upper ones moved by `e` and the lowest by `f`. -/
def moved (t : AgentThresholds) (e f : ℤ) : AgentThresholds :=
  { t with
    bannerWarning := t.bannerWarning + e
    bannerCaution := t.bannerCaution + e
    bannerInfo := t.bannerInfo + f }

lemma clampTier1_moved (t : AgentThresholds) (e f : ℤ) : clampTier1 (moved t e f) = moved (clampTier1 t) e f := by
  unfold clampTier1 moved
  dsimp only
  split_ifs <;> rfl

/-- A threshold that is moved, and then gives way to the next one. -/
lemma below_moved {v e lo hi cap cap' c : ℤ} (hv : lo ≤ v ∧ v ≤ hi) (hcap : v < cap) (he : |e| ≤ c)
    (hcap' : |cap' - cap| ≤ c) : |below (clampInt (v + e) lo hi) cap' - v| ≤ c := by
  rw [below_eq, clampInt_eq (hv.1.trans hv.2)]
  rw [abs_le] at *
  omega

/-- The repair never moves a threshold further than the shift did: one that gives way was behind the one that pushes
it. -/
lemma clampThresholds_moved {t : AgentThresholds} (h : Repaired t) {cap e f : ℤ} (he : -cap ≤ e ∧ e ≤ cap)
    (hf : 0 ≤ f ∧ f ≤ cap) (hef : e ≤ f) : ThresholdsWithin cap t (clampThresholds (moved t e f)) := by
  have htier1 : clampTier1 (moved t e f) = moved t e f := by rw [clampTier1_moved, clampTier1_eq_self h]
  obtain ⟨-, -, -, hb, hh, hw, hc, hi⟩ := h
  have he' : |e| ≤ cap := abs_le.mpr he
  have hf' : |f| ≤ cap := abs_le.mpr ⟨by omega, hf.2⟩
  have hstay : ∀ v : ℤ, |v - v| ≤ cap := by
    intro v
    rw [sub_self, abs_zero]
    omega
  have hblocked : clampInt t.bannerBlocked 50 100 = t.bannerBlocked := clampInt_eq_self hb
  have hhigh : below (clampInt t.bannerHighRisk 40 99) t.bannerBlocked = t.bannerHighRisk :=
    below_clampInt_eq_self ⟨hh.1, by omega⟩ hh.2
  have hwarning := below_moved ⟨hw.1, hw.2.1⟩ hw.2.2 he' (hstay t.bannerHighRisk)
  have hcaution := below_moved ⟨hc.1, hc.2.1⟩ hc.2.2 he' hwarning
  have hinfo := below_moved ⟨hi.1, hi.2.1⟩ hi.2.2 hf' hcaution
  simp only [clampThresholds, htier1]
  simp only [moved, hblocked, hhigh]
  exact ⟨hstay _, hstay _, hstay _, hstay _, hwarning, hcaution, hinfo⟩

namespace TuningAgent

variable {a : TuningAgent} {s : TuningSnapshot}

lemma fpThresholdShift_bounds :
    0 ≤ (a.fpThresholdShift s).getD 0 ∧ (a.fpThresholdShift s).getD 0 ≤ a.cfg.maxThresholdShiftPerRun := by
  have hcap := a.maxThresholdShift_pos
  unfold fpThresholdShift
  split_ifs with h
  · have hceil : 0 ≤ ⌈(s.fpRate - a.cfg.fpRateTarget) * 100⌉ := Int.ceil_nonneg (by linarith)
    simp only [Option.getD_some]
    omega
  · simp only [Option.getD_none]
    omega

lemma fnThresholdShift_bounds :
    0 ≤ (a.fnThresholdShift s).getD 0 ∧ (a.fnThresholdShift s).getD 0 ≤ a.cfg.maxThresholdShiftPerRun := by
  have hcap := a.maxThresholdShift_pos
  unfold fnThresholdShift
  split_ifs with h
  · have hceil : 0 ≤ ⌈(s.fnRate - a.cfg.fnRateTarget) * 200⌉ := Int.ceil_nonneg (by linarith)
    simp only [Option.getD_some]
    omega
  · simp only [Option.getD_none]
    omega

lemma shiftThresholds_eq (t : AgentThresholds) : a.shiftThresholds s t =
    moved t ((a.fpThresholdShift s).getD 0 - (a.fnThresholdShift s).getD 0) ((a.fpThresholdShift s).getD 0) := by
  unfold shiftThresholds moved
  cases a.fpThresholdShift s <;> cases a.fnThresholdShift s <;> simp [sub_eq_add_neg, add_assoc]

/-- Both shifts may fire in one run. -/
lemma shiftThresholds_within {t : AgentThresholds} (h : Repaired t) :
    ThresholdsWithin a.cfg.maxThresholdShiftPerRun t (clampThresholds (a.shiftThresholds s t)) := by
  obtain ⟨hfp, hfp'⟩ := fpThresholdShift_bounds (a := a) (s := s)
  obtain ⟨hfn, hfn'⟩ := fnThresholdShift_bounds (a := a) (s := s)
  rw [shiftThresholds_eq]
  exact clampThresholds_moved h ⟨by omega, by omega⟩ ⟨hfp, hfp'⟩ (by omega)

end TuningAgent

/-- No weight is further than the cap from its current value. -/
structure WeightsWithin (cap : ℚ) (w u : RatWeights) : Prop where
  ai : |u.ai - w.ai| ≤ cap
  rspamd : |u.rspamd - w.rspamd| ≤ cap
  attachments : |u.attachments - w.attachments| ≤ cap
  links : |u.links - w.links| ≤ cap

structure InUnit (w : RatWeights) : Prop where
  ai : 0 ≤ w.ai ∧ w.ai ≤ 1
  rspamd : 0 ≤ w.rspamd ∧ w.rspamd ≤ 1
  attachments : 0 ≤ w.attachments ∧ w.attachments ≤ 1
  links : 0 ≤ w.links ∧ w.links ≤ 1

/-- The sum that the shifted weights `v` are divided by lies, for every weight, within the bounds that the cap allows.
-/
structure Balanced (cap : ℚ) (w v : RatWeights) : Prop where
  ai : (w.ai - cap) * v.sum ≤ v.ai ∧ v.ai ≤ (w.ai + cap) * v.sum
  rspamd : (w.rspamd - cap) * v.sum ≤ v.rspamd ∧ v.rspamd ≤ (w.rspamd + cap) * v.sum
  attachments : (w.attachments - cap) * v.sum ≤ v.attachments ∧ v.attachments ≤ (w.attachments + cap) * v.sum
  links : (w.links - cap) * v.sum ≤ v.links ∧ v.links ≤ (w.links + cap) * v.sum

lemma abs_div_sub_le_iff {x x' cap sum : ℚ} (h : 0 < sum) :
    |x' / sum - x| ≤ cap ↔ (x - cap) * sum ≤ x' ∧ x' ≤ (x + cap) * sum := by
  rw [abs_le, neg_le_sub_iff_le_add, sub_le_iff_le_add', div_le_iff₀ h, ← sub_le_iff_le_add, le_div_iff₀ h]

lemma clampWeights_within_iff {cap : ℚ} {w v : RatWeights} (h : 0 < v.clamped.sum) :
    WeightsWithin cap w (clampWeights v) ↔ Balanced cap w v.clamped := by
  have heq : clampWeights v = ⟨v.clamped.ai / v.clamped.sum, v.clamped.rspamd / v.clamped.sum,
      v.clamped.attachments / v.clamped.sum, v.clamped.links / v.clamped.sum⟩ := if_pos h
  rw [heq]
  constructor
  · rintro ⟨h1, h2, h3, h4⟩
    exact ⟨(abs_div_sub_le_iff h).mp h1, (abs_div_sub_le_iff h).mp h2, (abs_div_sub_le_iff h).mp h3,
      (abs_div_sub_le_iff h).mp h4⟩
  · rintro ⟨h1, h2, h3, h4⟩
    exact ⟨(abs_div_sub_le_iff h).mpr h1, (abs_div_sub_le_iff h).mpr h2, (abs_div_sub_le_iff h).mpr h3,
      (abs_div_sub_le_iff h).mpr h4⟩

lemma clampUnit_nonneg (v : ℚ) : 0 ≤ clampUnit v := by
  unfold clampUnit
  split_ifs <;> linarith

lemma clampUnit_eq_self {v : ℚ} (h : 0 ≤ v ∧ v ≤ 1) : clampUnit v = v := by
  unfold clampUnit
  rw [if_neg (not_lt.mpr h.1), if_neg (not_lt.mpr h.2)]

lemma clampUnit_pos {v : ℚ} (h : 0 < v) : 0 < clampUnit v := by
  unfold clampUnit
  split_ifs <;> linarith

/-- Weight `d` goes from `x` to `y`, with `o` the other weights: either there is enough of it and the sum stays one, or
`x` is used up and the sum grows by at most `d`. -/
lemma transfer_cases {x y d o : ℚ} (hx : 0 ≤ x) (hy : 0 ≤ y) (ho : 0 ≤ o) (hd : 0 < d) (hsum : x + y + o = 1) :
    (clampUnit (x - d) = x - d ∧ clampUnit (y + d) = y + d) ∨
      (x ≤ d ∧ clampUnit (x - d) = 0 ∧ y ≤ clampUnit (y + d) ∧ clampUnit (y + d) ≤ y + d ∧
        1 ≤ clampUnit (y + d) + o) := by
  rcases le_or_gt d x with h | h
  · exact .inl ⟨clampUnit_eq_self ⟨by linarith, by linarith⟩, clampUnit_eq_self ⟨by linarith, by linarith⟩⟩
  · have hzero : clampUnit (x - d) = 0 := if_pos (by linarith)
    refine .inr ⟨h.le, hzero, ?_⟩
    rcases le_or_gt (y + d) 1 with hone | hone
    · rw [clampUnit_eq_self ⟨by linarith, hone⟩]
      exact ⟨by linarith, le_rfl, by linarith⟩
    · have h1 : clampUnit (y + d) = 1 := by
        unfold clampUnit
        rw [if_neg (by linarith), if_pos hone]
      rw [h1]
      exact ⟨by linarith, hone.le, by linarith⟩

/-- A weight that the shift leaves alone, under a sum between `1` and `1 + cap`. -/
lemma bystander_bounds {z cap sum : ℚ} (hz : 0 ≤ z ∧ z ≤ 1) (hcap : 0 < cap) (h1 : 1 ≤ sum) (h2 : sum ≤ 1 + cap) :
    (z - cap) * sum ≤ z ∧ z ≤ (z + cap) * sum := by
  constructor
  · have hgrow : z * (sum - 1) ≤ 1 * cap := mul_le_mul hz.2 (by linarith) (by linarith) zero_le_one
    have hshare : cap * 1 ≤ cap * sum := mul_le_mul_of_nonneg_left h1 hcap.le
    linarith [sub_mul z cap sum, mul_sub z sum 1]
  · have hz' : z * 1 ≤ z * sum := mul_le_mul_of_nonneg_left h1 hz.1
    have hcap' : 0 ≤ cap * sum := by positivity
    linarith [add_mul z cap sum]

/-- The two weights of a transfer, and the sum. -/
lemma transfer_balanced {x y d o cap : ℚ} (hx : 0 ≤ x) (hy : 0 ≤ y) (ho : 0 ≤ o) (hd : 0 < d) (hdcap : d ≤ cap)
    (hsum : x + y + o = 1) : ∃ sum, sum = clampUnit (x - d) + clampUnit (y + d) + o ∧ 1 ≤ sum ∧ sum ≤ 1 + cap ∧
      ((x - cap) * sum ≤ clampUnit (x - d) ∧ clampUnit (x - d) ≤ (x + cap) * sum) ∧
      ((y - cap) * sum ≤ clampUnit (y + d) ∧ clampUnit (y + d) ≤ (y + cap) * sum) := by
  refine ⟨_, rfl, ?_⟩
  rcases transfer_cases hx hy ho hd hsum with ⟨hx', hy'⟩ | ⟨hxd, hx', hy1, hy2, hone⟩
  · have h1 : x - d + (y + d) + o = 1 := by linarith
    rw [hx', hy', h1]
    exact ⟨le_rfl, by linarith, ⟨by linarith, by linarith⟩, ⟨by linarith, by linarith⟩⟩
  · rw [hx', zero_add]
    have hcap : clampUnit (y + d) + o ≤ 1 + cap := by linarith
    obtain ⟨hlow, -⟩ := bystander_bounds (z := y) ⟨hy, by linarith⟩ (by linarith) hone hcap
    refine ⟨hone, hcap, ⟨?_, mul_nonneg (by linarith) (by linarith)⟩, ⟨by linarith, ?_⟩⟩
    · exact mul_nonpos_of_nonpos_of_nonneg (by linarith) (by linarith)
    · have hgrow : (y + cap) * 1 ≤ (y + cap) * (clampUnit (y + d) + o) :=
        mul_le_mul_of_nonneg_left hone (by linarith)
      linarith

/-- The sum of the weights once `d` has gone from `x` to `y`, with `o` the others: what `x` does not have of it comes on
top, and what `y` has no room for is lost. -/
def transferSum (d x y o : ℚ) : ℚ := x + y + o + max 0 (d - x) - max 0 (y + d - 1)

/-- The sums that a weight `x` may be divided by when `x'` has come in its place. -/
def Allows (cap sum x x' : ℚ) : Prop := x' / (x + cap) ≤ sum ∧ (cap < x → sum ≤ x' / (x - cap))

/-- The cap allows a shift of `d` from `x` to `y` among four weights. -/
structure Tolerated (cap d x y u v : ℚ) : Prop where
  loses : Allows cap (transferSum d x y (u + v)) x (x - d)
  gains : Allows cap (transferSum d x y (u + v)) y (min 1 (y + d))
  first : Allows cap (transferSum d x y (u + v)) u u
  second : Allows cap (transferSum d x y (u + v)) v v

lemma allows_iff {x x' cap sum : ℚ} (hsum : 0 < sum) (hx : 0 ≤ x) (hx' : 0 ≤ x') (hcap : 0 < cap) :
    Allows cap sum x x' ↔ (x - cap) * sum ≤ x' ∧ x' ≤ (x + cap) * sum := by
  unfold Allows
  rw [div_le_iff₀' (by linarith), and_comm]
  refine and_congr_left fun _ => ?_
  rcases lt_or_ge cap x with h | h
  · rw [le_div_iff₀' (by linarith)]
    exact ⟨fun hle => hle h, fun hle _ => hle⟩
  · -- the bound is not above zero
    have hle : (x - cap) * sum ≤ 0 := mul_nonpos_of_nonpos_of_nonneg (by linarith) hsum.le
    exact ⟨fun _ => hle.trans hx', fun _ hlt => absurd hlt (not_lt.mpr h)⟩

lemma clampUnit_sub {x d : ℚ} (hx : x ≤ 1) (hd : 0 < d) : clampUnit (x - d) = max 0 (x - d) := by
  unfold clampUnit
  rcases lt_or_ge (x - d) 0 with h | h
  · rw [if_pos h, max_eq_left h.le]
  · rw [if_neg (not_lt.mpr h), if_neg (by linarith), max_eq_right h]

lemma clampUnit_add {y d : ℚ} (hy : 0 ≤ y) (hd : 0 < d) : clampUnit (y + d) = min 1 (y + d) := by
  unfold clampUnit
  rw [if_neg (by linarith)]
  rcases lt_or_ge 1 (y + d) with h | h
  · rw [if_pos h, min_eq_left h.le]
  · rw [if_neg (not_lt.mpr h), min_eq_right h]

lemma transferSum_eq (d x y o : ℚ) : transferSum d x y o = max 0 (x - d) + min 1 (y + d) + o := by
  unfold transferSum
  rcases max_cases 0 (d - x) with ⟨h₁, h₁'⟩ | ⟨h₁, h₁'⟩ <;> rcases max_cases 0 (y + d - 1) with ⟨h₂, h₂'⟩ | ⟨h₂, h₂'⟩
  · rw [h₁, h₂, max_eq_right (by linarith), min_eq_right (by linarith)]
    ring
  · rw [h₁, h₂, max_eq_right (by linarith), min_eq_left (by linarith)]
    ring
  · rw [h₁, h₂, max_eq_left (by linarith), min_eq_right (by linarith)]
    ring
  · rw [h₁, h₂, max_eq_left (by linarith), min_eq_left (by linarith)]
    ring

/-- The weight that loses: one that is used up is no more than the cap to begin with. -/
lemma allows_sub_iff {cap d sum x : ℚ} (hdcap : d ≤ cap) (hd : 0 < d) (hsum : 0 < sum) (hx : 0 ≤ x) :
    Allows cap sum x (x - d) ↔ Allows cap sum x (max 0 (x - d)) := by
  rcases le_or_gt d x with h | h
  · rw [max_eq_right (by linarith)]
  · have hneg : (x - d) / (x + cap) ≤ 0 := div_nonpos_of_nonpos_of_nonneg (by linarith) (by linarith)
    rw [max_eq_left (by linarith)]
    refine ⟨fun _ => ⟨by simpa using hsum.le, fun hlt => ?_⟩, fun _ => ⟨by linarith, fun hlt => ?_⟩⟩ <;> linarith

/-- **What the cap asks of a transfer**, in the weights it starts from. -/
lemma balanced_iff_tolerated {cap d x y u v sum : ℚ} (hx : 0 ≤ x ∧ x ≤ 1) (hy : 0 ≤ y ∧ y ≤ 1) (hu : 0 ≤ u)
    (hv : 0 ≤ v) (hd : 0 < d) (hdcap : d ≤ cap) (hs : sum = clampUnit (x - d) + clampUnit (y + d) + (u + v)) :
    (((x - cap) * sum ≤ clampUnit (x - d) ∧ clampUnit (x - d) ≤ (x + cap) * sum) ∧
        ((y - cap) * sum ≤ clampUnit (y + d) ∧ clampUnit (y + d) ≤ (y + cap) * sum) ∧
        ((u - cap) * sum ≤ u ∧ u ≤ (u + cap) * sum) ∧ ((v - cap) * sum ≤ v ∧ v ≤ (v + cap) * sum)) ↔
      Tolerated cap d x y u v := by
  have hcap : 0 < cap := hd.trans_le hdcap
  have hpos : 0 < sum := by
    have hy' : 0 < clampUnit (y + d) := clampUnit_pos (by linarith)
    rw [hs]
    linarith [clampUnit_nonneg (x - d)]
  have hsum : transferSum d x y (u + v) = sum := by
    rw [transferSum_eq, hs, clampUnit_sub hx.2 hd, clampUnit_add hy.1 hd]
  rw [← allows_iff hpos hx.1 (clampUnit_nonneg _) hcap, ← allows_iff hpos hy.1 (clampUnit_nonneg _) hcap,
    ← allows_iff hpos hu hu hcap, ← allows_iff hpos hv hv hcap, clampUnit_sub hx.2 hd, clampUnit_add hy.1 hd,
    ← allows_sub_iff hdcap hd hpos hx.1]
  constructor
  · rintro ⟨h₁, h₂, h₃, h₄⟩
    exact ⟨hsum ▸ h₁, hsum ▸ h₂, hsum ▸ h₃, hsum ▸ h₄⟩
  · rintro ⟨h₁, h₂, h₃, h₄⟩
    rw [hsum] at h₁ h₂ h₃ h₄
    exact ⟨h₁, h₂, h₃, h₄⟩

/-- A shift that takes up the cap leaves nothing for the renormalisation. -/
lemma sum_of_whole_shift {cap x y u v : ℚ} (hcap : 0 < cap) (hx : cap < x) (hy : 0 ≤ y) (hroom : y + cap ≤ 1)
    (h : Tolerated cap cap x y u v) : x + y + (u + v) = 1 := by
  have hsum : transferSum cap x y (u + v) = x + y + (u + v) := by
    unfold transferSum
    rw [max_eq_left (by linarith), max_eq_left (by linarith)]
    ring
  have hle := h.loses.2 hx
  have hge := h.gains.1
  rw [hsum] at hle hge
  rw [div_self (by linarith)] at hle
  rw [min_eq_right hroom, div_self (by linarith)] at hge
  exact le_antisymm hle hge

namespace TuningAgent

variable {a : TuningAgent} {s : TuningSnapshot}

lemma fpWeightShift_cases {d : ℚ} (h : a.fpWeightShift s = some d) :
    0 < d ∧ d ≤ a.cfg.maxWeightShiftPerRun ∧ a.fnWeightShift s = none := by
  unfold fpWeightShift at h
  split_ifs at h with hc
  obtain rfl := Option.some.inj h
  refine ⟨lt_min a.maxWeightShift_pos (by linarith [hc.1]), min_le_left _ _, if_neg ?_⟩
  rintro ⟨-, hlt⟩
  omega

lemma fnWeightShift_cases {d : ℚ} (h : a.fnWeightShift s = some d) :
    0 < d ∧ d ≤ a.cfg.maxWeightShiftPerRun ∧ a.fpWeightShift s = none := by
  unfold fnWeightShift at h
  split_ifs at h with hc
  obtain rfl := Option.some.inj h
  refine ⟨lt_min a.maxWeightShift_pos (by linarith [hc.1]), min_le_left _ _, if_neg ?_⟩
  rintro ⟨-, hlt⟩
  omega

/-- A weight shift goes one way. -/
lemma shiftWeights_cases (w : RatWeights) (h : (a.fpWeightShift s).isSome ∨ (a.fnWeightShift s).isSome) :
    ∃ d, 0 < d ∧ d ≤ a.cfg.maxWeightShiftPerRun ∧
      (a.shiftWeights s w = { w with ai := w.ai - d, rspamd := w.rspamd + d } ∨
        a.shiftWeights s w = { w with ai := w.ai + d, rspamd := w.rspamd - d }) := by
  rcases h with h | h
  · obtain ⟨d, hd⟩ := Option.isSome_iff_exists.mp h
    obtain ⟨hpos, hcap, hfn⟩ := fpWeightShift_cases hd
    exact ⟨d, hpos, hcap, .inl (by simp [shiftWeights, hd, hfn])⟩
  · obtain ⟨d, hd⟩ := Option.isSome_iff_exists.mp h
    obtain ⟨hpos, hcap, hfp⟩ := fnWeightShift_cases hd
    exact ⟨d, hpos, hcap, .inr (by simp [shiftWeights, hd, hfp])⟩

lemma clamped_sum_pos {w : RatWeights} (hw : InUnit w)
    (h : (a.fpWeightShift s).isSome ∨ (a.fnWeightShift s).isSome) : 0 < (a.shiftWeights s w).clamped.sum := by
  obtain ⟨d, hd, -, heq | heq⟩ := shiftWeights_cases w h
  · have hpos : 0 < clampUnit (w.rspamd + d) := clampUnit_pos (by linarith [hw.rspamd.1])
    rw [heq]
    show 0 < clampUnit (w.ai - d) + clampUnit (w.rspamd + d) + clampUnit w.attachments + clampUnit w.links
    linarith [clampUnit_nonneg (w.ai - d), clampUnit_nonneg w.attachments, clampUnit_nonneg w.links]
  · have hpos : 0 < clampUnit (w.ai + d) := clampUnit_pos (by linarith [hw.ai.1])
    rw [heq]
    show 0 < clampUnit (w.ai + d) + clampUnit (w.rspamd - d) + clampUnit w.attachments + clampUnit w.links
    linarith [clampUnit_nonneg (w.rspamd - d), clampUnit_nonneg w.attachments, clampUnit_nonneg w.links]

/-- Weights that sum to one are balanced after any shift. -/
lemma balanced_of_sum_one {w : RatWeights} (hw : InUnit w) (hsum : w.sum = 1)
    (h : (a.fpWeightShift s).isSome ∨ (a.fnWeightShift s).isSome) :
    Balanced a.cfg.maxWeightShiftPerRun w (a.shiftWeights s w).clamped := by
  obtain ⟨hai, hrs, hat, hli⟩ := hw
  have hcap := a.maxWeightShift_pos
  have hothers : 0 ≤ w.attachments + w.links := by linarith
  obtain ⟨d, hd, hdcap, heq | heq⟩ := shiftWeights_cases w h
  · obtain ⟨sum, hs, h1, h2, hfrom, hto⟩ := transfer_balanced hai.1 hrs.1 hothers hd hdcap
      (by rw [← hsum, RatWeights.sum]; ring)
    have hclamped : (a.shiftWeights s w).clamped =
        ⟨clampUnit (w.ai - d), clampUnit (w.rspamd + d), w.attachments, w.links⟩ := by
      rw [heq, RatWeights.clamped, clampUnit_eq_self hat, clampUnit_eq_self hli]
    have hsum' : (a.shiftWeights s w).clamped.sum = sum := by
      rw [hclamped, hs, RatWeights.sum]
      ring
    constructor <;> rw [hsum', hclamped]
    exacts [hfrom, hto, bystander_bounds hat hcap h1 h2, bystander_bounds hli hcap h1 h2]
  · obtain ⟨sum, hs, h1, h2, hfrom, hto⟩ := transfer_balanced hrs.1 hai.1 hothers hd hdcap
      (by rw [← hsum, RatWeights.sum]; ring)
    have hclamped : (a.shiftWeights s w).clamped =
        ⟨clampUnit (w.ai + d), clampUnit (w.rspamd - d), w.attachments, w.links⟩ := by
      rw [heq, RatWeights.clamped, clampUnit_eq_self hat, clampUnit_eq_self hli]
    have hsum' : (a.shiftWeights s w).clamped.sum = sum := by
      rw [hclamped, hs, RatWeights.sum]
      ring
    constructor <;> rw [hsum', hclamped]
    exacts [hto, hfrom, bystander_bounds hat hcap h1 h2, bystander_bounds hli hcap h1 h2]

variable (a s) in
/-- No weight is moved, or the cap allows the shift among the current weights. -/
def Settled : Prop :=
  let w := s.currentWeights
  a.cfg.minSampleSize ≤ s.totalEvaluations →
    (∀ d ∈ a.fpWeightShift s, Tolerated a.cfg.maxWeightShiftPerRun d w.ai w.rspamd w.attachments w.links) ∧
      ∀ d ∈ a.fnWeightShift s, Tolerated a.cfg.maxWeightShiftPerRun d w.rspamd w.ai w.attachments w.links

variable (a s) in
/-- The shift takes up the cap, and there is room for it. -/
def WholeShift : Prop :=
  let cap := a.cfg.maxWeightShiftPerRun
  let w := s.currentWeights
  (a.fpWeightShift s = some cap ∧ cap < w.ai ∧ w.rspamd + cap ≤ 1) ∨
    (a.fnWeightShift s = some cap ∧ cap < w.rspamd ∧ w.ai + cap ≤ 1)

lemma newThresholds_within (h : clampThresholds s.currentThresholds = s.currentThresholds) :
    ∀ t ∈ (a.decide s).newThresholds, ThresholdsWithin a.cfg.maxThresholdShiftPerRun s.currentThresholds t := by
  intro t ht
  unfold decide at ht
  split_ifs at ht with hfloor
  · simp at ht
  · simp only [Option.mem_def, Option.ite_none_right_eq_some, Option.some.injEq] at ht
    rw [← ht.2]
    exact shiftThresholds_within (repaired_iff.mp h)

/-- What the shifted weights have to be is what the shift has to be. -/
lemma balanced_iff {w : RatWeights} (hw : InUnit w) (h : (a.fpWeightShift s).isSome ∨ (a.fnWeightShift s).isSome) :
    Balanced a.cfg.maxWeightShiftPerRun w (a.shiftWeights s w).clamped ↔
      (∀ d ∈ a.fpWeightShift s, Tolerated a.cfg.maxWeightShiftPerRun d w.ai w.rspamd w.attachments w.links) ∧
        ∀ d ∈ a.fnWeightShift s, Tolerated a.cfg.maxWeightShiftPerRun d w.rspamd w.ai w.attachments w.links := by
  obtain ⟨hai, hrs, hat, hli⟩ := hw
  rcases h with h | h
  · obtain ⟨d, hd⟩ := Option.isSome_iff_exists.mp h
    obtain ⟨hpos, hcap, hfn⟩ := fpWeightShift_cases hd
    have hclamped : (a.shiftWeights s w).clamped =
        ⟨clampUnit (w.ai - d), clampUnit (w.rspamd + d), w.attachments, w.links⟩ := by
      simp [shiftWeights, hd, hfn, RatWeights.clamped, clampUnit_eq_self hat, clampUnit_eq_self hli]
    rw [hclamped, hd, hfn]
    simp only [Option.mem_def, Option.some.injEq, forall_eq', reduceCtorEq, false_implies, implies_true, and_true]
    rw [← balanced_iff_tolerated hai hrs hat.1 hli.1 hpos hcap (add_assoc _ _ _)]
    exact ⟨fun ⟨h₁, h₂, h₃, h₄⟩ => ⟨h₁, h₂, h₃, h₄⟩, fun ⟨h₁, h₂, h₃, h₄⟩ => ⟨h₁, h₂, h₃, h₄⟩⟩
  · obtain ⟨d, hd⟩ := Option.isSome_iff_exists.mp h
    obtain ⟨hpos, hcap, hfp⟩ := fnWeightShift_cases hd
    have hclamped : (a.shiftWeights s w).clamped =
        ⟨clampUnit (w.ai + d), clampUnit (w.rspamd - d), w.attachments, w.links⟩ := by
      simp [shiftWeights, hd, hfp, RatWeights.clamped, clampUnit_eq_self hat, clampUnit_eq_self hli]
    have hsum : (a.shiftWeights s w).clamped.sum =
        clampUnit (w.rspamd - d) + clampUnit (w.ai + d) + (w.attachments + w.links) := by
      rw [hclamped, RatWeights.sum]
      ring
    rw [hd, hfp]
    simp only [Option.mem_def, Option.some.injEq, forall_eq', reduceCtorEq, false_implies, implies_true, true_and]
    rw [← balanced_iff_tolerated hrs hai hat.1 hli.1 hpos hcap hsum]
    constructor
    · rintro ⟨h₁, h₂, h₃, h₄⟩
      rw [hclamped] at h₁ h₂ h₃ h₄
      rw [hclamped]
      exact ⟨h₂, h₁, h₃, h₄⟩
    · intro hb
      rw [hclamped] at hb ⊢
      exact ⟨hb.2.1, hb.1, hb.2.2.1, hb.2.2.2⟩

lemma newWeights_within_iff (h : InUnit s.currentWeights) :
    (∀ w ∈ (a.decide s).newWeights, WeightsWithin a.cfg.maxWeightShiftPerRun s.currentWeights w) ↔ a.Settled s := by
  unfold decide Settled
  split_ifs with hfloor
  · simp [not_le.mpr hfloor]
  · simp only [Option.mem_def, Option.ite_none_right_eq_some, Option.some.injEq, Bool.or_eq_true]
    constructor
    · intro hw _
      by_cases hshift : (a.fpWeightShift s).isSome ∨ (a.fnWeightShift s).isSome
      · exact (balanced_iff h hshift).mp
          ((clampWeights_within_iff (clamped_sum_pos h hshift)).mp (hw _ ⟨hshift, rfl⟩))
      · simp only [not_or, Bool.not_eq_true, Option.isSome_eq_false_iff, Option.isNone_iff_eq_none] at hshift
        simp [hshift.1, hshift.2]
    · rintro hb w ⟨hshift, rfl⟩
      exact (clampWeights_within_iff (clamped_sum_pos h hshift)).mpr
        ((balanced_iff h hshift).mpr (hb (not_lt.mp hfloor)))

lemma settled_of_sum_one (h : InUnit s.currentWeights) (hsum : s.currentWeights.sum = 1) : a.Settled s := by
  refine (newWeights_within_iff h).mp fun w hw => ?_
  unfold decide at hw
  split_ifs at hw with hfloor
  · simp at hw
  · simp only [Option.mem_def, Option.ite_none_right_eq_some, Option.some.injEq, Bool.or_eq_true] at hw
    obtain ⟨hshift, rfl⟩ := hw
    exact (clampWeights_within_iff (clamped_sum_pos h hshift)).mpr (balanced_of_sum_one h hsum hshift)

lemma sum_of_settled (h : InUnit s.currentWeights) (hfloor : a.cfg.minSampleSize ≤ s.totalEvaluations)
    (hwhole : a.WholeShift s) (hsettled : a.Settled s) : s.currentWeights.sum = 1 := by
  have hsettled := hsettled hfloor
  rcases hwhole with ⟨hd, hx, hroom⟩ | ⟨hd, hx, hroom⟩
  · rw [← sum_of_whole_shift a.maxWeightShift_pos hx h.rspamd.1 hroom (hsettled.1 _ hd), RatWeights.sum]
    ring
  · rw [← sum_of_whole_shift a.maxWeightShift_pos hx h.ai.1 hroom (hsettled.2 _ hd), RatWeights.sum]
    ring

/-- The thresholds of a decision keep to their cap. Its weights do exactly if the cap allows the shift among the current
ones; it does if they sum to one, and a shift that takes up the cap asks for just that. -/
theorem decide_within_caps_iff (a : TuningAgent) (s : TuningSnapshot) :
    (clampThresholds s.currentThresholds = s.currentThresholds →
      ∀ t ∈ (a.decide s).newThresholds,
        ThresholdsWithin a.cfg.maxThresholdShiftPerRun s.currentThresholds t) ∧
    (InUnit s.currentWeights →
      ((∀ w ∈ (a.decide s).newWeights,
          WeightsWithin a.cfg.maxWeightShiftPerRun s.currentWeights w) ↔ a.Settled s) ∧
        (s.currentWeights.sum = 1 → a.Settled s) ∧
        (a.cfg.minSampleSize ≤ s.totalEvaluations → a.WholeShift s → a.Settled s → s.currentWeights.sum = 1)) :=
  ⟨newThresholds_within, fun h => ⟨newWeights_within_iff h, settled_of_sum_one h, sum_of_settled h⟩⟩

namespace Sample

def defaultAgent : TuningAgent := newTuningAgent {}

def defaultBundle : AgentThresholds := ⟨20, 60, 85, 70, 50, 30, 15⟩

/-- One report in five says that a message was harmless. -/
def noisy (w : RatWeights) : TuningSnapshot := ⟨100, 20, 1, w, defaultBundle⟩

/-- The defaults of the scorer. -/
def seeded : RatWeights := ⟨60 / 100, 10 / 100, 15 / 100, 15 / 100⟩

/-- A row of `score_engine` with weights `80`, `20`, `15` and `15`. -/
def heavy : RatWeights := ⟨80 / 100, 20 / 100, 15 / 100, 15 / 100⟩

lemma inUnit_seeded : InUnit seeded := by
  constructor <;> norm_num [seeded]

lemma inUnit_heavy : InUnit heavy := by
  constructor <;> norm_num [heavy]

end Sample

open Sn360Es.Agent.TuningAgent.Sample in
theorem decide_within_caps_seeded :
    ThresholdsWithin 5 defaultBundle ⟨20, 60, 85, 70, 55, 35, 20⟩ ∧
      WeightsWithin (5 / 100) seeded ⟨55 / 100, 15 / 100, 15 / 100, 15 / 100⟩ := by
  have h := decide_within_caps_iff defaultAgent (noisy seeded)
  have hsum : seeded.sum = 1 := by norm_num [seeded, RatWeights.sum]
  obtain ⟨hiff, hone, -⟩ := h.2 inUnit_seeded
  exact ⟨h.1 (by decide) _ (by decide +kernel), hiff.mpr (hone hsum) _ (by decide +kernel)⟩

open Sn360Es.Agent.TuningAgent.Sample in
/-- Weights that sum to `1.3` are renormalised: the AI weight falls from `0.8` to `15/26`. -/
theorem heavy_weights_renormalised : InUnit heavy ∧
    ¬ ∀ w ∈ (defaultAgent.decide (noisy heavy)).newWeights,
      WeightsWithin defaultAgent.cfg.maxWeightShiftPerRun heavy w := by
  refine ⟨inUnit_heavy, fun h => ?_⟩
  have hw := h ⟨15 / 26, 5 / 26, 3 / 26, 3 / 26⟩ (by decide +kernel)
  have hcap : defaultAgent.cfg.maxWeightShiftPerRun = 5 / 100 := by decide +kernel
  have hai := (abs_le.mp hw.ai).1
  rw [hcap] at hai
  norm_num [heavy] at hai

end TuningAgent

end Sn360Es.Agent
