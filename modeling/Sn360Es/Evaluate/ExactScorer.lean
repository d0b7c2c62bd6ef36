import Mathlib.Tactic.FieldSimp
import Mathlib.Tactic.Linarith
import Sn360Es.Evaluate.Scorer

/-!
# The scorer over exact numbers

`Scorer` computes in binary floating point. The same functions are written here over any number type that has the
operations they use, so that the floating-point scorer is one instance (`effectiveWeights_exact`, `score_exact`) and the
laws of the aggregation can be stated over the rationals: the redistribution keeps the total, and the score is a
rounded mean of the components that carry weight.

* `total_effective` — redistribution keeps the total;
* `mean_le`, `le_mean` — the mean lies within bounds on the components that carry weight;
* `score_of_mean` — under components in `[0, 100]` the score is the rounded mean.
-/

namespace Sn360Es.Evaluate

open Lib (Float64)

/-- `Weights` over a number type. -/
@[ext] structure WeightsOf (F : Type) where
  ai : F
  rspamd : F
  attachments : F
  links : F
  deriving DecidableEq, Repr

section Generic

variable {F : Type} [Zero F] [Add F] [Mul F] [Div F] [LinearOrder F]

def WeightsOf.total (w : WeightsOf F) : F := w.ai + w.rspamd + w.attachments + w.links

/-- The second half of `EffectiveWeights`: AI and Rspamd share what is left over, in proportion. -/
def WeightsOf.share (ew : WeightsOf F) (redistribute : F) : WeightsOf F :=
  if 0 < redistribute then
    let base := ew.ai + ew.rspamd
    if 0 < base then
      { ew with ai := ew.ai + redistribute * (ew.ai / base)
                rspamd := ew.rspamd + redistribute * (ew.rspamd / base) }
    else { ew with ai := ew.ai + redistribute }
  else ew

/-- `EffectiveWeights`. -/
def WeightsOf.effective (w : WeightsOf F) (hasLinks hasAttachments : Bool) : WeightsOf F :=
  let fromLinks : F := if hasLinks then 0 else 0 + w.links
  let ew := if hasLinks then w else { w with links := 0 }
  let redistribute := if hasAttachments then fromLinks else fromLinks + ew.attachments
  let ew := if hasAttachments then ew else { ew with attachments := 0 }
  ew.share redistribute

variable (ofInt : ℤ → F) (round : F → ℤ)

def weightedSum (comp : Components) (w : WeightsOf F) : F :=
  ofInt comp.ai * w.ai + ofInt comp.rspamd * w.rspamd + ofInt comp.attachments * w.attachments +
    ofInt comp.links * w.links

/-- `Score`. -/
def scoreOf (comp : Components) (w : WeightsOf F) : ℤ :=
  if w.total ≤ 0 then clampScore comp.ai else clampScore (round (weightedSum ofInt comp w / w.total))

/-- `ScoreWithAvailability`. -/
def scoreWithAvailabilityOf (cwa : Components) (w : WeightsOf F) : ℤ :=
  scoreOf ofInt round cwa (w.effective cwa.hasLinks cwa.hasAttachments)

end Generic

/-! ### The floating-point instance -/

def Weights.exact (w : Weights) : WeightsOf Float64 := ⟨w.ai, w.rspamd, w.attachments, w.links⟩

lemma effectiveWeights_exact (w : Weights) (hasLinks hasAttachments : Bool) :
    (effectiveWeights w hasLinks hasAttachments).exact = w.exact.effective hasLinks hasAttachments := by
  have hshare : ∀ (ew : Weights) (extra : Float64), (if 0 < extra then
      if 0 < ew.ai + ew.rspamd then
        { ew with ai := ew.ai + extra * (ew.ai / (ew.ai + ew.rspamd))
                  rspamd := ew.rspamd + extra * (ew.rspamd / (ew.ai + ew.rspamd)) }
      else { ew with ai := ew.ai + extra }
    else ew).exact = ew.exact.share extra := by
    intro ew extra
    simp only [WeightsOf.share, apply_ite Weights.exact]
    rfl
  unfold effectiveWeights WeightsOf.effective
  cases hasLinks <;> cases hasAttachments <;> exact hshare _ _

lemma score_exact (cwa : Components) (w : Weights) :
    scoreWithAvailability cwa w = scoreWithAvailabilityOf Float64.ofInt Float64.round cwa w.exact := by
  rw [scoreWithAvailabilityOf, ← effectiveWeights_exact]
  rfl

/-! ### The rationals -/

/-- `int(math.Round(x))`. -/
def roundRat (x : ℚ) : ℤ := if 0 ≤ x then ⌊x + 1 / 2⌋ else -⌊-x + 1 / 2⌋

/-- `ScoreWithAvailability` over exact rationals. -/
def exactScore (cwa : Components) (w : WeightsOf ℚ) : ℤ := scoreWithAvailabilityOf (fun n => (n : ℚ)) roundRat cwa w

lemma roundRat_mono {x y : ℚ} (hx : 0 ≤ x) (h : x ≤ y) : roundRat x ≤ roundRat y := by
  rw [roundRat, roundRat, if_pos hx, if_pos (hx.trans h)]
  exact Int.floor_le_floor (by linarith)

lemma roundRat_intCast {n : ℤ} (h : 0 ≤ n) : roundRat n = n := by
  rw [roundRat, if_pos (by exact_mod_cast h), Int.floor_intCast_add]
  norm_num

structure NonNeg (w : WeightsOf ℚ) : Prop where
  ai : 0 ≤ w.ai
  rspamd : 0 ≤ w.rspamd
  attachments : 0 ≤ w.attachments
  links : 0 ≤ w.links

lemma total_share {ew : WeightsOf ℚ} (hw : NonNeg ew) {extra : ℚ} (h : 0 ≤ extra) :
    (ew.share extra).total = ew.total + extra := by
  obtain ⟨hai, hrs, -, -⟩ := hw
  simp only [WeightsOf.share]
  split_ifs with hpos hbase
  · have hshares : extra * (ew.ai / (ew.ai + ew.rspamd)) + extra * (ew.rspamd / (ew.ai + ew.rspamd)) = extra := by
      rw [← mul_add, ← add_div, div_self hbase.ne', mul_one]
    simp only [WeightsOf.total]
    linarith
  · simp only [WeightsOf.total]
    ring
  · rw [le_antisymm (not_lt.mp hpos) h, add_zero]

lemma share_nonNeg {ew : WeightsOf ℚ} (hw : NonNeg ew) (extra : ℚ) : NonNeg (ew.share extra) := by
  obtain ⟨hai, hrs, hat, hli⟩ := hw
  simp only [WeightsOf.share]
  split_ifs with hpos hbase
  · exact ⟨by positivity, by positivity, hat, hli⟩
  · exact ⟨by positivity, hrs, hat, hli⟩
  · exact ⟨hai, hrs, hat, hli⟩

/-- The weights that stay where they are. -/
def WeightsOf.kept (w : WeightsOf ℚ) (hasLinks hasAttachments : Bool) : WeightsOf ℚ :=
  { w with
    attachments := if hasAttachments then w.attachments else 0
    links := if hasLinks then w.links else 0 }

/-- The weight of the absent scanners. -/
def WeightsOf.spare (w : WeightsOf ℚ) (hasLinks hasAttachments : Bool) : ℚ :=
  (if hasLinks then 0 else w.links) + if hasAttachments then 0 else w.attachments

lemma effective_eq (w : WeightsOf ℚ) (hasLinks hasAttachments : Bool) :
    w.effective hasLinks hasAttachments = (w.kept hasLinks hasAttachments).share (w.spare hasLinks hasAttachments) := by
  cases hasLinks <;> cases hasAttachments <;> simp [WeightsOf.effective, WeightsOf.kept, WeightsOf.spare]

lemma kept_nonNeg {w : WeightsOf ℚ} (hw : NonNeg w) (hasLinks hasAttachments : Bool) :
    NonNeg (w.kept hasLinks hasAttachments) := by
  obtain ⟨hai, hrs, hat, hli⟩ := hw
  refine ⟨hai, hrs, ?_, ?_⟩
  · cases hasAttachments <;> simp [WeightsOf.kept, hat]
  · cases hasLinks <;> simp [WeightsOf.kept, hli]

lemma spare_nonneg {w : WeightsOf ℚ} (hw : NonNeg w) (hasLinks hasAttachments : Bool) :
    0 ≤ w.spare hasLinks hasAttachments := by
  have hat := hw.attachments
  have hli := hw.links
  cases hasLinks <;> cases hasAttachments <;> simp only [WeightsOf.spare, Bool.false_eq_true, if_false, if_true] <;>
    linarith

/-- Redistribution keeps the total. -/
lemma total_effective {w : WeightsOf ℚ} (hw : NonNeg w) (hasLinks hasAttachments : Bool) :
    (w.effective hasLinks hasAttachments).total = w.total := by
  rw [effective_eq, total_share (kept_nonNeg hw _ _) (spare_nonneg hw _ _)]
  cases hasLinks <;> cases hasAttachments <;>
    simp only [WeightsOf.total, WeightsOf.kept, WeightsOf.spare, Bool.false_eq_true, if_false, if_true] <;> ring

lemma effective_nonNeg {w : WeightsOf ℚ} (hw : NonNeg w) (hasLinks hasAttachments : Bool) :
    NonNeg (w.effective hasLinks hasAttachments) := by
  rw [effective_eq]
  exact share_nonNeg (kept_nonNeg hw _ _) _

/-! ### Scaling -/

def WeightsOf.scale (k : ℚ) (w : WeightsOf ℚ) : WeightsOf ℚ := ⟨k * w.ai, k * w.rspamd, k * w.attachments, k * w.links⟩

lemma total_scale (k : ℚ) (w : WeightsOf ℚ) : (w.scale k).total = k * w.total := by
  simp only [WeightsOf.total, WeightsOf.scale]
  ring

lemma share_scale {k : ℚ} (hk : 0 < k) (ew : WeightsOf ℚ) (extra : ℚ) :
    (ew.scale k).share (k * extra) = (ew.share extra).scale k := by
  have hbase : k * ew.ai + k * ew.rspamd = k * (ew.ai + ew.rspamd) := by ring
  have hpart : ∀ x b : ℚ, k * extra * (k * x / (k * b)) = k * (extra * (x / b)) := by
    intro x b
    rw [mul_div_mul_left x b hk.ne', mul_assoc]
  simp only [WeightsOf.share, WeightsOf.scale, hbase, mul_pos_iff_of_pos_left hk, hpart, ← mul_add]
  split_ifs <;> simp [mul_add]

lemma effective_scale {k : ℚ} (hk : 0 < k) (w : WeightsOf ℚ) (hasLinks hasAttachments : Bool) :
    (w.scale k).effective hasLinks hasAttachments = (w.effective hasLinks hasAttachments).scale k := by
  have hkept : (w.scale k).kept hasLinks hasAttachments = (w.kept hasLinks hasAttachments).scale k := by
    simp [WeightsOf.kept, WeightsOf.scale]
  have hspare : (w.scale k).spare hasLinks hasAttachments = k * w.spare hasLinks hasAttachments := by
    simp [WeightsOf.spare, WeightsOf.scale, mul_add]
  rw [effective_eq, effective_eq, hkept, hspare, share_scale hk]

/-! ### The mean -/

inductive Part where
  | ai
  | rspamd
  | attachments
  | links
  deriving DecidableEq, Repr

def WeightsOf.part (w : WeightsOf ℚ) : Part → ℚ
  | .ai => w.ai
  | .rspamd => w.rspamd
  | .attachments => w.attachments
  | .links => w.links

def Components.part (c : Components) : Part → ℤ
  | .ai => c.ai
  | .rspamd => c.rspamd
  | .attachments => c.attachments
  | .links => c.links

def mean (c : Components) (w : WeightsOf ℚ) : ℚ := weightedSum (fun n => (n : ℚ)) c w / w.total

lemma NonNeg.part {w : WeightsOf ℚ} (h : NonNeg w) (p : Part) : 0 ≤ w.part p := by
  cases p
  exacts [h.ai, h.rspamd, h.attachments, h.links]

/-- A sum over the four parts grows with its terms. -/
lemma weightedSum_le {c c' : Components} {w : WeightsOf ℚ}
    (h : ∀ p, (c.part p : ℚ) * w.part p ≤ (c'.part p : ℚ) * w.part p) :
    weightedSum (fun n => (n : ℚ)) c w ≤ weightedSum (fun n => (n : ℚ)) c' w := by
  have h1 := h .ai
  have h2 := h .rspamd
  have h3 := h .attachments
  have h4 := h .links
  simp only [Components.part, WeightsOf.part] at h1 h2 h3 h4
  simp only [weightedSum]
  linarith

/-- All components the same. -/
def Components.const (n : ℤ) : Components := { ai := n, rspamd := n, attachments := n, links := n }

lemma mean_const (n : ℤ) {w : WeightsOf ℚ} (ht : 0 < w.total) : mean (.const n) w = n := by
  have hsum : weightedSum (fun n => (n : ℚ)) (.const n) w = n * w.total := by
    simp only [weightedSum, Components.const, WeightsOf.total]
    ring
  rw [mean, hsum, mul_div_cancel_right₀ _ ht.ne']

/-- The mean grows with the components that carry weight. -/
lemma mean_mono {c c' : Components} {w : WeightsOf ℚ} (hw : NonNeg w) (ht : 0 < w.total)
    (h : ∀ p, 0 < w.part p → c.part p ≤ c'.part p) : mean c w ≤ mean c' w := by
  refine div_le_div_of_nonneg_right (weightedSum_le fun p => ?_) ht.le
  rcases (hw.part p).eq_or_lt with h0 | hpos
  · rw [← h0, mul_zero, mul_zero]
  · exact mul_le_mul_of_nonneg_right (by exact_mod_cast h p hpos) hpos.le

lemma le_mean {lo : ℤ} {c : Components} {w : WeightsOf ℚ} (hw : NonNeg w) (ht : 0 < w.total)
    (h : ∀ p, 0 < w.part p → lo ≤ c.part p) : (lo : ℚ) ≤ mean c w := by
  rw [← mean_const lo ht]
  exact mean_mono hw ht fun p hp => by cases p <;> exact h _ hp

lemma mean_le {hi : ℤ} {c : Components} {w : WeightsOf ℚ} (hw : NonNeg w) (ht : 0 < w.total)
    (h : ∀ p, 0 < w.part p → c.part p ≤ hi) : mean c w ≤ (hi : ℚ) := by
  rw [← mean_const hi ht]
  exact mean_mono hw ht fun p hp => by cases p <;> exact h _ hp

def InRange (c : Components) : Prop := ∀ p, 0 ≤ c.part p ∧ c.part p ≤ 100

/-- Under components in `[0, 100]` the clamp does nothing. -/
lemma score_of_mean {c : Components} {w : WeightsOf ℚ} (hc : InRange c) (hw : NonNeg w) (ht : 0 < w.total) :
    scoreOf (fun n => (n : ℚ)) roundRat c w = roundRat (mean c w) ∧ 0 ≤ mean c w := by
  have hlo : ((0 : ℤ) : ℚ) ≤ mean c w := le_mean hw ht fun p _ => (hc p).1
  have hhi : mean c w ≤ ((100 : ℤ) : ℚ) := mean_le hw ht fun p _ => (hc p).2
  have h0 : 0 ≤ roundRat (mean c w) := by
    rw [← roundRat_intCast le_rfl]
    exact roundRat_mono le_rfl hlo
  have h100 : roundRat (mean c w) ≤ 100 := by
    rw [← roundRat_intCast (n := 100) (by omega)]
    exact roundRat_mono (by exact_mod_cast hlo) hhi
  refine ⟨?_, by exact_mod_cast hlo⟩
  rw [scoreOf, if_neg (not_le.mpr ht)]
  show clampScore (roundRat (mean c w)) = _
  unfold clampScore
  rw [if_neg (by omega), if_neg (by omega)]

/-- The rounded mean lies between components that carry weight. -/
lemma score_between {c : Components} {w : WeightsOf ℚ} (hc : InRange c) (hw : NonNeg w) (ht : 0 < w.total) :
    (∃ p, 0 < w.part p ∧ c.part p ≤ roundRat (mean c w)) ∧ ∃ p, 0 < w.part p ∧ roundRat (mean c w) ≤ c.part p := by
  obtain ⟨-, hmean⟩ := score_of_mean hc hw ht
  have h0 : 0 ≤ roundRat (mean c w) := by
    have h := roundRat_mono le_rfl hmean
    rwa [show roundRat 0 = 0 from roundRat_intCast (n := 0) le_rfl] at h
  constructor
  · by_contra hno
    push Not at hno
    have hle : ((roundRat (mean c w) + 1 : ℤ) : ℚ) ≤ mean c w := le_mean hw ht fun p hp => hno p hp
    have hround := roundRat_mono (by exact_mod_cast (by omega : 0 ≤ roundRat (mean c w) + 1)) hle
    rw [roundRat_intCast (by omega)] at hround
    omega
  · by_contra hno
    push Not at hno
    obtain ⟨p, hp⟩ : ∃ p, 0 < w.part p := by
      by_contra hnone
      push Not at hnone
      have hzero : w.total ≤ 0 := by
        have h1 := hnone .ai
        have h2 := hnone .rspamd
        have h3 := hnone .attachments
        have h4 := hnone .links
        simp only [WeightsOf.part] at h1 h2 h3 h4
        simp only [WeightsOf.total]
        linarith
      linarith
    have hpos : 0 < roundRat (mean c w) := lt_of_le_of_lt (hc p).1 (hno p hp)
    have hle : mean c w ≤ ((roundRat (mean c w) - 1 : ℤ) : ℚ) :=
      mean_le hw ht fun p hp => Int.le_sub_one_of_lt (hno p hp)
    have hround := roundRat_mono hmean hle
    rw [roundRat_intCast (by omega)] at hround
    omega

lemma weightedSum_scale (k : ℚ) (c : Components) (w : WeightsOf ℚ) :
    weightedSum (fun n => (n : ℚ)) c (w.scale k) = k * weightedSum (fun n => (n : ℚ)) c w := by
  simp only [weightedSum, WeightsOf.scale]
  ring

lemma mean_scale {k : ℚ} (hk : 0 < k) (c : Components) (w : WeightsOf ℚ) : mean c (w.scale k) = mean c w := by
  rw [mean, mean, weightedSum_scale, total_scale, mul_div_mul_left _ _ hk.ne']

lemma scale_nonNeg {k : ℚ} (hk : 0 < k) {w : WeightsOf ℚ} (hw : NonNeg w) : NonNeg (w.scale k) :=
  ⟨mul_nonneg hk.le hw.ai, mul_nonneg hk.le hw.rspamd, mul_nonneg hk.le hw.attachments, mul_nonneg hk.le hw.links⟩

/-- The laws of the aggregation. -/
theorem exactScore_laws (cwa : Components) (w : WeightsOf ℚ) (hc : InRange cwa) (hw : NonNeg w) (ht : 0 < w.total) :
    (0 ≤ exactScore cwa w ∧ exactScore cwa w ≤ 100) ∧
    (∃ p, 0 < (w.effective cwa.hasLinks cwa.hasAttachments).part p ∧ cwa.part p ≤ exactScore cwa w) ∧
    (∃ p, 0 < (w.effective cwa.hasLinks cwa.hasAttachments).part p ∧ exactScore cwa w ≤ cwa.part p) ∧
    (∀ cwa' : Components, InRange cwa' → cwa'.hasLinks = cwa.hasLinks → cwa'.hasAttachments = cwa.hasAttachments →
      (∀ p, cwa.part p ≤ cwa'.part p) → exactScore cwa w ≤ exactScore cwa' w) ∧
    (∀ k, 0 < k → exactScore cwa (w.scale k) = exactScore cwa w) ∧
    (∀ hasLinks hasAttachments, (w.effective hasLinks hasAttachments).total = w.total) := by
  set ew := w.effective cwa.hasLinks cwa.hasAttachments with hew
  have hewn : NonNeg ew := effective_nonNeg hw _ _
  have hewt : 0 < ew.total := by rwa [hew, total_effective hw]
  have hscore : ∀ c : Components, c.hasLinks = cwa.hasLinks → c.hasAttachments = cwa.hasAttachments → InRange c →
      exactScore c w = roundRat (mean c ew) := by
    intro c hl ha hr
    rw [exactScore, scoreWithAvailabilityOf, hl, ha]
    exact (score_of_mean hr hewn hewt).1
  have hself := hscore cwa rfl rfl hc
  obtain ⟨hmin, hmax⟩ := score_between hc hewn hewt
  rw [hself]
  refine ⟨?_, hmin, hmax, ?_, ?_, total_effective hw⟩
  · obtain ⟨p, -, hp⟩ := hmin
    obtain ⟨q, -, hq⟩ := hmax
    exact ⟨(hc p).1.trans hp, hq.trans (hc q).2⟩
  · intro c hr hl ha hle
    rw [hscore c hl ha hr]
    exact roundRat_mono (score_of_mean hc hewn hewt).2 (mean_mono hewn hewt fun p _ => hle p)
  · intro k hk
    rw [exactScore, scoreWithAvailabilityOf, effective_scale hk]
    rw [(score_of_mean hc (scale_nonNeg hk hewn) (by rw [total_scale]; positivity)).1, mean_scale hk]

namespace Sample

/-- Links are bad, attachments were not scanned. -/
def badLinks : Components := { ai := 40, links := 90, hasLinks := true }

/-- A tenant that weighs the scanners only. -/
def scannersOnly : WeightsOf ℚ := ⟨0, 0, 1, 3⟩

end Sample

open Sample in
theorem exactScore_laws_scannersOnly :
    InRange badLinks ∧ 0 < scannersOnly.total ∧ 0 ≤ exactScore badLinks scannersOnly ∧
      exactScore badLinks scannersOnly ≤ 100 := by
  have hc : InRange badLinks := by
    intro p
    cases p <;> decide
  have hw : NonNeg scannersOnly := by constructor <;> norm_num [scannersOnly]
  have ht : 0 < scannersOnly.total := by norm_num [scannersOnly, WeightsOf.total]
  exact ⟨hc, ht, (exactScore_laws badLinks scannersOnly hc hw ht).1⟩

end Sn360Es.Evaluate
