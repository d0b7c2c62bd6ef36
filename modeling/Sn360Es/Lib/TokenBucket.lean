import Mathlib.Algebra.Order.Field.Basic
import Mathlib.Data.List.Count
import Mathlib.Tactic.Linarith
import Mathlib.Tactic.Ring

/-!
# Token buckets

A bucket holds at most `burst` tokens and gains `rate` of them in a unit of time; a grant takes one. How many are
granted in any window of time is a matter of the level of the bucket alone.

* `level` — the tokens at a time, given those at an earlier one;
* `Paced` — what is granted since a time and the level at present are within what the bucket can give;
* `Paced.wait`, `Paced.grant` — time and grants keep it;
* `Paced.window` — the grants of any window are at most `burst + rate * T`.
-/

namespace Lib.TokenBucket

variable {𝕜 : Type*} [Field 𝕜] [LinearOrder 𝕜]

/-- The tokens at `now` of a bucket that held `tokens` at `last`. -/
def level (rate burst tokens last now : 𝕜) : 𝕜 := min burst (tokens + rate * (now - last))

section Level

variable {rate burst tokens last now now' : 𝕜}

lemma level_le_burst : level rate burst tokens last now ≤ burst := min_le_left _ _

lemma level_self (h : tokens ≤ burst) : level rate burst tokens now now = tokens := by
  simp [level, h]

variable [IsStrictOrderedRing 𝕜]

lemma level_mono {tokens' : 𝕜} (h : tokens ≤ tokens') :
    level rate burst tokens last now ≤ level rate burst tokens' last now :=
  min_le_min_left _ (add_le_add_left h _)

/-- In a time the level grows by no more than the rate gives. -/
lemma level_wait (hrate : 0 ≤ rate) (hnow : now ≤ now') :
    level rate burst tokens last now' ≤ level rate burst tokens last now + rate * (now' - now) := by
  have hgain : 0 ≤ rate * (now' - now) := mul_nonneg hrate (sub_nonneg.mpr hnow)
  unfold level
  rcases le_total burst (tokens + rate * (now - last)) with hfull | hfull
  · rw [min_eq_left hfull]
    exact (min_le_left _ _).trans (le_add_of_nonneg_right hgain)
  · rw [min_eq_right hfull]
    refine (min_le_right _ _).trans (le_of_eq ?_)
    ring

/-- The level at a time can be had from the level at a time between. -/
lemma level_level (hrate : 0 ≤ rate) (hnow : now ≤ now') :
    level rate burst (level rate burst tokens last now) now now' = level rate burst tokens last now' := by
  have hgain : 0 ≤ rate * (now' - now) := mul_nonneg hrate (sub_nonneg.mpr hnow)
  have hsum : tokens + rate * (now - last) + rate * (now' - now) = tokens + rate * (now' - last) := by ring
  unfold level
  rcases le_total burst (tokens + rate * (now - last)) with hfull | hfull
  · rw [min_eq_left hfull, min_eq_left (le_add_of_nonneg_right hgain), min_eq_left]
    rw [← hsum]
    exact hfull.trans (le_add_of_nonneg_right hgain)
  · rw [min_eq_right hfull, hsum]

end Level

variable [IsStrictOrderedRing 𝕜]

/-- The grants of a log since `a`, with the present level, are within what the bucket can give since then; and those of
every window are. -/
structure Paced (rate burst : 𝕜) (log : List 𝕜) (now lvl : 𝕜) : Prop where
  past : ∀ t ∈ log, t ≤ now
  nonneg : 0 ≤ lvl
  since : ∀ a ≤ now, (log.countP (a ≤ ·) : 𝕜) + lvl ≤ burst + rate * (now - a)
  window : ∀ a b, a ≤ b → (log.countP (fun t => a ≤ t ∧ t ≤ b) : 𝕜) ≤ burst + rate * (b - a)

section Paced

variable {rate burst now now' lvl lvl' : 𝕜} {log : List 𝕜}

lemma Paced.nil (hrate : 0 ≤ rate) (hlvl : 0 ≤ lvl) (hle : lvl ≤ burst) : Paced rate burst [] now lvl := by
  refine ⟨by simp, hlvl, fun a ha => ?_, fun a b hab => ?_⟩
  · have hgain : 0 ≤ rate * (now - a) := mul_nonneg hrate (sub_nonneg.mpr ha)
    simpa using hle.trans (le_add_of_nonneg_right hgain)
  · have hgain : 0 ≤ rate * (b - a) := mul_nonneg hrate (sub_nonneg.mpr hab)
    simpa using (hlvl.trans hle).trans (le_add_of_nonneg_right hgain)

/-- Time passes. -/
lemma Paced.wait (h : Paced rate burst log now lvl) (hrate : 0 ≤ rate) (hnow : now ≤ now') (hlvl : 0 ≤ lvl')
    (hle : lvl' ≤ burst) (hgrow : lvl' ≤ lvl + rate * (now' - now)) : Paced rate burst log now' lvl' := by
  refine ⟨fun t ht => (h.past t ht).trans hnow, hlvl, fun a ha => ?_, h.window⟩
  rcases le_or_gt a now with hold | hnew
  · calc (log.countP (a ≤ ·) : 𝕜) + lvl' ≤ log.countP (a ≤ ·) + lvl + rate * (now' - now) := by linarith
      _ ≤ burst + rate * (now - a) + rate * (now' - now) := by linarith [h.since a hold]
      _ = burst + rate * (now' - a) := by ring
  · -- nothing was granted since
    have hnone : log.countP (a ≤ ·) = 0 := by
      rw [List.countP_eq_zero]
      intro t ht
      simpa using (h.past t ht).trans_lt hnew
    have hgain : 0 ≤ rate * (now' - a) := mul_nonneg hrate (sub_nonneg.mpr ha)
    rw [hnone, Nat.cast_zero, zero_add]
    exact hle.trans (le_add_of_nonneg_right hgain)

/-- A token is granted. -/
lemma Paced.grant (h : Paced rate burst log now lvl) (hrate : 0 ≤ rate) (hlvl : 0 ≤ lvl') (htake : lvl' + 1 ≤ lvl) :
    Paced rate burst (log ++ [now]) now lvl' := by
  have hpast : ∀ t ∈ log ++ [now], t ≤ now := by
    intro t ht
    rcases List.mem_append.mp ht with ht | ht
    · exact h.past t ht
    · exact (List.mem_singleton.mp ht).le
  have hsince : ∀ a ≤ now, ((log ++ [now]).countP (a ≤ ·) : 𝕜) + lvl' ≤ burst + rate * (now - a) := by
    intro a ha
    have hcount : (log ++ [now]).countP (a ≤ ·) = log.countP (a ≤ ·) + 1 := by simp [List.countP_append, ha]
    rw [hcount]
    push_cast
    linarith [h.since a ha]
  refine ⟨hpast, hlvl, hsince, fun a b hab => ?_⟩
  by_cases hmem : a ≤ now ∧ now ≤ b
  · -- the window has the present, and all that was granted since its start
    have hcount : (log ++ [now]).countP (fun t => a ≤ t ∧ t ≤ b) = (log ++ [now]).countP (a ≤ ·) := by
      refine List.countP_congr fun t ht => ?_
      simp [(hpast t ht).trans hmem.2]
    have hgain : 0 ≤ rate * (b - now) := mul_nonneg hrate (sub_nonneg.mpr hmem.2)
    have hsum : rate * (now - a) + rate * (b - now) = rate * (b - a) := by ring
    rw [hcount]
    linarith [hsince a hmem.1]
  · have hcount : (log ++ [now]).countP (fun t => a ≤ t ∧ t ≤ b) = log.countP (fun t => a ≤ t ∧ t ≤ b) := by
      simp only [List.countP_append, List.countP_singleton, hmem, decide_false, Bool.false_eq_true, if_false, add_zero]
    rw [hcount]
    exact h.window a b hab

/-- The level may turn out lower. -/
lemma Paced.lower (h : Paced rate burst log now lvl) (hlvl : 0 ≤ lvl') (hle : lvl' ≤ lvl) :
    Paced rate burst log now lvl' := by
  refine ⟨h.past, hlvl, fun a ha => ?_, h.window⟩
  linarith [h.since a ha]

end Paced

end Lib.TokenBucket
