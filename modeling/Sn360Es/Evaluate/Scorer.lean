import Sn360Es.Dto

/-!
# The scorer (`internal/service/evaluate/scorer.go`)

The weighted aggregate of the component scores of a partial result, in binary floating point.
-/

namespace Sn360Es.Evaluate

open Lib (Float64)

structure Weights where
  ai : Float64
  rspamd : Float64
  attachments : Float64
  links : Float64
  deriving DecidableEq, Repr

def defaultWeights : Weights where
  ai := .ofRat (60 / 100)
  rspamd := .ofRat (10 / 100)
  attachments := .ofRat (15 / 100)
  links := .ofRat (15 / 100)

def Weights.total (w : Weights) : Float64 := w.ai + w.rspamd + w.attachments + w.links

structure Components where
  ai : ℤ := 0
  rspamd : ℤ := 0
  attachments : ℤ := 0
  links : ℤ := 0
  hasLinks : Bool := false
  hasAttachments : Bool := false
  deriving DecidableEq, Repr

/-- `EffectiveWeights`: the weight of an absent scanner goes to AI and Rspamd in proportion. -/
def effectiveWeights (w : Weights) (hasLinks hasAttachments : Bool) : Weights :=
  let fromLinks : Float64 := if hasLinks then 0 else 0 + w.links
  let ew := if hasLinks then w else { w with links := 0 }
  let redistribute := if hasAttachments then fromLinks else fromLinks + ew.attachments
  let ew := if hasAttachments then ew else { ew with attachments := 0 }
  if 0 < redistribute then
    let base := ew.ai + ew.rspamd
    if 0 < base then
      { ew with ai := ew.ai + redistribute * (ew.ai / base)
                rspamd := ew.rspamd + redistribute * (ew.rspamd / base) }
    else { ew with ai := ew.ai + redistribute }
  else ew

def clampScore (v : ℤ) : ℤ := if v < 0 then 0 else if 100 < v then 100 else v

/-- `normaliseRspamd`: the reject threshold is 50, twice the threshold is 100. -/
def normaliseRspamd (score threshold : Float64) : ℤ :=
  let threshold := if threshold ≤ 0 then .ofInt 15 else threshold
  clampScore ((score / (.ofInt 2 * threshold)) * .ofInt 100).round

/-- `FromResultEx`. The AI component is the larger of the Tier 1 and Tier 2 scores, and at least `0`. -/
def fromResultEx (r : EvaluateResult) : Components :=
  let ai := match r.tier2 with
    | some t2 => if 0 < t2.score then t2.score else 0
    | none => 0
  let ai := match r.tier1 with
    | some t1 => if ai < t1.score then t1.score else ai
    | none => ai
  { ai
    rspamd := match r.rspamd with
      | some rs => normaliseRspamd rs.score rs.threshold
      | none => 0
    links := r.linkScore.getD 0
    hasLinks := r.linkScore.isSome
    attachments := r.attachmentScore.getD 0
    hasAttachments := r.attachmentScore.isSome }

def score (comp : Components) (w : Weights) : ℤ :=
  if w.total ≤ 0 then clampScore comp.ai
  else
    let weighted := .ofInt comp.ai * w.ai + .ofInt comp.rspamd * w.rspamd +
      .ofInt comp.attachments * w.attachments + .ofInt comp.links * w.links
    clampScore (weighted / w.total).round

def scoreWithAvailability (cwa : Components) (w : Weights) : ℤ :=
  score cwa (effectiveWeights w cwa.hasLinks cwa.hasAttachments)

/-- With nothing to weigh the score is zero, whatever the weights. -/
lemma score_zero (w : Weights) : score {} w = 0 := by
  unfold score
  split_ifs
  · rfl
  · simp [clampScore]

/-- A Tier 1 score of 100 with nothing else to weigh aggregates to 86, not to 100. -/
example : scoreWithAvailability { ai := 100 } defaultWeights = 86 := by decide +kernel

end Sn360Es.Evaluate
