import Sn360Es.Dto

/-!
# Tier 1 thresholds (`internal/service/tier1/config.go`)
-/

namespace Sn360Es.Tier1

structure Thresholds where
  passBelow : ℤ
  flagAbove : ℤ
  suppressPartner : ℤ := 0
  deriving DecidableEq, Repr

def defaultThresholds : Thresholds := ⟨20, 60, -10⟩

inductive Verdict where
  | pass
  | escalate
  | flag
  deriving DecidableEq, Repr

namespace Thresholds

/-- `Thresholds.Decision`. A score on either bound escalates. -/
def decision (t : Thresholds) (score : ℤ) : Verdict :=
  if score < t.passBelow then .pass else if t.flagAbove < score then .flag else .escalate

/-- The shift that `AdjustForRelationship` makes before it repairs the bounds. -/
def shift (t : Thresholds) : RelationshipCategory → Thresholds
  | .partner | .customer =>
    { t with passBelow := t.passBelow + t.suppressPartner
             flagAbove := t.flagAbove + t.suppressPartner }
  | .firstTimeExternal => { t with passBelow := 0 }
  | _ => t

def adjustForRelationship (t : Thresholds) (cat : RelationshipCategory) : Thresholds :=
  let out := t.shift cat
  let out := { out with passBelow := if out.passBelow < 0 then 0 else out.passBelow }
  { out with
    flagAbove := if out.flagAbove < out.passBelow + 1 then out.passBelow + 1 else out.flagAbove }

end Thresholds

/-- `tier1.PredictRequest`. -/
structure PredictRequest where
  subject : String
  body : String
  senderDomain : String
  messageID : String
  deriving DecidableEq, Repr

/-- `tier1.PredictResponse`. -/
structure PredictResponse where
  messageID : String := ""
  score : ℤ
  confidence : Lib.Float64 := 0
  language : String := ""
  modelTag : String := ""
  reasonCodes : List String := []
  deriving DecidableEq, Repr

end Sn360Es.Tier1
