import Sn360Es.Dto
import Sn360Es.Lib.GoStrings

/-!
# The account-takeover heuristic (`internal/service/tier0/ato_heuristic.go`)

Five checks, each with a score and the reasons it gives; the sum is compared with a threshold that is lower
for high-privilege senders.
-/

namespace Sn360Es.Tier0

open Lib Lib.GoStrings

structure ATOHeuristicConfig where
  enabled : Bool
  minTimingHistorySize : ℤ
  linkHeavyThreshold : ℤ
  scoreThreshold : Float64
  deriving DecidableEq, Repr

def defaultATOHeuristicConfig : ATOHeuristicConfig := ⟨true, 5, 3, .ofRat (1 / 2)⟩

structure ATOHeuristicResult where
  flagged : Bool := false
  score : Float64 := 0
  reasons : List String := []
  deriving DecidableEq, Repr

/-- The heuristic. `toLower` and `equalFold` stand for the functions of the `strings` package. -/
structure ATOHeuristic where
  cfg : ATOHeuristicConfig
  toLower : String → String
  equalFold : String → String → Bool

/-- `hourDistance`: the circular distance of two hours. -/
def hourDistance (a b : ℤ) : ℤ :=
  let a := (a.tmod 24 + 24).tmod 24
  let b := (b.tmod 24 + 24).tmod 24
  let d := if a - b < 0 then -(a - b) else a - b
  if 12 < d then 24 - d else d

def countLinks (body : String) : ℕ :=
  countFrom "http://".toList 0 body.toList + countFrom "https://".toList 0 body.toList

namespace ATOHeuristic

variable (h : ATOHeuristic)

def checkTimingAnomaly (sig : RiskSignals) : Float64 × List String :=
  match sig.typicalSendHour with
  | none => (0, [])
  | some typical =>
    if typical < 0 ∨ 24 ≤ typical then (0, [])
    else if sig.communicationFrequency = 0 then (0, [])
    else if sig.communicationFrequency < h.cfg.minTimingHistorySize then (0, [])
    else if 8 ≤ hourDistance sig.currentHourUTC typical then (.ofRat (35 / 100), ["timing_anomaly"])
    else if 5 ≤ hourDistance sig.currentHourUTC typical then (.ofRat (15 / 100), ["timing_unusual"])
    else (0, [])

def checkExternalRecipients (req : EvaluateRequest) (sig : RiskSignals) : Float64 × List String :=
  if req.cc = [] ∨ sig.senderDomain = "" then (0, [])
  else
    let externalCount := req.cc.countP fun cc =>
      match afterFirst '@' cc with
      | some domain => !h.equalFold domain sig.senderDomain
      | none => false
    if 0 < externalCount then
      (if 3 ≤ externalCount then .ofRat (35 / 100) else .ofRat (20 / 100),
        ["internal_sender_external_cc"])
    else (0, [])

def checkLinkHeavy (req : EvaluateRequest) (sig : RiskSignals) : Float64 × List String :=
  if sig.hasSuspiciousURL ∧ h.cfg.linkHeavyThreshold ≤ countLinks req.body then
    (.ofRat (25 / 100), ["link_heavy_internal"])
  else (0, [])

def checkAuthFailure (sig : RiskSignals) : Float64 × List String :=
  if sig.anyAuthFailed then (.ofRat (60 / 100), ["internal_auth_failed"]) else (0, [])

def isHighPrivilegeSender (sig : RiskSignals) : Bool :=
  h.toLower sig.senderSensitivity = "critical" || h.toLower sig.senderSensitivity = "max"

def checkHighPrivilegeOutbound (sig : RiskSignals) : Float64 × List String :=
  if h.isHighPrivilegeSender sig then
    let freemail := sig.recipientIsFreeDomain || sig.recipientIsDisposableDomain
    let (score, reasons) : Float64 × List String :=
      if freemail then (0 + .ofRat (30 / 100), ["high_privilege_to_freemail"]) else (0, [])
    let recipientIsExternal := freemail ||
      (!sig.isFromVendor && sig.recipientDomain ≠ "" &&
        !h.equalFold sig.recipientDomain sig.senderDomain)
    if sig.hasAttachment && recipientIsExternal then
      (score + .ofRat (20 / 100), reasons ++ ["high_privilege_external_attachment"])
    else (score, reasons)
  else (0, [])

/-- `ATOHeuristic.Check`. -/
def check (req : EvaluateRequest) (sig : RiskSignals) : ATOHeuristicResult :=
  if h.cfg.enabled then
    let checks := [h.checkTimingAnomaly sig, h.checkExternalRecipients req sig,
      h.checkLinkHeavy req sig, checkAuthFailure sig, h.checkHighPrivilegeOutbound sig]
    let score : Float64 := checks.foldl (fun s c => s + c.1) 0
    let threshold : Float64 :=
      if h.isHighPrivilegeSender sig ∧ .ofRat (40 / 100) < h.cfg.scoreThreshold then
        .ofRat (40 / 100)
      else h.cfg.scoreThreshold
    let score : Float64 := if .ofInt 1 < score then .ofInt 1 else score
    { flagged := threshold ≤ score, score, reasons := checks.flatMap Prod.snd }
  else {}

end ATOHeuristic

end Sn360Es.Tier0
