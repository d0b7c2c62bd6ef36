import Sn360Es.Action.Release
import Sn360Es.Lib.Every

/-!
# User reports (`internal/service/action/report_workflow.go`)

`HandleReport` counts the reporters of a message, has it evaluated again, quarantines its copies when it is confirmed,
and publishes the outcome. It is a program over the operations of the quarantine service and those below.

The copies are quarantined through a `MultiQuarantiner`, which the repository leaves to the deployment; here it is the
quarantine service, behind an adapter that says which request a recipient becomes.
-/

namespace Sn360Es.Action

open Lib

/-- `ReportVerdict`, less its reason and score. -/
structure ReportVerdict where
  confirmed : Bool := false
  tier : String := ""
  deriving DecidableEq, Repr

/-- `ReportEvent`. -/
structure ReportEvent where
  tenantID : String
  pseudonymizedMessage : String
  reporterHash : String
  reporters : ℕ
  confirmed : Bool
  tier : String
  occurredAt : ℤ
  correlationID : String
  deriving DecidableEq, Repr

inductive ReportOp where
  | add (tenantID pseudoMessageID reporterHash : String)
  | reEvaluateForced (tenantID pseudoMessageID : String)
  | recipients (tenantID pseudoMessageID : String)
  | publish (subject : String) (event : ReportEvent) (opts : PublishOptions)
  deriving DecidableEq, Repr

abbrev ReportOp.Ans : ReportOp → Type
  | add _ _ _ => Except String ℕ
  | reEvaluateForced _ _ => Except String ReportVerdict
  | recipients _ _ => Except String (List String)
  | publish _ _ _ => Option String

abbrev StreamOp := Op ⊕ ReportOp

abbrev StreamAns : StreamOp → Type := Sum.elim Op.Ans ReportOp.Ans

abbrev StreamM := Prog StreamOp StreamAns

namespace StreamM

def now : StreamM ℤ := ActionM.now.inl

def add (tenantID pseudoMessageID reporterHash : String) : StreamM (Except String ℕ) :=
  Prog.perform (Sum.inr (ReportOp.add tenantID pseudoMessageID reporterHash) : StreamOp)

def reEvaluateForced (tenantID pseudoMessageID : String) : StreamM (Except String ReportVerdict) :=
  Prog.perform (Sum.inr (ReportOp.reEvaluateForced tenantID pseudoMessageID) : StreamOp)

def recipients (tenantID pseudoMessageID : String) : StreamM (Except String (List String)) :=
  Prog.perform (Sum.inr (ReportOp.recipients tenantID pseudoMessageID) : StreamOp)

def publish (subject : String) (event : ReportEvent) (opts : PublishOptions) : StreamM (Option String) :=
  Prog.perform (Sum.inr (ReportOp.publish subject event opts) : StreamOp)

end StreamM

/-- `ReportWorkflow`: whether there is a re-evaluator and a lookup of recipients, the quarantiner, and the number of
reporters that confirms a message. -/
structure ReportWorkflow where
  reEval : Bool := false
  recipients : Bool := false
  quar : Option (QuarantineService × (String → String → String → String → QuarantineRequest)) := none
  autoCount : ℕ := 3

namespace ReportWorkflow

variable (w : ReportWorkflow)

/-- The loop of `fanoutQuarantine`: the error of one recipient does not end it. -/
def quarantineAll (q : QuarantineService) (request : String → QuarantineRequest) : List String → StreamM PUnit
  | [] => return
  | r :: rs => do
    let _ ← (q.quarantine (request r)).inl
    quarantineAll q request rs

/-- `fanoutQuarantine`: the error. -/
def fanoutQuarantine (tenantID pseudoMessageID : String) : StreamM (Option String) := do
  match w.quar, w.recipients with
  | some (q, request), true =>
    match ← StreamM.recipients tenantID pseudoMessageID with
    | .error err => return some ("recipients lookup: " ++ err)
    | .ok rs =>
      quarantineAll q (fun r => request tenantID pseudoMessageID r "") rs
      return none
  | _, _ => return none

/-- The verdict of the forced re-evaluation, the zero value if there is none. -/
def reEvaluate (tenantID pseudoMessageID : String) : StreamM ReportVerdict := do
  if w.reEval then
    match ← StreamM.reEvaluateForced tenantID pseudoMessageID with
    | .error _ => return {}
    | .ok v => return v
  else return {}

def reportSubject (confirmed : Bool) : String :=
  if confirmed then "es.action.feedback.report_confirmed" else "es.action.feedback.report_dismissed"

/-- The event at the end of `HandleReport`. -/
def publishReport (event : ReportEvent) : StreamM (Except String ReportEvent) := do
  let subject := reportSubject event.confirmed
  match ← StreamM.publish subject event
      { eventType := subject, tenantID := event.tenantID, messageID := event.pseudonymizedMessage
        correlationID := event.correlationID } with
  | some err => return .error ("report: publish: " ++ err)
  | none => return .ok event

/-- `HandleReport`. -/
def handleReport (tenantID pseudoMessageID reporterHash correlationID : String) :
    StreamM (Except String ReportEvent) := do
  if tenantID = "" ∨ pseudoMessageID = "" ∨ reporterHash = "" then
    return .error "report: tenant_id, pseudo_message_id and reporter_hash are required"
  else
    match ← StreamM.add tenantID pseudoMessageID reporterHash with
    | .error err => return .error ("report: store add: " ++ err)
    | .ok count =>
      let verdict ← w.reEvaluate tenantID pseudoMessageID
      let confirmed := verdict.confirmed || decide (w.autoCount ≤ count)
      if confirmed then
        let _ ← w.fanoutQuarantine tenantID pseudoMessageID
      let occurredAt ← StreamM.now
      publishReport { tenantID, pseudonymizedMessage := pseudoMessageID, reporterHash, reporters := count, confirmed
                      tier := verdict.tier, occurredAt, correlationID }

end ReportWorkflow

end Sn360Es.Action
