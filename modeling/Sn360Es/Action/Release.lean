import Sn360Es.Action.Quarantine
import Sn360Es.Lib.Every

/-!
# The release service (`internal/service/action/quarantine_release.go`)

`Release` looks the reference up, has the message evaluated again, and refuses while the verdict blocks. When it
does not, the call claims the reference, which takes it out of the store, and asks the provider to restore the
message; when that fails it writes the reference back.

The re-evaluator, the provider and the publisher are operations. The zero value of the outcome's reason is
`none`, and so is the zero record.
-/

namespace Sn360Es.Action

open Lib

/-- The sentinel errors of the package. -/
inductive Sentinel where
  | invalidInput
  | notFound
  | providerUnavailable
  deriving DecidableEq, Repr

def Sentinel.text : Sentinel → String
  | invalidInput => "action: invalid input"
  | notFound => "action: not found"
  | providerUnavailable => "action: provider unavailable"

/-- The errors of `Release`. -/
inductive ReleaseError where
  | invalidInput
  | lookup (err : String)
  | reevaluate (err : String)
  | claim (err : String)
  | noProvider (kind : LabelProviderKind)
  | restore (err : String)
  deriving DecidableEq, Repr

namespace ReleaseError

/-- The sentinel that `errors.Is` finds. -/
def sentinel : ReleaseError → Sentinel
  | invalidInput => .invalidInput
  | noProvider _ => .notFound
  | _ => .providerUnavailable

def text (e : ReleaseError) : String :=
  match e with
  | invalidInput => e.sentinel.text ++ ": tenant and pseudonymized_message are required"
  | lookup err => "release: lookup reference: " ++ e.sentinel.text ++ ": " ++ err
  | reevaluate err => "release: re-evaluate: " ++ e.sentinel.text ++ ": " ++ err
  | claim err => "release: claim reference: " ++ e.sentinel.text ++ ": " ++ err
  | noProvider kind => "release: no provider registered for " ++ quoted kind.name ++ ": " ++ e.sentinel.text
  | restore err => "release: restore: " ++ e.sentinel.text ++ ": " ++ err

end ReleaseError

structure ReleaseOutcome where
  reason : Option ReleaseReason := none
  verdict : EvaluateResult := {}
  original : Option Tier := none
  restored : Bool := false
  reportPath : String := ""
  explanations : List String := []
  record : Option QuarantineRecord := none
  occurredAt : ℤ := 0
  deriving DecidableEq, Repr

structure ReleaseRequest where
  tenantID : String
  pseudonymizedMessage : String
  requestedBy : String := ""
  restoredBody : String := ""
  correlationID : String := ""
  deriving DecidableEq, Repr

structure ReleaseService where
  quarantine : QuarantineService
  /-- Whether there is a publisher. -/
  publishes : Bool := false
  subject : String := "es.action.quarantine.release"
  minReleaseTier : Tier := .blocked

/-- `NewReleaseService`, with the re-evaluator and the publisher as operations: an empty subject and an invalid
tier are replaced by their defaults. -/
def newReleaseService (quarantine : QuarantineService) (publishes : Bool) (subject : String)
    (minReleaseTier : Option Tier) : ReleaseService :=
  { quarantine, publishes
    subject := if subject = "" then "es.action.quarantine.release" else subject
    minReleaseTier := minReleaseTier.getD .blocked }

/-- `isStillBlocked`. -/
def isStillBlocked (tier : Option Tier) (minTier : Tier) : Bool :=
  match tier with
  | none => true
  | some t => minTier.severity ≤ t.severity

/-- `defaultRestoredBody`. -/
def defaultRestoredBody (v : EvaluateResult) : String :=
  match v.primary with
  | none => "SN360 released this message after re-evaluation. The original content has been restored."
  | some _ => "SN360 released this message after re-evaluation (now tier " ++ tierText v.tier ++
      "). The original content has been restored."

/-- `collectReleaseReasons`: at most four categories, and at least one text. The loop tests the length after it
has appended, so a primary leaves room for three. -/
def collectReleaseReasons (v : EvaluateResult) : List String :=
  let out := v.primary.toList.map Category.code
  let out := out ++ (v.secondary.map Category.code).take (4 - out.length)
  if out = [] then ["verdict still blocking"] else out

namespace ReleaseService

variable (s : ReleaseService)

/-- `publishOutcome`. -/
def publishOutcome (req : ReleaseRequest) (o : ReleaseOutcome) : ActionM PUnit := do
  if s.publishes then
    let _ ← ActionM.publish s.subject
      (.release req.tenantID req.pseudonymizedMessage req.requestedBy req.correlationID o.reason o.restored
        o.original o.verdict.tier o.explanations o.occurredAt)
      { eventType := "action.quarantine.release", tenantID := req.tenantID,
        messageID := req.pseudonymizedMessage, correlationID := req.correlationID }

/-- The outcome is published and returned. -/
def finish (req : ReleaseRequest) (o : ReleaseOutcome) : ActionM (ReleaseOutcome × Option ReleaseError) := do
  s.publishOutcome req o
  return (o, none)

/-- The record that is written back after a failed restore: the provider may have moved the message on. -/
def recordForRetry (record : QuarantineRecord) (newMessageID : String) : QuarantineRecord :=
  if newMessageID = "" then record else { record with messageID := newMessageID }

/-- `Release` once it has claimed the record. -/
def restoreClaimed (req : ReleaseRequest) (o : ReleaseOutcome) (record : QuarantineRecord) :
    ActionM (ReleaseOutcome × Option ReleaseError) := do
  let o := { o with record := some record, original := record.originalTier }
  if ¬ s.quarantine.providers record.provider then
    let _ ← s.quarantine.restoreReference req.tenantID req.pseudonymizedMessage record
    return (o, some (.noProvider record.provider))
  else
    let body := if req.restoredBody = "" then defaultRestoredBody o.verdict else req.restoredBody
    match ← ActionM.restoreFromQuarantine record.provider record.email record.messageID record.labelID
        body with
    | (newMessageID, some err) =>
      let _ ← s.quarantine.restoreReference req.tenantID req.pseudonymizedMessage
        (recordForRetry record newMessageID)
      return (o, some (.restore err))
    | (_, none) => s.finish req { o with reason := some .allowed, restored := true }

/-- `Release` once the verdict has cleared. -/
def claimAndRestore (req : ReleaseRequest) (o : ReleaseOutcome) :
    ActionM (ReleaseOutcome × Option ReleaseError) := do
  match ← s.quarantine.claimReference req.tenantID req.pseudonymizedMessage with
  | .error err => return (o, some (.claim err))
  | .ok none => s.finish req { o with reason := some .alreadyDone }
  | .ok (some record) => s.restoreClaimed req o record

/-- `Release` once it has found the record. -/
def reevaluateFound (req : ReleaseRequest) (record : QuarantineRecord) :
    ActionM (ReleaseOutcome × Option ReleaseError) := do
  match ← ActionM.reevaluate req.tenantID req.pseudonymizedMessage with
  | .error err => return ({}, some (.reevaluate err))
  | .ok verdict =>
    let occurredAt ← ActionM.now
    let o : ReleaseOutcome :=
      { verdict, original := record.originalTier, record := some record, occurredAt }
    if isStillBlocked verdict.tier s.minReleaseTier then
      s.finish req { o with
        reason := some .refused
        explanations := collectReleaseReasons verdict
        reportPath := "/v1/banner/action" }
    else s.claimAndRestore req o

/-- `Release`. -/
def release (req : ReleaseRequest) : ActionM (ReleaseOutcome × Option ReleaseError) := do
  if req.tenantID = "" ∨ req.pseudonymizedMessage = "" then return ({}, some .invalidInput)
  else
    match ← s.quarantine.lookupReference req.tenantID req.pseudonymizedMessage with
    | .error err => return ({}, some (.lookup err))
    | .ok none =>
      let occurredAt ← ActionM.now
      s.finish req { reason := some .notFound, occurredAt }
    | .ok (some record) => s.reevaluateFound req record

end ReleaseService

/-! ### What the functions perform -/

section Every

variable {φ : Op → Prop} {q : QuarantineService}

lemma every_decodeReference (hdecrypt : ∀ t b, φ (.decrypt t b)) (tenant encHex : String) :
    (q.decodeReference tenant encHex).Every φ := by
  unfold QuarantineService.decodeReference
  split
  · exact Prog.every_pure _
  · refine Prog.Every.bind (Prog.every_perform (hdecrypt _ _)) fun a => ?_
    split
    · exact Prog.every_pure _
    · split <;> exact Prog.every_pure _

lemma every_lookupReference (hget : ∀ key, φ (.get key)) (hdecrypt : ∀ t b, φ (.decrypt t b)) (tenant msg : String) :
    (q.lookupReference tenant msg).Every φ := by
  refine Prog.Every.bind (Prog.every_perform (hget _)) fun a => ?_
  split
  · exact Prog.every_pure _
  · exact Prog.every_pure _
  · refine Prog.Every.bind (every_decodeReference hdecrypt _ _) fun a => ?_
    split <;> exact Prog.every_pure _

lemma every_publishOutcome (hpublish : ∀ subject event opts, φ (.publish subject event opts)) (s : ReleaseService)
    (req : ReleaseRequest) (o : ReleaseOutcome) : (s.publishOutcome req o).Every φ := by
  unfold ReleaseService.publishOutcome
  split
  · exact Prog.Every.bind (Prog.every_perform (hpublish _ _ _)) fun _ => Prog.every_pure _
  · exact Prog.every_pure _

lemma every_finish (hpublish : ∀ subject event opts, φ (.publish subject event opts)) (s : ReleaseService)
    (req : ReleaseRequest) (o : ReleaseOutcome) : (s.finish req o).Every φ :=
  Prog.Every.bind (every_publishOutcome hpublish s req o) fun _ => Prog.every_pure _

end Every

end Sn360Es.Action
