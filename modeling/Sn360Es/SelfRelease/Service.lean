import Sn360Es.Action.Release
import Sn360Es.Lib.GoTime

/-!
# Self-service release (`internal/service/selfrelease/service.go`)

A recipient asks for a quarantined message. `Release` looks the record up, refuses what the second tier found malicious,
holds the recipient to the tenant's hourly cap and hands over to the release service; every way out but an error writes
an audit row. The cap is checked against the audit rows of the recipient (`internal/repository`).

The dependencies of the service are interfaces in the source: here they are programs over any operations, so that the
same service runs on single operations or on the programs of the release service. Instants and durations are in
nanoseconds.
-/

namespace Sn360Es.SelfRelease

open Lib Sn360Es.Action

/-! ### Audit rows and policies -/

/-- `QuarantineReleaseOutcome`. -/
inductive QuarantineReleaseOutcome where
  | released
  | rateLimited
  | tier2Blocked
  | releaseRefused
  | tokenExpired
  | invalidToken
  | alreadyReleased
  | notFound
  deriving DecidableEq, Repr

def QuarantineReleaseOutcome.name : QuarantineReleaseOutcome → String
  | released => "released"
  | rateLimited => "rate_limited"
  | tier2Blocked => "tier2_blocked"
  | releaseRefused => "release_refused"
  | tokenExpired => "token_expired"
  | invalidToken => "invalid_token"
  | alreadyReleased => "already_released"
  | notFound => "not_found"

/-- The outcomes of a token that was not verified. -/
def QuarantineReleaseOutcome.authFailure (o : QuarantineReleaseOutcome) : Bool :=
  o = .tokenExpired || o = .invalidToken

/-- `QuarantineReleaseAuditEntry`. -/
structure AuditEntry where
  id : String := ""
  tenantID : String
  pseudoMessageID : String
  recipientUserHash : Bytes
  outcome : QuarantineReleaseOutcome
  reason : String
  correlationID : String
  requestedAt : ℤ
  createdAt : ℤ := 0
  deriving DecidableEq, Repr

/-- The row that `Record` writes: an id and the two times are filled in where they are zero. -/
def AuditEntry.defaulted (entry : AuditEntry) (uuid : String) (now : ℤ) : AuditEntry :=
  { entry with
    id := if entry.id = "" then uuid else entry.id
    requestedAt := if entry.requestedAt = 0 then now else entry.requestedAt
    createdAt := if entry.createdAt = 0 then now else entry.createdAt }

/-- The checks of `Record`; an outcome of the type is valid. -/
def AuditEntry.validate (entry : AuditEntry) : Option String :=
  if entry.tenantID = "" then some "quarantine_release_audit: tenant_id is required"
  else if entry.pseudoMessageID = "" then some "quarantine_release_audit: pseudo_message_id is required"
  else if entry.recipientUserHash = [] then some "quarantine_release_audit: recipient_user_hash is required"
  else none

/-- `QuarantineReleaseAuditRepository.Record`. -/
def recordEntry (entries : List AuditEntry) (entry : AuditEntry) (uuid : String) (now : ℤ) :
    Except String AuditEntry × List AuditEntry :=
  match entry.validate with
  | some err => (.error err, entries)
  | none => (.ok (entry.defaulted uuid now), entries ++ [entry.defaulted uuid now])

/-- The rows that count against the cap. -/
def AuditEntry.counts (tenantID : String) (recipientUserHash : Bytes) (since : ℤ) (e : AuditEntry) : Bool :=
  e.tenantID = tenantID && e.recipientUserHash = recipientUserHash && since ≤ e.requestedAt && !e.outcome.authFailure

/-- `CountRecentByRecipient`. -/
def countRecentByRecipient (entries : List AuditEntry) (tenantID : String) (recipientUserHash : Bytes) (since : ℤ) :
    Except String ℕ :=
  if tenantID = "" then .error "quarantine_release_audit: tenant_id is required"
  else if recipientUserHash = [] then .error "quarantine_release_audit: recipient_user_hash is required"
  else .ok (entries.countP (AuditEntry.counts tenantID recipientUserHash since))

def defaultQuarantineSelfReleasePerHour : ℕ := 5

/-- `TenantReleasePolicy`; `Upsert` and the table refuse a negative cap. -/
structure TenantReleasePolicy where
  tenantID : String
  quarantineSelfReleasePerHour : ℕ := defaultQuarantineSelfReleasePerHour
  deriving DecidableEq, Repr

/-- `TenantReleasePolicyRepository.Get`. -/
def getPolicy (policies : String → Option TenantReleasePolicy) (tenantID : String) :
    Except String TenantReleasePolicy :=
  if tenantID = "" then .error "tenant_release_policy: tenant_id is required"
  else .ok ((policies tenantID).getD { tenantID })

/-! ### The service -/

structure Request where
  tenantID : String
  pseudoMessageID : String
  recipientUserHash : Bytes
  correlationID : String := ""
  deriving DecidableEq, Repr

structure Result where
  outcome : QuarantineReleaseOutcome
  auditEntry : AuditEntry
  restored : Bool
  reason : String
  deriving DecidableEq, Repr

/-- `Service`, with its dependencies as programs. -/
structure Service (Op : Type) (Ans : Op → Type) where
  lookupReference : (tenant pseudoMessage : String) → Prog Op Ans (Except String (Option QuarantineRecord))
  runner : ReleaseRequest → Prog Op Ans (ReleaseOutcome × Option ReleaseError)
  record : AuditEntry → Prog Op Ans (Except String AuditEntry)
  countRecent : (tenantID : String) → (recipientUserHash : Bytes) → (since : ℤ) → Prog Op Ans (Except String ℕ)
  policy : (tenantID : String) → Prog Op Ans (Except String TenantReleasePolicy)
  now : Prog Op Ans ℤ
  /-- `NewService` sets an hour where none is given. -/
  rateWindow : ℤ := 3600 * GoTime.second

/-- `%v` of a slice of strings. -/
def sliceText (ss : List String) : String := "[" ++ " ".intercalate ss ++ "]"

namespace Service

variable {Op : Type} {Ans : Op → Type} (s : Service Op Ans)

/-- `auditedWithRestored`: a failed write is logged and the result is the same but for the entry. -/
def auditedWithRestored (req : Request) (requestedAt : ℤ) (outcome : QuarantineReleaseOutcome) (reason : String)
    (restored : Bool) : Prog Op Ans Result := do
  let entry : AuditEntry :=
    { tenantID := req.tenantID, pseudoMessageID := req.pseudoMessageID
      recipientUserHash := req.recipientUserHash
      outcome, reason, correlationID := req.correlationID, requestedAt }
  match ← s.record entry with
  | .error _ => return { outcome, auditEntry := entry, restored, reason }
  | .ok written => return { outcome, auditEntry := written, restored, reason }

/-- `audited`, as all its callers have it: nothing was restored. -/
def audited (req : Request) (requestedAt : ℤ) (outcome : QuarantineReleaseOutcome) (reason : String) :
    Prog Op Ans Result :=
  s.auditedWithRestored req requestedAt outcome reason false

/-- `fromRunnerOutcome`. -/
def fromRunnerOutcome (req : Request) (requestedAt : ℤ) (outcome : ReleaseOutcome) : Prog Op Ans Result :=
  match outcome.reason with
  | some .allowed =>
    s.auditedWithRestored req requestedAt .released
      ("re-evaluation cleared verdict to tier " ++ tierText outcome.verdict.tier) outcome.restored
  | some .alreadyDone =>
    s.audited req requestedAt .alreadyReleased "message was already released by a concurrent flow"
  | some .notFound =>
    s.audited req requestedAt .notFound "quarantine record disappeared between lookup and claim"
  | some .refused =>
    s.audited req requestedAt .releaseRefused
      (if outcome.explanations = [] then "re-evaluation refused release"
        else "re-evaluation refused release: " ++ sliceText outcome.explanations)
  | none => s.audited req requestedAt .notFound ("unknown runner reason " ++ quoted "")

/-- `Release` once the cap has let the call pass. -/
def runRelease (req : Request) (requestedAt : ℤ) : Prog Op Ans (Except String Result) := do
  match ← s.runner
      { tenantID := req.tenantID, pseudonymizedMessage := req.pseudoMessageID
        requestedBy := Hex.encode req.recipientUserHash, correlationID := req.correlationID } with
  | (_, some err) => return .error ("selfrelease: runner: " ++ err.text)
  | (outcome, none) => return .ok (← s.fromRunnerOutcome req requestedAt outcome)

/-- `Release` at the cap. -/
def rateLimited (req : Request) (requestedAt : ℤ) : Prog Op Ans (Except String Result) := do
  match ← s.policy req.tenantID with
  | .error err => return .error ("selfrelease: load policy: " ++ err)
  | .ok policy =>
    if policy.quarantineSelfReleasePerHour = 0 then
      return .ok (← s.audited req requestedAt .rateLimited "tenant has self-release disabled (per-hour cap is 0)")
    else
      match ← s.countRecent req.tenantID req.recipientUserHash (requestedAt - s.rateWindow) with
      | .error err => return .error ("selfrelease: count audit: " ++ err)
      | .ok count =>
        if policy.quarantineSelfReleasePerHour ≤ count then
          return .ok (← s.audited req requestedAt .rateLimited
            ("recipient exceeded " ++ toString policy.quarantineSelfReleasePerHour ++ " releases / " ++
              GoTime.durationString s.rateWindow ++ " window (observed " ++ toString count ++ ")"))
        else s.runRelease req requestedAt

/-- `Release` once the request is complete. -/
def releaseChecked (req : Request) : Prog Op Ans (Except String Result) := do
  let requestedAt ← s.now
  match ← s.lookupReference req.tenantID req.pseudoMessageID with
  | .error err => return .error ("selfrelease: lookup: " ++ err)
  | .ok none =>
    return .ok (← s.audited req requestedAt .notFound "no quarantine record for (tenant, pseudo_message_id)")
  | .ok (some rec) =>
    if rec.tier2Malicious then
      return .ok (← s.audited req requestedAt .tier2Blocked "tier-2 SLM classified message as malicious")
    else s.rateLimited req requestedAt

/-- `Release`. -/
def release (req : Request) : Prog Op Ans (Except String Result) :=
  if req.tenantID = "" then return .error "selfrelease: tenant_id is required"
  else if req.pseudoMessageID = "" then return .error "selfrelease: pseudo_message_id is required"
  else if req.recipientUserHash = [] then return .error "selfrelease: recipient_user_hash is required"
  else s.releaseChecked req

/-- `AuditAuthFailure`: without a tenant there is no row. -/
def auditAuthFailure (tenantID pseudoMessageID : String) (recipientUserHash : Bytes) (correlationID : String)
    (outcome : QuarantineReleaseOutcome) (reason : String) : Prog Op Ans (Except String (Option AuditEntry)) :=
  if tenantID = "" then return .ok none
  else do
    let requestedAt ← s.now
    let entry : AuditEntry :=
      { tenantID
        pseudoMessageID := if pseudoMessageID = "" then "<unknown>" else pseudoMessageID
        recipientUserHash := if recipientUserHash = [] then [0] else recipientUserHash
        outcome := if outcome.authFailure then outcome else .invalidToken
        reason := if outcome.authFailure then reason
          else "coerced outcome " ++ quoted outcome.name ++ " -> invalid_token: " ++ reason
        correlationID, requestedAt }
    match ← s.record entry with
    | .error err => return .error err
    | .ok written => return .ok (some written)

end Service

end Sn360Es.SelfRelease
