import Sn360Es.Lib.JsonTree
import Sn360Es.Lib.Performs
import Sn360Es.Privacy.Jwt
import Sn360Es.SelfRelease.RateLimit

/-!
# The release endpoint (`internal/handler/quarantine.go`)

`POST /v1/quarantine/release` takes a token in its body. The scope of the token decides: `quarantine_release` goes to
the self-release service, `banner_action`, which is also the scope of a token without one, straight to the release
service.

The operations are those of the quarantine and release services, and next to them the binding of the tenant, the audit
rows and the policies. A body is given by what `ParseForm` and the JSON decoder make of it, at most 8 KiB of it. Log
lines are left out.
-/

namespace Sn360Es.Handler

open Lib Lib.Json Sn360Es.Action Privacy SelfRelease

/-! ### Operations -/

inductive AuditOp where
  /-- `TenantBinder.WithTenant`. -/
  | withTenant (tenantID : String)
  | audit (o : ReleaseOp)
  deriving DecidableEq, Repr

abbrev AuditOp.Ans : AuditOp → Type
  | withTenant _ => Option String
  | audit o => o.Ans

structure AuditEnv where
  bindError : Option String := none
  audit : ReleaseEnv := {}

def AuditOp.exec : (o : AuditOp) → AuditEnv → ReleaseWorld → o.Ans × ReleaseWorld
  | withTenant _, e, w => (e.bindError, w)
  | audit o, e, w => o.exec e.audit w

abbrev HandlerOp := Op ⊕ AuditOp

abbrev HandlerAns : HandlerOp → Type := Sum.elim Op.Ans AuditOp.Ans

abbrev HandlerM := Prog HandlerOp HandlerAns

/-- What one operation meets. -/
abbrev HandlerEnv := Environment × AuditEnv

/-- The references, and the audit rows and policies. -/
abbrev HandlerWorld := Store × ReleaseWorld

def handlerExec : (o : HandlerOp) → HandlerEnv → HandlerWorld → HandlerAns o × HandlerWorld :=
  Prog.both exec AuditOp.exec

namespace HandlerM

def withTenant (tenantID : String) : HandlerM (Option String) :=
  Prog.perform (Sum.inr (AuditOp.withTenant tenantID) : HandlerOp)

/-- A call of a repository of the self-release service. -/
def audit (o : ReleaseOp) : HandlerM o.Ans := Prog.perform (Sum.inr (AuditOp.audit o) : HandlerOp)

end HandlerM

/-- The self-release service of the application: it looks up and releases through the services of the operators. -/
def selfReleaseService (release : ReleaseService) : Service HandlerOp HandlerAns where
  lookupReference := fun tenant msg => (release.quarantine.lookupReference tenant msg).inl
  runner := fun req => (release.release req).inl
  record := fun entry => HandlerM.audit (.record entry)
  countRecent := fun tenantID hash since => HandlerM.audit (.countRecent tenantID hash since)
  policy := fun tenantID => HandlerM.audit (.policy tenantID)
  now := HandlerM.audit .now

/-! ### Requests and responses -/

structure ReleaseBody where
  form : Option (List (String × String)) := none
  json : Option Tree := none

structure ReleaseHTTPRequest where
  method : String
  contentType : String := ""
  /-- `X-Correlation-ID`. -/
  correlationID : String := ""
  body : ReleaseBody := {}

structure QuarantineReleaseRequest where
  token : String := ""
  requestedBy : String := ""
  restoredBody : String := ""
  deriving DecidableEq, Repr

structure QuarantineReleaseResponse where
  reason : String
  restored : Bool
  newTier : String
  originalTier : String
  explanations : List String
  reportPath : String
  deriving DecidableEq, Repr

inductive ReleaseResponse where
  | error (status : ℕ) (msg : String)
  | release (status : ℕ) (body : QuarantineReleaseResponse)
  | selfRelease (status : ℕ) (outcome : String) (restored : Bool)
  deriving DecidableEq, Repr

/-- The decoder of a request. -/
def decReleaseRequest : Dec QuarantineReleaseRequest :=
  decStrict ["token", "requested_by", "restored_body"] fun cur ms => do
    let token ← field "token" decString cur.token ms
    let requestedBy ← field "requested_by" decString cur.requestedBy ms
    let restoredBody ← field "restored_body" decString cur.restoredBody ms
    return { token, requestedBy, restoredBody }

/-- The media type, less its parameters. -/
def mediaType (toLower : String → String) (contentType : String) : String :=
  GoStrings.trimSpace (toLower ((GoStrings.beforeFirst ';' contentType).getD contentType))

/-- `decodeReleaseRequest`; the error is that of the response. -/
def decodeReleaseRequest (toLower : String → String) (r : ReleaseHTTPRequest) :
    Except String QuarantineReleaseRequest :=
  if mediaType toLower r.contentType = "application/x-www-form-urlencoded" then
    match r.body.form with
    | none => .error "invalid form body"
    | some fields => .ok { token := GoStrings.trimSpace ((fields.lookup "token").getD "") }
  else
    match r.body.json.bind (decReleaseRequest {}) with
    | none => .error "invalid JSON body"
    | some req => .ok { req with token := GoStrings.trimSpace req.token }

/-- `classifyReleaseError`. -/
def classifyReleaseError (err : ReleaseError) : ℕ × String :=
  match err.sentinel with
  | .invalidInput => (400, "invalid release request")
  | .notFound => (404, "quarantine record not found")
  | .providerUnavailable => (503, "release temporarily unavailable")

/-- The status of an outcome of the release service. -/
def releaseStatus : Option ReleaseReason → ℕ
  | some .notFound => 404
  | some .refused => 409
  | some .allowed => 202
  | _ => 200

/-- The status that `writeSelfReleaseOutcome` gives an outcome. -/
def selfReleaseStatus : QuarantineReleaseOutcome → ℕ
  | .released => 202
  | .alreadyReleased => 200
  | .rateLimited => 429
  | .tier2Blocked | .releaseRefused => 403
  | .notFound | .tokenExpired | .invalidToken => 404

/-! ### The handler -/

structure QuarantineHandler where
  verifier : JWTIssuer
  release : ReleaseService
  /-- Whether the self-release service is there. -/
  selfRelease : Bool := true
  /-- `strings.ToLower`. -/
  toLower : String → String := id

namespace QuarantineHandler

variable (h : QuarantineHandler)

/-- `serveOperatorRelease`. -/
def serveOperatorRelease (claims : ActionClaims) (req : QuarantineReleaseRequest) (correlationID : String) :
    HandlerM ReleaseResponse := do
  match ← (h.release.release
      { tenantID := claims.tenantID, pseudonymizedMessage := claims.pseudonymizedMessage
        requestedBy := req.requestedBy, restoredBody := req.restoredBody, correlationID }).inl with
  | (_, some err) => return .error (classifyReleaseError err).1 (classifyReleaseError err).2
  | (outcome, none) =>
    return .release (releaseStatus outcome.reason)
      { reason := (outcome.reason.map ReleaseReason.name).getD "", restored := outcome.restored
        newTier := tierText outcome.verdict.tier, originalTier := tierText outcome.original
        explanations := outcome.explanations, reportPath := outcome.reportPath }

/-- `serveSelfRelease`. -/
def serveSelfRelease (claims : ActionClaims) (correlationID : String) : HandlerM ReleaseResponse := do
  if ¬ h.selfRelease then return .error 401 "invalid token"
  else
    match Hex.decode claims.recipientUserHash with
    | .error _ => return .error 401 "invalid token"
    | .ok [] => return .error 401 "invalid token"
    | .ok recipientHash =>
      match ← HandlerM.withTenant claims.tenantID with
      | some _ => return .error 503 "release temporarily unavailable"
      | none =>
        match ← (selfReleaseService h.release).release
            { tenantID := claims.tenantID, pseudoMessageID := claims.pseudonymizedMessage
              recipientUserHash := recipientHash, correlationID } with
        | .error _ => return .error 503 "release temporarily unavailable"
        | .ok res => return .selfRelease (selfReleaseStatus res.outcome) res.outcome.name res.restored

/-- The audit row of `handleAuthFailure`. -/
def auditFailure (claims : ActionClaims) (expired : Bool) (correlationID : String) : HandlerM PUnit := do
  let _ ← (selfReleaseService h.release).auditAuthFailure claims.tenantID claims.pseudonymizedMessage
    ((Hex.decode claims.recipientUserHash).toOption.getD []) correlationID
    (if expired then .tokenExpired else .invalidToken)
    (if expired then "token exp claim is in the past" else "token signature / claims invalid")
  return

/-- `handleAuthFailure`. -/
def handleAuthFailure (f : ParseFailure) (correlationID : String) : HandlerM ReleaseResponse := do
  match f.claims with
  | none => return .error 401 "invalid token"
  | some claims =>
    if h.selfRelease ∧ effectiveScope claims.scope = scopeQuarantineRelease then
      if claims.tenantID ≠ "" then
        match ← HandlerM.withTenant claims.tenantID with
        | some _ => return .error 401 "invalid token"
        | none =>
          h.auditFailure claims f.expired correlationID
          return .error 401 "invalid token"
      else
        h.auditFailure claims f.expired correlationID
        return .error 401 "invalid token"
    else return .error 401 "invalid token"

/-- The dispatch on the scope of a token that was verified. -/
def dispatch (claims : ActionClaims) (req : QuarantineReleaseRequest) (correlationID : String) :
    HandlerM ReleaseResponse :=
  if claims.tenantID = "" ∨ claims.pseudonymizedMessage = "" then return .error 401 "invalid token"
  else if effectiveScope claims.scope = scopeQuarantineRelease then h.serveSelfRelease claims correlationID
  else if effectiveScope claims.scope = scopeBannerAction then h.serveOperatorRelease claims req correlationID
  else return .error 401 "invalid token"

/-- `ServeHTTP`, at a time. -/
def serveHTTP (now : ℤ) (r : ReleaseHTTPRequest) : HandlerM ReleaseResponse :=
  if r.method ≠ "POST" then return .error 405 "method not allowed"
  else
    match decodeReleaseRequest h.toLower r with
    | .error msg => return .error 400 msg
    | .ok req =>
      if req.token = "" then return .error 400 "token is required"
      else
        match h.verifier.verifyDetail now req.token with
        | .error f => h.handleAuthFailure f (GoStrings.trimSpace r.correlationID)
        | .ok claims => h.dispatch claims req (GoStrings.trimSpace r.correlationID)

end QuarantineHandler

end Sn360Es.Handler
