import Sn360Es.Agent.Escalation
import Sn360Es.Handler.Vendor
import Sn360Es.Lib.Performs
import Sn360Es.Privacy.Jwt

/-!
# The authenticated API (`cmd/sn360-es/routes.go`, `internal/middleware`, `internal/handler`)

`JWTAuth` verifies the bearer token of a request, `TenantConnBinder` binds a connection to the tenant of the token, and
the mux finds the handler of the path. The handlers that only read call a service and answer with what it returns; the
others call a repository. What stands behind a gate on the scope or the role is a parameter.

The routes that `JWTAuth` skips are left out, and so is what stands in front of it (metrics, request ids, CORS and the
rate limiter), the contents of the answers, and log lines.
-/

namespace Sn360Es.Handler

open Lib Lib.Json Agent Privacy

/-! ### Requests and responses -/

/-- A segment of a path, as it is spelled and as it decodes. -/
structure Segment where
  raw : String
  text : String
  deriving DecidableEq, Repr

structure ApiRequest where
  method : String
  segments : List Segment
  /-- The header `Authorization`. -/
  authorization : String := ""
  query : List (String × String) := []
  /-- What the JSON decoder makes of the body if it reads at most so many bytes. -/
  body : ℕ → Option Tree := fun _ => none

namespace ApiRequest

variable (r : ApiRequest)

/-- `r.URL.Path`. -/
def path : String := String.join (r.segments.map fun s => "/" ++ s.text)

/-- `r.URL.Query().Get`. -/
def get (name : String) : String := (r.query.lookup name).getD ""

/-- `cleanPath` leaves the path as it is. -/
def isClean : Bool :=
  r.segments.all (fun s => s.raw ≠ "." && s.raw ≠ "..") && r.segments.dropLast.all (fun s => s.raw ≠ "")

end ApiRequest

/-- `extractBearer`. -/
def extractBearer (header : String) : String :=
  if (header.toList.take 7).map Char.toLower = "bearer ".toList then
    GoStrings.trimSpace (String.ofList (header.toList.drop 7))
  else ""

inductive ApiResponse where
  | error (status : ℕ) (msg : String)
  | redirect
  | vendor (res : VendorResponse)
  | json (status : ℕ)
  deriving DecidableEq, Repr

/-- The request was served. -/
def ApiResponse.served : ApiResponse → Bool
  | error _ _ | redirect | vendor (.error _ _) => false
  | vendor _ | json _ => true

/-! ### Operations -/

/-- `RecipientCandidate`. -/
structure RecipientCandidate where
  userHash : String := ""
  domain : String := ""
  isExternal : Bool := false
  isKnownContact : Option Bool := none
  deriving DecidableEq, Repr

/-- `RecipientRequest`. -/
structure RecipientRequest where
  tenantID : String := ""
  senderHash : String := ""
  recipients : List RecipientCandidate := []
  threadID : String := ""
  threadIsInternal : Bool := false
  deriving DecidableEq, Repr

/-- `OpenRequest`. -/
structure OpenRequest where
  tenantID : String := ""
  pseudoMessageID : String := ""
  userHash : String := ""
  tier : String := ""
  category : String := ""
  deriving DecidableEq, Repr

/-- What a service is asked for; a range is given in minutes. -/
inductive ReadCall where
  | generateSummary (tenantID : String) (range : ℤ)
  | computeAnalytics (tenantID : String) (range : ℤ)
  | predictRecipient (req : RecipientRequest)
  | predictOpen (req : OpenRequest)
  | messageTrail (tenantID pseudoID : String)
  | senderTrail (tenantID : String) (senderHash : Bytes) (limit sinceHours : Option ℤ)
  | orgGraph (tenantID : String)
  | authURL (provider tenantID : String)
  | onboardingStatus (tenantID : String)
  | gwsSetupStatus (tenantID : String)
  | loadTicket (tenantID ticketID : String)
  | listVendors (tenantID : String)
  deriving DecidableEq, Repr

inductive ReadError where
  | notFound
  | invalid
  | failed (err : String)
  deriving DecidableEq, Repr

inductive ApiOp where
  /-- The binding of a connection to a tenant. -/
  | bind (tenantID : String)
  | vendor (o : VendorOp)
  /-- `TokenStore.Delete`. -/
  | deleteToken (tenantID provider : String)
  | resolveEscalation (tenantID ticketID resolverHash outcome notes : String)
  | read (c : ReadCall)
  deriving DecidableEq, Repr

abbrev ApiOp.Ans : ApiOp → Type
  | bind _ => Option String
  | vendor o => o.Ans
  | deleteToken _ _ => Option String
  | resolveEscalation .. => Option String
  | read _ => Option ReadError

abbrev ApiM := Prog ApiOp ApiOp.Ans

structure ApiEnv where
  bindError : Option String := none
  vendor : VendorEnv := {}
  tokenError : Option String := none
  escalation : EscalationEnv := {}
  readError : Option ReadError := none

structure ApiWorld where
  /-- The tenant that the connection of the request is bound to. -/
  bound : Option String := none
  vendors : VendorWorld := {}
  /-- Which tenants have a token of which provider. -/
  tokens : String → String → Bool := fun _ _ => false
  tickets : TicketStore := .empty

/-- The row policy: on a connection that is bound, only the rows of its tenant are there. -/
def ApiWorld.admits (w : ApiWorld) (tenantID : String) : Bool := w.bound.all (· = tenantID)

/-- The tenant whose rows an operation touches. -/
def VendorOp.tenant : VendorOp → Option String
  | getByDomain tenantID _ | delete tenantID _ | listByTenant tenantID _ => some tenantID
  | upsert _ v => some v.tenantID
  | now | iterateActive | ctxErr => none

/-- What an operation answers that the row policy keeps from its rows. -/
def VendorOp.hidden : (o : VendorOp) → VendorEnv → o.Ans
  | getByDomain _ _, e => .error (e.fail.elim .notFound .failed)
  | upsert _ _, e => some (e.fail.getD "new row violates row-level security policy for table \"vendors\"")
  | delete _ _, e => e.fail
  | now, e => e.clock
  | iterateActive, e => (e.tenants, e.fail)
  | ctxErr, e => e.fail
  | listByTenant _ _, e => e.fail.elim (.ok []) .error

def ApiOp.exec : (o : ApiOp) → ApiEnv → ApiWorld → o.Ans × ApiWorld
  | bind tenantID, e, w => (e.bindError, if e.bindError = none then { w with bound := some tenantID } else w)
  | vendor o, e, w =>
    if o.tenant.all w.admits then ((o.exec e.vendor w.vendors).1, { w with vendors := (o.exec e.vendor w.vendors).2 })
    else (o.hidden e.vendor, w)
  | deleteToken tenantID provider, e, w =>
    (e.tokenError,
      if e.tokenError = none ∧ w.admits tenantID then
        { w with tokens := fun t p => if t = tenantID ∧ p = provider then false else w.tokens t p }
      else w)
  | resolveEscalation tenantID ticketID resolverHash outcome notes, e, w =>
    let run := Agent.resolveEscalation e.escalation tenantID ticketID resolverHash outcome notes w.tickets
    (run.err, { w with tickets := run.store })
  | read _, e, w => (e.readError, w)

/-- The handlers of the vendors, over the operations of the API. -/
def ApiM.vendor {α : Type} (p : VendorM α) : ApiM α := p.via ApiOp.vendor fun _ a => a

/-! ### Routes -/

inductive Route where
  | dashboard
  | educationAnalytics
  | predictRecipient
  | predictOpen
  | escalationResolve
  | escalationGet
  | investigationMessage
  | investigationSender
  | intelFeeds
  | intelFeed
  | intelIndicators
  | onboardingStart
  | onboardingStatus
  | onboardingRevoke
  | gwsSetupStatus
  | vendors
  | vendor
  | orgGraph
  | tenants
  deriving DecidableEq, Repr

namespace Route

/-- The patterns that are matched whole. -/
def exacts : List (List String × Route) :=
  [(["v1", "dashboard", "summary"], dashboard), (["v1", "education", "analytics"], educationAnalytics),
    (["v1", "predict", "recipient"], predictRecipient), (["v1", "predict", "open"], predictOpen),
    (["v1", "escalation", "resolve"], escalationResolve), (["v1", "intel", "feeds"], intelFeeds),
    (["v1", "intel", "indicators"], intelIndicators), (["v1", "onboarding", "start"], onboardingStart),
    (["v1", "onboarding", "status"], onboardingStatus), (["v1", "onboarding", "revoke"], onboardingRevoke),
    (["v1", "onboarding", "gws-setup-status"], gwsSetupStatus), (["v1", "vendors"], vendors),
    (["v1", "org-graph"], orgGraph)]

/-- The patterns that end in a slash and match every path below; none is below another one. -/
def subtrees : List (List String × Route) :=
  [(["v1", "escalation"], escalationGet), (["v1", "investigation", "message"], investigationMessage),
    (["v1", "investigation", "sender"], investigationSender), (["v1", "intel", "feeds"], intelFeed),
    (["v1", "vendors"], vendor), (["v1", "tenants"], tenants)]

end Route

/-- Where the mux sends a request: to another path, nowhere, or to a handler. -/
inductive Routed where
  | redirect
  | notFound
  | handler (route : Route)
  deriving DecidableEq, Repr

/-- The application behind the routes. -/
structure Api where
  issuer : Option JWTIssuer
  /-- The second verifier, of the tokens of `iam-core`. -/
  iamCore : Option (String → Except String String) := none
  /-- Whether there is a database. -/
  db : Bool := true
  /-- Whether the role of the process serves the API. -/
  servesAPI : Bool := true
  /-- The routes that are mounted. -/
  mounted : Route → Bool := fun _ => true
  /-- The routes whose service is there. -/
  wired : Route → Bool := fun _ => true
  vendor : VendorHandler
  /-- The four decoders of `encoding/base64`. -/
  rawURLEncoding : String → Option Bytes := fun _ => none
  urlEncoding : String → Option Bytes := fun _ => none
  rawStdEncoding : String → Option Bytes := fun _ => none
  stdEncoding : String → Option Bytes := fun _ => none
  /-- The handlers behind a gate. -/
  behind : Route → ActionClaims → ApiRequest → ApiM ApiResponse

namespace Api

variable (h : Api)

/-- The handler that the mux finds for the segments of a path. -/
def lookup (segs : List String) : Routed :=
  match Route.exacts.find? fun p => h.mounted p.2 && p.1 = segs with
  | some p => .handler p.2
  | none =>
    if Route.subtrees.any fun p => h.mounted p.2 && p.1 = segs then .redirect
    else
      match Route.subtrees.find? fun p => h.mounted p.2 && (p.1.isPrefixOf segs && p.1.length < segs.length) with
      | some p => .handler p.2
      | none => .notFound

/-- `ServeMux`: a path that is not clean is sent to its clean form, except with `CONNECT`. -/
def route (r : ApiRequest) : Routed :=
  if r.method ≠ "CONNECT" ∧ ¬ r.isClean then .redirect
  else if ¬ h.servesAPI then .notFound
  else h.lookup (r.segments.map Segment.text)

/-! ### Handlers that read -/

/-- An answer with an error: its status and its text. -/
abbrev Refusal := ℕ × String

/-- A handler that calls a service: its method, what its checks make of a request, and how it answers an error of the
service. -/
structure ReadHandler where
  method : String
  check : Except Refusal ReadCall
  failure : ReadError → Option Refusal

def ReadHandler.serve (g : ReadHandler) (r : ApiRequest) : ApiM ApiResponse := do
  if r.method ≠ g.method then return .error 405 "method not allowed"
  else
    match g.check with
    | .error e => return .error e.1 e.2
    | .ok call =>
      match (← Prog.perform (ApiOp.read call)).bind g.failure with
      | some e => return .error e.1 e.2
      | none => return .json 200

/-- The check that a service is there. -/
def service (route : Route) (msg : String) : Except Refusal Unit :=
  if h.wired route then .ok () else .error (503, msg)

/-- `resolveTenant`, where `bound` is the tenant of the token. -/
def resolveTenant (bound : String) (r : ApiRequest) : Except Refusal String :=
  let query := GoStrings.trimSpace (r.get "tenant_id")
  if bound ≠ "" ∧ query ≠ "" ∧ query ≠ bound then .error (403, "tenant_id does not match authenticated tenant")
  else if bound = "" ∧ query = "" then .error (400, "tenant_id is required")
  else .ok (if bound = "" then query else bound)

/-- `parseRange`, in minutes. -/
def parseRange (s : String) : Option ℤ :=
  match (h.vendor.toLower (GoStrings.trimSpace s)).toList.reverse with
  | unit :: rest =>
    match GoStrings.atoi (String.ofList rest.reverse) with
    | none => none
    | some n =>
      let minutes : Option ℤ :=
        if unit = 'd' then some 1440 else if unit = 'h' then some 60 else if unit = 'm' then some 1 else none
      if n ≤ 0 then none else minutes.map fun m => min (n * m) 527040
  | [] => none

/-- The range of a request, or the default one. -/
def rangeOf (default : String) (r : ApiRequest) : Except Refusal ℤ :=
  match h.parseRange (if GoStrings.trimSpace (r.get "range") = "" then default else GoStrings.trimSpace (r.get "range")) with
  | none => .error (400, "invalid range")
  | some d => .ok d

/-- A parameter that must be there. -/
def required (r : ApiRequest) (name msg : String) : Except Refusal String :=
  if r.get name = "" then .error (400, msg) else .ok (r.get name)

/-- `DashboardHandler.ServeHTTP`. -/
def dashboard (tenantID : String) (r : ApiRequest) : ReadHandler where
  method := "GET"
  check := do
    h.service .dashboard "dashboard service not configured"
    let tenantID ← resolveTenant tenantID r
    return .generateSummary tenantID (← h.rangeOf "7d" r)
  failure _ := some (500, "dashboard generation failed")

/-- `EducationAnalyticsHandler.ServeHTTP`. -/
def educationAnalytics (tenantID : String) (r : ApiRequest) : ReadHandler where
  method := "GET"
  check := do
    h.service .educationAnalytics "education analytics not configured"
    let tenantID ← resolveTenant tenantID r
    return .computeAnalytics tenantID (← h.rangeOf "90d" r)
  failure _ := some (500, "analytics computation failed")

def decRecipientCandidate : Dec RecipientCandidate :=
  decStrict ["user_hash", "domain", "is_external", "is_known_contact"] fun cur ms => do
    let userHash ← field "user_hash" decString cur.userHash ms
    let domain ← field "domain" decString cur.domain ms
    let isExternal ← field "is_external" decBool cur.isExternal ms
    let isKnownContact ← field "is_known_contact" (decPointer false decBool) cur.isKnownContact ms
    return { userHash, domain, isExternal, isKnownContact }

def decRecipientRequest : Dec RecipientRequest :=
  decStrict ["tenant_id", "sender_hash", "recipients", "thread_id", "thread_is_internal"] fun cur ms => do
    let tenantID ← field "tenant_id" decString cur.tenantID ms
    let senderHash ← field "sender_hash" decString cur.senderHash ms
    let recipients ← field "recipients" (decList {} decRecipientCandidate) cur.recipients ms
    let threadID ← field "thread_id" decString cur.threadID ms
    let threadIsInternal ← field "thread_is_internal" decBool cur.threadIsInternal ms
    return { tenantID, senderHash, recipients, threadID, threadIsInternal }

def decOpenRequest : Dec OpenRequest :=
  decStrict ["tenant_id", "pseudo_message_id", "user_hash", "tier", "category"] fun cur ms => do
    let tenantID ← field "tenant_id" decString cur.tenantID ms
    let pseudoMessageID ← field "pseudo_message_id" decString cur.pseudoMessageID ms
    let userHash ← field "user_hash" decString cur.userHash ms
    let tier ← field "tier" decString cur.tier ms
    let category ← field "category" decString cur.category ms
    return { tenantID, pseudoMessageID, userHash, tier, category }

/-- The body of a request, of which a handler reads at most so many bytes. -/
def bodyOf {α : Type} (r : ApiRequest) (limit : ℕ) (zero : α) (dec : Dec α) (msg : String) : Except Refusal α :=
  match (r.body limit).bind (dec zero) with
  | none => .error (400, msg)
  | some req => .ok req

/-- `ServeRecipient`. -/
def predictRecipient (r : ApiRequest) : ReadHandler where
  method := "POST"
  check := do
    h.service .predictRecipient "predict service not configured"
    return .predictRecipient (← bodyOf r 32768 {} decRecipientRequest "invalid JSON body")
  failure _ := some (400, "invalid request")

/-- `ServeOpen`. -/
def predictOpen (r : ApiRequest) : ReadHandler where
  method := "POST"
  check := do
    h.service .predictOpen "predict service not configured"
    return .predictOpen (← bodyOf r 4096 {} decOpenRequest "invalid JSON body")
  failure _ := some (400, "invalid request")

/-- The check that the request carries a tenant. -/
def authenticated (tenantID : String) : Except Refusal Unit :=
  if tenantID = "" then .error (401, "authentication required") else .ok ()

/-- What is left of the path after a prefix. -/
def pathTail (r : ApiRequest) (lead : String) : String :=
  GoStrings.trimSpace (String.ofList (GoStrings.trimPrefix r.path.toList lead.toList))

/-- `InvestigationHandler.ServeMessage`. -/
def investigationMessage (tenantID : String) (r : ApiRequest) : ReadHandler where
  method := "GET"
  check := do
    authenticated tenantID
    h.service .investigationMessage "investigation service not configured"
    let pseudoID := pathTail r "/v1/investigation/message/"
    if pseudoID = "" ∨ '/' ∈ pseudoID.toList then .error (400, "pseudo_message_id is required")
    else return .messageTrail tenantID pseudoID
  failure
    | .notFound => some (404, "not found")
    | .invalid => some (400, "invalid request")
    | .failed _ => some (500, "lookup failed")

/-- `decodeSenderHash`. -/
def decodeSenderHash (raw : String) : Option Bytes :=
  h.rawURLEncoding raw <|> h.urlEncoding raw <|> h.rawStdEncoding raw <|> h.stdEncoding raw

/-- A parameter of `parseSenderTrailOptions`: a number up to a bound, if it is there. -/
def boundedParam (r : ApiRequest) (name : String) (bound : ℤ) (msg : String) : Except Refusal (Option ℤ) :=
  let v := GoStrings.trimSpace (r.get name)
  if v = "" then .ok none
  else
    match GoStrings.atoi v with
    | none => .error (400, msg)
    | some n => if n < 1 ∨ bound < n then .error (400, msg) else .ok (some n)

/-- `InvestigationHandler.ServeSender`. -/
def investigationSender (tenantID : String) (r : ApiRequest) : ReadHandler where
  method := "GET"
  check := do
    authenticated tenantID
    h.service .investigationSender "investigation service not configured"
    let rawHash := pathTail r "/v1/investigation/sender/"
    if rawHash = "" ∨ '/' ∈ rawHash.toList then .error (400, "sender_hash is required")
    else
      match h.decodeSenderHash rawHash with
      | none => .error (400, "sender_hash must be base64url- or base64-standard-encoded bytes")
      | some [] => .error (400, "sender_hash is required")
      | some senderHash =>
        let limit ← boundedParam r "limit" 500 "limit must be an integer between 1 and 500"
        let since ← boundedParam r "since_hours" 720 "since_hours must be an integer between 1 and 720"
        return .senderTrail tenantID senderHash limit since
  failure
    | .invalid => some (400, "invalid request")
    | _ => some (500, "lookup failed")

/-- `OrgGraphHandler.ServeHTTP`. -/
def orgGraph (r : ApiRequest) : ReadHandler where
  method := "GET"
  check := do return .orgGraph (← required r "tenant_id" "tenant_id required")
  failure
    | .notFound => some (404, "no org graph for tenant")
    | _ => some (500, "internal")

/-- `ServeStart`. -/
def onboardingStart (r : ApiRequest) : ReadHandler where
  method := "GET"
  check := do
    let tenantID ← required r "tenant_id" "tenant_id is required"
    let provider ← required r "provider" "provider is required"
    return .authURL provider tenantID
  failure _ := some (400, "failed to generate auth URL")

/-- `OnboardingHandler.ServeStatus`. -/
def onboardingStatus (r : ApiRequest) : ReadHandler where
  method := "GET"
  check := do return .onboardingStatus (← required r "tenant_id" "tenant_id is required")
  failure _ := some (500, "failed to retrieve status")

/-- `ServeGWSSetupStatus`, which reports what it could not reach. -/
def gwsSetupStatus (r : ApiRequest) : ReadHandler where
  method := "GET"
  check := do return .gwsSetupStatus (← required r "tenant_id" "tenant_id is required")
  failure _ := none

/-- `EscalationHandler.ServeGet`. -/
def escalationGet (tenantID : String) (r : ApiRequest) : ReadHandler where
  method := "GET"
  check := do
    authenticated tenantID
    h.service .escalationGet "escalation service not configured"
    let ticketID := pathTail r "/v1/escalation/"
    if ticketID = "" then .error (400, "ticket_id is required") else return .loadTicket tenantID ticketID
  failure
    | .notFound => some (404, "ticket not found")
    | _ => some (500, "lookup failed")

/-- `VendorHandler.ServeList`. -/
def vendorList (r : ApiRequest) : ReadHandler where
  method := "GET"
  check := do return .listVendors (← required r "tenant_id" "tenant_id required")
  failure _ := some (500, "internal error")

/-! ### Handlers that write -/

def decVendorCreate : Dec VendorCreateRequest :=
  decStrict ["tenant_id", "domain", "display_name"] fun cur ms => do
    let tenantID ← field "tenant_id" decString cur.tenantID ms
    let domain ← field "domain" decString cur.domain ms
    let displayName ← field "display_name" decString cur.displayName ms
    return { tenantID, domain, displayName }

/-- `vendorApproveRequest`, whose only field is the tenant. -/
def decVendorApprove : Dec String :=
  decStrict ["tenant_id"] fun cur ms => field "tenant_id" decString cur ms

/-- A request that creates a vendor. -/
def vendorCreate (r : ApiRequest) : VendorRequest :=
  { method := r.method, path := r.path, create := (r.body 8192).bind (decVendorCreate ⟨"", "", ""⟩) }

/-- A request that decides about a vendor. -/
def vendorDecision (r : ApiRequest) : VendorRequest :=
  { method := r.method, path := r.path, tenantID := (r.body 8192).bind (decVendorApprove "") }

/-- A request that deletes a vendor. -/
def vendorDelete (r : ApiRequest) : VendorRequest :=
  { method := r.method, path := r.path, tenantID := some (r.get "tenant_id") }

/-- `/v1/vendors`. -/
def serveVendors (r : ApiRequest) : ApiM ApiResponse := do
  if r.method = "GET" then (vendorList r).serve r
  else if r.method = "POST" then return .vendor (← ApiM.vendor (h.vendor.serveCreate (vendorCreate r)))
  else return .error 405 "method not allowed"

/-- `/v1/vendors/`. -/
def serveVendor (r : ApiRequest) : ApiM ApiResponse := do
  if r.method = "DELETE" then return .vendor (← ApiM.vendor (h.vendor.serveDelete (vendorDelete r)))
  else if hasSuffix r.path "/approve" then return .vendor (← ApiM.vendor (h.vendor.serveApprove (vendorDecision r)))
  else if hasSuffix r.path "/revoke" then return .vendor (← ApiM.vendor (h.vendor.serveRevoke (vendorDecision r)))
  else return .error 404 "not found"

/-- `OnboardingHandler.ServeRevoke`. -/
def serveRevoke (r : ApiRequest) : ApiM ApiResponse := do
  if r.method ≠ "DELETE" then return .error 405 "method not allowed"
  else if r.get "tenant_id" = "" ∨ r.get "provider" = "" then return .error 400 "tenant_id and provider are required"
  else
    match ← Prog.perform (ApiOp.deleteToken (r.get "tenant_id") (r.get "provider")) with
    | some _ => return .error 500 "revoke failed"
    | none => return .json 200

/-- `resolveRequest`. -/
structure ResolveRequest where
  ticketID : String := ""
  resolverHash : String := ""
  outcome : String := ""
  notes : String := ""
  deriving DecidableEq, Repr

def decResolveRequest : Dec ResolveRequest :=
  decStrict ["ticket_id", "resolver_hash", "outcome", "notes"] fun cur ms => do
    let ticketID ← field "ticket_id" decString cur.ticketID ms
    let resolverHash ← field "resolver_hash" decString cur.resolverHash ms
    let outcome ← field "outcome" decString cur.outcome ms
    let notes ← field "notes" decString cur.notes ms
    return { ticketID, resolverHash, outcome, notes }

/-- The answer to an error of `ResolveEscalation`, which is known by how its text begins. -/
def resolveRefusal (err : String) : Refusal :=
  if err = "escalation: ticket not found" then (404, "ticket not found")
  else if "escalation: invalid outcome: ".toList <+: err.toList then (400, "resolve failed")
  else if "escalation: already resolved as ".toList <+: err.toList then (409, "already resolved")
  else (500, "resolve failed")

/-- `EscalationHandler.ServeResolve`. -/
def serveResolve (tenantID : String) (r : ApiRequest) : ApiM ApiResponse := do
  if r.method ≠ "POST" then return .error 405 "method not allowed"
  else if tenantID = "" then return .error 401 "authentication required"
  else if ¬ h.wired .escalationResolve then return .error 503 "escalation service not configured"
  else
    match (r.body 16384).bind (decResolveRequest {}) with
    | none => return .error 400 "invalid JSON body"
    | some req =>
      if GoStrings.trimSpace req.ticketID = "" then return .error 400 "ticket_id is required"
      else
        match ← Prog.perform (ApiOp.resolveEscalation tenantID (GoStrings.trimSpace req.ticketID) req.resolverHash
            req.outcome req.notes) with
        | some err => return .error (resolveRefusal err).1 (resolveRefusal err).2
        | none => return .json 200

/-! ### Gates -/

/-- `RoleAdmin`. -/
def roleAdmin : String := "admin"

/-- `ServeFeeds` and `ServeIndicators`, up to `assertAdmin`. -/
def serveIntel (route : Route) (claims : Option ActionClaims) (r : ApiRequest) : ApiM ApiResponse :=
  if ¬ h.wired route then return .error 503 "intel_store_unavailable"
  else
    match claims with
    | none => return .error 401 "missing_claims"
    | some c =>
      if effectiveScope c.scope ≠ scopeAdminAPI then return .error 403 "forbidden" else h.behind route c r

/-- `RequireAdmin`. -/
def requireAdmin (route : Route) (claims : Option ActionClaims) (r : ApiRequest) : ApiM ApiResponse :=
  match claims with
  | none => return .error 403 "admin_required"
  | some c => if c.role ≠ roleAdmin then return .error 403 "admin_required" else h.behind route c r

/-! ### From the request to its handler -/

/-- `TenantIDFromContext`. -/
def tenantOf (claims : Option ActionClaims) : String := claims.elim "" ActionClaims.tenantID

def serveRoute (claims : Option ActionClaims) (r : ApiRequest) : Route → ApiM ApiResponse
  | .dashboard => (h.dashboard (tenantOf claims) r).serve r
  | .educationAnalytics => (h.educationAnalytics (tenantOf claims) r).serve r
  | .predictRecipient => (h.predictRecipient r).serve r
  | .predictOpen => (h.predictOpen r).serve r
  | .escalationResolve => h.serveResolve (tenantOf claims) r
  | .escalationGet => (h.escalationGet (tenantOf claims) r).serve r
  | .investigationMessage => (h.investigationMessage (tenantOf claims) r).serve r
  | .investigationSender => (h.investigationSender (tenantOf claims) r).serve r
  | .intelFeeds => h.serveIntel .intelFeeds claims r
  | .intelFeed => h.serveIntel .intelFeed claims r
  | .intelIndicators => h.serveIntel .intelIndicators claims r
  | .onboardingStart => (onboardingStart r).serve r
  | .onboardingStatus => (onboardingStatus r).serve r
  | .onboardingRevoke => serveRevoke r
  | .gwsSetupStatus => (gwsSetupStatus r).serve r
  | .vendors => h.serveVendors r
  | .vendor => h.serveVendor r
  | .orgGraph => (orgGraph r).serve r
  | .tenants => h.requireAdmin .tenants claims r

def serveMux (claims : Option ActionClaims) (r : ApiRequest) : ApiM ApiResponse :=
  match h.route r with
  | .redirect => return .redirect
  | .notFound => return .error 404 ""
  | .handler route => h.serveRoute claims r route

/-- `defaultAuthSkipPaths`. -/
def skipPaths : List String :=
  ["/healthz", "/readyz", "/metrics", "/docs", "/docs/", "/openapi.yaml", "/l/", "/v1/banner/action",
    "/v1/quarantine/release", "/v1/education/lesson/", "/v1/onboarding/callback", "/v1/push/"]

/-- `isSkipped`: an entry that ends in a slash is a prefix. -/
def isSkipped (path : String) : Bool :=
  skipPaths.any fun p => if hasSuffix p "/" then p.toList.isPrefixOf path.toList else p = path

/-- `TenantConnBinder.ServeHTTP`. -/
def bindTenant (claims : Option ActionClaims) (r : ApiRequest) : ApiM ApiResponse := do
  if ¬ h.db ∨ isSkipped r.path ∨ tenantOf claims = "" then h.serveMux claims r
  else
    match ← Prog.perform (ApiOp.bind (tenantOf claims)) with
    | some _ => return .error 500 "internal_error"
    | none => h.serveMux claims r

/-- The claims of a token: those that the issuer verifies, else the tenant that the second verifier finds. -/
def verify (now : ℤ) (tok : String) : Option ActionClaims :=
  match h.issuer.bind fun i => (i.verifyDetail now tok).toOption with
  | some claims => some claims
  | none =>
    (h.iamCore.bind fun v => (v tok).toOption).map fun tenantID =>
      { tenantID, pseudonymizedMessage := "", id := "", issuer := "", expiresAt := 0, notBefore := 0, issuedAt := 0 }

/-- `JWTAuth.ServeHTTP`, at a time. -/
def serveHTTP (now : ℤ) (r : ApiRequest) : ApiM ApiResponse :=
  if isSkipped r.path then h.bindTenant none r
  else if h.issuer.isNone ∧ h.iamCore.isNone then return .error 401 "missing_auth_configuration"
  else if extractBearer r.authorization = "" then return .error 401 "missing_token"
  else
    match h.verify now (extractBearer r.authorization) with
    | none => return .error 401 "invalid_token"
    | some claims =>
      if claims.tenantID = "" then return .error 401 "missing_tenant_claim" else h.bindTenant (some claims) r

end Api

end Sn360Es.Handler
