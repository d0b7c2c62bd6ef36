import Sn360Es.Lib.GoStrings
import Sn360Es.Lib.Prog
import Sn360Es.Relationship.VendorDiscovery
import Sn360Es.Repository

/-!
# Vendors (`internal/handler/vendor.go`, `VendorRepository`)

The table of vendors, and the requests with which administrators create, approve, revoke and delete them. Approving and
revoking read the row and write all of it back. The weekly job writes the same table, so its operations are here, too.
The table keeps a journal of its writes, from which the last decision of an administrator is read off.

* `lastDecision` — the last decision about a vendor since it was created;
* `VendorHandler.serveApprove`, `serveRevoke` — the requests that decide.
-/

namespace Sn360Es.Handler

open Lib Relationship

/-- `repository.Vendor`, less its id and the instants of its creation and change. -/
structure Vendor where
  tenantID : String
  domain : String
  displayName : String := ""
  approved : Bool
  autoDiscovered : Bool
  confidence : ℚ
  lastSeenAt : ℤ
  deriving DecidableEq, Repr

/-- Who writes a row: `ServeCreate`, an administrator who decides, or the weekly job. -/
inductive VendorWriter where
  | created
  | decided (approved : Bool)
  | discovered
  deriving DecidableEq, Repr

inductive VendorWrite where
  | upserted (writer : VendorWriter) (v : Vendor)
  | deleted (tenantID domain : String)
  deriving DecidableEq, Repr

/-- The last decision about a vendor since it was created; the newest write comes first. -/
def lastDecision (tenantID domain : String) : List VendorWrite → Option Bool
  | [] => none
  | .upserted writer v :: ws =>
    if v.tenantID = tenantID ∧ v.domain = domain then
      match writer with
      | .created => none
      | .decided approved => some approved
      | .discovered => lastDecision tenantID domain ws
    else lastDecision tenantID domain ws
  | .deleted t d :: ws => if t = tenantID ∧ d = domain then none else lastDecision tenantID domain ws

structure VendorWorld where
  vendors : String → String → Option Vendor := fun _ _ => none
  journal : List VendorWrite := []

namespace VendorWorld

variable (w : VendorWorld)

/-- `Upsert`: the whole row, under its own key. -/
def put (writer : VendorWriter) (v : Vendor) : VendorWorld where
  vendors t d := if t = v.tenantID ∧ d = v.domain then some v else w.vendors t d
  journal := .upserted writer v :: w.journal

/-- `Delete`. -/
def remove (tenantID domain : String) : VendorWorld where
  vendors t d := if t = tenantID ∧ d = domain then none else w.vendors t d
  journal := .deleted tenantID domain :: w.journal

/-- Every row is under its own key. -/
def Keyed : Prop := ∀ t d v, w.vendors t d = some v → v.tenantID = t ∧ v.domain = d

/-- Every vendor is as it was last decided. -/
def Decided : Prop := ∀ t d approved, lastDecision t d w.journal = some approved →
  ∃ v, w.vendors t d = some v ∧ v.approved = approved

end VendorWorld

/-! ### Operations -/

/-- The calls of the handler and of the job. The job reads the clock, the tenants and their histories, and asks its
context whether it was cancelled. -/
inductive VendorOp where
  | getByDomain (tenantID domain : String)
  | upsert (writer : VendorWriter) (v : Vendor)
  | delete (tenantID domain : String)
  | now
  | iterateActive
  | ctxErr
  | listByTenant (tenantID : String) (since : ℤ)
  deriving DecidableEq, Repr

/-- The answers; `IterateActive` yields the tenants of its batches and ends with an error or without. -/
abbrev VendorOp.Ans : VendorOp → Type
  | getByDomain _ _ => Except RepoError Vendor
  | upsert _ _ => Option String
  | delete _ _ => Option String
  | now => ℤ
  | iterateActive => List String × Option String
  | ctxErr => Option String
  | listByTenant _ _ => Except String (List CommunicationHistory)

/-- What an operation meets: a failure, the instant, and what the job reads. -/
structure VendorEnv where
  fail : Option String := none
  clock : ℤ := 0
  tenants : List String := []
  rows : List CommunicationHistory := []

/-- What an operation does; one that fails does nothing. -/
def VendorOp.exec (o : VendorOp) (e : VendorEnv) (w : VendorWorld) : o.Ans × VendorWorld :=
  match o with
  | .getByDomain tenantID domain =>
    (match e.fail, w.vendors tenantID domain with
      | some err, _ => .error (.failed err)
      | none, some v => .ok v
      | none, none => .error .notFound, w)
  | .upsert writer v => (e.fail, if e.fail = none then w.put writer v else w)
  | .delete tenantID domain => (e.fail, if e.fail = none then w.remove tenantID domain else w)
  | .now => (e.clock, w)
  | .iterateActive => ((e.tenants, e.fail), w)
  | .ctxErr => (e.fail, w)
  | .listByTenant _ _ =>
    (match e.fail with
      | some err => .error err
      | none => .ok e.rows, w)

abbrev VendorM := Prog VendorOp VendorOp.Ans

/-! ### Requests -/

inductive VendorResponse where
  | error (status : ℕ) (message : String)
  | vendor (status : ℕ) (v : Vendor)
  | deleted
  deriving DecidableEq, Repr

/-- `vendorCreateRequest`. -/
structure VendorCreateRequest where
  tenantID : String
  domain : String
  displayName : String
  deriving DecidableEq, Repr

/-- A request of the API. A body that is not the expected JSON is `none`; `tenantID` is its only field where a vendor is
approved or revoked, and the query parameter where one is deleted. -/
structure VendorRequest where
  method : String
  path : String
  tenantID : Option String := none
  create : Option VendorCreateRequest := none
  deriving DecidableEq, Repr

/-- `VendorHandler`, with `strings.ToLower`. -/
structure VendorHandler where
  toLower : String → String

namespace VendorHandler

variable (h : VendorHandler)

/-- The domain in `/v1/vendors/{domain}`. -/
def domainOfPath (path : List Char) : String :=
  match GoStrings.split (String.ofList (GoStrings.trimPrefix path ['/'])) '/' with
  | p₀ :: p₁ :: p₂ :: _ => if p₀ = "v1" ∧ p₁ = "vendors" then h.toLower p₂ else ""
  | _ => ""

/-- `extractVendorDomain`. -/
def extractVendorDomain (path suffix : String) : String :=
  h.domainOfPath (GoStrings.trimSuffix path.toList suffix.toList)

/-- `extractVendorDomainForDelete`. -/
def extractVendorDomainForDelete (path : String) : String := h.domainOfPath path.toList

def serveCreate (r : VendorRequest) : VendorM VendorResponse := do
  if r.method ≠ "POST" then return .error 405 "method not allowed"
  else
    match r.create with
    | none => return .error 400 "invalid JSON"
    | some req =>
      if req.tenantID = "" ∨ req.domain = "" then return .error 400 "tenant_id and domain required"
      else
        let now ← Prog.perform VendorOp.now
        let v : Vendor := { tenantID := req.tenantID, domain := h.toLower req.domain, displayName := req.displayName
                            approved := false, autoDiscovered := false, confidence := 1, lastSeenAt := now }
        match ← Prog.perform (VendorOp.upsert .created v) with
        | some _ => return .error 500 "internal error"
        | none => return .vendor 201 v

/-- `ServeApprove` and `ServeRevoke`, which differ in the suffix of the path and in what they decide. -/
def serveDecision (suffix : String) (approved : Bool) (r : VendorRequest) : VendorM VendorResponse := do
  if r.method ≠ "PUT" then return .error 405 "method not allowed"
  else
    let domain := h.extractVendorDomain r.path suffix
    if domain = "" then return .error 400 "domain required in path"
    else
      match r.tenantID with
      | none => return .error 400 "invalid JSON"
      | some tenantID =>
        if tenantID = "" then return .error 400 "tenant_id required"
        else
          match ← Prog.perform (VendorOp.getByDomain tenantID domain) with
          | .error _ => return .error 404 "vendor not found"
          | .ok row =>
            match ← Prog.perform (VendorOp.upsert (.decided approved) { row with approved }) with
            | some _ => return .error 500 "internal error"
            | none => return .vendor 200 { row with approved }

def serveApprove : VendorRequest → VendorM VendorResponse := h.serveDecision "/approve" true

def serveRevoke : VendorRequest → VendorM VendorResponse := h.serveDecision "/revoke" false

def serveDelete (r : VendorRequest) : VendorM VendorResponse := do
  if r.method ≠ "DELETE" then return .error 405 "method not allowed"
  else
    let domain := h.extractVendorDomainForDelete r.path
    if domain = "" then return .error 400 "domain required in path"
    else
      match r.tenantID with
      | none => return .error 400 "tenant_id required"
      | some tenantID =>
        if tenantID = "" then return .error 400 "tenant_id required"
        else
          match ← Prog.perform (VendorOp.delete tenantID domain) with
          | some _ => return .error 500 "internal error"
          | none => return .deleted

end VendorHandler

end Sn360Es.Handler
