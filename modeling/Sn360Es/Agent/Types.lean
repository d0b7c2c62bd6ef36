import Sn360Es.Lib.Float64
import Sn360Es.Lib.GoStrings

/-!
# What the agents know of a tenant (`internal/service/agent/types.go`, `onboarding.go`)

The users and groups of a directory, and how sensitive a user is: as a classifier says, or by the words of the job
title, the department, the name and the groups.
-/

namespace Sn360Es.Agent

open Lib

/-- `Provider`, which is a string; `other` is one that is none of the constants. -/
inductive Provider where
  | google
  | microsoft
  | zoho
  | fastmail
  | workmail
  | unknown
  | other (name : String)
  deriving DecidableEq, Repr

def Provider.ofString (s : String) : Provider :=
  if s = "google_workspace" then google
  else if s = "microsoft_365" then microsoft
  else if s = "zoho_mail" then zoho
  else if s = "fastmail" then fastmail
  else if s = "amazon_workmail" then workmail
  else if s = "unknown" then unknown
  else other s

def Provider.name : Provider → String
  | google => "google_workspace"
  | microsoft => "microsoft_365"
  | zoho => "zoho_mail"
  | fastmail => "fastmail"
  | workmail => "amazon_workmail"
  | unknown => "unknown"
  | other name => name

/-- `Valid`. -/
def Provider.valid : Provider → Bool
  | other _ => false
  | _ => true

structure TenantContext where
  tenantID : String
  provider : Provider
  locale : String := ""
  startedAt : ℤ := 0
  deriving DecidableEq, Repr

/-- `Validate`. -/
def TenantContext.validate (c : TenantContext) : Option String :=
  if c.tenantID = "" then some "agent: tenant ID is required"
  else if !c.provider.valid then some "agent: provider is required"
  else none

inductive Sensitivity where
  | default
  | elevated
  | high
  | max
  | critical
  deriving DecidableEq, Repr

/-- The value of the constant. -/
def Sensitivity.rank : Sensitivity → ℕ
  | default => 0
  | elevated => 1
  | high => 2
  | max => 3
  | critical => 4

/-- `String`. -/
def Sensitivity.name : Sensitivity → String
  | elevated => "elevated"
  | high => "high"
  | max => "max"
  | critical => "critical"
  | default => "default"

/-- `DBTier`. -/
def Sensitivity.dbTier : Sensitivity → String
  | elevated => "elevated"
  | high | max => "executive"
  | critical => "critical"
  | default => "standard"

structure DiscoveredUser where
  id : String := ""
  email : String
  displayName : String := ""
  department : String := ""
  jobTitle : String := ""
  isAdmin : Bool := false
  isSuspended : Bool := false
  groupIDs : List String := []
  sensitivityHint : Sensitivity := .default
  sensitivityConfidence : Float64 := 0
  needsAdminReview : Bool := false
  deriving DecidableEq, Repr

structure DiscoveredGroup where
  id : String
  name : String
  description : String := ""
  deriving DecidableEq, Repr

structure UserClassifyInput where
  jobTitle : String
  department : String
  displayName : String
  groupNames : List String
  isAdmin : Bool
  deriving DecidableEq, Repr

structure ClassifyResult where
  sensitivity : Sensitivity
  confidence : Float64
  needsReview : Bool := false
  deriving DecidableEq, Repr

/-! ### Sensitivity by keywords -/

/-- `normalizeHaystack`. -/
def normalizeHaystack (s : String) : String :=
  String.ofList (s.toList.map fun c =>
    if c ∈ [',', '/', '.', '-', ':', ';', '(', ')', '[', ']', '|'] then ' ' else c)

/-- `containsAny`. -/
def containsAny (haystack : String) (needles : List String) : Bool := needles.any (GoStrings.contains haystack)

/-- The cases of `ClassifyUserSensitivity`, the first one that applies first. -/
def sensitivityRules : List (List String × Sensitivity) :=
  [(["database administrator", "dba ", "domain admin", "sysadmin", "system administrator", "cloud administrator",
      "infrastructure engineer", "sre lead", "devops lead", "root access", "security administrator",
      "platform engineer", "network administrator"], .critical),
    (["ceo", "cfo", " coo ", " cto ", "ciso", "founder", "chief executive", "chief financial", "chief operating",
      "chief technology", "owner"], .max),
    (["finance", "treasury", "accounts payable", "accounts receivable", "controller", "bookkeep"], .high),
    (["human resources", "people ops", " legal", "compliance", "general counsel"], .high),
    (["security engineer", "security analyst", "cloud engineer", "network engineer", "data engineer",
      "site reliability engineer"], .high),
    (["mergers and acquisitions", "m&a", "corporate development", "corp dev", "investor relations",
      "board secretary", "corporate strategy"], .high),
    (["doctor", "physician", "surgeon", "medical director", "chief medical", "pharmacist", "clinical director",
      "medical records", "health information", "chief nursing", "nurse manager"], .high),
    (["research director", "r&d", "patent", "intellectual property", "chief scientist", "data scientist",
      "ml engineer"], .high),
    (["devops engineer", "devops", "junior dba", "help desk manager", "it support lead"], .elevated),
    (["nurse", "lab technician", "radiologist", "physical therapist", "clinical research",
      "clinical coordinator"], .elevated),
    (["paralegal", "litigation support", "privacy officer", "data protection officer"], .elevated),
    (["sales director", "account executive", "customer success", "customer data"], .elevated),
    (["executive assistant", "admin assistant", "office manager"], .elevated),
    (["procurement", "vendor management", "supplier"], .elevated)]

/-- `indexGroups`: the last group with an id is the one that is found. -/
def findGroup (groups : List DiscoveredGroup) (id : String) : Option DiscoveredGroup :=
  groups.reverse.find? (·.id = id)

/-- The names of the groups that a user is in, of those that are known. -/
def groupNames (groups : List DiscoveredGroup) (u : DiscoveredUser) : List String :=
  u.groupIDs.filterMap fun id => (findGroup groups id).map (·.name)

/-- `ClassifyUserSensitivity`, with `strings.ToLower`. -/
def classifyUserSensitivity (toLower : String → String) (groups : List DiscoveredGroup) (u : DiscoveredUser) :
    Sensitivity :=
  let hay := " " ++ normalizeHaystack (toLower (u.jobTitle ++ " " ++ u.department ++ " " ++ u.displayName)) ++ " "
  let hay := (groupNames groups u).foldl (fun hay name => hay ++ (normalizeHaystack (toLower name) ++ " ")) hay
  ((sensitivityRules.find? fun r => containsAny hay r.1).map Prod.snd).getD .default

end Sn360Es.Agent
