import Sn360Es.Constant
import Sn360Es.Lib.Float64

/-!
# Data-transfer objects (`internal/dto`)

The request, its risk signals, the per-tier outcomes and the verdict. A pointer field of the source is an
`Option`; a category or tier field whose zero value `""` can be published is one too.
-/

namespace Sn360Es

open Lib (Float64)

/-- `RelationshipCategory`. The producer is free to send a value outside the vocabulary. -/
inductive RelationshipCategory where
  | unknown
  | partner
  | customer
  | firstTimeExternal
  | lapsedContact
  | recurringService
  | other (s : String)
  deriving DecidableEq, Repr

structure RiskSignals where
  isExternal : Bool := false
  isInternal : Bool := false
  isFromVendor : Bool := false
  isFreeDomain : Bool := false
  isDisposableDomain : Bool := false
  recipientIsFreeDomain : Bool := false
  recipientIsDisposableDomain : Bool := false
  isHighVolumeSender : Bool := false
  isRecurringService : Bool := false
  hasAttachment : Bool := false
  hasSuspiciousURL : Bool := false
  hasSuspiciousAttachment : Bool := false
  hasLookalikeDomain : Bool := false
  hasFailedAuth : Bool := false
  hasQuotaSpike : Bool := false
  hasQRCode : Bool := false
  hasInvoiceHint : Bool := false
  hasCredentialLex : Bool := false
  authFailed : Bool := false
  looksLikeAccountTakeover : Bool := false
  looksLikeVendorCompromise : Bool := false
  relationshipCategory : RelationshipCategory := .unknown
  spfResult : String := ""
  dkimResult : String := ""
  dmarcResult : String := ""
  senderDomain : String := ""
  recipientDomain : String := ""
  senderSensitivity : String := ""
  communicationFrequency : ℤ := 0
  typicalSendHour : Option ℤ := none
  currentHourUTC : ℤ := 0
  isFirstContact : Bool := false
  deriving DecidableEq, Repr

namespace RiskSignals

def anyAuthFailed (r : RiskSignals) : Bool :=
  r.hasFailedAuth || r.spfResult == "fail" || r.dkimResult == "fail" || r.dmarcResult == "fail"

def forceEscalate (r : RiskSignals) : Bool :=
  r.relationshipCategory = .firstTimeExternal || r.relationshipCategory = .lapsedContact

def lowerTier1Threshold (r : RiskSignals) : Bool :=
  r.relationshipCategory = .partner || r.relationshipCategory = .customer

end RiskSignals

structure EvaluateRequest where
  messageID : String
  tenantID : String := ""
  correlationID : String := ""
  sender : String := ""
  recipient : String := ""
  cc : List String := []
  subject : String := ""
  body : String := ""
  rawBodyHash : String := ""
  normalisedHash : String := ""
  signals : RiskSignals := {}
  locale : String := ""
  /-- `ReceivedAt`; `0` is the zero time. -/
  receivedAt : ℤ := 0
  deriving DecidableEq, Repr

structure TIMatch where
  indicator : String
  indicatorType : String
  feedID : String
  feedName : String
  severity : ℤ
  tags : List String := []
  additionalFeeds : List String := []
  deriving DecidableEq, Repr

structure Tier0Outcome where
  bypass : Bool := false
  reason : String := ""
  forcedCategory : Option Category := none
  skipML : Bool := false
  rspamdOnly : Bool := false
  forceEscalate : Bool := false
  tier1ThresholdOverride : ℤ := 0
  tiMatch : Option TIMatch := none
  deriving DecidableEq, Repr

structure Tier1Outcome where
  score : ℤ := 0
  confidence : Float64 := 0
  language : String := ""
  modelName : String := ""
  pass : Bool := false
  flag : Bool := false
  escalate : Bool := false
  latencyMs : ℤ := 0
  reasonCodes : List String := []
  deriving DecidableEq, Repr

/-- `Tier2Outcome`. `categories` went through `MapCategories`, which drops unknown labels and keeps
repetitions. -/
structure Tier2Outcome where
  score : ℤ := 0
  categories : List Category := []
  explanation : String := ""
  confidence : Float64 := 0
  modelName : String := ""
  latencyMs : ℤ := 0
  deriving DecidableEq, Repr

/-- `IsMalicious`. -/
def Tier2Outcome.isMalicious (t : Tier2Outcome) : Bool := t.categories.any Category.isHighSeverity

structure RspamdOutcome where
  score : Float64 := 0
  threshold : Float64 := 0
  action : String := ""
  latencyMs : ℤ := 0
  deriving DecidableEq, Repr

structure EvaluateResult where
  messageID : String := ""
  tenantID : String := ""
  correlationID : String := ""
  /-- `EvaluatedAt`; `0` is the zero time. -/
  evaluatedAt : ℕ := 0
  score : ℤ := 0
  tier : Option Tier := none
  primary : Option Category := none
  secondary : List Category := []
  tier0 : Option Tier0Outcome := none
  tier1 : Option Tier1Outcome := none
  tier2 : Option Tier2Outcome := none
  rspamd : Option RspamdOutcome := none
  linkScore : Option ℤ := none
  attachmentScore : Option ℤ := none
  reasonCodes : List String := []
  degraded : Bool := false
  degradedServices : List String := []
  recipient : String := ""
  senderHash : List UInt8 := []
  recipientHash : List UInt8 := []
  deriving DecidableEq, Repr

/-- `BackfillRoutingFields`: only what the result left empty is taken from the request. -/
def backfillRoutingFields (now : ℕ) (res : EvaluateResult) (req : EvaluateRequest) :
    EvaluateResult :=
  { res with
    messageID := if res.messageID = "" then req.messageID else res.messageID
    tenantID := if res.tenantID = "" then req.tenantID else res.tenantID
    correlationID := if res.correlationID = "" then req.correlationID else res.correlationID
    evaluatedAt := if res.evaluatedAt = 0 then now else res.evaluatedAt
    recipient := if res.recipient = "" then req.recipient else res.recipient }

end Sn360Es
