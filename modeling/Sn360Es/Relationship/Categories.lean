import Mathlib.Data.Rat.Defs
import Mathlib.Algebra.Order.Field.Rat
import Sn360Es.Dto
import Sn360Es.Lib.GoStrings
import Sn360Es.Lib.GoTime

/-!
# Relationship categories (`internal/service/relationship/categories.go`)

`Classify` with the default configuration, from the counts and instants of a summary.
-/

namespace Sn360Es.Relationship

open Lib

/-- `CommunicationSummary`, less the domain of the recipient and the number of senders and recipients. -/
structure CommunicationSummary where
  senderDomain : String
  inboundCount : ℤ
  outboundCount : ℤ := 0
  lastSeen : ℤ
  deriving DecidableEq, Repr

def CommunicationSummary.validate (c : CommunicationSummary) : Option String :=
  if GoStrings.trimSpace c.senderDomain = "" then some "relationship: sender_domain is required"
  else if c.inboundCount < 0 ∨ c.outboundCount < 0 then some "relationship: counts must be >= 0"
  else none

/-- The text of a category. -/
def categoryText : RelationshipCategory → String
  | .unknown => ""
  | .partner => "Partner"
  | .customer => "Customer"
  | .firstTimeExternal => "FirstTimeExternal"
  | .lapsedContact => "LapsedContact"
  | .recurringService => "RecurringService"
  | .other s => s

/-- `DefaultClassifyConfig.RecurringPrefixes`. -/
def recurringLocalParts : List String :=
  ["noreply", "no-reply", "donotreply", "do-not-reply", "mailer-daemon", "postmaster", "notifications"]

/-- `isRecurring`, for local parts that are in lower case. -/
def isRecurring (toLower : String → String) (localPart : String) : Bool :=
  if localPart = "" then false
  else
    let lower := toLower (GoStrings.trimSpace localPart)
    recurringLocalParts.any fun p => lower = p || (p ++ "-").toList <+: lower.toList

/-- `DefaultClassifyConfig.LapsedAfter`: 30 days. -/
def lapsedAfter : ℤ := 30 * 24 * 3600 * GoTime.second

/-- `Classifier.Classify`. -/
def classify (toLower : String → String) (now : ℤ) (localPart : String) (sum : CommunicationSummary) :
    Except String RelationshipCategory :=
  match sum.validate with
  | some err => .error err
  | none =>
    if isRecurring toLower localPart then .ok .recurringService
    else if sum.inboundCount = 0 ∧ sum.outboundCount = 0 then .ok .firstTimeExternal
    else if sum.lastSeen ≠ 0 ∧ lapsedAfter ≤ now - sum.lastSeen then .ok .lapsedContact
    else if 5 ≤ sum.inboundCount ∧ 5 ≤ sum.outboundCount then .ok .partner
    else
      let total := sum.inboundCount + sum.outboundCount
      if 0 < total ∧ (4 / 5 : ℚ) ≤ sum.inboundCount / total ∧ 0 < sum.inboundCount then .ok .customer
      else .ok .unknown

end Sn360Es.Relationship
