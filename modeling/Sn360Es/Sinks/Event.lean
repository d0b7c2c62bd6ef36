import Sn360Es.Dto
import Sn360Es.Lib.GoStrings
import Sn360Es.Lib.Hex

/-!
# The event of a verdict (`pkg/sinks/webhook/event.go`)

What a webhook tells of an evaluation. The tiers and categories are strings here, as in Go; the lower case of a
character is a parameter.
-/

namespace Sn360Es.Sinks

open Lib Lib.GoStrings

/-- `webhook.Event`. -/
structure Event where
  eventID : String := ""
  /-- Nanoseconds since the zero time. -/
  occurredAt : ℕ := 0
  tenantID : String
  messageID : String
  correlationID : String := ""
  score : ℤ := 0
  tier : String
  primary : String := ""
  secondary : List String := []
  reasonCodes : List String := []
  degraded : Bool := false
  degradedServices : List String := []
  finalVerdict : String := ""
  senderHashHex : String := ""
  recipientHashHex : String := ""
  test : Bool := false
  deriving DecidableEq, Repr

/-- `EventFromEvaluateResult`; the id is left to the caller. -/
def eventFromEvaluateResult (res : EvaluateResult) : Event where
  tenantID := res.tenantID
  messageID := res.messageID
  correlationID := res.correlationID
  occurredAt := res.evaluatedAt
  score := res.score
  tier := (res.tier.map Tier.name).getD ""
  primary := (res.primary.map Category.code).getD ""
  secondary := res.secondary.map Category.code
  reasonCodes := res.reasonCodes
  degraded := res.degraded
  degradedServices := res.degradedServices
  senderHashHex := Hex.encode res.senderHash
  recipientHashHex := Hex.encode res.recipientHash

/-- The tier of a name, if it is one: `Tier.Valid`. -/
def tierOf (name : String) : Option Tier := Tier.all.find? fun t => t.name = name

namespace Event

/-- `Validate`: the error, if there is one. -/
def validate (e : Event) : Except String Unit :=
  if trimSpace e.tenantID = "" then .error "webhook: event missing tenant_id"
  else if trimSpace e.messageID = "" then .error "webhook: event missing message_id"
  else if tierOf e.tier = none then .error "webhook: event tier invalid"
  else .ok ()

/-- `strings.ToLower`, of a table of characters. -/
def toLower (lower : Char → Char) (s : String) : String := String.ofList (s.toList.map lower)

/-- `Verdict`: the word of the analyst, if there is one. -/
def verdict (lower : Char → Char) (e : Event) : String :=
  let v := toLower lower (trimSpace e.finalVerdict)
  if v ≠ "" then v
  else
    match tierOf e.tier with
    | some .blocked | some .highRisk => "malicious"
    | some .warning | some .caution => "suspicious"
    | some .informational | some .trusted => "benign"
    | none => "unknown"

end Event

end Sn360Es.Sinks
