import Sn360Es.Action.Feedback

/-!
# The actions that follow a verdict (`cmd/sn360-es/consumers_action.go`)

`handleIngestionAction` renders the banner, with a token for its buttons, and asks for the four actions on the mailbox:
banner, link rewriting, quarantine and label. Each is an event of its own, which has a consumer of its own. What cannot
be rendered or published is logged. The bridge to the platform and the webhooks, which come last, are left out.
-/

namespace Sn360Es.Action

open Lib Privacy

/-- `BannerInput`, with the fields that the consumer sets. -/
structure BannerInput where
  tier : Option Tier
  primary : Option Category
  secondary : List Category
  reasonCodes : List String
  locale : String
  degraded : Bool
  actionToken : String := ""
  deriving DecidableEq, Repr

/-- The payloads of `es.action.banner`, `es.action.url_rewrite`, `es.action.quarantine` and `es.action.label`. -/
inductive ActionSignal where
  | banner (tenantID messageID correlationID : String) (tier : Option Tier) (html email : String)
  | urlRewrite (tenantID messageID correlationID : String) (tier : Option Tier) (email : String)
  | quarantine (tenantID messageID correlationID : String) (tier : Option Tier) (primary : Option Category) (score : ℤ)
      (email : String) (tier2Malicious : Bool)
  | label (tenantID messageID correlationID : String) (tier : Option Tier) (primary : Option Category) (email : String)
  deriving DecidableEq, Repr

def ActionSignal.subject : ActionSignal → String
  | banner .. => "es.action.banner"
  | urlRewrite .. => "es.action.url_rewrite"
  | quarantine .. => "es.action.quarantine"
  | label .. => "es.action.label"

/-- What the consumer has of the application. -/
structure VerdictActions where
  bannerRenderer : Option (BannerInput → Except String String) := none
  jwtIssuer : Option JWTIssuer := none
  defaultLocale : String := ""
  /-- Whether there is a rewriter. -/
  urlRewriter : Bool := false

namespace VerdictActions

variable (a : VerdictActions)

/-- The options of the token of a banner. -/
def bannerTokenOptions (res : EvaluateResult) : IssueOptions :=
  { tier := tierText res.tier, audience := [audienceActionFeedback] }

/-- The token of the banner; a banner without one has no buttons. `now` and `id` are those of `Issue`. -/
def bannerToken (now : ℤ) (id : String) (res : EvaluateResult) : Option String :=
  a.jwtIssuer.bind fun i => (i.issue now id res.tenantID res.messageID (bannerTokenOptions res)).toOption

def bannerInput (now : ℤ) (id : String) (res : EvaluateResult) : BannerInput :=
  { tier := res.tier, primary := res.primary, secondary := res.secondary, reasonCodes := res.reasonCodes
    locale := if a.defaultLocale = "" then "en" else a.defaultLocale
    degraded := res.degraded
    actionToken := (a.bannerToken now id res).getD "" }

/-- `res.Tier.Valid() && res.Tier != constant.TierTrusted`. -/
def isMarked (tier : Option Tier) : Bool := tier.any (· ≠ .trusted)

/-- The banner, if one is rendered. -/
def bannerSignal (now : ℤ) (id : String) (res : EvaluateResult) : List ActionSignal :=
  match a.bannerRenderer with
  | none => []
  | some render =>
    if isMarked res.tier then
      match render (a.bannerInput now id res) with
      | .error _ => []
      | .ok html => [.banner res.tenantID res.messageID res.correlationID res.tier html res.recipient]
    else []

def urlRewriteSignal (res : EvaluateResult) : List ActionSignal :=
  if a.urlRewriter ∧ res.tier.any Tier.allowsURLRewrite then
    [.urlRewrite res.tenantID res.messageID res.correlationID res.tier res.recipient]
  else []

def quarantineSignal (res : EvaluateResult) : List ActionSignal :=
  if res.tier = some .blocked then
    [.quarantine res.tenantID res.messageID res.correlationID res.tier res.primary res.score res.recipient
      (res.tier2.any Tier2Outcome.isMalicious)]
  else []

def labelSignal (res : EvaluateResult) : List ActionSignal :=
  if isMarked res.tier then
    [.label res.tenantID res.messageID res.correlationID res.tier res.primary res.recipient]
  else []

/-- `handleIngestionAction`: what it publishes, in this order. It returns no error. A payload that does not decode is
`none`. -/
def handleIngestionAction (now : ℤ) (id : String) : Option EvaluateResult → List ActionSignal
  | none => []
  | some res =>
    if res.messageID = "" ∨ res.tenantID = "" then []
    else a.bannerSignal now id res ++ a.urlRewriteSignal res ++ quarantineSignal res ++ labelSignal res

end VerdictActions

end Sn360Es.Action
