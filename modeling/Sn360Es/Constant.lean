import Mathlib.Data.List.Basic

/-!
# Categories and tiers (`internal/constant`)

The two vocabularies of a verdict. Go keeps both as string newtypes; the empty string of a field that
was never set is `none` at the places where it can occur.
-/

namespace Sn360Es

inductive Category where
  | likelyPhishing
  | becImpersonation
  | lookalikeDomain
  | suspiciousURL
  | suspiciousAttachment
  | firstContactExternal
  | accountTakeoverSuspected
  | vendorCompromise
  | credentialHarvesting
  | invoiceFraud
  | qrPhishing
  | scamFraud
  | authFailed
  | internalTrusted
  | vendorTrusted
  | newsletter
  deriving DecidableEq, Repr

namespace Category

def code : Category → String
  | likelyPhishing => "LIKELY_PHISHING"
  | becImpersonation => "BEC_IMPERSONATION"
  | lookalikeDomain => "LOOKALIKE_DOMAIN"
  | suspiciousURL => "SUSPICIOUS_URL"
  | suspiciousAttachment => "SUSPICIOUS_ATTACHMENT"
  | firstContactExternal => "FIRST_CONTACT_EXTERNAL"
  | accountTakeoverSuspected => "ACCOUNT_TAKEOVER_SUSPECTED"
  | vendorCompromise => "VENDOR_COMPROMISE"
  | credentialHarvesting => "CREDENTIAL_HARVESTING"
  | invoiceFraud => "INVOICE_FRAUD"
  | qrPhishing => "QR_PHISHING"
  | scamFraud => "SCAM_FRAUD"
  | authFailed => "AUTH_FAILED"
  | internalTrusted => "INTERNAL_TRUSTED"
  | vendorTrusted => "VENDOR_TRUSTED"
  | newsletter => "NEWSLETTER"

/-- `AllCategories`, in the order that breaks ties in the categoriser. -/
def all : List Category :=
  [likelyPhishing, becImpersonation, lookalikeDomain, suspiciousURL, suspiciousAttachment,
    firstContactExternal, accountTakeoverSuspected, vendorCompromise, credentialHarvesting,
    invoiceFraud, qrPhishing, scamFraud, authFailed, internalTrusted, vendorTrusted, newsletter]

def isBenign : Category → Bool
  | internalTrusted | vendorTrusted | newsletter => true
  | _ => false

def isHighSeverity : Category → Bool
  | likelyPhishing | becImpersonation | accountTakeoverSuspected | vendorCompromise | credentialHarvesting
  | invoiceFraud => true
  | _ => false

/-- The position of a category in `AllCategories`. -/
def order (c : Category) : ℕ := all.idxOf c

lemma mem_all (c : Category) : c ∈ all := by cases c <;> decide

lemma order_injective : Function.Injective order := fun a _ h =>
  (List.idxOf_inj (mem_all a)).mp h

end Category

inductive Tier where
  | blocked
  | highRisk
  | warning
  | caution
  | informational
  | trusted
  deriving DecidableEq, Repr

namespace Tier

def name : Tier → String
  | blocked => "Blocked"
  | highRisk => "HighRisk"
  | warning => "Warning"
  | caution => "Caution"
  | informational => "Informational"
  | trusted => "Trusted"

/-- `AllTiers`, from most to least severe. -/
def all : List Tier := [blocked, highRisk, warning, caution, informational, trusted]

def severity : Tier → ℕ
  | blocked => 5
  | highRisk => 4
  | warning => 3
  | caution => 2
  | informational => 1
  | trusted => 0

def isBlocking (t : Tier) : Bool := t = blocked

def allowsURLRewrite (t : Tier) : Bool := t = blocked || t = highRisk

def labelName (t : Tier) : String := "SN360 / " ++ t.name

lemma mem_all (t : Tier) : t ∈ all := by cases t <;> decide

end Tier

end Sn360Es
