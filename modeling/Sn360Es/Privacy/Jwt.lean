import Sn360Es.Lib.Fields
import Sn360Es.Lib.GoStrings

/-!
# Action tokens (`pkg/privacy/jwt.go`)

Issuing and verifying the signed tokens of the action layer. The JWT library is a parameter: `sign` for
`SignedString`, `parse` for `ParseWithClaims` with the issuer's options, at a given time. Times are seconds.
-/

namespace Sn360Es.Privacy

open Lib

def scopeBannerAction : String := "banner_action"
def scopeQuarantineRelease : String := "quarantine_release"
def scopeAdminAPI : String := "admin_api"

structure ActionClaims where
  tenantID : String
  pseudonymizedMessage : String
  tier : String := ""
  action : String := ""
  originalURLHash : String := ""
  scope : String := ""
  recipientUserHash : String := ""
  role : String := ""
  id : String
  issuer : String
  audience : List String := []
  expiresAt : ℤ
  notBefore : ℤ
  issuedAt : ℤ
  deriving DecidableEq, Repr

structure IssueOptions where
  ttl : ℤ := 0
  tier : String := ""
  action : String := ""
  urlHash : String := ""
  scope : String := ""
  recipientUserHash : String := ""
  role : String := ""
  audience : List String := []
  deriving DecidableEq, Repr

/-- What the library returns for a token it rejects: the error, and the claims if it got that far. -/
structure ParseFailure where
  claims : Option ActionClaims := none
  expired : Bool := false
  err : String
  deriving DecidableEq, Repr

/-- `JWTIssuer`. -/
structure JWTIssuer where
  issuer : String := "sn360-es"
  ttl : ℤ := 7 * 24 * 3600
  sign : ActionClaims → Except String String
  parse : ℤ → String → Except ParseFailure ActionClaims

structure VerifyOptions where
  allowedScopes : List String := []
  expectedAudience : String := ""
  deriving DecidableEq, Repr

/-- `EffectiveScope`. -/
def effectiveScope (scope : String) : String := if scope = "" then scopeBannerAction else scope

/-- `scopeAllowed`. -/
def scopeAllowed (scope : String) (allowed : List String) : Bool :=
  allowed.any fun a => effectiveScope a = scope

/-- `audienceAllowed`. -/
def audienceAllowed (aud : List String) (want : String) : Bool := aud = [] || want ∈ aud

namespace JWTIssuer

variable (i : JWTIssuer)

/-- The claims that `Issue` signs; `now` and `id` are the clock and the fresh UUID of the call. -/
def claimsFor (now : ℤ) (id tenantID pseudoMessageID : String) (opts : IssueOptions) : ActionClaims :=
  let ttl := if opts.ttl ≤ 0 then i.ttl else opts.ttl
  { tenantID
    pseudonymizedMessage := pseudoMessageID
    tier := opts.tier
    action := opts.action
    originalURLHash := opts.urlHash
    scope := opts.scope
    recipientUserHash := opts.recipientUserHash
    role := opts.role
    id
    issuer := i.issuer
    audience := opts.audience
    expiresAt := now + ttl
    notBefore := now - 60
    issuedAt := now }

/-- `JWTIssuer.Issue`. -/
def issue (now : ℤ) (id tenantID pseudoMessageID : String) (opts : IssueOptions) :
    Except String String :=
  if tenantID = "" then .error "privacy/jwt: tenantID is required"
  else if pseudoMessageID = "" then .error "privacy/jwt: pseudoMessageID is required"
  else
    match i.sign (i.claimsFor now id tenantID pseudoMessageID opts) with
    | .error err => .error ("privacy/jwt: sign: " ++ err)
    | .ok signed => .ok signed

/-- `VerifyDetail`. -/
def verifyDetail (now : ℤ) (token : String) : Except ParseFailure ActionClaims :=
  if token = "" then .error { err := "privacy/jwt: token is required" }
  else
    match i.parse now token with
    | .error f => .error { f with err := "privacy/jwt: parse: " ++ f.err }
    | .ok claims => .ok claims

/-- `VerifyDetailWithOptions`. -/
def verifyDetailWithOptions (now : ℤ) (token : String) (opts : VerifyOptions) :
    Except ParseFailure ActionClaims :=
  match i.verifyDetail now token with
  | .error f => .error f
  | .ok claims =>
    if opts.allowedScopes ≠ [] ∧ !scopeAllowed (effectiveScope claims.scope) opts.allowedScopes then
      .error { claims := some claims, err := "privacy/jwt: token scope not permitted: have \"" ++
        effectiveScope claims.scope ++ "\"" }
    else if opts.expectedAudience ≠ "" ∧ !audienceAllowed claims.audience opts.expectedAudience then
      .error { claims := some claims, err := "privacy/jwt: token audience not permitted: want \"" ++
        opts.expectedAudience ++ "\"" }
    else .ok claims

/-- `VerifyWithOptions`. -/
def verifyWithOptions (now : ℤ) (token : String) (opts : VerifyOptions) :
    Except String ActionClaims :=
  match i.verifyDetailWithOptions now token opts with
  | .error f => .error f.err
  | .ok claims => .ok claims

/-- What the issuer relies on in the library: signing works, and a signed token parses to its claims as long
as it is valid. -/
structure Sound : Prop where
  sign : ∀ c, ∃ tok, i.sign c = .ok tok ∧ tok ≠ ""
  parse : ∀ c tok now, i.sign c = .ok tok → c.issuer = i.issuer → c.notBefore ≤ now →
    now < c.expiresAt → i.parse now tok = .ok c

/-- What else it relies on: a signed token is refused outside of its validity. -/
def Strict : Prop := ∀ c tok now, i.sign c = .ok tok → now < c.notBefore ∨ c.expiresAt ≤ now →
  ∃ f, i.parse now tok = .error f

variable {i}

/-- What `Issue` returns is the signature of its claims. -/
lemma sign_of_issue {now : ℤ} {id tenantID pmid tok : String} {opts : IssueOptions}
    (htok : i.issue now id tenantID pmid opts = .ok tok) :
    tenantID ≠ "" ∧ pmid ≠ "" ∧ i.sign (i.claimsFor now id tenantID pmid opts) = .ok tok := by
  unfold issue at htok
  split_ifs at htok with htenant hpmid
  split at htok
  · cases htok
  · next signed hsigned =>
    cases htok
    exact ⟨htenant, hpmid, hsigned⟩

lemma Sound.signed_ne (h : i.Sound) {c : ActionClaims} {tok : String} (hsign : i.sign c = .ok tok) : tok ≠ "" := by
  obtain ⟨tok', htok', hne⟩ := h.sign c
  cases hsign.symm.trans htok'
  exact hne

/-- **Issue, then verify.** A token that is still valid gives back its claims at an endpoint that allows its
scope and asks for no audience. -/
theorem verify_issue (h : i.Sound) {now now' : ℤ} {id tenantID pmid tok : String} {opts : IssueOptions}
    {scopes : List String} (htok : i.issue now id tenantID pmid opts = .ok tok)
    (hlo : now - 60 ≤ now') (hhi : now' < (i.claimsFor now id tenantID pmid opts).expiresAt)
    (hscope : scopeAllowed (effectiveScope opts.scope) scopes = true) :
    i.verifyWithOptions now' tok { allowedScopes := scopes } =
      .ok (i.claimsFor now id tenantID pmid opts) := by
  set c := i.claimsFor now id tenantID pmid opts with hc
  have hsign : i.sign c = .ok tok := (sign_of_issue htok).2.2
  have hne : tok ≠ "" := h.signed_ne hsign
  have hparse : i.parse now' tok = .ok c := h.parse c tok now' hsign rfl hlo hhi
  have hscope' : scopeAllowed (effectiveScope c.scope) scopes = true := hscope
  simp [verifyWithOptions, verifyDetailWithOptions, verifyDetail, hne, hparse, hscope']

end JWTIssuer

/-! ### Tokens in the clear -/

/-- The claims as a list of fields. -/
def ActionClaims.fields (c : ActionClaims) : List (List Char) :=
  [c.tenantID.toList, c.pseudonymizedMessage.toList, c.tier.toList, c.action.toList,
    c.originalURLHash.toList, c.scope.toList, c.recipientUserHash.toList, c.role.toList, c.id.toList,
    c.issuer.toList, Fields.writeInt c.expiresAt, Fields.writeInt c.notBefore,
    Fields.writeInt c.issuedAt] ++ c.audience.map String.toList

def ActionClaims.ofFields : List (List Char) → Option ActionClaims
  | tid :: pmid :: tier :: act :: urlh :: scp :: ruh :: role :: id :: iss :: exp :: nbf :: iat :: aud =>
    some
      { tenantID := .ofList tid, pseudonymizedMessage := .ofList pmid, tier := .ofList tier
        action := .ofList act, originalURLHash := .ofList urlh, scope := .ofList scp
        recipientUserHash := .ofList ruh, role := .ofList role, id := .ofList id, issuer := .ofList iss
        expiresAt := Fields.readInt exp, notBefore := Fields.readInt nbf
        issuedAt := Fields.readInt iat, audience := aud.map .ofList }
  | _ => none

lemma ActionClaims.ofFields_fields (c : ActionClaims) : ActionClaims.ofFields c.fields = some c := by
  have haud : (c.audience.map String.toList).map String.ofList = c.audience := by
    simp [Function.comp_def]
  simp only [ActionClaims.fields, ActionClaims.ofFields, List.cons_append, List.nil_append,
    Fields.readInt_writeInt, String.ofList_toList, haud]

/-- An issuer whose tokens are the claims in the clear, with the checks of the library. -/
def plainIssuer : JWTIssuer where
  sign := fun c => .ok (String.ofList (Fields.write c.fields))
  parse := fun now tok =>
    match ActionClaims.ofFields (Fields.read tok.toList) with
    | none => .error { err := "token is malformed" }
    | some c =>
      if c.issuer ≠ "sn360-es" then .error { claims := some c, err := "token has invalid issuer" }
      else if now < c.notBefore then .error { claims := some c, err := "token is not valid yet" }
      else if c.expiresAt ≤ now then
        .error { claims := some c, expired := true, err := "token is expired" }
      else .ok c

lemma plainIssuer_sound : plainIssuer.Sound where
  sign := fun c => by
    refine ⟨_, rfl, fun h => ?_⟩
    have hnil := congrArg String.toList h
    simp [ActionClaims.fields, Fields.write] at hnil
  parse := fun c tok now hsign hiss hlo hhi => by
    cases hsign
    have hissuer : c.issuer = "sn360-es" := hiss
    simp only [plainIssuer, String.toList_ofList, Fields.read_write, ActionClaims.ofFields_fields]
    rw [if_neg (not_not.mpr hissuer), if_neg (not_lt.mpr hlo), if_neg (not_le.mpr hhi)]

lemma plainIssuer_strict : plainIssuer.Strict := by
  intro c tok now hsign hout
  cases hsign
  simp only [plainIssuer, String.toList_ofList, Fields.read_write, ActionClaims.ofFields_fields]
  split
  · exact ⟨_, rfl⟩
  · split
    · exact ⟨_, rfl⟩
    · next hlo =>
      rw [if_pos (hout.resolve_left hlo)]
      exact ⟨_, rfl⟩

lemma trimSpace_plainIssuer {c : ActionClaims} {tok : String} (hsign : plainIssuer.sign c = .ok tok) :
    GoStrings.trimSpace tok = tok := by
  obtain rfl := Except.ok.inj hsign
  have hfields : c.fields ≠ [] := by simp [ActionClaims.fields]
  obtain ⟨f, fs, hcons⟩ := List.exists_cons_of_ne_nil hfields
  refine GoStrings.trimSpace_eq_self (fun a ha => ?_) fun a ha => ?_
  · rw [hcons] at ha
    rcases Fields.head_write f fs with hhead | hhead
    · rw [hhead] at ha
      obtain rfl := Option.some.inj ha
      decide
    · rw [hhead] at ha
      obtain rfl := Option.some.inj ha
      decide
  · rw [Fields.getLast_write hfields] at ha
    obtain rfl := Option.some.inj ha
    decide

end Sn360Es.Privacy
