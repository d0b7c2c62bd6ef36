import Sn360Es.Lib.GoStrings
import Sn360Es.Onboarding.TokenStore

/-!
# Onboarding (`internal/service/onboarding/oauth.go`, `post_consent_validator.go`, `internal/handler/onboarding.go`)

`AuthURL` signs a state for a tenant and a provider, with which the browser comes back from the provider.
`HandleCallback` takes the tenant from the state, exchanges the code for a token, asks the provider about the token, and
stores it. `TokenFor` loads a token and refreshes it, and `Revoke` deletes it.

The encoding of the state and its MAC, the exchange of codes and the answers of the providers are parameters. The
trigger that starts the onboarding agent is left out.
-/

namespace Sn360Es.Onboarding

open Lib

def providerGoogle : String := "google_workspace"
def providerMicrosoft : String := "microsoft_365"
def providerZoho : String := "zoho_mail"
def providerFastmail : String := "fastmail"
def providerWorkmail : String := "amazon_workmail"

structure ProviderConfig where
  clientID : String
  clientSecret : String
  authURL : String
  tokenURL : String
  scopes : List String
  redirectURL : String
  deriving DecidableEq, Repr

/-! ### States -/

structure StatePayload where
  tenantID : String
  provider : String
  nonce : String := ""
  issuedAt : ℤ := 0
  expiresAt : ℤ := 0
  deriving DecidableEq, Repr

/-- `StateSigner`: `encode` is `json.Marshal` in base64, whose alphabet has no dot, and `mac` the MAC in hex. -/
structure StateSigner where
  encode : StatePayload → String
  decode : String → Except String StatePayload
  mac : String → String
  decode_encode : ∀ p, decode (encode p) = .ok p
  dot_notin : ∀ p, '.' ∉ (encode p).toList

namespace StateSigner

variable (s : StateSigner)

/-- The payload that `Sign` completes: with a nonce, the time, and ten minutes. -/
def complete (p : StatePayload) (now : ℤ) (nonce : String) : StatePayload :=
  let issuedAt := if p.issuedAt = 0 then now else p.issuedAt
  { p with nonce, issuedAt, expiresAt := if p.expiresAt = 0 then issuedAt + 600 else p.expiresAt }

/-- `Sign`; `entropy` are the bytes of the nonce. -/
def sign (p : StatePayload) (now : ℤ) (entropy : Except String Bytes) : Except String String :=
  match if p.nonce = "" then entropy.map Hex.encode else .ok p.nonce with
  | .error err => .error err
  | .ok nonce => .ok (s.encode (complete p now nonce) ++ "." ++ s.mac (s.encode (complete p now nonce)))

/-- `Verify`. -/
def verify (token : String) (now : ℤ) : Except String StatePayload :=
  match GoStrings.beforeFirst '.' token, GoStrings.afterFirst '.' token with
  | some enc, some mac =>
    if mac ≠ s.mac enc then .error "onboarding: state HMAC mismatch"
    else
      match s.decode enc with
      | .error err => .error ("onboarding: state " ++ err)
      | .ok p => if 0 < p.expiresAt ∧ p.expiresAt < now then .error "onboarding: state expired" else .ok p
  | _, _ => .error "onboarding: invalid state format"

variable {s}

/-- A state that was signed is verified to its own payload. -/
lemma verify_sign {p q : StatePayload} {now now' : ℤ} {entropy : Except String Bytes} {tok : String}
    (hsign : s.sign p now entropy = .ok tok) (hverify : s.verify tok now' = .ok q) :
    ∃ nonce, q = complete p now nonce := by
  unfold sign at hsign
  split at hsign
  · cases hsign
  · next nonce _ =>
    obtain rfl := Except.ok.inj hsign
    refine ⟨nonce, ?_⟩
    set enc := s.encode (complete p now nonce) with henc
    rw [verify, GoStrings.beforeFirst_append rfl (s.dot_notin _),
      GoStrings.afterFirst_append rfl (s.dot_notin _)] at hverify
    simp only [ne_eq, not_true_eq_false, if_false, henc, s.decode_encode] at hverify
    split at hverify
    · cases hverify
    · exact (Except.ok.inj hverify).symm

/-- A state is verified for ten minutes. -/
lemma verify_of_sign {p : StatePayload} {now now' : ℤ} {nonce : String} (hnow : now' ≤ (complete p now nonce).expiresAt) :
    s.verify (s.encode (complete p now nonce) ++ "." ++ s.mac (s.encode (complete p now nonce))) now' =
      .ok (complete p now nonce) := by
  rw [verify, GoStrings.beforeFirst_append rfl (s.dot_notin _),
      GoStrings.afterFirst_append rfl (s.dot_notin _)]
  simp only [ne_eq, not_true_eq_false, if_false, s.decode_encode]
  exact if_neg fun h => by omega

end StateSigner

/-! ### The check after the consent -/

/-- An answer of a provider: the status, the first bytes of the body, and what it decodes to. -/
structure Reply (α : Type) where
  status : ℕ
  text : String := ""
  body : Except String α

/-- An organisation in the answer of Zoho. -/
structure ZohoOrg where
  zoid : String := ""
  orgID : String := ""
  orgIDAlt : String := ""
  deriving DecidableEq, Repr

/-- `HTTPPostConsentValidator`, with the answers of the providers to a token. -/
structure HTTPPostConsentValidator where
  gwsDomain : String := ""
  zohoExpectedOrgID : String := ""
  /-- The users of a domain. -/
  googleUsers : (accessToken domain : String) → Except String (Reply Unit)
  /-- The ids of the organisations. -/
  graphOrganization : (accessToken : String) → Except String (Reply (List String))
  zohoOrganization : (accessToken : String) → Except String (Reply (List ZohoOrg))

namespace HTTPPostConsentValidator

variable (v : HTTPPostConsentValidator)

def statusError (label : String) {α : Type} (r : Reply α) : String :=
  "onboarding: " ++ label ++ " validation failed (status " ++ toString r.status ++ "): " ++ r.text

/-- The domain that `validateGoogle` asks for. -/
def googleDomain (tenantID : String) : String := if v.gwsDomain = "" then tenantID else v.gwsDomain

def validateGoogle (token : Token) (tenantID : String) : Option String :=
  match v.googleUsers token.accessToken (v.googleDomain tenantID) with
  | .error err => some ("onboarding: google domain validation request failed: " ++ err)
  | .ok r => if r.status ≠ 200 then some (statusError "google domain" r) else none

def validateMicrosoft (token : Token) (tenantID : String) : Option String :=
  match v.graphOrganization token.accessToken with
  | .error err => some ("onboarding: microsoft org validation request failed: " ++ err)
  | .ok r =>
    if r.status ≠ 200 then some (statusError "microsoft org" r)
    else
      match r.body with
      | .error err => some ("onboarding: decode org response: " ++ err)
      | .ok ids =>
        if tenantID ∈ ids then none
        else some ("onboarding: token tenant mismatch — expected \"" ++ tenantID ++ "\", not found in organization list")

/-- `validateZoho`, which does not look at the tenant. -/
def validateZoho (token : Token) (_tenantID : String) : Option String :=
  match v.zohoOrganization token.accessToken with
  | .error err => some ("onboarding: zoho org validation request failed: " ++ err)
  | .ok r =>
    if r.status ≠ 200 then some (statusError "zoho org" r)
    else if v.zohoExpectedOrgID = "" then none
    else
      match r.body with
      | .error err => some ("onboarding: decode zoho org response: " ++ err)
      | .ok orgs =>
        if orgs.any fun o => o.zoid = v.zohoExpectedOrgID || o.orgID = v.zohoExpectedOrgID ||
            o.orgIDAlt = v.zohoExpectedOrgID then none
        else some ("onboarding: zoho org mismatch — expected \"" ++ v.zohoExpectedOrgID ++ "\", not found in response")

def validateTenantAccess (token : Token) (tenantID provider : String) : Option String :=
  if provider = providerGoogle then v.validateGoogle token tenantID
  else if provider = providerMicrosoft then v.validateMicrosoft token tenantID
  else if provider = providerZoho then v.validateZoho token tenantID
  else if provider = providerFastmail then none
  else if provider = providerWorkmail then none
  else some ("onboarding: unsupported provider for validation: " ++ provider)

end HTTPPostConsentValidator

/-! ### The service -/

structure OnboardingWorld where
  db : TokenDB := {}
  /-- The nonces that were used, and until when they are kept. -/
  nonces : String → Option ℤ := fun _ => none
  /-- The token that was last passed to the registrar. -/
  registered : String → String → Option Token := fun _ _ => none

/-- What a call meets; `save` is for the second access of `TokenFor`. -/
structure OnboardingEnv where
  now : ℤ := 0
  entropy : Except String Bytes := .ok []
  nonceError : Option String := none
  store : StoreEnv := {}
  save : StoreEnv := {}

structure Service where
  providers : String → Option ProviderConfig
  store : PgTokenStore
  exchangeCode : ProviderConfig → String → Except String Token
  refreshToken : ProviderConfig → String → Except String Token
  state : StateSigner
  registrar : Bool := true
  nonces : Bool := true
  validator : Option HTTPPostConsentValidator

/-- The parameters of the consent URL. -/
structure ConsentURL where
  base : String
  clientID : String
  redirectURI : String
  scope : String
  state : String
  offline : Bool
  deriving DecidableEq, Repr

namespace Service

variable (s : Service)

/-- `AuthURL`. -/
def authURL (provider tenantID : String) (e : OnboardingEnv) : Except String ConsentURL :=
  if provider = providerFastmail then .error ("onboarding: " ++ provider ++ " uses static API tokens, not OAuth2")
  else if provider = providerWorkmail then .error ("onboarding: " ++ provider ++ " uses AWS IAM, not OAuth2")
  else
    match s.providers provider with
    | none => .error ("onboarding: unknown provider \"" ++ provider ++ "\"")
    | some p =>
      match s.state.sign { tenantID, provider } e.now e.entropy with
      | .error err => .error err
      | .ok state =>
        .ok
          { base := p.authURL, clientID := p.clientID, redirectURI := p.redirectURL
            scope := " ".intercalate p.scopes, state
            offline := provider = providerGoogle || provider = providerZoho }

/-- `MarkUsed`: whether the nonce was used already, and the nonces after the call. An error of the store counts as
unused. -/
def markUsed (nonce : String) (e : OnboardingEnv) (nonces : String → Option ℤ) : Bool × (String → Option ℤ) :=
  if ¬ s.nonces ∨ nonce = "" ∨ e.nonceError.isSome then (false, nonces)
  else if (nonces nonce).any fun exp => e.now < exp then (true, nonces)
  else (false, fun n => if n = nonce then some (e.now + 600) else nonces n)

/-- The last part of `HandleCallback`: the token is stored and passed to the registrar. -/
def keepToken (ctx : Option BoundConn) (payload : StatePayload) (tok : Token) (e : OnboardingEnv)
    (w : OnboardingWorld) : Except String (String × String) × OnboardingWorld :=
  match s.store.save ctx e.store payload.tenantID payload.provider tok w.db with
  | (some err, db) => (.error ("onboarding: persist token: " ++ err), { w with db })
  | (none, db) =>
    (.ok (payload.tenantID, payload.provider),
      { w with
        db
        registered := fun t p =>
          if s.registrar ∧ t = payload.tenantID ∧ p = payload.provider then some tok else w.registered t p })

/-- What `HandleCallback` does with a state that is valid and was not used. -/
def redeem (ctx : Option BoundConn) (payload : StatePayload) (code : String) (e : OnboardingEnv)
    (w : OnboardingWorld) : Except String (String × String) × OnboardingWorld :=
  match s.providers payload.provider with
  | none => (.error ("onboarding: unknown provider \"" ++ payload.provider ++ "\""), w)
  | some p =>
    match s.exchangeCode p code with
    | .error err => (.error ("onboarding: exchange code: " ++ err), w)
    | .ok tok =>
      match s.validator.bind fun v => v.validateTenantAccess tok payload.tenantID payload.provider with
      | some err => (.error ("onboarding: tenant validation failed: " ++ err), w)
      | none => s.keepToken ctx payload tok e w

/-- `HandleCallback`. -/
def handleCallback (ctx : Option BoundConn) (stateTok code : String) (e : OnboardingEnv) (w : OnboardingWorld) :
    Except String (String × String) × OnboardingWorld :=
  match s.state.verify stateTok e.now with
  | .error err => (.error err, w)
  | .ok payload =>
    let (used, nonces) := s.markUsed payload.nonce e w.nonces
    if used then (.error "onboarding: nonce already used (replay detected)", { w with nonces })
    else s.redeem ctx payload code e { w with nonces }

/-- `TokenFor`. -/
def tokenFor (ctx : Option BoundConn) (tenantID provider : String) (e : OnboardingEnv) (w : OnboardingWorld) :
    Except String Token × OnboardingWorld :=
  match s.store.load ctx e.store tenantID provider w.db with
  | (.error err, db) => (.error err, { w with db })
  | (.ok tok, db) =>
    if ¬ tok.isExpired e.now then (.ok tok, { w with db })
    else if tok.refreshToken = "" then
      (.error "onboarding: token expired and no refresh token available", { w with db })
    else
      match s.providers provider with
      | none => (.error ("onboarding: unknown provider \"" ++ provider ++ "\""), { w with db })
      | some p =>
        match s.refreshToken p tok.refreshToken with
        | .error err => (.error ("onboarding: refresh: " ++ err), { w with db })
        | .ok refreshed =>
          -- a provider that does not roll the refresh token leaves the old one
          let refreshed :=
            if refreshed.refreshToken = "" then { refreshed with refreshToken := tok.refreshToken } else refreshed
          match s.store.save ctx e.save tenantID provider refreshed db with
          | (some err, db) => (.error ("onboarding: persist refreshed token: " ++ err), { w with db })
          | (none, db) => (.ok refreshed, { w with db })

/-- `Revoke`. -/
def revoke (ctx : Option BoundConn) (tenantID provider : String) (e : OnboardingEnv) (w : OnboardingWorld) :
    Option String × OnboardingWorld :=
  let (err, db) := s.store.delete ctx e.store tenantID provider w.db
  (err, { w with db })

end Service

/-! ### The handler -/

inductive OnboardingResponse where
  | error (status : ℕ) (msg : String)
  | redirect (url : ConsentURL)
  | started (tenantID provider : String)
  | revoked
  deriving DecidableEq, Repr

namespace Service

variable (s : Service)

/-- `ServeStart`; the tenant is a parameter of the query. -/
def serveStart (method provider tenantID : String) (e : OnboardingEnv) : OnboardingResponse :=
  if method ≠ "GET" then .error 405 "method not allowed"
  else if tenantID = "" then .error 400 "tenant_id is required"
  else if provider = "" then .error 400 "provider is required"
  else
    match s.authURL provider tenantID e with
    | .error _ => .error 400 "failed to generate auth URL"
    | .ok url => .redirect url

/-- `ServeCallback`. -/
def serveCallback (ctx : Option BoundConn) (method state code : String) (e : OnboardingEnv) (w : OnboardingWorld) :
    OnboardingResponse × OnboardingWorld :=
  if method ≠ "GET" then (.error 405 "method not allowed", w)
  else if state = "" ∨ code = "" then (.error 400 "state and code are required", w)
  else
    match s.handleCallback ctx state code e w with
    | (.error _, w) => (.error 401 "callback validation failed", w)
    | (.ok (tenantID, provider), w) => (.started tenantID provider, w)

/-- `ServeRevoke`; the tenant is a parameter of the query. -/
def serveRevoke (ctx : Option BoundConn) (method tenantID provider : String) (e : OnboardingEnv)
    (w : OnboardingWorld) : OnboardingResponse × OnboardingWorld :=
  if method ≠ "DELETE" then (.error 405 "method not allowed", w)
  else if tenantID = "" ∨ provider = "" then (.error 400 "tenant_id and provider are required", w)
  else
    match s.revoke ctx tenantID provider e w with
    | (some _, w) => (.error 500 "revoke failed", w)
    | (none, w) => (.revoked, w)

end Service

end Sn360Es.Onboarding
