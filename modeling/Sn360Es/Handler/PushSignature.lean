import Sn360Es.Lib.GoStrings
import Sn360Es.Lib.GoTime
import Sn360Es.Lib.Sha256
import Sn360Es.Lib.TransferEncoding

/-!
# Authentication of push callbacks (`internal/handler/push_signature.go`)

A callback names a provider and a tenant. For Outlook the notification carries the client state of the subscription,
which is a secret of the tenant. For Gmail it carries a token that Google has signed, and what is checked of it is the
issuer, the audience and the time: neither the tenant nor the account that the token is for is looked at.

* `microsoft_accepts_iff` — what the verifier of Microsoft accepts;
* `push_bound_to_tenant_iff` — a request that is accepted for a tenant is refused for another one exactly if it goes to
  the verifier of Microsoft, and the two tenants have different client states.

`encoding/json` and the JWT library are parameters.
-/

namespace Sn360Es.Handler

open Lib

/-- The errors of a verifier, with what they say besides. -/
inductive PushError where
  | authMissing (detail : String)
  | authInvalid (detail : String)
  | providerUnknown
  deriving DecidableEq, Repr

def PushError.text : PushError → String
  | authMissing detail => "push: authentication missing" ++ detail
  | authInvalid detail => "push: authentication invalid" ++ detail
  | providerUnknown => "push: unknown provider"

/-- What the verifiers look at in a request. -/
structure PushRequest where
  authorization : String := ""
  body : Bytes := []
  deriving DecidableEq, Repr

/-! ### Microsoft -/

/-- `MicrosoftClientStateVerifier`; `unmarshal` gives the client states in the body. -/
structure MicrosoftClientStateVerifier where
  expectedFor : Option (String → String)
  unmarshal : Bytes → Except String (List String)

namespace MicrosoftClientStateVerifier

variable (v : MicrosoftClientStateVerifier)

/-- The loop over the entries, from a position on. -/
def checkStates (expected : String) : ℕ → List String → Option PushError
  | _, [] => none
  | i, s :: ss =>
    if s ≠ expected then some (.authInvalid (": clientState mismatch at value[" ++ toString i ++ "]"))
    else checkStates expected (i + 1) ss

/-- `VerifyPush`. -/
def verifyPush (tenantID : String) (r : PushRequest) : Option PushError :=
  match v.expectedFor with
  | none => some (.authMissing "")
  | some expectedFor =>
    if expectedFor tenantID = "" then some (.authMissing "")
    else if r.body = [] then some (.authMissing "")
    else
      match v.unmarshal r.body with
      | .error err => some (.authInvalid (": unmarshal notification body: " ++ err))
      | .ok [] => some (.authMissing "")
      | .ok states => checkStates (expectedFor tenantID) 0 states

end MicrosoftClientStateVerifier

/-! ### Google -/

structure GoogleJWK where
  kty : String
  alg : String := ""
  kid : String
  n : String
  e : String
  deriving DecidableEq, Repr

/-- `rsa.PublicKey`. -/
structure PublicKey where
  n : ℕ
  e : ℤ
  deriving DecidableEq, Repr

/-- `base64.RawURLEncoding`. -/
def decodeRawURL (s : String) : Option Bytes :=
  if '+' ∈ s.toList ∨ '/' ∈ s.toList then none
  else Base64.decodeRaw (bytesOf (String.ofList (s.toList.map fun c =>
    if c = '-' then '+' else if c = '_' then '/' else c)))

/-- `parseRSAJWK`; an error is `none`. -/
def parseRSAJWK (nB64 eB64 : String) : Option PublicKey := do
  let nBytes ← decodeRawURL nB64
  let eBytes ← decodeRawURL eB64
  if nBytes = [] ∨ eBytes = [] ∨ 8 < eBytes.length then none
  else
    let e := GoTime.int64 (Sha256.ofBytes eBytes)
    if e ≤ 0 then none else some ⟨Sha256.ofBytes nBytes, e⟩

/-- The keys that `refreshJWKS` takes over, the last one with an id first. -/
def usableKeys (keys : List GoogleJWK) : List (String × PublicKey) :=
  (keys.filterMap fun k =>
    if k.kty ≠ "RSA" then none
    else if k.alg ≠ "" ∧ k.alg ≠ "RS256" then none
    else (parseRSAJWK k.n k.e).map (k.kid, ·)).reverse

/-- The claims of a token. Those that nobody looks at are the account that it is for. -/
structure OidcClaims where
  issuer : String
  audience : List String
  expiresAt : Option ℤ
  notBefore : Option ℤ := none
  subject : String := ""
  email : String := ""
  deriving DecidableEq, Repr

structure JwtToken where
  alg : String
  kid : String
  claims : OidcClaims
  deriving DecidableEq, Repr

/-- `GoogleOIDCVerifier`; of the JWT library, `parseUnverified` and the check of the RS256 signature of a token. -/
structure GoogleOIDCVerifier where
  audience : String
  issuer : String := ""
  cacheTTL : ℤ := 0
  parseUnverified : String → Except String JwtToken
  signedBy : PublicKey → String → Bool

/-- The keys that are cached, and since when. -/
structure KeyCache where
  keys : List (String × PublicKey) := []
  cachedAt : ℤ := 0
  deriving DecidableEq, Repr

/-- The time of a call, and what the JWKS endpoint would answer. -/
structure PushEnv where
  now : ℤ
  jwks : Except String (List GoogleJWK)

namespace GoogleOIDCVerifier

variable (v : GoogleOIDCVerifier) (env : PushEnv)

def expectedIssuer : String := if v.issuer ≠ "" then v.issuer else "https://accounts.google.com"

def effectiveTTL : ℤ := if 0 < v.cacheTTL then v.cacheTTL else 3600 * GoTime.second

/-- `refreshJWKS`. -/
def refreshJWKS : Except PushError KeyCache :=
  match env.jwks with
  | .error err => .error (.authInvalid (": " ++ err))
  | .ok keys =>
    if usableKeys keys = [] then .error (.authInvalid ": JWKS contained no usable RS256 keys")
    else .ok ⟨usableKeys keys, env.now⟩

/-- `lookupKey`, with the cache it leaves. -/
def lookupKey (cache : KeyCache) (kid : String) : Except PushError PublicKey × KeyCache :=
  match cache.keys.lookup kid, decide (env.now < cache.cachedAt + v.effectiveTTL) with
  | some key, true => (.ok key, cache)
  | _, _ =>
    match refreshJWKS env with
    | .error err => (.error err, cache)
    | .ok cache' =>
      match cache'.keys.lookup kid with
      | some key => (.ok key, cache')
      | none => (.error (.authInvalid (": unknown kid \"" ++ kid ++ "\"")), cache')

/-- The claims that the parser of the library validates, with the options of `VerifyPush`. -/
def ValidClaims (c : OidcClaims) : Prop :=
  (∃ exp ∈ c.expiresAt, env.now < exp) ∧ (∀ nbf ∈ c.notBefore, nbf ≤ env.now) ∧ c.issuer = v.expectedIssuer ∧
    v.audience ∈ c.audience

instance (c : OidcClaims) : Decidable (v.ValidClaims env c) :=
  inferInstanceAs (Decidable (_ ∧ _))

/-- `parser.Parse`: the method, the key, the signature and the claims. -/
def parse (cache : KeyCache) (raw : String) : Option PushError × KeyCache :=
  match v.parseUnverified raw with
  | .error err => (some (.authInvalid (": " ++ err)), cache)
  | .ok tok =>
    if tok.alg ≠ "RS256" then (some (.authInvalid ": token signature is invalid"), cache)
    else if tok.kid = "" then (some (.authInvalid ": token missing kid header"), cache)
    else
      match v.lookupKey env cache tok.kid with
      | (.error err, cache') => (some err, cache')
      | (.ok key, cache') =>
        if !v.signedBy key raw then (some (.authInvalid ": token signature is invalid"), cache')
        else if v.ValidClaims env tok.claims then (none, cache')
        else (some (.authInvalid ": token has invalid claims"), cache')

/-- `VerifyPush`; it takes no tenant. -/
def verifyPush (cache : KeyCache) (r : PushRequest) : Option PushError × KeyCache :=
  if v.audience = "" then (some (.authMissing ": google audience not configured"), cache)
  else if r.authorization = "" then (some (.authMissing ""), cache)
  else if ¬ "Bearer ".toList <+: r.authorization.toList then
    (some (.authInvalid ": Authorization header missing Bearer prefix"), cache)
  else
    let raw := GoStrings.trimSpace (String.ofList (GoStrings.trimPrefix r.authorization.toList "Bearer ".toList))
    if raw = "" then (some (.authMissing ""), cache) else v.parse env cache raw

end GoogleOIDCVerifier

/-! ### The router -/

inductive PushVerifier where
  | microsoft (v : MicrosoftClientStateVerifier)
  | google (v : GoogleOIDCVerifier)

/-- `VerifyPush` of the interface. -/
def PushVerifier.verifyPush (env : PushEnv) (cache : KeyCache) (tenantID : String) (r : PushRequest) :
    PushVerifier → Option PushError × KeyCache
  | microsoft v => (v.verifyPush tenantID r, cache)
  | google v => v.verifyPush env cache r

/-- `PushSignatureRouter`: an entry may be nil, which accepts everything. -/
structure PushSignatureRouter where
  verifiers : String → Option (Option PushVerifier)
  toLower : String → String

namespace PushSignatureRouter

variable (router : PushSignatureRouter)

/-- `VerifyPush`. -/
def verifyPush (env : PushEnv) (cache : KeyCache) (provider tenantID : String) (r : PushRequest) :
    Option PushError × KeyCache :=
  match router.verifiers (router.toLower provider) with
  | none => (some .providerUnknown, cache)
  | some none => (none, cache)
  | some (some v) => v.verifyPush env cache tenantID r

end PushSignatureRouter

/-! ### What is accepted -/

section Accepts

variable {r : PushRequest} {t t' : String} {env : PushEnv} {cache : KeyCache}

lemma checkStates_eq_none_iff {expected : String} {i : ℕ} {states : List String} :
    MicrosoftClientStateVerifier.checkStates expected i states = none ↔ ∀ s ∈ states, s = expected := by
  induction states generalizing i with
  | nil => simp [MicrosoftClientStateVerifier.checkStates]
  | cons s ss ih =>
    rw [MicrosoftClientStateVerifier.checkStates, List.forall_mem_cons]
    by_cases h : s = expected
    · rw [if_neg (not_not.mpr h), ih]
      exact (and_iff_right h).symm
    · rw [if_pos h]
      exact iff_of_false nofun (fun hand => h hand.1)

/-- **What Microsoft's verifier accepts**: entries that all carry the client state of the tenant. -/
lemma microsoft_accepts_iff {v : MicrosoftClientStateVerifier} : v.verifyPush t r = none ↔
    ∃ expectedFor, v.expectedFor = some expectedFor ∧ expectedFor t ≠ "" ∧ r.body ≠ [] ∧
      ∃ states, v.unmarshal r.body = .ok states ∧ states ≠ [] ∧ ∀ s ∈ states, s = expectedFor t := by
  unfold MicrosoftClientStateVerifier.verifyPush
  constructor
  · intro h
    split at h
    · cases h
    next expectedFor hexpected =>
    split at h
    · cases h
    next hsecret =>
    split at h
    · cases h
    next hbody =>
    split at h
    · cases h
    · cases h
    next states hne hstates =>
    exact ⟨expectedFor, hexpected, hsecret, hbody, states, hstates, fun hnil => hne hnil,
      checkStates_eq_none_iff.mp h⟩
  · rintro ⟨expectedFor, hexpected, hsecret, hbody, states, hstates, hne, hall⟩
    rw [hexpected]
    simp only [hsecret, hbody, if_false, hstates]
    cases states with
    | nil => exact absurd rfl hne
    | cons s ss => exact checkStates_eq_none_iff.mpr hall

end Accepts

/-- The verifier tells two tenants apart. -/
def PushVerifier.Separates (t t' : String) : PushVerifier → Prop
  | microsoft v => ∀ expectedFor, v.expectedFor = some expectedFor → expectedFor t ≠ expectedFor t'
  | google _ => False

/-- **Push callbacks are bound to their tenant** exactly if the verifier is that of Microsoft, and the client states of
the two tenants differ: only then a request that is accepted for one is refused for the other, at every time. -/
theorem push_bound_to_tenant_iff (router : PushSignatureRouter) {provider t t' : String} {r : PushRequest}
    {v : PushVerifier} (hv : router.verifiers (router.toLower provider) = some (some v)) {env : PushEnv}
    {cache : KeyCache} (haccepted : (router.verifyPush env cache provider t r).1 = none) :
    (∀ env' cache', (router.verifyPush env' cache' provider t' r).1 ≠ none) ↔ v.Separates t t' := by
  unfold PushSignatureRouter.verifyPush at haccepted ⊢
  rw [hv] at haccepted ⊢
  cases v with
  | google v =>
    refine iff_of_false (fun hrefused => ?_) id
    exact hrefused env cache haccepted
  | microsoft v =>
    obtain ⟨expectedFor, hexpected, hsecret, hbody, states, hstates, hne, hall⟩ :=
      microsoft_accepts_iff.mp haccepted
    obtain ⟨s, hs⟩ := List.exists_mem_of_ne_nil states hne
    constructor
    · intro hrefused f hf hsame
      cases hexpected.symm.trans hf
      refine hrefused env cache (microsoft_accepts_iff.mpr ?_)
      rw [hsame] at hsecret hall
      exact ⟨expectedFor, hexpected, hsecret, hbody, states, hstates, hne, hall⟩
    · intro hseparates env' cache' haccepted'
      obtain ⟨f, hf, -, -, states', hstates', -, hall'⟩ := microsoft_accepts_iff.mp haccepted'
      cases hexpected.symm.trans hf
      cases hstates.symm.trans hstates'
      exact hseparates expectedFor hexpected ((hall s hs).symm.trans (hall' s hs))

/-! ### A token of somebody else -/

namespace Sample

/-- The token that Google signs for a service account that asks for the audience of the deployment. -/
def foreignToken : JwtToken where
  alg := "RS256"
  kid := "k1"
  claims :=
    { issuer := "https://accounts.google.com"
      audience := ["https://api.example.com/v1/push/gmail"]
      expiresAt := some 2000
      email := "anyone@other-project.iam.gserviceaccount.com" }

/-- The verifier of the deployment, and a library that knows that token. -/
def gmail : GoogleOIDCVerifier where
  audience := "https://api.example.com/v1/push/gmail"
  parseUnverified raw := if raw = "foreign" then .ok foreignToken else .error "token is malformed"
  signedBy _ raw := raw = "foreign"

/-- A notification of acme. -/
def acmeBody : Bytes := bytesOf "\x7b\"value\":[\x7b\"clientState\":\"sn360-es-acme\"\x7d]\x7d"

/-- The verifier of a deployment whose secrets are the names of the tenants. -/
def outlook : MicrosoftClientStateVerifier where
  expectedFor := some fun tenantID => "sn360-es-" ++ tenantID
  unmarshal body := if body = acmeBody then .ok ["sn360-es-acme"] else .error "unexpected end of JSON input"

def router : PushSignatureRouter where
  verifiers provider :=
    if provider = "gmail" then some (some (.google gmail))
    else if provider = "outlook" then some (some (.microsoft outlook))
    else none
  toLower := id

def pushEnv : PushEnv := ⟨1000, .error "unreachable"⟩

def googleKeys : KeyCache := ⟨[("k1", ⟨3233, 17⟩)], 1000⟩

end Sample

/-- **One token for every tenant**: it is accepted for acme, and for globex as well. -/
theorem foreign_token_accepted :
    (Sample.router.verifyPush Sample.pushEnv Sample.googleKeys "gmail" "acme" ⟨"Bearer foreign", []⟩).1 = none ∧
      (Sample.router.verifyPush Sample.pushEnv Sample.googleKeys "gmail" "globex" ⟨"Bearer foreign", []⟩).1 = none :=
  ⟨rfl, rfl⟩

/-- A notification of acme is refused for globex. -/
theorem outlook_state_refused :
    (Sample.router.verifyPush Sample.pushEnv {} "outlook" "acme" ⟨"", Sample.acmeBody⟩).1 = none ∧
      ∀ env' cache', (Sample.router.verifyPush env' cache' "outlook" "globex" ⟨"", Sample.acmeBody⟩).1 ≠ none := by
  have haccepted : (Sample.router.verifyPush Sample.pushEnv {} "outlook" "acme" ⟨"", Sample.acmeBody⟩).1 = none := rfl
  refine ⟨haccepted, (push_bound_to_tenant_iff Sample.router rfl haccepted).mpr ?_⟩
  intro expectedFor hexpected
  cases hexpected
  decide

end Sn360Es.Handler
