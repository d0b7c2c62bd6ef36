import Mathlib.Data.List.Basic
import Sn360Es.Lib.Fields
import Sn360Es.Lib.Lts
import Sn360Es.Onboarding.Service

/-!
# Whose credentials an onboarding request replaces

A run of requests that one tenant makes: it starts consents and revokes tokens, with any tenant and any provider in the
query, and comes back with any state of the run and with codes of its own organisation. The callback carries no token,
so the tenant of the state is all that decides whose row is written.

* `Confined` — a token that the providers answer for one organisation only;
* `Lax` — the check after the consent lets a token of that organisation pass for another tenant;
* `step_keeps` — what a request leaves alone;
* `credentials_kept` — which runs leave the credentials of the other tenant alone, and which do not.
-/

namespace Sn360Es.Onboarding

open Lib

/-! ### Tokens of an organisation -/

/-- An organisation, as the providers know it. -/
structure Organisation where
  domains : List String := []
  tenantIDs : List String := []
  zohoIDs : List String := []

/-- The providers answer the token only for the organisation. -/
structure Confined (v : HTTPPostConsentValidator) (org : Organisation) (tok : Token) : Prop where
  google : ∀ domain r, v.googleUsers tok.accessToken domain = .ok r → r.status = 200 → domain ∈ org.domains
  microsoft : ∀ r ids, v.graphOrganization tok.accessToken = .ok r → r.status = 200 → r.body = .ok ids →
    ∀ id ∈ ids, id ∈ org.tenantIDs
  zoho : ∀ r orgs, v.zohoOrganization tok.accessToken = .ok r → r.status = 200 → r.body = .ok orgs →
    ∀ o ∈ orgs, ∀ id ∈ [o.zoid, o.orgID, o.orgIDAlt], id = "" ∨ id ∈ org.zohoIDs

/-- The check of a provider lets tokens of the organisation pass for a tenant: the Google domain that it asks for is the
organisation's, the tenant is one of its ids, or no Zoho organisation is expected, or this one. -/
def Lax (v : HTTPPostConsentValidator) (org : Organisation) (tenantID provider : String) : Prop :=
  (provider = providerGoogle ∧ v.googleDomain tenantID ∈ org.domains) ∨
  (provider = providerMicrosoft ∧ tenantID ∈ org.tenantIDs) ∨
  (provider = providerZoho ∧ (v.zohoExpectedOrgID = "" ∨ v.zohoExpectedOrgID ∈ org.zohoIDs))

section Check

variable {v : HTTPPostConsentValidator} {org : Organisation} {tok : Token} {tenantID provider : String}

lemma Confined.lax_google (h : Confined v org tok) (hpass : v.validateGoogle tok tenantID = none) :
    v.googleDomain tenantID ∈ org.domains := by
  unfold HTTPPostConsentValidator.validateGoogle at hpass
  split at hpass
  · cases hpass
  · next r hr =>
    split at hpass
    · cases hpass
    · next hstatus => exact h.google _ r hr (not_not.mp hstatus)

lemma Confined.lax_microsoft (h : Confined v org tok) (hpass : v.validateMicrosoft tok tenantID = none) :
    tenantID ∈ org.tenantIDs := by
  unfold HTTPPostConsentValidator.validateMicrosoft at hpass
  split at hpass
  · cases hpass
  next r hr =>
  split at hpass
  · cases hpass
  next hstatus =>
  split at hpass
  · cases hpass
  next ids hids =>
  split at hpass
  · next hmem => exact h.microsoft r ids hr (not_not.mp hstatus) hids tenantID hmem
  · cases hpass

lemma Confined.lax_zoho (h : Confined v org tok) (hpass : v.validateZoho tok tenantID = none) :
    v.zohoExpectedOrgID = "" ∨ v.zohoExpectedOrgID ∈ org.zohoIDs := by
  unfold HTTPPostConsentValidator.validateZoho at hpass
  split at hpass
  · cases hpass
  next r hr =>
  split at hpass
  · cases hpass
  next hstatus =>
  split at hpass
  · next hnone => exact .inl hnone
  split at hpass
  · cases hpass
  next orgs horgs =>
  split at hpass
  · next hany =>
    obtain ⟨o, ho, hid⟩ := List.any_eq_true.mp hany
    have hmem : v.zohoExpectedOrgID ∈ [o.zoid, o.orgID, o.orgIDAlt] := by
      simp only [Bool.or_eq_true, decide_eq_true_eq] at hid
      rcases hid with (hid | hid) | hid <;> simp [hid]
    exact h.zoho r orgs hr (not_not.mp hstatus) horgs o ho _ hmem
  · cases hpass

/-- **The check after the consent.** What it lets pass is lax, or of a provider that has no consent. -/
lemma Confined.lax (h : Confined v org tok) (hpass : v.validateTenantAccess tok tenantID provider = none)
    (hfastmail : provider ≠ providerFastmail) (hworkmail : provider ≠ providerWorkmail) :
    Lax v org tenantID provider := by
  unfold HTTPPostConsentValidator.validateTenantAccess at hpass
  split_ifs at hpass with hgoogle hmicrosoft hzoho
  · exact .inl ⟨hgoogle, h.lax_google hpass⟩
  · exact .inr (.inl ⟨hmicrosoft, h.lax_microsoft hpass⟩)
  · exact .inr (.inr ⟨hzoho, h.lax_zoho hpass⟩)

end Check

/-! ### Requests of a tenant -/

/-- A request; `bindError` is that of the binder in front of the handler. -/
inductive OnboardingRequest where
  | start (method provider tenantID : String) (bindError : Option String) (e : OnboardingEnv)
  | revoke (method tenantID provider : String) (bindError : Option String) (e : OnboardingEnv)
  | callback (method state code : String) (e : OnboardingEnv)

/-- The world, and the states that were issued in the run. -/
structure Session where
  world : OnboardingWorld
  states : List String := []

/-- The states that an answer hands out. -/
def OnboardingResponse.states : OnboardingResponse → List String
  | redirect url => [url.state]
  | _ => []

/-- A request of the tenant that `conn` is bound to. The callback is not authenticated, and its state is one that was
issued in the run. -/
def Service.step (svc : Service) (conn : BoundConn) (s : Session) : OnboardingRequest → Option Session
  | .start method provider tenantID bindError e =>
    if bindError.isSome then some s
    else some { s with states := (svc.serveStart method provider tenantID e).states ++ s.states }
  | .revoke method tenantID provider bindError e =>
    if bindError.isSome then some s
    else some { s with world := (svc.serveRevoke (some conn) method tenantID provider e s.world).2 }
  | .callback method state code e =>
    if state ∈ s.states then some { s with world := (svc.serveCallback none method state code e s.world).2 } else none

/-- The code of a request gives access to the organisation only. -/
def OnboardingRequest.Own (svc : Service) (v : HTTPPostConsentValidator) (org : Organisation) :
    OnboardingRequest → Prop
  | callback _ _ code _ => ∀ p tok, svc.exchangeCode p code = .ok tok → Confined v org tok
  | _ => True

/-- The request starts no consent for the tenant where the check is lax. -/
def OnboardingRequest.Fair (svc : Service) (v : HTTPPostConsentValidator) (org : Organisation) (B : String) :
    OnboardingRequest → Prop
  | start _ provider tenantID _ _ => tenantID = B → (svc.providers provider).isSome → ¬ Lax v org B provider
  | _ => True

/-- The stored tokens of a tenant, and those that were passed to the registrar, are as they were. -/
structure Kept (B : String) (w w' : OnboardingWorld) : Prop where
  rows : ∀ pool provider, w'.db.rows pool B provider = w.db.rows pool B provider
  registered : ∀ provider, w'.registered B provider = w.registered B provider

lemma Kept.refl (B : String) (w : OnboardingWorld) : Kept B w w := ⟨fun _ _ => rfl, fun _ => rfl⟩

lemma Kept.trans {B : String} {w₁ w₂ w₃ : OnboardingWorld} (h : Kept B w₁ w₂) (h' : Kept B w₂ w₃) : Kept B w₁ w₃ where
  rows pool provider := (h'.rows pool provider).trans (h.rows pool provider)
  registered provider := (h'.registered provider).trans (h.registered provider)

/-- A write of another tenant's row. -/
lemma rows_write_of_ne {d : TokenDB} {B pool tenantID provider : String} {row : Option Bytes} (hne : tenantID ≠ B)
    (pool' provider' : String) :
    (d.write pool tenantID provider row).rows pool' B provider' = d.rows pool' B provider' :=
  if_neg fun h => hne h.2.1.symm

section Steps

variable {svc : Service} {v : HTTPPostConsentValidator} {org : Organisation} {B : String} {w : OnboardingWorld}

lemma kept_keepToken {ctx : Option BoundConn} {payload : StatePayload} {tok : Token} {e : OnboardingEnv}
    (hne : payload.tenantID ≠ B) : Kept B w (svc.keepToken ctx payload tok e w).2 := by
  unfold Service.keepToken
  obtain ⟨err, hsave⟩ | ⟨ct, -, -, hsave⟩ := PgTokenStore.save_cases (s := svc.store) ctx e.store
    payload.tenantID payload.provider tok w.db
  · rw [hsave]
    exact ⟨fun _ _ => rfl, fun _ => rfl⟩
  · rw [hsave]
    exact ⟨rows_write_of_ne hne, fun _ => if_neg fun h => hne h.2.1.symm⟩

/-- A state that is not for the tenant, or for a provider whose check is strict. -/
def Harmless (svc : Service) (v : HTTPPostConsentValidator) (org : Organisation) (B : String) (p : StatePayload) :
    Prop :=
  p.provider ≠ providerFastmail ∧ p.provider ≠ providerWorkmail ∧
    (p.tenantID = B → (svc.providers p.provider).isSome → ¬ Lax v org B p.provider)

lemma kept_redeem (hvalidator : svc.validator = some v) {payload : StatePayload}
    (hharmless : Harmless svc v org B payload) {code : String} {e : OnboardingEnv}
    (hown : ∀ p tok, svc.exchangeCode p code = .ok tok → Confined v org tok) (ctx : Option BoundConn) :
    Kept B w (svc.redeem ctx payload code e w).2 := by
  unfold Service.redeem
  split
  · exact Kept.refl B w
  next p hp =>
  split
  · exact Kept.refl B w
  next tok htok =>
  rw [hvalidator, Option.bind_some]
  split
  · exact Kept.refl B w
  next hpass =>
  refine kept_keepToken fun htenant => ?_
  -- the check has let the token pass for the tenant
  have hlax : Lax v org payload.tenantID payload.provider := (hown p tok htok).lax hpass hharmless.1 hharmless.2.1
  rw [htenant] at hlax
  exact hharmless.2.2 htenant (by rw [hp]; rfl) hlax

lemma kept_handleCallback (hvalidator : svc.validator = some v) {state code : String} {e : OnboardingEnv}
    (hharmless : ∀ p, svc.state.verify state e.now = .ok p → Harmless svc v org B p)
    (hown : ∀ p tok, svc.exchangeCode p code = .ok tok → Confined v org tok) (ctx : Option BoundConn) :
    Kept B w (svc.handleCallback ctx state code e w).2 := by
  unfold Service.handleCallback
  split
  · exact Kept.refl B w
  · next payload hverify =>
    dsimp only
    have hnonces : Kept B w { w with nonces := (svc.markUsed payload.nonce e w.nonces).2 } :=
      ⟨fun _ _ => rfl, fun _ => rfl⟩
    split
    · exact hnonces
    · exact hnonces.trans (kept_redeem hvalidator (hharmless payload hverify) hown ctx)

lemma kept_serveCallback (hvalidator : svc.validator = some v) {method state code : String} {e : OnboardingEnv}
    (hharmless : ∀ p, svc.state.verify state e.now = .ok p → Harmless svc v org B p)
    (hown : ∀ p tok, svc.exchangeCode p code = .ok tok → Confined v org tok) (ctx : Option BoundConn) :
    Kept B w (svc.serveCallback ctx method state code e w).2 := by
  unfold Service.serveCallback
  split
  · exact Kept.refl B w
  split
  · exact Kept.refl B w
  have hkept := kept_handleCallback (w := w) hvalidator hharmless hown ctx
  revert hkept
  rcases svc.handleCallback ctx state code e w with ⟨_ | ⟨tenantID, provider⟩, w'⟩
  · exact id
  · exact id

/-- A revocation on a connection of another tenant. -/
lemma kept_serveRevoke {conn : BoundConn} (hconn : conn.tenantID ≠ B) {method tenantID provider : String}
    {e : OnboardingEnv} : Kept B w (svc.serveRevoke (some conn) method tenantID provider e w).2 := by
  unfold Service.serveRevoke
  split
  · exact Kept.refl B w
  split
  · exact Kept.refl B w
  have hkept : Kept B w (svc.revoke (some conn) tenantID provider e w).2 := by
    unfold Service.revoke
    obtain hdelete | ⟨hown, hdelete⟩ := PgTokenStore.delete_cases (s := svc.store) (some conn)
      e.store tenantID provider w.db
    · refine ⟨fun pool q => ?_, fun _ => rfl⟩
      show (svc.store.delete (some conn) e.store tenantID provider w.db).2.rows pool B q = _
      rw [hdelete]
    · refine ⟨fun pool q => ?_, fun _ => rfl⟩
      show (svc.store.delete (some conn) e.store tenantID provider w.db).2.rows pool B q = _
      rw [hdelete]
      exact rows_write_of_ne (fun h => hconn (Eq.trans hown h)) pool q
  revert hkept
  rcases svc.revoke (some conn) tenantID provider e w with ⟨_ | err, w'⟩
  · exact id
  · exact id

/-- A state that is handed out. -/
lemma harmless_start {method provider tenantID : String} {e : OnboardingEnv}
    (hfair : tenantID = B → (svc.providers provider).isSome → ¬ Lax v org B provider) :
    ∀ state ∈ (svc.serveStart method provider tenantID e).states, ∀ now p, svc.state.verify state now = .ok p →
      Harmless svc v org B p := by
  intro state hstate now p hverify
  unfold Service.serveStart at hstate
  split_ifs at hstate <;> try cases hstate
  split at hstate
  · cases hstate
  next url hurl =>
  obtain rfl := List.mem_singleton.mp hstate
  unfold Service.authURL at hurl
  split at hurl
  · cases hurl
  next hfastmail =>
  split at hurl
  · cases hurl
  next hworkmail =>
  split at hurl
  · cases hurl
  split at hurl
  · cases hurl
  next signed hsign =>
  obtain rfl := Except.ok.inj hurl
  obtain ⟨nonce, rfl⟩ := StateSigner.verify_sign hsign hverify
  exact ⟨hfastmail, hworkmail, hfair⟩

/-- Every state that was issued is harmless. -/
def Session.Harmless (svc : Service) (v : HTTPPostConsentValidator) (org : Organisation) (B : String) (s : Session) :
    Prop :=
  ∀ state ∈ s.states, ∀ now p, svc.state.verify state now = .ok p → Onboarding.Harmless svc v org B p

/-- **One request** keeps the states harmless and the credentials of the tenant as they are. -/
lemma step_keeps (hvalidator : svc.validator = some v) {conn : BoundConn} (hconn : conn.tenantID ≠ B) {s s' : Session}
    {r : OnboardingRequest} (hs : s.Harmless svc v org B) (hown : r.Own svc v org) (hfair : r.Fair svc v org B)
    (hstep : svc.step conn s r = some s') : s'.Harmless svc v org B ∧ Kept B s.world s'.world := by
  cases r with
  | start method provider tenantID bindError e =>
    simp only [Service.step] at hstep
    split at hstep
    · obtain rfl := Option.some.inj hstep
      exact ⟨hs, Kept.refl B _⟩
    · obtain rfl := Option.some.inj hstep
      refine ⟨fun state hstate => ?_, Kept.refl B _⟩
      rcases List.mem_append.mp hstate with hnew | hold
      · exact harmless_start hfair state hnew
      · exact hs state hold
  | revoke method tenantID provider bindError e =>
    simp only [Service.step] at hstep
    split at hstep
    · obtain rfl := Option.some.inj hstep
      exact ⟨hs, Kept.refl B _⟩
    · obtain rfl := Option.some.inj hstep
      exact ⟨hs, kept_serveRevoke hconn⟩
  | callback method state code e =>
    simp only [Service.step] at hstep
    split at hstep
    · next hissued =>
      obtain rfl := Option.some.inj hstep
      exact ⟨hs, kept_serveCallback hvalidator (hs state hissued e.now) hown none⟩
    · cases hstep

/-- **A whole run.** -/
lemma run_keeps (hvalidator : svc.validator = some v) {conn : BoundConn} (hconn : conn.tenantID ≠ B)
    {rs : List OnboardingRequest} {s : Session} (hown : ∀ r ∈ rs, r.Own svc v org)
    (hfair : ∀ r ∈ rs, r.Fair svc v org B) (hrun : Lts.run (svc.step conn) ⟨w, []⟩ rs = some s) :
    Kept B w s.world := by
  have hmeets : Lts.Meets (svc.step conn) (fun _ r => r.Own svc v org ∧ r.Fair svc v org B) ⟨w, []⟩ rs :=
    Lts.meets_of_forall _ fun r hr => ⟨hown r hr, hfair r hr⟩
  have hinv := Lts.run_induct (I := fun s => s.Harmless svc v org B ∧ Kept B w s.world)
    (fun s r s' hs hr hstep => by
      obtain ⟨hharmless, hkept⟩ := step_keeps hvalidator hconn hs.1 hr.1 hr.2 hstep
      exact ⟨hharmless, hs.2.trans hkept⟩)
    ⟨fun _ hnil => absurd hnil List.not_mem_nil, Kept.refl B w⟩ hmeets hrun
  exact hinv.2

end Steps

/-! ### A run that replaces credentials -/

/-- The provider answers the token for the organisation. -/
structure Answered (v : HTTPPostConsentValidator) (org : Organisation) (tok : Token) (provider : String) : Prop where
  google : provider = providerGoogle → ∀ domain ∈ org.domains,
    ∃ r, v.googleUsers tok.accessToken domain = .ok r ∧ r.status = 200
  microsoft : provider = providerMicrosoft → ∃ r, v.graphOrganization tok.accessToken = .ok r ∧ r.status = 200 ∧
    ∃ ids, r.body = .ok ids ∧ ∀ id ∈ org.tenantIDs, id ∈ ids
  zoho : provider = providerZoho → ∃ r, v.zohoOrganization tok.accessToken = .ok r ∧ r.status = 200 ∧
    ∃ orgs, r.body = .ok orgs ∧ ∀ id ∈ org.zohoIDs, ∃ o ∈ orgs, o.zoid = id

/-- A code of the organisation, whose token the provider answers and the store takes. -/
structure Usable (svc : Service) (v : HTTPPostConsentValidator) (org : Organisation) (provider code : String) :
    Prop where
  nonempty : code ≠ ""
  own : ∀ p tok, svc.exchangeCode p code = .ok tok → Confined v org tok
  token : ∀ p, svc.providers provider = some p → ∃ tok ct, svc.exchangeCode p code = .ok tok ∧
    svc.store.encrypt tok = .ok ct ∧ Answered v org tok provider

section Replace

variable {svc : Service} {v : HTTPPostConsentValidator} {org : Organisation} {B provider : String}

lemma Lax.passes {tok : Token} (hlax : Lax v org B provider) (hanswered : Answered v org tok provider) :
    v.validateTenantAccess tok B provider = none := by
  unfold HTTPPostConsentValidator.validateTenantAccess
  rcases hlax with ⟨rfl, hdomain⟩ | ⟨rfl, htenant⟩ | ⟨rfl, horg⟩
  · obtain ⟨r, hr, hstatus⟩ := hanswered.google rfl _ hdomain
    rw [if_pos rfl, HTTPPostConsentValidator.validateGoogle, hr]
    exact if_neg (not_not.mpr hstatus)
  · obtain ⟨r, hr, hstatus, ids, hids, hmem⟩ := hanswered.microsoft rfl
    rw [if_neg (by decide), if_pos rfl, HTTPPostConsentValidator.validateMicrosoft, hr]
    simp only [hstatus, ne_eq, not_true_eq_false, if_false, hids, hmem B htenant, if_true]
  · obtain ⟨r, hr, hstatus, orgs, horgs, hmem⟩ := hanswered.zoho rfl
    rw [if_neg (by decide), if_neg (by decide), if_pos rfl, HTTPPostConsentValidator.validateZoho, hr]
    simp only [hstatus, ne_eq, not_true_eq_false, if_false, horgs]
    split
    · rfl
    · next hexpected =>
      obtain ⟨o, ho, hzoid⟩ := hmem _ (horg.resolve_left hexpected)
      refine if_pos (List.any_eq_true.mpr ⟨o, ho, ?_⟩)
      simp [hzoid]

lemma Lax.provider_ne (hlax : Lax v org B provider) : provider ≠ providerFastmail ∧ provider ≠ providerWorkmail := by
  rcases hlax with ⟨rfl, -⟩ | ⟨rfl, -⟩ | ⟨rfl, -⟩ <;> decide

/-- The state that `ServeStart` hands out for a tenant, at time zero and with a random nonce. -/
def startState (svc : Service) (B provider : String) (entropy : Bytes) : String :=
  let p := StateSigner.complete { tenantID := B, provider } 0 (Hex.encode entropy)
  svc.state.encode p ++ "." ++ svc.state.mac (svc.state.encode p)

lemma serveStart_states (hB : B ≠ "") (hprovider : provider ≠ "") (hlax : Lax v org B provider)
    (hwired : (svc.providers provider).isSome) (entropy : Bytes) :
    (svc.serveStart "GET" provider B { entropy := .ok entropy }).states = [startState svc B provider entropy] := by
  obtain ⟨p, hp⟩ := Option.isSome_iff_exists.mp hwired
  obtain ⟨hfastmail, hworkmail⟩ := hlax.provider_ne
  simp [Service.serveStart, Service.authURL, hB, hprovider, hfastmail, hworkmail, hp, StateSigner.sign, Except.map,
    OnboardingResponse.states, startState]

/-- What the callback does with that state and a code that is usable. -/
lemma handleCallback_replaces (hvalidator : svc.validator = some v) (hB : B ≠ "") (hlax : Lax v org B provider)
    {p : ProviderConfig} (hp : svc.providers provider = some p) {code : String} {tok : Token} {ct : Bytes}
    (htok : svc.exchangeCode p code = .ok tok) (hencrypt : svc.store.encrypt tok = .ok ct)
    (hanswered : Answered v org tok provider) (entropy : Bytes) {w : OnboardingWorld}
    (hnonces : ∀ n, w.nonces n = none) :
    (svc.handleCallback none (startState svc B provider entropy) code {} w).2.db.rows svc.store.pool B provider =
      some ct := by
  have hverify : svc.state.verify (startState svc B provider entropy) 0 =
      .ok (StateSigner.complete { tenantID := B, provider } 0 (Hex.encode entropy)) :=
    StateSigner.verify_of_sign (by simp [StateSigner.complete])
  have hunused : (svc.markUsed (Hex.encode entropy) {} w.nonces).1 = false := by
    unfold Service.markUsed
    simp only [hnonces]
    split <;> rfl
  have hpasses := hlax.passes hanswered
  simp [Service.handleCallback, hverify, StateSigner.complete, hunused, Service.redeem, hp, htok, hvalidator, hpasses,
    Service.keepToken, PgTokenStore.save, hB, PgTokenStore.bindTenantIfNeeded, hencrypt, TokenDB.write]

/-- The handler does to the world what the service does. -/
lemma serveCallback_world {ctx : Option BoundConn} {state code : String} (hstate : state ≠ "") (hcode : code ≠ "")
    (e : OnboardingEnv) (w : OnboardingWorld) :
    (svc.serveCallback ctx "GET" state code e w).2 = (svc.handleCallback ctx state code e w).2 := by
  rw [Service.serveCallback, if_neg (not_not.mpr rfl), if_neg (not_or.mpr ⟨hstate, hcode⟩)]
  rcases svc.handleCallback ctx state code e w with ⟨_ | ⟨tenantID, provider'⟩, w'⟩
  · rfl
  · rfl

lemma startState_ne (entropy : Bytes) : startState svc B provider entropy ≠ "" := by
  intro hempty
  have hlist := congrArg String.toList hempty
  simp [startState, String.toList_append] at hlist

/-- **The state of another tenant** is all that it takes. -/
lemma credentials_replaced (hvalidator : svc.validator = some v) (hB : B ≠ "") (conn : BoundConn)
    (hwired : (svc.providers provider).isSome) (hlax : Lax v org B provider) {code : String}
    (husable : Usable svc v org provider code) {w : OnboardingWorld} (hnonces : ∀ n, w.nonces n = none) :
    ∃ rs s tok ct, (∀ r ∈ rs, r.Own svc v org) ∧ Lts.run (svc.step conn) ⟨w, []⟩ rs = some s ∧
      Confined v org tok ∧ svc.store.encrypt tok = .ok ct ∧
      s.world.db.rows svc.store.pool B provider = some ct := by
  obtain ⟨p, hp⟩ := Option.isSome_iff_exists.mp hwired
  obtain ⟨tok, ct, htok, hencrypt, hanswered⟩ := husable.token p hp
  have hprovider : provider ≠ "" := by
    rcases hlax with ⟨rfl, -⟩ | ⟨rfl, -⟩ | ⟨rfl, -⟩ <;> decide
  let entropy : Bytes := List.replicate 16 0
  let state := startState svc B provider entropy
  have hstates := serveStart_states hB hprovider hlax hwired entropy
  refine ⟨[.start "GET" provider B none { entropy := .ok entropy }, .callback "GET" state code {}],
    ⟨(svc.serveCallback none "GET" state code {} w).2, [state]⟩, tok, ct, ?_, ?_, husable.own p tok htok, hencrypt, ?_⟩
  · intro r hr
    rcases List.mem_cons.mp hr with rfl | hr
    · trivial
    · rw [List.mem_singleton.mp hr]
      exact husable.own
  · simp [Lts.run, Service.step, hstates, state]
  · rw [serveCallback_world (startState_ne entropy) husable.nonempty]
    exact handleCallback_replaces hvalidator hB hlax hp htok hencrypt hanswered entropy hnonces

end Replace

/-- **Whose credentials are replaced.** Every run of requests of one tenant leaves the credentials of another one as
they are if it starts no consent for that tenant with a provider whose check is lax. With such a provider, two requests
are enough to store a token of the own organisation for the other tenant. -/
theorem credentials_kept {svc : Service} {v : HTTPPostConsentValidator} (org : Organisation) {B : String}
    (hvalidator : svc.validator = some v) {conn : BoundConn} (hconn : conn.tenantID ≠ B) (hB : B ≠ "") :
    (∀ w rs s, (∀ r ∈ rs, r.Own svc v org) → (∀ r ∈ rs, r.Fair svc v org B) →
      Lts.run (svc.step conn) ⟨w, []⟩ rs = some s → Kept B w s.world) ∧
    ∀ provider code w, (svc.providers provider).isSome → Lax v org B provider → Usable svc v org provider code →
      (∀ n, w.nonces n = none) →
      ∃ rs s tok ct, (∀ r ∈ rs, r.Own svc v org) ∧ Lts.run (svc.step conn) ⟨w, []⟩ rs = some s ∧
        Confined v org tok ∧ svc.store.encrypt tok = .ok ct ∧
        s.world.db.rows svc.store.pool B provider = some ct := by
  constructor
  · intro w rs s hown hfair hrun
    exact run_keeps hvalidator hconn hown hfair hrun
  · intro provider code w hwired hlax husable hnonces
    exact credentials_replaced hvalidator hB conn hwired hlax husable hnonces

section Samples

/-- A payload in a word of two characters: each character of its fields as so many ones and a zero. -/
def unary (cs : List Char) : List Char := cs.flatMap fun c => List.replicate c.toNat '1' ++ ['0']

def readUnary : ℕ → List Char → List Char
  | _, [] => []
  | n, '0' :: cs => Char.ofNat n :: readUnary 0 cs
  | n, _ :: cs => readUnary (n + 1) cs

lemma readUnary_ones (n k : ℕ) (rest : List Char) :
    readUnary n (List.replicate k '1' ++ '0' :: rest) = Char.ofNat (n + k) :: readUnary 0 rest := by
  induction k generalizing n with
  | zero => rfl
  | succ k ih =>
    rw [List.replicate_succ, List.cons_append, readUnary, ih, Nat.add_right_comm, Nat.add_assoc]
    simp

lemma readUnary_unary (cs : List Char) : readUnary 0 (unary cs) = cs := by
  induction cs with
  | nil => rfl
  | cons c cs ih =>
    have hcons : unary (c :: cs) = List.replicate c.toNat '1' ++ '0' :: unary cs := by simp [unary]
    rw [hcons, readUnary_ones, ih, Nat.zero_add, Char.ofNat_toNat]

lemma dot_notin_unary (cs : List Char) : '.' ∉ unary cs := by
  simp [unary]

def StatePayload.fields (p : StatePayload) : List (List Char) :=
  [p.tenantID.toList, p.provider.toList, p.nonce.toList, Fields.writeInt p.issuedAt, Fields.writeInt p.expiresAt]

def StatePayload.ofFields : List (List Char) → Except String StatePayload
  | [tid, p, n, iat, exp] =>
    .ok { tenantID := .ofList tid, provider := .ofList p, nonce := .ofList n, issuedAt := Fields.readInt iat
          expiresAt := Fields.readInt exp }
  | _ => .error "decode"

/-- A signer whose states are the payload in the clear. -/
def plainSigner : StateSigner where
  encode p := String.ofList (unary (Fields.write p.fields))
  decode enc := StatePayload.ofFields (Fields.read (readUnary 0 enc.toList))
  mac enc := enc
  decode_encode p := by
    simp [readUnary_unary, Fields.read_write, StatePayload.fields, StatePayload.ofFields, Fields.readInt_writeInt]
  dot_notin p := by
    rw [String.toList_ofList]
    exact dot_notin_unary _

/-- A deployment with Zoho only, where no organisation is expected. -/
def zohoValidator : HTTPPostConsentValidator where
  googleUsers _ _ := .error "no route to host"
  graphOrganization _ := .error "no route to host"
  zohoOrganization _ := .ok { status := 200, body := .ok [{ zoid := "acme-org" }] }

def zohoConfig : ProviderConfig :=
  { clientID := "id", clientSecret := "secret", authURL := "https://accounts.zoho.com/oauth/v2/auth"
    tokenURL := "https://accounts.zoho.com/oauth/v2/token", scopes := ["ZohoMail.accounts.READ"]
    redirectURL := "https://es.test/v1/onboarding/callback" }

def zohoService : Service where
  providers p := if p = providerZoho then some zohoConfig else none
  store := { pool := "home", encrypt := fun _ => .ok [1], decrypt := fun _ => .ok { accessToken := "acme-token" } }
  exchangeCode _ code := if code = "acme-code" then .ok { accessToken := "acme-token" } else .error "invalid_code"
  refreshToken _ _ := .error "invalid_grant"
  state := plainSigner
  validator := some zohoValidator

def acmeOrg : Organisation := { zohoIDs := ["acme-org"] }

def acmeConn : BoundConn := ⟨"home", "acme"⟩

lemma acme_confined (tok : Token) : Confined zohoValidator acmeOrg tok where
  google _ _ h := by cases h
  microsoft _ _ h := by cases h
  zoho r orgs hr _ horgs := by
    obtain rfl := Except.ok.inj hr
    obtain rfl := Except.ok.inj horgs
    intro o ho id hid
    obtain rfl := List.mem_singleton.mp ho
    revert id
    decide

lemma acme_answered : Answered zohoValidator acmeOrg { accessToken := "acme-token" } providerZoho where
  google hgoogle := absurd hgoogle (by decide)
  microsoft hmicrosoft := absurd hmicrosoft (by decide)
  zoho _ := by
    refine ⟨_, rfl, rfl, [{ zoid := "acme-org" }], rfl, fun id hid => ?_⟩
    obtain rfl := List.mem_singleton.mp hid
    exact ⟨_, List.mem_cons_self, rfl⟩

lemma acme_usable : Usable zohoService zohoValidator acmeOrg providerZoho "acme-code" where
  nonempty := by decide
  own _ tok _ := acme_confined tok
  token _ _ := ⟨{ accessToken := "acme-token" }, [1], rfl, rfl, acme_answered⟩

lemma zoho_lax (B : String) : Lax zohoValidator acmeOrg B providerZoho := .inr (.inr ⟨rfl, .inl rfl⟩)

/-- The other tenant has a token. -/
def boltWorld : OnboardingWorld :=
  { db := { rows := fun pool t p => if pool = "home" ∧ t = "bolt" ∧ p = providerZoho then some [2] else none } }

/-- **The failing input**: with a code of its own organisation, a tenant replaces the token of another one. -/
theorem zoho_token_replaced : ∃ rs s, (∀ r ∈ rs, r.Own zohoService zohoValidator acmeOrg) ∧
    Lts.run (zohoService.step acmeConn) ⟨boltWorld, []⟩ rs = some s ∧ ¬ Kept "bolt" boltWorld s.world := by
  obtain ⟨rs, s, tok, ct, hown, hrun, -, hct, hrow⟩ := credentials_replaced
    (show zohoService.validator = some zohoValidator from rfl) (show "bolt" ≠ "" by decide) acmeConn rfl (zoho_lax "bolt")
    acme_usable (w := boltWorld) fun _ => rfl
  refine ⟨rs, s, hown, hrun, fun hkept => ?_⟩
  obtain rfl : [1] = ct := Except.ok.inj hct
  have hrows := hkept.rows "home" providerZoho
  rw [show s.world.db.rows "home" "bolt" providerZoho = some [1] from hrow] at hrows
  exact absurd hrows (by decide)

theorem own_consents_keep_others :
    (∀ rs s, (∀ r ∈ rs, r.Own zohoService zohoValidator acmeOrg) →
      (∀ r ∈ rs, r.Fair zohoService zohoValidator acmeOrg "bolt") →
      Lts.run (zohoService.step acmeConn) ⟨boltWorld, []⟩ rs = some s → Kept "bolt" boltWorld s.world) ∧
    ∃ rs s, Lts.run (zohoService.step acmeConn) ⟨boltWorld, []⟩ rs = some s ∧
      s.world.db.rows "home" "bolt" providerZoho = some [1] := by
  have h := credentials_kept acmeOrg (show zohoService.validator = some zohoValidator from rfl)
    (show acmeConn.tenantID ≠ "bolt" by decide) (by decide)
  refine ⟨h.1 boltWorld, ?_⟩
  obtain ⟨rs, s, tok, ct, -, hrun, -, hct, hrow⟩ :=
    h.2 providerZoho "acme-code" boltWorld rfl (zoho_lax "bolt") acme_usable fun _ => rfl
  obtain rfl : [1] = ct := Except.ok.inj hct
  exact ⟨rs, s, hrun, hrow⟩

end Samples

end Sn360Es.Onboarding
