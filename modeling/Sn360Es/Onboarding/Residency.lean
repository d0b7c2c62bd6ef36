import Mathlib.Data.List.Basic
import Sn360Es.Lib.Lts
import Sn360Es.Onboarding.TenantCredentials

/-!
# In which region a token is stored (`pkg/storage/postgres/regional.go`, `internal/middleware/tenant_conn.go`,
`internal/service/tenant/region.go`)

With several regions, the binder in front of the handlers and the consumers looks the region of the tenant up and binds
a connection of that region's pool. The store of the tokens binds one of its own pool, that of the home region, when the
context has none: the OAuth callback and the background refresh come without.

* `Touched` — the accesses of one call are to one tenant on one pool;
* `step_resident` — what a call keeps;
* `tokens_resident_iff` — where the tokens of a tenant stay in its region.
-/

namespace Sn360Es.Onboarding

open Lib

/-! ### Regions -/

/-- `RegionalDB`: the pool of each region, in the order of their names. The primary pool is that of the home region, and
every other region has a pool of its own. -/
structure RegionalDB where
  byRegion : List (String × String)
  homeRegion : String
  primary : String
  home : byRegion.lookup homeRegion = some primary
  own : ∀ region, byRegion.lookup region = some primary → region = homeRegion
  named : byRegion.lookup "" = none

namespace RegionalDB

variable (r : RegionalDB)

/-- `Regions`. -/
def regions : List String := r.byRegion.map Prod.fst

/-- `DBForRegion`. -/
def dbForRegion (region : String) : Option String := r.byRegion.lookup region

/-- `WithTenantInRegion`; `bindError` is that of `WithTenant` on the pool. -/
def withTenantInRegion (region tenantID : String) (bindError : Option String) : Except String BoundConn :=
  if region = "" then .error "postgres: WithTenantInRegion: region must not be empty"
  else
    match r.dbForRegion region with
    | none =>
      .error ("postgres: WithTenantInRegion: region \"" ++ region ++ "\" is not configured (configured regions: [" ++
        " ".intercalate r.regions ++ "])")
    | some pool =>
      if tenantID = "" then .error "postgres: WithTenant: tenantID is empty"
      else
        match bindError with
        | some err => .error ("postgres: WithTenant: " ++ err)
        | none => .ok ⟨pool, tenantID⟩

lemma dbForRegion_eq_primary {region : String} : r.dbForRegion region = some r.primary ↔ region = r.homeRegion := by
  constructor
  · exact r.own region
  · rintro rfl
    exact r.home

end RegionalDB

/-- `RegionLookup.ResolveRegion`, over the region column of the tenants. -/
def resolveRegion (tenants : String → Option String) (tenantID : String) (getError : Option String) :
    Except String String :=
  if GoStrings.trimSpace tenantID = "" then .error "tenant: RegionLookup: tenantID is empty"
  else
    match getError, tenants tenantID with
    | some err, _ => .error ("tenant: RegionLookup: GetByID: " ++ err)
    | none, none => .error ("tenant: unknown tenant id: " ++ tenantID)
    | none, some column =>
      if GoStrings.trimSpace column = "" then
        .error ("tenant: RegionLookup: tenant " ++ tenantID ++ " has empty region column (data migration issue?)")
      else .ok (GoStrings.trimSpace column)

/-- The regions, the tenants and the service, whose store is wired to the primary pool. -/
structure Deployment where
  service : Service
  regional : RegionalDB
  tenants : String → Option String
  wired : service.store.pool = regional.primary

/-- What the binder meets. -/
structure BindEnv where
  getError : Option String := none
  bindError : Option String := none
  deriving DecidableEq, Repr

/-- The context of a call: without a connection, or with that of the binder for a tenant. -/
inductive Caller where
  | unbound
  | bound (tenantID : String) (e : BindEnv)
  deriving DecidableEq, Repr

namespace Deployment

variable (D : Deployment)

/-- `TenantConnBinder.bind`. -/
def bind (tenantID : String) (e : BindEnv) : Except String BoundConn :=
  match resolveRegion D.tenants tenantID e.getError with
  | .error err => .error err
  | .ok region => D.regional.withTenantInRegion region tenantID e.bindError

/-- The connection of the context, where the call is made at all. -/
def context : Caller → Except String (Option BoundConn)
  | .unbound => .ok none
  | .bound tenantID e => (D.bind tenantID e).map some

/-- The tenant has a region. -/
def InRegion (tenantID region : String) : Prop := resolveRegion D.tenants tenantID none = .ok region

end Deployment

inductive TokenOp where
  | handleCallback (caller : Caller) (state code : String) (e : OnboardingEnv)
  | tokenFor (caller : Caller) (tenantID provider : String) (e : OnboardingEnv)
  | revoke (caller : Caller) (tenantID provider : String) (e : OnboardingEnv)

namespace TokenOp

def caller : TokenOp → Caller
  | handleCallback caller .. => caller
  | tokenFor caller .. => caller
  | revoke caller .. => caller

/-- The tenant and the provider whose row the call is about. -/
def About (service : Service) : TokenOp → (tenantID provider : String) → Prop
  | handleCallback _ state _ e, tenantID, provider =>
    ∃ p, service.state.verify state e.now = .ok p ∧ p.tenantID = tenantID ∧ p.provider = provider
  | tokenFor _ tenantID' provider' _, tenantID, provider => tenantID' = tenantID ∧ provider' = provider
  | revoke _ tenantID' provider' _, tenantID, provider => tenantID' = tenantID ∧ provider' = provider

/-- The call on a connection, or without one. -/
def perform (service : Service) (ctx : Option BoundConn) (w : OnboardingWorld) : TokenOp → OnboardingWorld
  | handleCallback _ state code e => (service.handleCallback ctx state code e w).2
  | tokenFor _ tenantID provider e => (service.tokenFor ctx tenantID provider e w).2
  | revoke _ tenantID provider e => (service.revoke ctx tenantID provider e w).2

end TokenOp

/-- One call. The binder rejects a request that it cannot bind. -/
def Deployment.step (D : Deployment) (w : OnboardingWorld) (op : TokenOp) : Option OnboardingWorld :=
  match D.context op.caller with
  | .error _ => some w
  | .ok ctx => some (op.perform D.service ctx w)

/-! ### The accesses of a call -/

/-- Between the two databases lie accesses of rows of one tenant and provider on one pool. -/
inductive Touched (pool tenantID provider : String) : TokenDB → TokenDB → Prop where
  | refl (d : TokenDB) : Touched pool tenantID provider d d
  | read {d d' : TokenDB} (h : Touched pool tenantID provider d d') :
      Touched pool tenantID provider d (d'.read pool tenantID)
  | write {d d' : TokenDB} (h : Touched pool tenantID provider d d') (row : Option Bytes) :
      Touched pool tenantID provider d (d'.write pool tenantID provider row)

section Touched

variable {pool tenantID provider : String} {d d' : TokenDB}

lemma Touched.accesses (h : Touched pool tenantID provider d d') :
    ∀ a ∈ d'.accesses, a ∈ d.accesses ∨ a = (pool, tenantID) := by
  induction h with
  | refl => exact fun a ha => .inl ha
  | read _ ih =>
    intro a ha
    rcases List.mem_cons.mp ha with rfl | ha
    · exact .inr rfl
    · exact ih a ha
  | write _ _ ih =>
    intro a ha
    rcases List.mem_cons.mp ha with rfl | ha
    · exact .inr rfl
    · exact ih a ha

lemma Touched.rows (h : Touched pool tenantID provider d d') {pool' tenantID' provider' : String}
    (hne : ¬ (pool' = pool ∧ tenantID' = tenantID ∧ provider' = provider)) :
    d'.rows pool' tenantID' provider' = d.rows pool' tenantID' provider' := by
  induction h with
  | refl => rfl
  | read _ ih => exact ih
  | write _ _ ih => exact (if_neg hne).trans ih

end Touched

section Calls

variable {s : Service} {ctx : Option BoundConn} {tenantID provider : String} {e : OnboardingEnv} {w : OnboardingWorld}

/-- The accesses of a call on the connection that it gets: of the tenant of the connection, or none. -/
def Touches (s : Service) (ctx : Option BoundConn) (tenantID provider : String) (d d' : TokenDB) : Prop :=
  Touched (s.store.connOf ctx tenantID).pool tenantID provider d d' ∧
    ((s.store.connOf ctx tenantID).tenantID = tenantID ∨ d' = d)

lemma touches_refl (d : TokenDB) : Touches s ctx tenantID provider d d := ⟨.refl d, .inr rfl⟩

lemma touches_save {d d' : TokenDB} (h : Touches s ctx tenantID provider d d') (env : StoreEnv) (tok : Token) :
    Touches s ctx tenantID provider d (s.store.save ctx env tenantID provider tok d').2 := by
  obtain ⟨err, hsave⟩ | ⟨ct, -, hown, hsave⟩ := PgTokenStore.save_cases (s := s.store) ctx env tenantID provider tok d'
  · rw [hsave]
    exact h
  · rw [hsave]
    exact ⟨.write h.1 _, .inl hown⟩

lemma touches_load (s : Service) (ctx : Option BoundConn) (tenantID provider : String) (d : TokenDB) (env : StoreEnv) :
    Touches s ctx tenantID provider d (s.store.load ctx env tenantID provider d).2 := by
  obtain ⟨-, hload⟩ | ⟨hown, hload⟩ := PgTokenStore.load_cases (s := s.store) ctx env tenantID provider d
  · rw [hload]
    exact touches_refl d
  · rw [hload]
    exact ⟨.read (.refl d), .inl hown⟩

lemma touches_revoke : Touches s ctx tenantID provider w.db (s.revoke ctx tenantID provider e w).2.db := by
  show Touches s ctx tenantID provider w.db (s.store.delete ctx e.store tenantID provider w.db).2
  obtain hdelete | ⟨hown, hdelete⟩ := PgTokenStore.delete_cases (s := s.store) ctx e.store tenantID provider w.db
  · rw [hdelete]
    exact touches_refl _
  · rw [hdelete]
    exact ⟨.write (.refl _) _, .inl hown⟩

lemma touches_tokenFor : Touches s ctx tenantID provider w.db (s.tokenFor ctx tenantID provider e w).2.db := by
  have hload := touches_load s ctx tenantID provider w.db e.store
  unfold Service.tokenFor
  split
  · next err db heq =>
    rw [heq] at hload
    exact hload
  · next tok db heq =>
    rw [heq] at hload
    split
    · exact hload
    split
    · exact hload
    · split
      · exact hload
      split
      · exact hload
      next refreshed _ =>
      generalize hkept : (if refreshed.refreshToken = "" then { refreshed with refreshToken := tok.refreshToken }
        else refreshed) = kept
      have hsave := touches_save hload e.save kept
      dsimp only
      split
      · next err db' heq' =>
        rw [heq'] at hsave
        exact hsave
      · next db' heq' =>
        rw [heq'] at hsave
        exact hsave

lemma touches_keepToken {payload : StatePayload} {tok : Token} :
    Touches s ctx payload.tenantID payload.provider w.db (s.keepToken ctx payload tok e w).2.db := by
  have hrefl : Touches s ctx payload.tenantID payload.provider w.db w.db := touches_refl w.db
  have hsave := touches_save hrefl e.store tok
  unfold Service.keepToken
  split
  · next err db heq =>
    rw [heq] at hsave
    exact hsave
  · next db heq =>
    rw [heq] at hsave
    exact hsave

lemma touches_handleCallback {state code : String} {payload : StatePayload}
    (hverify : s.state.verify state e.now = .ok payload) :
    Touches s ctx payload.tenantID payload.provider w.db (s.handleCallback ctx state code e w).2.db := by
  rw [Service.handleCallback, hverify]
  dsimp only
  split
  · exact touches_refl w.db
  · unfold Service.redeem
    split
    · exact touches_refl w.db
    split
    · exact touches_refl w.db
    split
    · exact touches_refl w.db
    · exact touches_keepToken (w := { w with nonces := (s.markUsed payload.nonce e w.nonces).2 })

end Calls

/-! ### Runs -/

/-- A call that comes without a connection is not about the tenant, unless the tenant is at home. -/
def TokenOp.Routed (D : Deployment) (tenantID region : String) (op : TokenOp) : Prop :=
  op.caller = .unbound → (∃ provider, op.About D.service tenantID provider) → region = D.regional.homeRegion

namespace Deployment

variable (D : Deployment) (tenantID region : String)

/-- The rows of the tenant, and all accesses to them, are on the pool of its region. -/
structure Resident (w : OnboardingWorld) : Prop where
  accesses : ∀ a ∈ w.db.accesses, a.2 = tenantID → D.regional.dbForRegion region = some a.1
  rows : ∀ pool provider, w.db.rows pool tenantID provider ≠ none → D.regional.dbForRegion region = some pool

/-- What a callback saves is what the tenant's own requests load, until a call about that token. -/
def LoadsSaved (C : TokenOp → Prop) (w : OnboardingWorld) : Prop :=
  ∀ caller ctx state code e provider, C (.handleCallback caller state code e) → D.context caller = .ok ctx →
    (D.service.handleCallback ctx state code e w).1 = .ok (tenantID, provider) →
    ∃ p tok ct, D.service.exchangeCode p code = .ok tok ∧ D.service.store.encrypt tok = .ok ct ∧
      ∀ ops w' e' conn loaded, (∀ op ∈ ops, ¬ op.About D.service tenantID provider) →
        Lts.run D.step (D.service.handleCallback ctx state code e w).2 ops = some w' → D.bind tenantID e' = .ok conn →
        D.service.store.decrypt ct = .ok loaded →
        (D.service.store.load (some conn) {} tenantID provider w'.db).1 = .ok loaded

/-- After a revocation by the tenant, or in the background, no pool has the token. -/
def ForgetsRevoked (C : TokenOp → Prop) (w : OnboardingWorld) : Prop :=
  ∀ caller ctx provider e, C (.revoke caller tenantID provider e) → (∀ t env, caller = .bound t env → t = tenantID) →
    D.context caller = .ok ctx → (D.service.revoke ctx tenantID provider e w).1 = none →
    ∀ pool, (D.service.revoke ctx tenantID provider e w).2.db.rows pool tenantID provider = none

end Deployment

section Runs

variable {D : Deployment} {tenantID region : String} {w w' : OnboardingWorld}

lemma resolveRegion_ok {tenants : String → Option String} {getError : Option String}
    (h : resolveRegion tenants tenantID getError = .ok region) : resolveRegion tenants tenantID none = .ok region := by
  cases getError with
  | none => exact h
  | some err =>
    unfold resolveRegion at h
    split at h <;> cases h

/-- What the binder binds. -/
lemma bind_ok {e : BindEnv} {conn : BoundConn} (h : D.bind tenantID e = .ok conn) :
    conn.tenantID = tenantID ∧ ∃ region, D.InRegion tenantID region ∧
      D.regional.dbForRegion region = some conn.pool := by
  unfold Deployment.bind at h
  split at h
  · cases h
  next region hregion =>
  unfold RegionalDB.withTenantInRegion at h
  split at h
  · cases h
  split at h
  · cases h
  next pool hpool =>
  split at h
  · cases h
  split at h
  · cases h
  obtain rfl := Except.ok.inj h
  exact ⟨rfl, region, resolveRegion_ok hregion, hpool⟩

/-- The binder finds the pool of the tenant's region. -/
lemma bind_pool {e : BindEnv} {conn : BoundConn} (hT : D.InRegion tenantID region)
    (h : D.bind tenantID e = .ok conn) : D.regional.dbForRegion region = some conn.pool := by
  obtain ⟨-, region', hregion', hpool⟩ := bind_ok h
  obtain rfl : region' = region := Except.ok.inj (hregion'.symm.trans hT)
  exact hpool

lemma context_bound {t : String} {env : BindEnv} {ctx : Option BoundConn} (h : D.context (.bound t env) = .ok ctx) :
    ∃ conn, D.bind t env = .ok conn ∧ ctx = some conn := by
  simp only [Deployment.context] at h
  cases hbind : D.bind t env with
  | error err =>
    rw [hbind] at h
    cases h
  | ok conn =>
    rw [hbind] at h
    exact ⟨conn, rfl, (Except.ok.inj h).symm⟩

/-- The connection of a call about the tenant is of the pool of its region. -/
lemma connOf_pool {op : TokenOp} {ctx : Option BoundConn} {provider : String} (hT : D.InRegion tenantID region)
    (hrouted : op.Routed D tenantID region) (habout : op.About D.service tenantID provider)
    (hctx : D.context op.caller = .ok ctx) (hown : (D.service.store.connOf ctx tenantID).tenantID = tenantID) :
    D.regional.dbForRegion region = some (D.service.store.connOf ctx tenantID).pool := by
  cases hcaller : op.caller with
  | unbound =>
    rw [hcaller] at hctx
    obtain rfl : none = ctx := Except.ok.inj hctx
    show D.regional.dbForRegion region = some D.service.store.pool
    rw [D.wired]
    exact (D.regional.dbForRegion_eq_primary).mpr (hrouted hcaller ⟨provider, habout⟩)
  | bound t env =>
    rw [hcaller] at hctx
    obtain ⟨conn, hbind, rfl⟩ := context_bound hctx
    obtain rfl : t = tenantID := (bind_ok hbind).1.symm.trans hown
    exact bind_pool hT hbind

/-- **What a call touches**: nothing, or rows that it is about. -/
lemma perform_touches (s : Service) (ctx : Option BoundConn) (w : OnboardingWorld) (op : TokenOp) :
    (op.perform s ctx w).db = w.db ∨
    ∃ t provider, op.About s t provider ∧ Touches s ctx t provider w.db (op.perform s ctx w).db := by
  cases op with
  | handleCallback caller state code e =>
    cases hverify : s.state.verify state e.now with
    | error err =>
      refine .inl ?_
      show (s.handleCallback ctx state code e w).2.db = w.db
      rw [Service.handleCallback, hverify]
    | ok payload =>
      exact .inr ⟨payload.tenantID, payload.provider, ⟨payload, hverify, rfl, rfl⟩, touches_handleCallback hverify⟩
  | tokenFor caller t provider e => exact .inr ⟨t, provider, ⟨rfl, rfl⟩, touches_tokenFor⟩
  | revoke caller t provider e => exact .inr ⟨t, provider, ⟨rfl, rfl⟩, touches_revoke⟩

/-- **One call** keeps the tokens of a tenant in its region. -/
lemma step_resident {op : TokenOp} (hT : D.InRegion tenantID region) (hw : D.Resident tenantID region w)
    (hrouted : op.Routed D tenantID region) (hstep : D.step w op = some w') : D.Resident tenantID region w' := by
  unfold Deployment.step at hstep
  split at hstep
  · obtain rfl := Option.some.inj hstep
    exact hw
  next ctx hctx =>
  obtain rfl := Option.some.inj hstep
  obtain hsame | ⟨t, provider, habout, htouched, hown⟩ := perform_touches D.service ctx w op
  · exact ⟨by rw [hsame]; exact hw.accesses, by rw [hsame]; exact hw.rows⟩
  rcases hown with hown | hsame
  · by_cases ht : t = tenantID
    · subst ht
      have hpool := connOf_pool hT hrouted habout hctx hown
      constructor
      · intro a ha hat
        rcases htouched.accesses a ha with hold | rfl
        · exact hw.accesses a hold hat
        · exact hpool
      · intro pool provider' hrow
        by_cases hhere : pool = (D.service.store.connOf ctx t).pool ∧ t = t ∧ provider' = provider
        · rw [hhere.1]
          exact hpool
        · rw [htouched.rows hhere] at hrow
          exact hw.rows pool provider' hrow
    · constructor
      · intro a ha hat
        rcases htouched.accesses a ha with hold | rfl
        · exact hw.accesses a hold hat
        · exact absurd hat ht
      · intro pool provider' hrow
        rw [htouched.rows fun h => ht h.2.1.symm] at hrow
        exact hw.rows pool provider' hrow
  · exact ⟨by rw [hsame]; exact hw.accesses, by rw [hsame]; exact hw.rows⟩

lemma run_resident {ops : List TokenOp} (hT : D.InRegion tenantID region)
    (hrouted : ∀ op ∈ ops, op.Routed D tenantID region) (hrun : Lts.run D.step {} ops = some w) :
    D.Resident tenantID region w :=
  Lts.run_induct (fun _ _ _ hs hop hstep => step_resident hT hs hop hstep)
    ⟨fun _ ha => absurd ha List.not_mem_nil, fun _ _ hrow => absurd rfl hrow⟩
    (Lts.meets_of_forall (C := fun op : TokenOp => op.Routed D tenantID region) {} hrouted) hrun

/-- Calls about other tokens leave a row alone. -/
lemma run_rows {ops : List TokenOp} {provider pool : String}
    (hops : ∀ op ∈ ops, ¬ op.About D.service tenantID provider) (hrun : Lts.run D.step w ops = some w') :
    w'.db.rows pool tenantID provider = w.db.rows pool tenantID provider := by
  refine Lts.run_induct (C := fun _ op => ¬ op.About D.service tenantID provider)
    (I := fun v => v.db.rows pool tenantID provider = w.db.rows pool tenantID provider) ?_ rfl
    (Lts.meets_of_forall w hops) hrun
  intro s op s' hs hother hstep
  unfold Deployment.step at hstep
  split at hstep
  · obtain rfl := Option.some.inj hstep
    exact hs
  next ctx _ =>
  obtain rfl := Option.some.inj hstep
  obtain hsame | ⟨t, provider', habout, htouched, -⟩ := perform_touches D.service ctx s op
  · rw [hsame]
    exact hs
  · rw [htouched.rows, hs]
    rintro ⟨-, rfl, rfl⟩
    exact hother habout

end Runs

/-! ### Tokens that are saved and revoked -/

section Tokens

variable {D : Deployment} {tenantID region provider : String} {w : OnboardingWorld} {s : Service}
  {ctx : Option BoundConn} {e : OnboardingEnv}

lemma keepToken_saves {payload : StatePayload} {tok : Token}
    (h : (s.keepToken ctx payload tok e w).1 = .ok (tenantID, provider)) :
    payload.tenantID = tenantID ∧ payload.provider = provider ∧
    (s.store.connOf ctx tenantID).tenantID = tenantID ∧ ∃ ct, s.store.encrypt tok = .ok ct ∧
      (s.keepToken ctx payload tok e w).2.db.rows (s.store.connOf ctx tenantID).pool tenantID provider = some ct := by
  obtain ⟨err, hsave⟩ | ⟨ct, hct, hown, hsave⟩ := PgTokenStore.save_cases (s := s.store) ctx e.store
    payload.tenantID payload.provider tok w.db
  · rw [Service.keepToken, hsave] at h
    cases h
  · rw [Service.keepToken, hsave] at h
    obtain ⟨rfl, rfl⟩ := Prod.mk.inj (Except.ok.inj h)
    refine ⟨rfl, rfl, hown, ct, hct, ?_⟩
    rw [Service.keepToken, hsave]
    exact if_pos ⟨rfl, rfl, rfl⟩

/-- **A callback that succeeds** has saved the token of its code. -/
lemma handleCallback_saves {state code : String}
    (h : (s.handleCallback ctx state code e w).1 = .ok (tenantID, provider)) :
    (∃ p, s.state.verify state e.now = .ok p ∧ p.tenantID = tenantID ∧ p.provider = provider) ∧
    (s.store.connOf ctx tenantID).tenantID = tenantID ∧
    ∃ p tok ct, s.exchangeCode p code = .ok tok ∧ s.store.encrypt tok = .ok ct ∧
      (s.handleCallback ctx state code e w).2.db.rows (s.store.connOf ctx tenantID).pool tenantID provider =
        some ct := by
  unfold Service.handleCallback at h ⊢
  cases hverify : s.state.verify state e.now with
  | error err =>
    rw [hverify] at h
    cases h
  | ok payload =>
    rw [hverify] at h
    dsimp only at h ⊢
    split at h
    · cases h
    next hunused =>
    rw [if_neg hunused]
    unfold Service.redeem at h ⊢
    cases hp : s.providers payload.provider with
    | none =>
      rw [hp] at h
      cases h
    | some p =>
      rw [hp] at h
      dsimp only at h ⊢
      cases htok : s.exchangeCode p code with
      | error err =>
        rw [htok] at h
        cases h
      | ok tok =>
        rw [htok] at h
        dsimp only at h ⊢
        split at h
        · cases h
        · obtain ⟨htenant, hprovider, hown, ct, hct, hrow⟩ := keepToken_saves h
          exact ⟨⟨payload, rfl, htenant, hprovider⟩, hown, p, tok, ct, htok, hct, hrow⟩

/-- `Load` on a connection of the tenant, on whose pool the row is. -/
lemma load_row {store : PgTokenStore} {conn : BoundConn} {d : TokenDB} {ct : Bytes} {loaded : Token}
    (htenant : tenantID ≠ "") (hconn : conn.tenantID = tenantID)
    (hrow : d.rows conn.pool tenantID provider = some ct) (hloaded : store.decrypt ct = .ok loaded) :
    (store.load (some conn) {} tenantID provider d).1 = .ok loaded := by
  simp [PgTokenStore.load, htenant, PgTokenStore.bindTenantIfNeeded, hconn, hrow, hloaded]

lemma Deployment.InRegion.tenant_ne (hT : D.InRegion tenantID region) : tenantID ≠ "" := by
  rintro rfl
  have hempty : GoStrings.trimSpace "" = "" := by decide
  unfold Deployment.InRegion resolveRegion at hT
  rw [if_pos hempty] at hT
  cases hT

lemma loadsSaved (hT : D.InRegion tenantID region) :
    D.LoadsSaved tenantID (·.Routed D tenantID region) w := by
  intro caller ctx state code e provider hrouted hctx hok
  obtain ⟨habout, hown, p, tok, ct, htok, hct, hrow⟩ := handleCallback_saves hok
  refine ⟨p, tok, ct, htok, hct, fun ops w' e' conn loaded hops hrun hbind hloaded => ?_⟩
  have hpool := connOf_pool hT hrouted habout hctx hown
  rw [bind_pool hT hbind] at hpool
  refine load_row hT.tenant_ne (bind_ok hbind).1 ?_ hloaded
  rw [run_rows hops hrun, Option.some.inj hpool]
  exact hrow

/-- `Delete` on a connection of the tenant, without an error. -/
lemma delete_row {store : PgTokenStore} {env : StoreEnv} {d : TokenDB}
    (hown : (store.connOf ctx tenantID).tenantID = tenantID)
    (h : (store.delete ctx env tenantID provider d).1 = none) :
    (store.delete ctx env tenantID provider d).2 = d.write (store.connOf ctx tenantID).pool tenantID provider none := by
  unfold PgTokenStore.delete at h ⊢
  split at h
  · cases h
  next htenant =>
  rw [if_neg htenant]
  split at h
  · cases h
  · cases h
  · next conn hbind _ =>
    dsimp only
    rw [PgTokenStore.bindTenantIfNeeded_ok hbind, if_pos hown]

lemma forgetsRevoked (hT : D.InRegion tenantID region) (hw : D.Resident tenantID region w) :
    D.ForgetsRevoked tenantID (·.Routed D tenantID region) w := by
  intro caller ctx provider e hrouted hcaller hctx hok pool
  have hown : (D.service.store.connOf ctx tenantID).tenantID = tenantID := by
    cases caller with
    | unbound =>
      obtain rfl : none = ctx := Except.ok.inj hctx
      rfl
    | bound t env =>
      obtain ⟨conn, hbind, rfl⟩ := context_bound hctx
      exact (bind_ok hbind).1.trans (hcaller t env rfl)
  have habout : (TokenOp.revoke caller tenantID provider e).About D.service tenantID provider := ⟨rfl, rfl⟩
  have hpool := connOf_pool hT hrouted habout hctx hown
  show (D.service.store.delete ctx e.store tenantID provider w.db).2.rows pool tenantID provider = none
  rw [delete_row hown hok]
  show (if pool = _ ∧ _ then none else w.db.rows pool tenantID provider) = none
  split
  · rfl
  · next hne =>
    by_contra hrow
    have hthere := hw.rows pool provider hrow
    rw [hpool] at hthere
    exact hne ⟨(Option.some.inj hthere).symm, rfl, rfl⟩

end Tokens

/-- **In which region the tokens of a tenant are.** Every run of calls keeps them in the region of the tenant, loads
what was saved and forgets what was revoked, exactly if that is the home region. In another region, every run does that
whose calls about the tenant all come with a connection of the binder. -/
theorem tokens_resident_iff {D : Deployment} {tenantID region : String} (hT : D.InRegion tenantID region) :
    ((∀ ops w, Lts.run D.step {} ops = some w → D.Resident tenantID region w ∧
      D.LoadsSaved tenantID (fun _ => True) w ∧ D.ForgetsRevoked tenantID (fun _ => True) w) ↔
      region = D.regional.homeRegion) ∧
    ∀ ops w, (∀ op ∈ ops, op.Routed D tenantID region) → Lts.run D.step {} ops = some w →
      D.Resident tenantID region w ∧ D.LoadsSaved tenantID (·.Routed D tenantID region) w ∧
      D.ForgetsRevoked tenantID (·.Routed D tenantID region) w := by
  have hruns : ∀ ops w, (∀ op ∈ ops, op.Routed D tenantID region) → Lts.run D.step {} ops = some w →
      D.Resident tenantID region w ∧ D.LoadsSaved tenantID (·.Routed D tenantID region) w ∧
      D.ForgetsRevoked tenantID (·.Routed D tenantID region) w := by
    intro ops w hrouted hrun
    have hw := run_resident hT hrouted hrun
    exact ⟨hw, loadsSaved hT, forgetsRevoked hT hw⟩
  refine ⟨⟨fun hall => ?_, fun hhome => ?_⟩, hruns⟩
  · -- a refresh in the background reads on the primary pool
    have hrun : Lts.run D.step {} [.tokenFor .unbound tenantID "" {}] =
        some (TokenOp.perform D.service none {} (.tokenFor .unbound tenantID "" {})) := rfl
    obtain ⟨hresident, -, -⟩ := hall _ _ hrun
    refine (D.regional.dbForRegion_eq_primary).mp (hresident.accesses (D.regional.primary, tenantID) ?_ rfl)
    have hload : D.service.store.load none {} tenantID "" {} =
        (.error (PgTokenStore.notFound tenantID ""), TokenDB.read {} D.regional.primary tenantID) := by
      simp [PgTokenStore.load, hT.tenant_ne, PgTokenStore.bindTenantIfNeeded, D.wired]
    show (D.regional.primary, tenantID) ∈ (D.service.tokenFor none tenantID "" {} {}).2.db.accesses
    rw [Service.tokenFor, hload]
    exact List.mem_cons_self
  · intro ops w hrun
    have hrouted : ∀ op : TokenOp, op.Routed D tenantID region := fun _ _ _ => hhome
    obtain ⟨hresident, hloads, hforgets⟩ := hruns ops w (fun op _ => hrouted op) hrun
    refine ⟨hresident, fun caller ctx state code e provider _ => ?_, fun caller ctx provider e _ => ?_⟩
    · exact hloads caller ctx state code e provider (hrouted _)
    · exact hforgets caller ctx provider e (hrouted _)

section Samples

/-- Two regions; the tenant is not at home. -/
def euDeployment : Deployment where
  service := zohoService
  regional :=
    { byRegion := [("eu", "pg-eu"), ("us", "home")], homeRegion := "us", primary := "home", home := by decide
      own := by
        intro region h
        by_cases heu : region = "eu"
        · subst heu
          exact absurd h (by decide)
        · by_contra hus
          have heu' : (region == "eu") = false := beq_eq_false_iff_ne.mpr heu
          have hus' : (region == "us") = false := beq_eq_false_iff_ne.mpr hus
          simp [List.lookup_cons, heu', hus'] at h
      named := by decide }
  tenants tenantID := if tenantID = "acme" then some "eu" else none
  wired := rfl

lemma euDeployment_service : euDeployment.service = zohoService := rfl

lemma run_callback (D : Deployment) (w : OnboardingWorld) (state code : String) (e : OnboardingEnv) :
    Lts.run D.step w [.handleCallback .unbound state code e] =
      some (D.service.handleCallback none state code e w).2 := rfl

lemma acme_in_eu : euDeployment.InRegion "acme" "eu" := by
  show resolveRegion _ _ _ = _
  decide

lemma zoho_callback_saves : ∃ state, (zohoService.handleCallback none state "acme-code" {} {}).2.db.rows
    zohoService.store.pool "acme" providerZoho = some [1] := by
  have hp : zohoService.providers providerZoho = some zohoConfig := rfl
  have hvalidator : zohoService.validator = some zohoValidator := rfl
  have htok : zohoService.exchangeCode zohoConfig "acme-code" = .ok { accessToken := "acme-token" } := rfl
  have hencrypt : zohoService.store.encrypt { accessToken := "acme-token" } = .ok [1] := rfl
  exact ⟨startState zohoService "acme" providerZoho [],
    handleCallback_replaces hvalidator (by decide) (zoho_lax "acme") hp htok hencrypt acme_answered [] fun _ => rfl⟩

/-- **The failing input**: the callback saves the token of the tenant in the home region. -/
theorem eu_token_saved_at_home : ∃ ops w, Lts.run euDeployment.step {} ops = some w ∧
    w.db.rows "home" "acme" providerZoho = some [1] ∧ ¬ euDeployment.Resident "acme" "eu" w := by
  obtain ⟨state, hrow⟩ := zoho_callback_saves
  have hrun := run_callback euDeployment {} state "acme-code" {}
  rw [euDeployment_service] at hrun
  refine ⟨_, _, hrun, hrow, fun hresident => ?_⟩
  have hpool := hresident.rows zohoService.store.pool providerZoho fun hnone => by
    rw [hnone] at hrow
    cases hrow
  exact absurd hpool (by decide)

theorem bound_calls_stay_in_region : euDeployment.InRegion "acme" "eu" ∧
    ∀ ops w, (∀ op ∈ ops, op.Routed euDeployment "acme" "eu") → Lts.run euDeployment.step {} ops = some w →
      euDeployment.Resident "acme" "eu" w := by
  refine ⟨acme_in_eu, fun ops w hrouted hrun => ?_⟩
  exact ((tokens_resident_iff acme_in_eu).2 ops w hrouted hrun).1

end Samples

end Sn360Es.Onboarding
