import Sn360Es.Handler.Api

/-!
# Which requests the token of a message opens

`JWTAuth` asks of a token only that it is signed and has a tenant. Whether a request is refused is then up to the
handler of its path.

* `Api.Opens` — what each handler asks of a request;
* `refused_serveRoute` — a token without the scope or the role of an administrator is refused exactly by these checks;
* `message_token_refused_iff` — the same from the request on;
* `banner_token_approves_vendor` — the token of a banner approves a vendor.
-/

namespace Sn360Es.Handler

open Lib Privacy Agent

/-- A call of a repository that writes. `ResolveEscalation` makes one as soon as its arguments are valid. -/
def isWrite : ApiOp → Bool
  | .vendor (.upsert _ _) | .vendor (.delete _ _) | .deleteToken _ _ => true
  | .resolveEscalation tenantID ticketID _ outcome _ => tenantID ≠ "" && ticketID ≠ "" && validOutcome outcome
  | _ => false

/-- The request is refused before any write of a repository. -/
structure Refused (p : ApiM ApiResponse) (env : ℕ → ApiEnv) (w : ApiWorld) : Prop where
  quiet : ¬ Prog.Performs ApiOp.exec (fun x => isWrite x.1 = true) p env w
  answer : (p.eval ApiOp.exec env w).1.served = false

section Refused

variable {env : ℕ → ApiEnv} {w : ApiWorld}

lemma refused_ret {res : ApiResponse} : Refused (.ret res) env w ↔ res.served = false := by
  constructor
  · intro h
    exact h.answer
  · intro h
    exact ⟨Prog.not_performs_ret _, h⟩

/-- A call that writes nothing. -/
lemma refused_call {o : ApiOp} {k : o.Ans → ApiM ApiResponse} (ho : isWrite o = false) :
    Refused (.call o k) env w ↔
      Refused (k (o.exec (env 0) w).1) (fun n => env (n + 1)) (o.exec (env 0) w).2 := by
  have hperforms : Prog.Performs ApiOp.exec (fun x => isWrite x.1 = true) (.call o k) env w ↔
      Prog.Performs ApiOp.exec (fun x => isWrite x.1 = true) (k (o.exec (env 0) w).1) (fun n => env (n + 1))
        (o.exec (env 0) w).2 := by
    refine (Prog.performs_bind (p := Prog.perform o) (f := k)).trans (or_iff_right ?_)
    rw [Prog.performs_perform, ho]
    decide
  constructor
  · intro h
    exact ⟨mt hperforms.mpr h.quiet, h.answer⟩
  · intro h
    exact ⟨mt hperforms.mp h.quiet, h.answer⟩

/-- A call that writes. -/
lemma not_refused_call {o : ApiOp} {k : o.Ans → ApiM ApiResponse} (ho : isWrite o = true) :
    ¬ Refused (.call o k) env w := by
  intro h
  refine h.quiet ((Prog.performs_bind (p := Prog.perform o) (f := k)).mpr (.inl ?_))
  rw [Prog.performs_perform]
  exact ho

end Refused

/-! ### What each handler asks of a request -/

/-- The handler answers the request with what its service returns. -/
structure Api.ReadHandler.Answers (g : Api.ReadHandler) (r : ApiRequest) (e : ApiEnv) : Prop where
  method : r.method = g.method
  check : ∃ call, g.check = .ok call
  service : e.readError.bind g.failure = none

namespace Api

variable (h : Api) (tenantID : String) (r : ApiRequest) (e : ApiEnv) (w : ApiWorld)

/-- A request that creates a vendor. -/
def Creates : Prop := r.method = "POST" ∧ ∃ req, (vendorCreate r).create = some req ∧ req.tenantID ≠ "" ∧ req.domain ≠ ""

/-- A request that deletes a vendor. -/
def Deletes : Prop :=
  r.method = "DELETE" ∧ h.vendor.extractVendorDomainForDelete r.path ≠ "" ∧ r.get "tenant_id" ≠ ""

/-- A request that approves or revokes a vendor that is there. -/
def Decides (suffix : String) : Prop :=
  r.method = "PUT" ∧ h.vendor.extractVendorDomain r.path suffix ≠ "" ∧
    ∃ t v, (vendorDecision r).tenantID = some t ∧ t ≠ "" ∧ w.admits t = true ∧ e.vendor.fail = none ∧
      w.vendors.vendors t (h.vendor.extractVendorDomain r.path suffix) = some v

/-- A request that resolves a ticket. -/
def Resolves : Prop :=
  r.method = "POST" ∧ tenantID ≠ "" ∧ h.wired .escalationResolve = true ∧
    ∃ req, (r.body 16384).bind (decResolveRequest {}) = some req ∧ GoStrings.trimSpace req.ticketID ≠ "" ∧
      validOutcome req.outcome = true

/-- What the handler of a route asks of a request, where the gates are closed. -/
def Opens : Route → Prop
  | .dashboard => (h.dashboard tenantID r).Answers r e
  | .educationAnalytics => (h.educationAnalytics tenantID r).Answers r e
  | .predictRecipient => (h.predictRecipient r).Answers r e
  | .predictOpen => (h.predictOpen r).Answers r e
  | .escalationResolve => h.Resolves tenantID r
  | .escalationGet => (h.escalationGet tenantID r).Answers r e
  | .investigationMessage => (h.investigationMessage tenantID r).Answers r e
  | .investigationSender => (h.investigationSender tenantID r).Answers r e
  | .onboardingStart => (onboardingStart r).Answers r e
  | .onboardingStatus => (onboardingStatus r).Answers r e
  | .onboardingRevoke => r.method = "DELETE" ∧ r.get "tenant_id" ≠ "" ∧ r.get "provider" ≠ ""
  | .gwsSetupStatus => (gwsSetupStatus r).Answers r e
  | .vendors => (vendorList r).Answers r e ∨ Creates r
  | .vendor =>
    h.Deletes r ∨ (hasSuffix r.path "/approve" = true ∧ h.Decides r e w "/approve") ∨
      (hasSuffix r.path "/revoke" = true ∧ h.Decides r e w "/revoke")
  | .orgGraph => (orgGraph r).Answers r e
  | .intelFeeds | .intelFeed | .intelIndicators | .tenants => False

end Api

section Handlers

variable {h : Api} {tenantID : String} {r : ApiRequest} {env : ℕ → ApiEnv} {w : ApiWorld}

lemma refused_read (g : Api.ReadHandler) : Refused (g.serve r) env w ↔ ¬ g.Answers r (env 0) := by
  unfold Api.ReadHandler.serve
  split
  · next hmethod => exact iff_of_true (refused_ret.mpr rfl) fun hopen => hmethod hopen.method
  · next hmethod =>
    split
    · next err hcheck =>
      refine iff_of_true (refused_ret.mpr rfl) fun hopen => ?_
      obtain ⟨call, hcall⟩ := hopen.check
      rw [hcheck] at hcall
      cases hcall
    · next call hcheck =>
      refine (refused_call rfl).trans ?_
      dsimp only [Prog.bind, ApiOp.exec]
      generalize hservice : (env 0).readError.bind g.failure = answer
      cases answer with
      | some err =>
        refine iff_of_true (refused_ret.mpr rfl) fun hopen => ?_
        exact absurd (hservice.symm.trans hopen.service) (by simp)
      | none =>
        exact iff_of_false (mt refused_ret.mp (by decide))
          (not_not.mpr ⟨not_not.mp hmethod, ⟨call, hcheck⟩, hservice⟩)

lemma refused_revoke : Refused (Api.serveRevoke r) env w ↔
    ¬ (r.method = "DELETE" ∧ r.get "tenant_id" ≠ "" ∧ r.get "provider" ≠ "") := by
  unfold Api.serveRevoke
  split
  · next hmethod => exact iff_of_true (refused_ret.mpr rfl) fun hopen => hmethod hopen.1
  · next hmethod =>
    split
    · next hmissing =>
      refine iff_of_true (refused_ret.mpr rfl) ?_
      rintro ⟨-, htenant, hprovider⟩
      exact hmissing.elim htenant hprovider
    · next hmissing =>
      exact iff_of_false (not_refused_call rfl) (not_not.mpr ⟨not_not.mp hmethod, not_or.mp hmissing⟩)

/-- An outcome that is none is an error. -/
lemma resolveEscalation_invalid (e : EscalationEnv) (tenantID ticketID resolverHash notes : String) (st : TicketStore)
    {outcome : String} (houtcome : validOutcome outcome = false) :
    ∃ err, (Agent.resolveEscalation e tenantID ticketID resolverHash outcome notes st).err = some err := by
  unfold Agent.resolveEscalation
  split
  · exact ⟨_, rfl⟩
  · split
    · exact ⟨_, rfl⟩
    · rw [if_pos (by rw [houtcome]; decide)]
      exact ⟨_, rfl⟩

lemma refused_resolve : Refused (h.serveResolve tenantID r) env w ↔ ¬ h.Resolves tenantID r := by
  unfold Api.serveResolve
  split
  · next hmethod => exact iff_of_true (refused_ret.mpr rfl) fun hopen => hmethod hopen.1
  next hmethod =>
  split
  · next htenant => exact iff_of_true (refused_ret.mpr rfl) fun hopen => hopen.2.1 htenant
  next htenant =>
  split
  · next hwired => exact iff_of_true (refused_ret.mpr rfl) fun hopen => hwired hopen.2.2.1
  next hwired =>
  split
  · next hbody =>
    refine iff_of_true (refused_ret.mpr rfl) ?_
    rintro ⟨-, -, -, req, hreq, -⟩
    rw [hbody] at hreq
    cases hreq
  next req hbody =>
  split
  · next hticket =>
    refine iff_of_true (refused_ret.mpr rfl) ?_
    rintro ⟨-, -, -, req', hreq, hne, -⟩
    rw [hbody] at hreq
    obtain rfl := Option.some.inj hreq
    exact hne hticket
  next hticket =>
  cases houtcome : validOutcome req.outcome with
  | true =>
    refine iff_of_false (not_refused_call ?_) (not_not.mpr ⟨not_not.mp hmethod, htenant, not_not.mp hwired, req, hbody,
      hticket, houtcome⟩)
    simp [isWrite, htenant, hticket, houtcome]
  | false =>
    refine iff_of_true ((refused_call ?_).mpr ?_) ?_
    · simp [isWrite, houtcome]
    · obtain ⟨err, herr⟩ := resolveEscalation_invalid (env 0).escalation tenantID (GoStrings.trimSpace req.ticketID)
        req.resolverHash req.notes w.tickets houtcome
      simp only [ApiOp.exec, herr]
      exact refused_ret.mpr rfl
    · rintro ⟨-, -, -, req', hreq, -, hvalid⟩
      rw [hbody] at hreq
      obtain rfl := Option.some.inj hreq
      rw [houtcome] at hvalid
      cases hvalid

/-- The answer of a handler of the vendors is that of the API. -/
abbrev vendorAnswer (p : VendorM VendorResponse) : ApiM ApiResponse := ApiM.vendor p >>= fun res => pure (.vendor res)

lemma refused_create (hpost : r.method = "POST") :
    Refused (vendorAnswer (h.vendor.serveCreate (Api.vendorCreate r))) env w ↔ ¬ Api.Creates r := by
  unfold VendorHandler.serveCreate
  rw [if_neg (show ¬ (Api.vendorCreate r).method ≠ "POST" from not_not.mpr hpost)]
  split
  · next hbody =>
    refine iff_of_true (refused_ret.mpr rfl) ?_
    rintro ⟨-, req, hreq, -⟩
    rw [hbody] at hreq
    cases hreq
  · next req hbody =>
    split
    · next hmissing =>
      refine iff_of_true (refused_ret.mpr rfl) ?_
      rintro ⟨-, req', hreq, htenant, hdomain⟩
      rw [hbody] at hreq
      obtain rfl := Option.some.inj hreq
      exact hmissing.elim htenant hdomain
    · next hmissing =>
      refine iff_of_false (fun hrefused => ?_) (not_not.mpr ⟨hpost, req, hbody, not_or.mp hmissing⟩)
      -- the clock is read, and then the row is written
      exact not_refused_call rfl ((refused_call rfl).mp hrefused)

lemma refused_delete (hdelete : r.method = "DELETE") :
    Refused (vendorAnswer (h.vendor.serveDelete (Api.vendorDelete r))) env w ↔ ¬ h.Deletes r := by
  unfold VendorHandler.serveDelete
  rw [if_neg (show ¬ (Api.vendorDelete r).method ≠ "DELETE" from not_not.mpr hdelete)]
  dsimp only [Api.vendorDelete]
  split
  · next hdomain => exact iff_of_true (refused_ret.mpr rfl) fun hopen => hopen.2.1 hdomain
  · next hdomain =>
    split
    · next htenant => exact iff_of_true (refused_ret.mpr rfl) fun hopen => hopen.2.2 htenant
    · next htenant => exact iff_of_false (not_refused_call rfl) (not_not.mpr ⟨hdelete, hdomain, htenant⟩)

/-- What the lookup of a vendor finds. -/
lemma exec_getByDomain_ok {e : ApiEnv} {t domain : String} {v : Vendor} :
    (ApiOp.exec (.vendor (.getByDomain t domain)) e w).1 = .ok v ↔
      w.admits t = true ∧ e.vendor.fail = none ∧ w.vendors.vendors t domain = some v := by
  have hif : (VendorOp.getByDomain t domain).tenant.all w.admits = w.admits t := rfl
  cases hadmits : w.admits t with
  | true =>
    rw [ApiOp.exec, if_pos (hif.trans hadmits)]
    simp only [VendorOp.exec]
    cases hfail : e.vendor.fail with
    | some err => simp
    | none => cases hrow : w.vendors.vendors t domain <;> simp
  | false =>
    rw [ApiOp.exec, if_neg (by rw [hif, hadmits]; decide)]
    simp only [VendorOp.hidden]
    cases e.vendor.fail <;> simp

lemma refused_decision (suffix : String) (approved : Bool) :
    Refused (vendorAnswer (h.vendor.serveDecision suffix approved (Api.vendorDecision r))) env w ↔
      ¬ h.Decides r (env 0) w suffix := by
  unfold VendorHandler.serveDecision
  split
  · next hmethod => exact iff_of_true (refused_ret.mpr rfl) fun hopen => hmethod hopen.1
  next hmethod =>
  dsimp only
  split
  · next hdomain => exact iff_of_true (refused_ret.mpr rfl) fun hopen => hopen.2.1 hdomain
  next hdomain =>
  split
  · next hbody =>
    refine iff_of_true (refused_ret.mpr rfl) ?_
    rintro ⟨-, -, t, v, ht, -⟩
    rw [hbody] at ht
    cases ht
  next t hbody =>
  split
  · next hempty =>
    refine iff_of_true (refused_ret.mpr rfl) ?_
    rintro ⟨-, -, t', v, ht, hne, -⟩
    rw [hbody] at ht
    obtain rfl := Option.some.inj ht
    exact hne hempty
  next hne =>
  refine (refused_call rfl).trans ?_
  generalize hrow : ((ApiOp.vendor (.getByDomain t
    (h.vendor.extractVendorDomain (Api.vendorDecision r).path suffix))).exec (env 0) w).1 = row
  cases row with
  | error err =>
    refine iff_of_true (refused_ret.mpr rfl) ?_
    rintro ⟨-, -, t', v, ht, -, hfound⟩
    rw [hbody] at ht
    obtain rfl := Option.some.inj ht
    cases hrow.symm.trans (exec_getByDomain_ok.mpr hfound)
  | ok v =>
    exact iff_of_false (not_refused_call rfl)
      (not_not.mpr ⟨not_not.mp hmethod, hdomain, t, v, hbody, hne, exec_getByDomain_ok.mp hrow⟩)

lemma refused_vendors : Refused (h.serveVendors r) env w ↔
    ¬ ((Api.vendorList r).Answers r (env 0) ∨ Api.Creates r) := by
  unfold Api.serveVendors
  split
  · next hget =>
    rw [refused_read, not_or]
    refine (and_iff_left ?_).symm
    rintro ⟨hpost, -⟩
    exact absurd (hget.symm.trans hpost) (by decide)
  · next hget =>
    have hlist : ¬ (Api.vendorList r).Answers r (env 0) := fun hopen => hget hopen.method
    rw [or_iff_right hlist]
    split
    · next hpost => exact refused_create hpost
    · next hpost => exact iff_of_true (refused_ret.mpr rfl) fun hopen => hpost hopen.1

/-- A path has at most one of the two suffixes. -/
lemma not_approve_of_revoke {path : String} (hrevoke : hasSuffix path "/revoke" = true) :
    hasSuffix path "/approve" = false := by
  by_contra happrove
  rw [Bool.not_eq_false] at happrove
  have h₁ := of_decide_eq_true happrove
  have h₂ := of_decide_eq_true hrevoke
  have hshort : "/revoke".toList <:+ "/approve".toList :=
    List.suffix_of_suffix_length_le h₂ h₁ (by decide)
  revert hshort
  decide

lemma refused_vendor : Refused (h.serveVendor r) env w ↔
    ¬ (h.Deletes r ∨ (hasSuffix r.path "/approve" = true ∧ h.Decides r (env 0) w "/approve") ∨
      (hasSuffix r.path "/revoke" = true ∧ h.Decides r (env 0) w "/revoke")) := by
  unfold Api.serveVendor
  split
  · next hdelete =>
    have hput : ∀ suffix, ¬ h.Decides r (env 0) w suffix := by
      rintro suffix ⟨hmethod, -⟩
      exact absurd (hdelete.symm.trans hmethod) (by decide)
    simp only [hput, and_false, or_false]
    exact refused_delete hdelete
  next hdelete =>
  rw [or_iff_right (show ¬ h.Deletes r from fun hopen => hdelete hopen.1)]
  split
  · next happrove =>
    have hrevoke : ¬ hasSuffix r.path "/revoke" = true := by
      intro hrevoke
      rw [not_approve_of_revoke hrevoke] at happrove
      cases happrove
    rw [or_iff_left (fun hopen => hrevoke hopen.1)]
    simp only [happrove, true_and]
    exact refused_decision "/approve" true
  next happrove =>
  rw [or_iff_right (fun hopen => happrove hopen.1)]
  split
  · next hrevoke =>
    simp only [hrevoke, true_and]
    exact refused_decision "/revoke" false
  · next hrevoke => exact iff_of_true (refused_ret.mpr rfl) fun hopen => hrevoke hopen.1

lemma refused_intel (route : Route) {c : ActionClaims} (hscope : effectiveScope c.scope ≠ scopeAdminAPI) :
    Refused (h.serveIntel route (some c) r) env w := by
  unfold Api.serveIntel
  split
  · exact refused_ret.mpr rfl
  · simp only [hscope, ne_eq, not_false_eq_true, if_true]
    exact refused_ret.mpr rfl

lemma refused_requireAdmin (route : Route) {c : ActionClaims} (hrole : c.role ≠ Api.roleAdmin) :
    Refused (h.requireAdmin route (some c) r) env w := by
  simp only [Api.requireAdmin, hrole, ne_eq, not_false_eq_true, if_true]
  exact refused_ret.mpr rfl

/-- **Who is no administrator** is refused exactly by what the handler asks of the request. -/
theorem refused_serveRoute {c : ActionClaims} (hscope : effectiveScope c.scope ≠ scopeAdminAPI)
    (hrole : c.role ≠ Api.roleAdmin) (route : Route) :
    Refused (h.serveRoute (some c) r route) env w ↔ ¬ h.Opens c.tenantID r (env 0) w route := by
  cases route with
  | dashboard | educationAnalytics | predictRecipient | predictOpen | escalationGet | investigationMessage
  | investigationSender | onboardingStart | onboardingStatus | gwsSetupStatus | orgGraph => exact refused_read _
  | escalationResolve => exact refused_resolve
  | onboardingRevoke => exact refused_revoke
  | vendors => exact refused_vendors
  | vendor => exact refused_vendor
  | intelFeeds | intelFeed | intelIndicators => exact iff_of_true (refused_intel _ hscope) not_false
  | tenants => exact iff_of_true (refused_requireAdmin _ hrole) not_false

end Handlers

/-! ### From the request on -/

namespace Api

variable (h : Api)

/-- What the first call of a handler meets: the binding of the tenant comes before it. -/
def boundEnv (env : ℕ → ApiEnv) : ApiEnv := if h.db then env 1 else env 0

/-- The state that a handler finds. -/
def boundWorld (tenantID : String) (w : ApiWorld) : ApiWorld :=
  if h.db then { w with bound := some tenantID } else w

/-- The second verifier knows none of the tokens of the issuer: these are signed with a shared secret, and it takes only
signatures with a key pair. -/
def Foreign (i : JWTIssuer) : Prop :=
  ∀ v, h.iamCore = some v → ∀ c tok, i.sign c = .ok tok → ∃ err, v tok = .error err

end Api

section Requests

variable {h : Api} {r : ApiRequest} {env : ℕ → ApiEnv} {w : ApiWorld}

lemma refused_serveMux {c : ActionClaims} (hscope : effectiveScope c.scope ≠ scopeAdminAPI)
    (hrole : c.role ≠ Api.roleAdmin) :
    Refused (h.serveMux (some c) r) env w ↔
      ¬ ∃ route, h.route r = .handler route ∧ h.Opens c.tenantID r (env 0) w route := by
  unfold Api.serveMux
  cases hroute : h.route r with
  | redirect =>
    refine iff_of_true (refused_ret.mpr rfl) ?_
    rintro ⟨route, hto, -⟩
    cases hto
  | notFound =>
    refine iff_of_true (refused_ret.mpr rfl) ?_
    rintro ⟨route, hto, -⟩
    cases hto
  | handler route =>
    refine (refused_serveRoute hscope hrole route).trans (not_congr ?_)
    constructor
    · intro hopen
      exact ⟨route, rfl, hopen⟩
    · rintro ⟨route', hto, hopen⟩
      cases hto
      exact hopen

lemma refused_bindTenant {c : ActionClaims} (hscope : effectiveScope c.scope ≠ scopeAdminAPI)
    (hrole : c.role ≠ Api.roleAdmin) (htenant : c.tenantID ≠ "") (hskip : Api.isSkipped r.path = false) :
    Refused (h.bindTenant (some c) r) env w ↔ ¬ ((h.db = true → (env 0).bindError = none) ∧
      ∃ route, h.route r = .handler route ∧ h.Opens c.tenantID r (h.boundEnv env) (h.boundWorld c.tenantID w) route) := by
  unfold Api.bindTenant
  cases hdb : h.db with
  | false =>
    simp only [Api.boundEnv, Api.boundWorld, hdb, Bool.false_eq_true, not_false_eq_true, true_or, if_true, if_false,
      false_imp_iff, true_and]
    exact refused_serveMux hscope hrole
  | true =>
    have hbind : ¬ (¬ (true = true) ∨ Api.isSkipped r.path = true ∨ Api.tenantOf (some c) = "") := by
      rw [hskip]
      rintro (hno | hno | hno)
      · exact hno rfl
      · cases hno
      · exact htenant hno
    rw [if_neg hbind]
    simp only [Api.boundEnv, Api.boundWorld, hdb, if_true, true_imp_iff]
    refine (refused_call rfl).trans ?_
    generalize hbound : ((ApiOp.bind (Api.tenantOf (some c))).exec (env 0) w).1 = bound
    change (env 0).bindError = bound at hbound
    cases bound with
    | some err =>
      refine iff_of_true (refused_ret.mpr rfl) fun hopen => ?_
      rw [hbound] at hopen
      cases hopen.1
    | none =>
      have hworld : ((ApiOp.bind (Api.tenantOf (some c))).exec (env 0) w).2 = { w with bound := some c.tenantID } := by
        simp only [ApiOp.exec, hbound, if_true]
        rfl
      rw [hworld]
      simp only [hbound, true_and]
      exact refused_serveMux hscope hrole

variable {i : JWTIssuer} {issued now : ℤ} {id tenantID pmid tok : String} {opts : IssueOptions}

/-- A scope of the tokens of messages; a token without one counts as that of a banner. -/
def isMessageScope (scope : String) : Prop := scope = "" ∨ scope = scopeBannerAction ∨ scope = scopeQuarantineRelease

lemma isMessageScope.not_admin {scope : String} (hscope : isMessageScope scope) :
    effectiveScope scope ≠ scopeAdminAPI := by
  rcases hscope with rfl | rfl | rfl <;> decide

/-- A token that is valid. -/
lemma refused_valid (hissuer : h.issuer = some i) (hsound : i.Sound)
    (htok : i.issue issued id tenantID pmid opts = .ok tok) (hscope : isMessageScope opts.scope)
    (hrole : opts.role ≠ Api.roleAdmin) (hlo : issued - 60 ≤ now)
    (hhi : now < (i.claimsFor issued id tenantID pmid opts).expiresAt) (hbearer : extractBearer r.authorization = tok)
    (hskip : Api.isSkipped r.path = false) :
    Refused (h.serveHTTP now r) env w ↔ ¬ ((h.db = true → (env 0).bindError = none) ∧
      ∃ route, h.route r = .handler route ∧
        h.Opens tenantID r (h.boundEnv env) (h.boundWorld tenantID w) route) := by
  obtain ⟨htenant, -, hsign⟩ := JWTIssuer.sign_of_issue htok
  have hne : tok ≠ "" := hsound.signed_ne hsign
  have hverify : h.verify now tok = some (i.claimsFor issued id tenantID pmid opts) := by
    have hparse := hsound.parse _ tok now hsign rfl hlo hhi
    simp [Api.verify, hissuer, JWTIssuer.verifyDetail, hne, hparse, Except.toOption]
  have hserve : h.serveHTTP now r = h.bindTenant (some (i.claimsFor issued id tenantID pmid opts)) r := by
    have hclaim : (i.claimsFor issued id tenantID pmid opts).tenantID ≠ "" := htenant
    simp [Api.serveHTTP, hskip, hissuer, hbearer, hne, hverify, hclaim]
  rw [hserve]
  exact refused_bindTenant hscope.not_admin hrole htenant hskip

/-- A token that is not valid. -/
lemma refused_invalid (hissuer : h.issuer = some i) (hsound : i.Sound) (hstrict : i.Strict) (hforeign : h.Foreign i)
    (htok : i.issue issued id tenantID pmid opts = .ok tok)
    (hout : now < issued - 60 ∨ (i.claimsFor issued id tenantID pmid opts).expiresAt ≤ now)
    (hbearer : extractBearer r.authorization = tok) (hskip : Api.isSkipped r.path = false) :
    Refused (h.serveHTTP now r) env w := by
  obtain ⟨-, -, hsign⟩ := JWTIssuer.sign_of_issue htok
  have hne : tok ≠ "" := hsound.signed_ne hsign
  obtain ⟨f, hf⟩ := hstrict _ tok now hsign hout
  have hsecond : (h.iamCore.bind fun v => (v tok).toOption) = none := by
    cases hiam : h.iamCore with
    | none => rfl
    | some v =>
      obtain ⟨err, herr⟩ := hforeign v hiam _ tok hsign
      simp [herr, Except.toOption]
  have hfirst : (h.issuer.bind fun i => (i.verifyDetail now tok).toOption) = none := by
    simp [hissuer, JWTIssuer.verifyDetail, hne, hf, Except.toOption]
  have hverify : h.verify now tok = none := by
    rw [Api.verify, hfirst, hsecond]
    rfl
  have hserve : h.serveHTTP now r = .ret (.error 401 "invalid_token") := by
    simp [Api.serveHTTP, hskip, hissuer, hbearer, hne, hverify]
  rw [hserve]
  exact refused_ret.mpr rfl

/-- **What the token of a message opens.** A request with such a token, for a path that `JWTAuth` does not skip, is
refused before any write exactly if the token is not valid then, the tenant cannot be bound, the path has no handler, or
the handler's own checks stop it. None of these asks for the scope of the token, except where a gate does. -/
theorem message_token_refused_iff (hissuer : h.issuer = some i) (hsound : i.Sound) (hstrict : i.Strict)
    (hforeign : h.Foreign i) (htok : i.issue issued id tenantID pmid opts = .ok tok)
    (hscope : isMessageScope opts.scope) (hrole : opts.role ≠ Api.roleAdmin) (now : ℤ)
    (hbearer : extractBearer r.authorization = tok) (hskip : Api.isSkipped r.path = false) (env : ℕ → ApiEnv)
    (w : ApiWorld) :
    Refused (h.serveHTTP now r) env w ↔
      ¬ (issued - 60 ≤ now ∧ now < (i.claimsFor issued id tenantID pmid opts).expiresAt ∧
        (h.db = true → (env 0).bindError = none) ∧
        ∃ route, h.route r = .handler route ∧
          h.Opens tenantID r (h.boundEnv env) (h.boundWorld tenantID w) route) := by
  by_cases hvalid : issued - 60 ≤ now ∧ now < (i.claimsFor issued id tenantID pmid opts).expiresAt
  · rw [refused_valid hissuer hsound htok hscope hrole hvalid.1 hvalid.2 hbearer hskip]
    refine not_congr ?_
    constructor
    · intro hopen
      exact ⟨hvalid.1, hvalid.2, hopen⟩
    · rintro ⟨-, -, hopen⟩
      exact hopen
  · refine iff_of_true (refused_invalid hissuer hsound hstrict hforeign htok ?_ hbearer hskip) fun hopen =>
      hvalid ⟨hopen.1, hopen.2.1⟩
    omega

end Requests

lemma extractBearer_bearer (tok : String) : extractBearer ("Bearer " ++ tok) = GoStrings.trimSpace tok := by
  have hlist : ("Bearer " ++ tok).toList = ['B', 'e', 'a', 'r', 'e', 'r', ' '] ++ tok.toList := by
    rw [String.toList_append]
    rfl
  simp [extractBearer, hlist]

section Samples

/-- An application with one vendor, which nobody has approved. -/
def vendorApi : Api where
  issuer := some plainIssuer
  vendor := { toLower := id }
  behind _ _ _ := return .json 200

def evilVendor : Vendor :=
  { tenantID := "acme", domain := "evil.test", approved := false, autoDiscovered := true, confidence := 0
    lastSeenAt := 0 }

def vendorWorld : ApiWorld := { vendors := ({ : VendorWorld }).put .discovered evilVendor }

/-- The token of a banner. -/
def vendorToken : String :=
  String.ofList (Fields.write (plainIssuer.claimsFor 0 "j" "acme" "m" { scope := scopeBannerAction }).fields)

lemma vendorToken_issued : plainIssuer.issue 0 "j" "acme" "m" { scope := scopeBannerAction } = .ok vendorToken := rfl

/-- `PUT /v1/vendors/evil.test/approve`. -/
def approveRequest : ApiRequest :=
  { method := "PUT"
    segments := [⟨"v1", "v1"⟩, ⟨"vendors", "vendors"⟩, ⟨"evil.test", "evil.test"⟩, ⟨"approve", "approve"⟩]
    authorization := "Bearer " ++ vendorToken
    body := fun _ => some (.obj [("tenant_id", .str "acme")]) }

lemma approveRequest_bearer : extractBearer approveRequest.authorization = vendorToken := by
  refine (extractBearer_bearer vendorToken).trans ?_
  exact trimSpace_plainIssuer (JWTIssuer.sign_of_issue vendorToken_issued).2.2

lemma approveRequest_route : vendorApi.route approveRequest = .handler .vendor := by decide

lemma approveRequest_opens (w : ApiWorld) (hw : w.vendors = vendorWorld.vendors) (hadmits : w.admits "acme" = true) :
    vendorApi.Opens "acme" approveRequest {} w .vendor := by
  have hdomain : vendorApi.vendor.extractVendorDomain approveRequest.path "/approve" = "evil.test" := by decide
  have htenant : (Api.vendorDecision approveRequest).tenantID = some "acme" := by decide
  refine .inr (.inl ⟨by decide, rfl, ?_, "acme", evilVendor, htenant, by decide, hadmits, rfl, ?_⟩)
  · rw [hdomain]
    decide
  · rw [hdomain, hw]
    rfl

/-- **The failing input**: with the token of a banner, a request approves a vendor. -/
theorem banner_token_approves_vendor :
    plainIssuer.issue 0 "j" "acme" "m" { scope := scopeBannerAction } = .ok vendorToken ∧
    extractBearer approveRequest.authorization = vendorToken ∧ Api.isSkipped approveRequest.path = false ∧
    ¬ Refused (vendorApi.serveHTTP 1 approveRequest) (fun _ => {}) vendorWorld := by
  have hskip : Api.isSkipped approveRequest.path = false := by decide
  refine ⟨vendorToken_issued, approveRequest_bearer, hskip, ?_⟩
  have hhi : (1 : ℤ) < (plainIssuer.claimsFor 0 "j" "acme" "m" { scope := scopeBannerAction }).expiresAt := by decide
  rw [refused_valid rfl plainIssuer_sound vendorToken_issued (.inr (.inl rfl)) (by decide) (by decide) hhi
    approveRequest_bearer hskip, not_not]
  exact ⟨fun _ => rfl, .vendor, approveRequest_route, approveRequest_opens _ rfl rfl⟩

theorem banner_token_approves_until_expired :
    ¬ Refused (vendorApi.serveHTTP 1 approveRequest) (fun _ => {}) vendorWorld ∧
    Refused (vendorApi.serveHTTP (8 * 24 * 3600) approveRequest) (fun _ => {}) vendorWorld := by
  have hiff := fun now => message_token_refused_iff (h := vendorApi) rfl plainIssuer_sound plainIssuer_strict
    (fun v hv => by cases hv) vendorToken_issued (.inr (.inl rfl)) (by decide) now approveRequest_bearer (by decide)
    (fun _ => {}) vendorWorld
  constructor
  · rw [hiff, not_not]
    exact ⟨by decide, by decide, fun _ => rfl, .vendor, approveRequest_route, approveRequest_opens _ rfl rfl⟩
  · rw [hiff]
    rintro ⟨-, hhi, -⟩
    revert hhi
    decide

end Samples

end Sn360Es.Handler
