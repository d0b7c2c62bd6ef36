import Sn360Es.Lib.Late
import Sn360Es.Onboarding.TenantCredentials

/-!
# Concurrent calls on a token (`internal/service/onboarding/oauth.go`)

`TokenFor`, `HandleCallback` and `Revoke`, step by step: the calls of the store, of the identity provider, of the nonce
store and of the registrar. A refresh loads the token, waits for the provider and saves what comes back, whatever has
happened to the row meanwhile; a callback saves at its end.

* `tokenForSteps_alone`, `handleCallbackSteps_alone`, `revokeSteps_alone` — a call that runs alone is that of
  `Onboarding.Service`;
* `revoked_stays_iff` — after a `Revoke` the row stays away exactly as long as no call saves it that was under way then.
-/

namespace Sn360Es.Onboarding

open Lib

/-! ### The calls, step by step -/

inductive ConsentOp where
  | now
  | markUsed (nonce : String)
  | exchangeCode (p : ProviderConfig) (code : String)
  | refreshToken (p : ProviderConfig) (refreshToken : String)
  | validateTenantAccess (tok : Token) (tenantID provider : String)
  | load (ctx : Option BoundConn) (tenantID provider : String)
  | save (ctx : Option BoundConn) (tenantID provider : String) (tok : Token)
  | delete (ctx : Option BoundConn) (tenantID provider : String)
  | registerFromToken (tenantID provider : String) (tok : Token)
  deriving DecidableEq, Repr

abbrev ConsentOp.Ans : ConsentOp → Type
  | now => ℤ
  | markUsed _ => Bool
  | exchangeCode _ _ => Except String Token
  | refreshToken _ _ => Except String Token
  | validateTenantAccess _ _ _ => Option String
  | load _ _ _ => Except String Token
  | save _ _ _ _ => Option String
  | delete _ _ _ => Option String
  | registerFromToken _ _ _ => Unit

/-- What one operation meets. -/
structure ConsentEnv extends OnboardingEnv where
  exchangeCode : ProviderConfig → String → Except String Token := fun _ _ => .error "unavailable"
  refreshToken : ProviderConfig → String → Except String Token := fun _ _ => .error "unavailable"
  validateTenantAccess : Token → String → String → Option String := fun _ _ _ => none

abbrev ConsentM := Prog ConsentOp ConsentOp.Ans

namespace Service

variable (s : Service)

/-- The effect of an operation. -/
def exec : (o : ConsentOp) → ConsentEnv → OnboardingWorld → o.Ans × OnboardingWorld
  | .now, e, w => (e.now, w)
  | .markUsed nonce, e, w =>
    ((s.markUsed nonce e.toOnboardingEnv w.nonces).1,
      { w with nonces := (s.markUsed nonce e.toOnboardingEnv w.nonces).2 })
  | .exchangeCode p code, e, w => (e.exchangeCode p code, w)
  | .refreshToken p refreshToken, e, w => (e.refreshToken p refreshToken, w)
  | .validateTenantAccess tok tenantID provider, e, w =>
    (if s.validator.isSome then e.validateTenantAccess tok tenantID provider else none, w)
  | .load ctx tenantID provider, e, w =>
    ((s.store.load ctx e.store tenantID provider w.db).1,
      { w with db := (s.store.load ctx e.store tenantID provider w.db).2 })
  | .save ctx tenantID provider tok, e, w =>
    ((s.store.save ctx e.store tenantID provider tok w.db).1,
      { w with db := (s.store.save ctx e.store tenantID provider tok w.db).2 })
  | .delete ctx tenantID provider, e, w =>
    ((s.store.delete ctx e.store tenantID provider w.db).1,
      { w with db := (s.store.delete ctx e.store tenantID provider w.db).2 })
  | .registerFromToken tenantID provider tok, _, w =>
    ((), { w with
      registered := fun t p => if s.registrar ∧ t = tenantID ∧ p = provider then some tok else w.registered t p })

/-- A refresh that does not roll the refresh token keeps the old one. -/
def rolled (tok refreshed : Token) : Token :=
  if refreshed.refreshToken = "" then { refreshed with refreshToken := tok.refreshToken } else refreshed

/-- `TokenFor` with a token that has expired. -/
def refreshSteps (ctx : Option BoundConn) (tenantID provider : String) (tok : Token) :
    ConsentM (Except String Token) := do
  if tok.refreshToken = "" then return .error "onboarding: token expired and no refresh token available"
  else
    match s.providers provider with
    | none => return .error ("onboarding: unknown provider \"" ++ provider ++ "\"")
    | some p =>
      match ← Prog.perform (ConsentOp.refreshToken p tok.refreshToken) with
      | .error err => return .error ("onboarding: refresh: " ++ err)
      | .ok refreshed =>
        match ← Prog.perform (ConsentOp.save ctx tenantID provider (rolled tok refreshed)) with
        | some err => return .error ("onboarding: persist refreshed token: " ++ err)
        | none => return .ok (rolled tok refreshed)

/-- `TokenFor`. -/
def tokenForSteps (ctx : Option BoundConn) (tenantID provider : String) : ConsentM (Except String Token) := do
  match ← Prog.perform (ConsentOp.load ctx tenantID provider) with
  | .error err => return .error err
  | .ok tok =>
    let now ← Prog.perform ConsentOp.now
    if ¬ tok.isExpired now then return .ok tok else s.refreshSteps ctx tenantID provider tok

/-- `HandleCallback` with a state that is valid and was not used. -/
def redeemSteps (ctx : Option BoundConn) (payload : StatePayload) (code : String) :
    ConsentM (Except String (String × String)) := do
  match s.providers payload.provider with
  | none => return .error ("onboarding: unknown provider \"" ++ payload.provider ++ "\"")
  | some p =>
    match ← Prog.perform (ConsentOp.exchangeCode p code) with
    | .error err => return .error ("onboarding: exchange code: " ++ err)
    | .ok tok =>
      match ← Prog.perform (ConsentOp.validateTenantAccess tok payload.tenantID payload.provider) with
      | some err => return .error ("onboarding: tenant validation failed: " ++ err)
      | none =>
        match ← Prog.perform (ConsentOp.save ctx payload.tenantID payload.provider tok) with
        | some err => return .error ("onboarding: persist token: " ++ err)
        | none =>
          let _ ← Prog.perform (ConsentOp.registerFromToken payload.tenantID payload.provider tok)
          return .ok (payload.tenantID, payload.provider)

/-- `HandleCallback`. -/
def handleCallbackSteps (ctx : Option BoundConn) (stateTok code : String) :
    ConsentM (Except String (String × String)) := do
  let now ← Prog.perform ConsentOp.now
  match s.state.verify stateTok now with
  | .error err => return .error err
  | .ok payload =>
    let used ← Prog.perform (ConsentOp.markUsed payload.nonce)
    if used then return .error "onboarding: nonce already used (replay detected)"
    else s.redeemSteps ctx payload code

/-- `Revoke`. -/
def revokeSteps (ctx : Option BoundConn) (tenantID provider : String) : ConsentM (Option String) :=
  Prog.perform (ConsentOp.delete ctx tenantID provider)

/-! ### A call alone -/

/-- The world of a call that runs alone: the answers of the identity provider are those of the service. -/
def alone (e : OnboardingEnv) : ConsentEnv where
  toOnboardingEnv := e
  exchangeCode := s.exchangeCode
  refreshToken := s.refreshToken
  validateTenantAccess tok tenantID provider := s.validator.bind fun v => v.validateTenantAccess tok tenantID provider

/-- The world of a `TokenFor`: the store answers the second time as `save` says. -/
def aloneTokenFor (e : OnboardingEnv) : ℕ → ConsentEnv
  | 0 => s.alone e
  | _ + 1 => s.alone { e with store := e.save }

variable {s}

lemma revokeSteps_alone (ctx : Option BoundConn) (tenantID provider : String) (e : OnboardingEnv) (w : OnboardingWorld) :
    Prod.map id Prod.fst ((revokeSteps ctx tenantID provider).eval s.exec (fun _ => s.alone e) w) =
      s.revoke ctx tenantID provider e w := rfl

lemma tokenForSteps_alone (ctx : Option BoundConn) (tenantID provider : String) (e : OnboardingEnv)
    (w : OnboardingWorld) :
    Prod.map id Prod.fst ((s.tokenForSteps ctx tenantID provider).eval s.exec (s.aloneTokenFor e) w) =
      s.tokenFor ctx tenantID provider e w := by
  unfold tokenForSteps tokenFor
  rw [Prog.eval_bind, Prog.eval_perform]
  simp only [exec, aloneTokenFor, alone]
  rcases s.store.load ctx e.store tenantID provider w.db with ⟨err | tok, db⟩
  · rfl
  simp only
  rw [Prog.eval_bind, Prog.eval_perform]
  simp only [exec]
  by_cases hexpired : tok.isExpired e.now = true
  swap
  · simp only [hexpired, Bool.false_eq_true, not_false_eq_true, if_true]
    rfl
  simp only [hexpired, not_true_eq_false, if_false]
  unfold refreshSteps
  by_cases hrefresh : tok.refreshToken = ""
  · rw [if_pos hrefresh, if_pos hrefresh]
    rfl
  rw [if_neg hrefresh, if_neg hrefresh]
  cases s.providers provider with
  | none => rfl
  | some p =>
    simp only
    rw [Prog.eval_bind, Prog.eval_perform]
    simp only [exec]
    cases s.refreshToken p tok.refreshToken with
    | error err => rfl
    | ok refreshed =>
      simp only
      rw [Prog.eval_bind, Prog.eval_perform]
      simp only [exec, rolled]
      rcases s.store.save ctx e.save tenantID provider (if refreshed.refreshToken = "" then
        { refreshed with refreshToken := tok.refreshToken } else refreshed) db with ⟨_ | err, db'⟩ <;> rfl

lemma handleCallbackSteps_alone (ctx : Option BoundConn) (stateTok code : String) (e : OnboardingEnv)
    (w : OnboardingWorld) :
    Prod.map id Prod.fst ((s.handleCallbackSteps ctx stateTok code).eval s.exec (fun _ => s.alone e) w) =
      s.handleCallback ctx stateTok code e w := by
  unfold handleCallbackSteps handleCallback
  rw [Prog.eval_bind, Prog.eval_perform]
  simp only [exec, alone]
  cases s.state.verify stateTok e.now with
  | error err => rfl
  | ok payload =>
    simp only
    rw [Prog.eval_bind, Prog.eval_perform]
    simp only [exec]
    by_cases hused : (s.markUsed payload.nonce e w.nonces).1 = true
    · simp only [hused, if_true]
      rfl
    simp only [hused, Bool.false_eq_true, if_false]
    unfold redeemSteps redeem
    cases s.providers payload.provider with
    | none => rfl
    | some p =>
      simp only
      rw [Prog.eval_bind, Prog.eval_perform]
      simp only [exec]
      cases s.exchangeCode p code with
      | error err => rfl
      | ok tok =>
        simp only
        rw [Prog.eval_bind, Prog.eval_perform]
        have hval : (if s.validator.isSome then
            s.validator.bind fun v => v.validateTenantAccess tok payload.tenantID payload.provider else none) =
            s.validator.bind fun v => v.validateTenantAccess tok payload.tenantID payload.provider := by
          cases s.validator <;> rfl
        simp only [exec, hval]
        cases s.validator.bind fun v => v.validateTenantAccess tok payload.tenantID payload.provider with
        | some err => rfl
        | none =>
          simp only [keepToken]
          rw [Prog.eval_bind, Prog.eval_perform]
          simp only [exec]
          rcases s.store.save ctx e.store payload.tenantID payload.provider tok w.db with ⟨_ | err, db⟩ <;> rfl

end Service

/-! ### Runs -/

inductive ConsentCall where
  | tokenFor (ctx : Option BoundConn) (tenantID provider : String)
  | handleCallback (ctx : Option BoundConn) (stateTok code : String)
  | revoke (ctx : Option BoundConn) (tenantID provider : String)
  deriving DecidableEq, Repr

/-- What a call returns. -/
inductive ConsentResult where
  | token (r : Except String Token)
  | consent (r : Except String (String × String))
  | revoked (err : Option String)

def Service.call (s : Service) : ConsentCall → ConsentM ConsentResult
  | .tokenFor ctx tenantID provider => do return .token (← s.tokenForSteps ctx tenantID provider)
  | .handleCallback ctx stateTok code => do return .consent (← s.handleCallbackSteps ctx stateTok code)
  | .revoke ctx tenantID provider => do return .revoked (← Service.revokeSteps ctx tenantID provider)

abbrev ConsentPool := Pool ConsentOp ConsentOp.Ans ConsentResult OnboardingWorld

/-- The calls, operation by operation. -/
def consentStep (s : Service) := Pool.step s.exec s.call

/-- A `Revoke` returns without an error: the deletion is all it does. -/
def Revokes (s : Service) (p p' : ConsentPool) (ctx : Option BoundConn) (tenantID provider : String) : Prop :=
  ∃ n e done k, p.threads[n]? = some ⟨done, .call (.delete ctx tenantID provider) k⟩ ∧
    consentStep s p (.advance n e) = some p' ∧ (s.exec (.delete ctx tenantID provider) e p.shared).1 = none

/-- The store has no token on the pool. -/
def NoToken (pool tenantID provider : String) (w : OnboardingWorld) : Prop := w.db.rows pool tenantID provider = none

/-- A call that has exchanged a code, as only `HandleCallback` does, has saved the token of the pair. -/
def CallbackSaved (tenantID provider : String) (done : List ((o : ConsentOp) × o.Ans)) : Prop :=
  (∃ p code a, ⟨.exchangeCode p code, a⟩ ∈ done) ∧ ∃ ctx tok, ⟨.save ctx tenantID provider tok, none⟩ ∈ done

/-- **Revoked consent**: while no `HandleCallback` that started at position `n` or later has saved, there is no token.
-/
def StaysRevoked (n : ℕ) (pool tenantID provider : String) (p : ConsentPool) : Prop :=
  ¬ p.Escaped n (CallbackSaved tenantID provider) → NoToken pool tenantID provider p.shared

/-- The next operation is a save of the pair on the pool, by a call before position `n`, and it succeeds. -/
def SavesUnderWay (s : Service) (n : ℕ) (pool tenantID provider : String) (p : ConsentPool)
    (l : Pool.Label ConsentCall ConsentEnv) : Prop :=
  ∃ m e done ctx tok k, l = .advance m e ∧ m < n ∧
    p.threads[m]? = some ⟨done, .call (.save ctx tenantID provider tok) k⟩ ∧
    (s.store.connOf ctx tenantID).pool = pool ∧ (s.exec (.save ctx tenantID provider tok) e p.shared).1 = none

section Rows

variable {s : Service} {pool tenantID provider : String} {w : OnboardingWorld} {e : ConsentEnv}

/-- The operation does not save the pair on the pool. -/
def ConsentOp.Harmless (s : Service) (pool tenantID provider : String) (o : ConsentOp) : Prop :=
  ∀ ctx tok, o = .save ctx tenantID provider tok → (s.store.connOf ctx tenantID).pool ≠ pool

/-- A save of the pair on the pool leaves a token exactly if it succeeds. -/
lemma noToken_save_iff {ctx : Option BoundConn} {tok : Token} (hw : NoToken pool tenantID provider w)
    (hpool : (s.store.connOf ctx tenantID).pool = pool) :
    NoToken pool tenantID provider (s.exec (.save ctx tenantID provider tok) e w).2 ↔
      (s.exec (.save ctx tenantID provider tok) e w).1 ≠ none := by
  simp only [Service.exec]
  obtain ⟨err, herr⟩ | ⟨ct, -, -, hsave⟩ := s.store.save_cases ctx e.store tenantID provider tok w.db
  · rw [herr]
    exact iff_of_true hw (by simp)
  · rw [hsave]
    refine iff_of_false ?_ (by simp)
    simp [NoToken, TokenDB.write, hpool]

/-- Every other operation leaves the store without the token. -/
lemma noToken_of_harmless {o : ConsentOp} (ho : o.Harmless s pool tenantID provider)
    (hw : NoToken pool tenantID provider w) : NoToken pool tenantID provider (s.exec o e w).2 := by
  cases o with
  | load ctx t p =>
    rcases s.store.load_cases ctx e.store t p w.db with ⟨-, hsame⟩ | ⟨-, hread⟩
    · simp only [Service.exec, hsame]
      exact hw
    · simp only [Service.exec, hread]
      exact hw
  | save ctx t p tok =>
    obtain ⟨err, herr⟩ | ⟨ct, -, -, hsave⟩ := s.store.save_cases ctx e.store t p tok w.db
    · simp only [Service.exec, herr]
      exact hw
    · simp only [Service.exec, hsave, NoToken, TokenDB.write]
      rw [if_neg]
      · exact hw
      · rintro ⟨rfl, rfl, rfl⟩
        exact ho ctx tok rfl rfl
  | delete ctx t p =>
    rcases s.store.delete_cases ctx e.store t p w.db with hsame | ⟨-, hdelete⟩
    · simp only [Service.exec, hsame]
      exact hw
    · simp only [Service.exec, hdelete, NoToken, TokenDB.write]
      split
      · rfl
      · exact hw
  | _ => exact hw

/-- Without a row there is nothing to load. -/
lemma load_noToken {ctx : Option BoundConn} (hw : NoToken pool tenantID provider w)
    (hpool : (s.store.connOf ctx tenantID).pool = pool) :
    ∃ err, (s.exec (.load ctx tenantID provider) e w).1 = .error err := by
  simp only [Service.exec, PgTokenStore.load]
  split
  · exact ⟨_, rfl⟩
  split
  · exact ⟨_, rfl⟩
  · exact ⟨_, rfl⟩
  · next conn hbind _ =>
    rw [PgTokenStore.bindTenantIfNeeded_ok hbind, hpool, hw]
    split <;> exact ⟨_, rfl⟩

end Rows

/-! ### Calls that start after the revocation -/

section Late

variable {s : Service} {pool tenantID provider : String}

abbrev HarmlessCall {α : Type} (s : Service) (pool tenantID provider : String) (p : ConsentM α) : Prop :=
  p.Every (ConsentOp.Harmless s pool tenantID provider)

lemma harmless_perform {o : ConsentOp} (h : ∀ ctx tok, o ≠ .save ctx tenantID provider tok) :
    HarmlessCall s pool tenantID provider (Prog.perform o) :=
  Prog.every_perform fun ctx tok ho => absurd ho (h ctx tok)

/-- A refresh for another pair, or on another pool. -/
lemma harmless_refreshSteps {ctx : Option BoundConn} {t p : String} (tok : Token)
    (hother : ¬ (t = tenantID ∧ p = provider ∧ (s.store.connOf ctx t).pool = pool)) :
    HarmlessCall s pool tenantID provider (s.refreshSteps ctx t p tok) := by
  unfold Service.refreshSteps
  split
  · exact Prog.every_pure _
  split
  · exact Prog.every_pure _
  refine Prog.Every.bind (harmless_perform (by simp)) fun r => ?_
  split
  · exact Prog.every_pure _
  refine Prog.Every.bind (Prog.every_perform ?_) fun r => ?_
  · rintro ctx' tok' hsave hpool
    cases hsave
    exact hother ⟨rfl, rfl, hpool⟩
  · split <;> exact Prog.every_pure _

/-- **A `TokenFor` that starts late** finds nothing, or is about something else. -/
lemma until_tokenForSteps (ctx : Option BoundConn) (t p : String) :
    Prog.Until s.exec (NoToken pool tenantID provider) (CallbackSaved tenantID provider) (s.tokenForSteps ctx t p) []
      fun _ _ => True := by
  by_cases hpair : t = tenantID ∧ p = provider ∧ (s.store.connOf ctx t).pool = pool
  · obtain ⟨rfl, rfl, hpool⟩ := hpair
    refine Prog.Until.bind (Prog.until_perform (fun e w hw => ?_) fun e w hw => ?_)
    · exact noToken_of_harmless (by simp [ConsentOp.Harmless]) hw
    · obtain ⟨err, herr⟩ := load_noToken hw hpool
      rw [herr]
      trivial
  · refine Prog.until_of_every (fun o e w => noToken_of_harmless) ?_ fun _ _ => trivial
    unfold Service.tokenForSteps
    refine Prog.Every.bind (harmless_perform (by simp)) fun r => ?_
    split
    · exact Prog.every_pure _
    refine Prog.Every.bind (harmless_perform (by simp)) fun now => ?_
    split
    · exact Prog.every_pure _
    · exact harmless_refreshSteps _ hpair

/-- **A `HandleCallback`** leaves the store without the token until it has saved it itself. -/
lemma until_redeemSteps (ctx : Option BoundConn) (payload : StatePayload) (code : String)
    (done : List ((o : ConsentOp) × o.Ans)) :
    Prog.Until s.exec (NoToken pool tenantID provider) (CallbackSaved tenantID provider) (s.redeemSteps ctx payload code)
      done fun _ _ => True := by
  have hkeep : ∀ {o : ConsentOp}, (∀ ctx tok, o ≠ .save ctx tenantID provider tok) → ∀ e w,
      NoToken pool tenantID provider w → NoToken pool tenantID provider (s.exec o e w).2 :=
    fun ho e w hw => noToken_of_harmless (fun ctx tok hsave => absurd hsave (ho ctx tok)) hw
  unfold Service.redeemSteps
  split
  · trivial
  refine Prog.Until.bind (Prog.until_perform (hkeep (by simp)) fun e w _ => ?_)
  generalize (s.exec (.exchangeCode _ code) e w).1 = r
  rcases r with err | tok
  · trivial
  refine Prog.Until.bind (Prog.until_perform (hkeep (by simp)) fun e w _ => ?_)
  generalize (s.exec (.validateTenantAccess tok _ _) e w).1 = r
  rcases r with _ | err
  swap
  · trivial
  refine Prog.Until.bind fun e w hw => ?_
  by_cases hpair : payload.tenantID = tenantID ∧ payload.provider = provider
  · obtain ⟨rfl, rfl⟩ := hpair
    rcases hsave : (s.exec (.save ctx payload.tenantID payload.provider tok) e w).1 with _ | err
    · refine .inl ⟨⟨_, _, _, List.mem_cons_of_mem _ (List.mem_cons_of_mem _ List.mem_cons_self)⟩, ctx, tok, ?_⟩
      exact List.mem_cons_self
    · refine .inr ⟨?_, trivial⟩
      by_cases hpool : (s.store.connOf ctx payload.tenantID).pool = pool
      · rw [noToken_save_iff hw hpool, hsave]
        simp
      · refine noToken_of_harmless ?_ hw
        rintro ctx' tok' heq
        cases heq
        exact hpool
  · refine .inr ⟨noToken_of_harmless ?_ hw, ?_⟩
    · rintro ctx' tok' heq
      cases heq
      exact absurd ⟨rfl, rfl⟩ hpair
    · generalize (s.exec (.save ctx payload.tenantID payload.provider tok) e w).1 = r
      rcases r with _ | err
      · exact Prog.Until.bind (Prog.until_perform (hkeep (by simp)) fun _ _ _ => trivial)
      · trivial

lemma until_call (c : ConsentCall) :
    Prog.Until s.exec (NoToken pool tenantID provider) (CallbackSaved tenantID provider) (s.call c) []
      fun _ _ => True := by
  cases c with
  | tokenFor ctx t p => exact Prog.Until.bind (until_tokenForSteps ctx t p)
  | handleCallback ctx stateTok code =>
    refine Prog.Until.bind (Prog.Until.bind (Prog.until_perform (fun e w hw => hw) fun e w _ => ?_))
    generalize s.state.verify stateTok _ = r
    rcases r with err | payload
    · trivial
    refine Prog.Until.bind (Prog.until_perform (fun e w hw => hw) fun e w _ => ?_)
    split
    · trivial
    · exact until_redeemSteps ctx payload code _
  | revoke ctx t p =>
    refine Prog.Until.bind (Prog.until_perform (fun e w hw => ?_) fun _ _ _ => trivial)
    exact noToken_of_harmless (by simp [ConsentOp.Harmless]) hw

/-- What a call that was under way can do to the row. -/
lemma savesUnderWay_iff {n : ℕ} {p : ConsentPool} {l : Pool.Label ConsentCall ConsentEnv}
    (hp : NoToken pool tenantID provider p.shared) : SavesUnderWay s n pool tenantID provider p l ↔
      Pool.Disturbs s.exec n (NoToken pool tenantID provider) p l := by
  constructor
  · rintro ⟨m, e, done, ctx, tok, k, rfl, hm, hthread, hpool, hok⟩
    refine ⟨m, e, done, _, k, rfl, hm, hthread, ?_⟩
    rw [noToken_save_iff hp hpool, hok]
    simp
  · rintro ⟨m, e, done, o, k, rfl, hm, hthread, hleft⟩
    have hnot : ¬ o.Harmless s pool tenantID provider := fun ho => hleft (noToken_of_harmless ho hp)
    unfold ConsentOp.Harmless at hnot
    push Not at hnot
    obtain ⟨ctx, tok, rfl, hpool⟩ := hnot
    refine ⟨m, e, done, ctx, tok, k, rfl, hm, hthread, hpool, ?_⟩
    rw [noToken_save_iff hp hpool] at hleft
    exact not_not.mp hleft

end Late

/-! ### The revocation -/

lemma callbackSaved_cons {tenantID provider : String} (x : (o : ConsentOp) × o.Ans)
    (done : List ((o : ConsentOp) × o.Ans)) (h : CallbackSaved tenantID provider done) :
    CallbackSaved tenantID provider (x :: done) := by
  obtain ⟨⟨p, code, a, hcode⟩, ctx, tok, hsave⟩ := h
  exact ⟨⟨p, code, a, List.mem_cons_of_mem _ hcode⟩, ctx, tok, List.mem_cons_of_mem _ hsave⟩

/-- What a `Revoke` that has returned leaves. -/
lemma Revokes.noToken_iff {s : Service} {p p' : ConsentPool} {ctx : Option BoundConn} {tenantID provider : String}
    (h : Revokes s p p' ctx tenantID provider) :
    NoToken (s.store.connOf ctx tenantID).pool tenantID provider p'.shared ↔
      (s.store.connOf ctx tenantID).tenantID = tenantID ∨
        NoToken (s.store.connOf ctx tenantID).pool tenantID provider p.shared := by
  obtain ⟨n, e, done, k, hthread, hst, hok⟩ := h
  simp only [consentStep, Pool.step, hthread] at hst
  cases hst
  simp only [Service.exec, PgTokenStore.delete] at hok ⊢
  split at hok
  · cases hok
  · next hne =>
    rw [if_neg hne]
    split at hok
    · cases hok
    · cases hok
    · next conn hbind hexec =>
      simp only [PgTokenStore.bindTenantIfNeeded_ok hbind]
      split
      · next hown => exact iff_of_true (by simp [NoToken, TokenDB.write]) (.inl hown)
      · next hown => exact (or_iff_right hown).symm

/-- **Revoked consent stays revoked** exactly if the connection of the `Revoke` was bound to the tenant, or there was no
token, and no call that was under way when it returned saves a token afterwards. -/
theorem revoked_stays_iff (s : Service) {p p' p'' : ConsentPool} {ctx : Option BoundConn} {tenantID provider : String}
    (hrevoke : Revokes s p p' ctx tenantID provider) {ls : List (Pool.Label ConsentCall ConsentEnv)}
    (hrun : Lts.run (consentStep s) p' ls = some p'') :
    Lts.Throughout (consentStep s)
        (StaysRevoked p'.threads.length (s.store.connOf ctx tenantID).pool tenantID provider) p' ls ↔
      ((s.store.connOf ctx tenantID).tenantID = tenantID ∨
        NoToken (s.store.connOf ctx tenantID).pool tenantID provider p.shared) ∧
      Lts.Meets (consentStep s) (fun q l => q.Escaped p'.threads.length (CallbackSaved tenantID provider) ∨
        ¬ SavesUnderWay s p'.threads.length (s.store.connOf ctx tenantID).pool tenantID provider q l) p' ls := by
  by_cases hgone : NoToken (s.store.connOf ctx tenantID).pool tenantID provider p'.shared
  · rw [and_iff_right (hrevoke.noToken_iff.mp hgone)]
    exact Pool.throughout_until_iff callbackSaved_cons until_call (fun _ _ => savesUnderWay_iff) hgone le_rfl hrun
  · refine iff_of_false (fun hthrough => hgone ?_) fun h => hgone (hrevoke.noToken_iff.mpr h.1)
    refine hthrough.start ?_
    rintro ⟨n, t, hn, ht, -⟩
    rw [List.getElem?_eq_none hn] at ht
    cases ht

/-! ### A refresh that outlives the revocation -/

section Samples

/-- A store whose tokens have expired. -/
def staleService : Service :=
  { zohoService with
    store :=
      { pool := "home", encrypt := fun _ => .ok [1]
        decrypt := fun _ => .ok { accessToken := "old", refreshToken := "r", expiresAt := 1 } } }

/-- The tenant has a token. -/
def acmeWorld : OnboardingWorld :=
  { db := { rows := fun pool t p => if pool = "home" ∧ t = "acme" ∧ p = providerZoho then some [1] else none } }

/-- A world in which nothing fails. -/
def calmEnv : ConsentEnv := { now := 1000, refreshToken := fun _ _ => .ok { accessToken := "new" } }

/-- A refresh that waits for the provider, and a `Revoke`. -/
def refreshThenRevoke : List (Pool.Label ConsentCall ConsentEnv) :=
  [.spawn (.tokenFor none "acme" providerZoho), .spawn (.revoke none "acme" providerZoho), .advance 0 calmEnv,
    .advance 0 calmEnv, .advance 0 calmEnv]

/-- The state after these steps. -/
def consentAfter (ls : List (Pool.Label ConsentCall ConsentEnv)) : ConsentPool :=
  (Lts.run (consentStep staleService) ⟨acmeWorld, []⟩ ls).getD ⟨acmeWorld, []⟩

/-- **The failing input**: the refresh saves after the deletion. -/
theorem refresh_outlives_revoke :
    Lts.run (consentStep staleService) ⟨acmeWorld, []⟩ refreshThenRevoke = some (consentAfter refreshThenRevoke) ∧
      Revokes staleService (consentAfter refreshThenRevoke) (consentAfter (refreshThenRevoke ++ [.advance 1 calmEnv])) none
        "acme" providerZoho ∧
      Lts.run (consentStep staleService) (consentAfter (refreshThenRevoke ++ [.advance 1 calmEnv])) [.advance 0 calmEnv] =
        some (consentAfter (refreshThenRevoke ++ [.advance 1 calmEnv, .advance 0 calmEnv])) ∧
      ¬ StaysRevoked 2 "home" "acme" providerZoho
        (consentAfter (refreshThenRevoke ++ [.advance 1 calmEnv, .advance 0 calmEnv])) := by
  refine ⟨rfl, ⟨1, calmEnv, [], _, rfl, rfl, rfl⟩, rfl, fun hstays => ?_⟩
  have hgone := hstays (by
    rintro ⟨n, t, hn, ht, -⟩
    have hlt := (List.getElem?_eq_some_iff.mp ht).1
    exact absurd (show n < 2 from hlt) (not_lt.mpr hn))
  cases hgone

/-- A `TokenFor` that starts after the `Revoke` finds nothing, and the row stays away. -/
theorem late_refresh_stays_revoked :
    Lts.Throughout (consentStep staleService) (StaysRevoked 1 "home" "acme" providerZoho)
      (consentAfter [.spawn (.revoke none "acme" providerZoho), .advance 0 calmEnv])
      [.spawn (.tokenFor none "acme" providerZoho), .advance 1 calmEnv] := by
  have hrevoke : Revokes staleService (consentAfter [.spawn (.revoke none "acme" providerZoho)])
      (consentAfter [.spawn (.revoke none "acme" providerZoho), .advance 0 calmEnv]) none "acme" providerZoho :=
    ⟨0, calmEnv, [], _, rfl, rfl, rfl⟩
  have hrun : Lts.run (consentStep staleService)
      (consentAfter [.spawn (.revoke none "acme" providerZoho), .advance 0 calmEnv])
      [.spawn (.tokenFor none "acme" providerZoho), .advance 1 calmEnv] =
        some (consentAfter [.spawn (.revoke none "acme" providerZoho), .advance 0 calmEnv,
          .spawn (.tokenFor none "acme" providerZoho), .advance 1 calmEnv]) := rfl
  refine (revoked_stays_iff staleService hrevoke hrun).mpr
    ⟨.inl rfl, .inr ?_, fun q hq => ⟨.inr ?_, fun _ _ => trivial⟩⟩
  · rintro ⟨m, e, done, ctx, tok, k, hl, -⟩
    cases hl
  · rintro ⟨m, e, done, ctx, tok, k, hl, hm, -⟩
    cases hl
    exact absurd (show 1 < 1 from hm) (lt_irrefl 1)

end Samples

end Sn360Es.Onboarding
