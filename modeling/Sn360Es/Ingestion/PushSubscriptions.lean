import Mathlib.Data.Int.Notation
import Sn360Es.Lib.Lts

/-!
# The subscriptions of the push manager (`internal/service/ingestion/push.go`)

A pass of `reconcile` reads the map of subscriptions, calls the provider without a lock on the map, and stores what it
got. The passes take turns; `Close` does not wait for its turn. It takes what is in the map and unsubscribes it, and
what a pass stores afterwards is left on the provider's side.

* `step_steps` — what a step does;
* `noneLost_step` — what the manager loses hold of, and when;
* `push_subscriptions_iff` — every subscription is unsubscribed in the end, and there is never a second one, exactly if
  no subscription is made after `Close` has looked at the map, or stored after it.
-/

namespace Sn360Es.Ingestion

open Lib

/-- A subscription on the side of the provider; `number` tells apart what the provider may give the same id. -/
structure Watch where
  number : ℕ
  provider : String
  tenantID : String
  subscriptionID : String
  deriving DecidableEq, Repr

structure PushSubscription extends Watch where
  expiresAt : ℤ
  callbackURL : String
  deriving DecidableEq, Repr

/-- The key of a receiver and a tenant in `m.subs`. -/
def subKey (kind tenant : String) : String := kind ++ ":" ++ tenant

def Watch.key (w : Watch) : String := subKey w.provider w.tenantID

/-- `PushConfig`, as far as subscriptions go; the receivers by their kinds. -/
structure PushConfig where
  receivers : List String
  callbackBaseURL : String
  renewalBuffer : ℤ
  equalFold : String → String → Bool

/-- `findReceiver`. -/
def PushConfig.findReceiver (cfg : PushConfig) (kind : String) : Option String :=
  cfg.receivers.find? fun r => cfg.equalFold r kind

/-- Where a pass of `reconcile` is. -/
inductive PassStage where
  | next
  /-- `Subscribe` was called. -/
  | subscribing (tenant : String)
  /-- `Subscribe` has returned, and the result is not stored. -/
  | storing (sub : PushSubscription)
  /-- `Renew` was called. -/
  | renewing (sub : PushSubscription)
  | renewed (sub : PushSubscription) (newExpiry : ℤ)
  deriving DecidableEq, Repr

/-- A pass that holds `reconcileMu`: the receiver it is at with the tenants to come, and the receivers to come. -/
structure Pass where
  receiver : String := ""
  tenants : List String := []
  receivers : List String
  stage : PassStage := .next
  errs : ℕ := 0
  deriving DecidableEq, Repr

/-- The error of `reconcile` and of `Close`. -/
def opError (what : String) (errs : ℕ) : Option String :=
  if 0 < errs then some ("push: " ++ toString errs ++ " " ++ what ++ " op(s) failed") else none

/-- Where `Close` is. -/
inductive Closing where
  | idle
  /-- What is left of the snapshot, and the subscription that `Unsubscribe` was called with. -/
  | tearing (left : List PushSubscription) (call : Option PushSubscription) (errs : ℕ)
  | returned (err : Option String)
  deriving DecidableEq, Repr

/-- The manager, and what it has done on the side of the providers. -/
structure PushState where
  subs : List PushSubscription := []
  pass : Option Pass := none
  closing : Closing := .idle
  /-- The errors of the passes that have ended. -/
  results : List (Option String) := []
  created : List Watch := []
  /-- What was created and not unsubscribed. -/
  live : List Watch := []
  /-- What was passed to `Unsubscribe`. -/
  passed : List Watch := []
  deriving DecidableEq, Repr

inductive PushEvent where
  | begin
  /-- `Tenants` of the next receiver. -/
  | tenants (ts : List String)
  /-- The next tenant. -/
  | check (now : ℤ)
  /-- The answer of `Subscribe`: an id and an expiry. -/
  | subscribe (answer : Option (String × ℤ))
  | store
  /-- The answer of `Renew`. -/
  | renew (answer : Option ℤ)
  | storeRenewed
  | finish
  /-- The critical section of `Close`. -/
  | snapshot
  /-- `Unsubscribe` for one of the snapshot, in the order of a walk over the map. -/
  | unsubscribe (k : ℕ)
  | unsubscribed (ok : Bool)
  | closeReturns
  deriving DecidableEq, Repr

section Step

variable (cfg : PushConfig) (s : PushState)

/-- The pass comes to a tenant. -/
def Pass.check (p : Pass) (now : ℤ) (tenant : String) (rest : List String) : Pass :=
  let p := { p with tenants := rest }
  if tenant = "" then p
  else
    match s.subs.find? fun sub => sub.key = subKey p.receiver tenant with
    | none => { p with stage := .subscribing tenant }
    | some sub => if sub.expiresAt - now < cfg.renewalBuffer then { p with stage := .renewing sub } else p

/-- What `subscribeOne` stores. -/
def newSubscription (p : Pass) (tenant : String) (answer : String × ℤ) : PushSubscription where
  number := s.created.length
  provider := p.receiver
  tenantID := tenant
  subscriptionID := answer.1
  expiresAt := answer.2
  callbackURL := cfg.callbackBaseURL ++ "/v1/push/" ++ p.receiver ++ "/" ++ tenant

/-- The provider has made a subscription. -/
def PushState.subscribed (p : Pass) (sub : PushSubscription) : PushState :=
  { s with
    pass := some { p with stage := .storing sub }
    created := s.created ++ [sub.toWatch]
    live := s.live ++ [sub.toWatch] }

/-- `subscribeOne` stores it. -/
def PushState.stored (p : Pass) (sub : PushSubscription) : PushState :=
  { s with subs := sub :: s.subs.filter (·.key ≠ sub.key), pass := some { p with stage := .next } }

/-- `renewOne` stores a new expiry. -/
def PushState.storedExpiry (p : Pass) (sub : PushSubscription) (expiry : ℤ) : PushState :=
  { s with
    subs := s.subs.map fun x => if x.number = sub.number then { x with expiresAt := expiry } else x
    pass := some { p with stage := .next } }

/-- The step of a pass. -/
def passStep (p : Pass) : PushEvent → Option PushState
  | .tenants ts =>
    match p.stage, p.tenants, p.receivers with
    | .next, [], r :: rs => some { s with pass := some { p with receiver := r, tenants := ts, receivers := rs } }
    | _, _, _ => none
  | .check now =>
    match p.stage, p.tenants with
    | .next, t :: ts => some { s with pass := some (p.check cfg s now t ts) }
    | _, _ => none
  | .subscribe answer =>
    match p.stage, answer with
    | .subscribing _, none => some { s with pass := some { p with stage := .next, errs := p.errs + 1 } }
    | .subscribing tenant, some a => some (s.subscribed p (newSubscription cfg s p tenant a))
    | _, _ => none
  | .store =>
    match p.stage with
    | .storing sub => some (s.stored p sub)
    | _ => none
  | .renew answer =>
    match p.stage, answer with
    | .renewing _, none => some { s with pass := some { p with stage := .next, errs := p.errs + 1 } }
    | .renewing sub, some e => some { s with pass := some { p with stage := .renewed sub e } }
    | _, _ => none
  | .storeRenewed =>
    match p.stage with
    | .renewed sub e => some (s.storedExpiry p sub e)
    | _ => none
  | .finish =>
    match p.stage, p.tenants, p.receivers with
    | .next, [], [] => some { s with pass := none, results := s.results ++ [opError "subscription" p.errs] }
    | _, _, _ => none
  | _ => none

/-- The step of `Close`. -/
def closeStep : PushEvent → Option PushState
  | .snapshot =>
    match s.closing with
    | .idle => some { s with subs := [], closing := .tearing s.subs none 0 }
    | _ => none
  | .unsubscribe k =>
    match s.closing with
    | .tearing left none errs =>
      match left[k]? with
      | none => none
      | some sub =>
        match cfg.findReceiver sub.provider with
        | none => some { s with closing := .tearing (left.eraseIdx k) none errs }
        | some _ => some { s with
            closing := .tearing (left.eraseIdx k) (some sub) errs
            passed := s.passed ++ [sub.toWatch] }
    | _ => none
  | .unsubscribed ok =>
    match s.closing with
    | .tearing left (some sub) errs =>
      if ok then some { s with closing := .tearing left none errs, live := s.live.filter (· ≠ sub.toWatch) }
      else some { s with closing := .tearing left none (errs + 1) }
    | _ => none
  | .closeReturns =>
    match s.closing with
    | .tearing [] none errs => some { s with closing := .returned (opError "unsubscribe" errs) }
    | _ => none
  | _ => none

/-- **A step** of a pass or of the one `Close`. A pass begins when no other holds the lock. -/
def pushStep (e : PushEvent) : Option PushState :=
  match s.pass, e with
  | none, .begin => some { s with pass := some { receivers := cfg.receivers } }
  | some p, e => (passStep cfg s p e).or (closeStep cfg s e)
  | none, e => closeStep cfg s e

end Step

/-! ### What a step does -/

/-- The receivers of a pass are those of the manager. -/
structure Pass.Known (p : Pass) (cfg : PushConfig) : Prop where
  receivers : ∀ r ∈ p.receivers, r ∈ cfg.receivers
  receiver : p.receiver ∈ cfg.receivers ∨ p.tenants = [] ∧ p.stage = .next

/-- The subscription that a pass has and that is not stored. -/
def PushState.unstored (s : PushState) : List PushSubscription :=
  match s.pass with
  | some { stage := .storing sub, .. } => [sub]
  | _ => []

/-- The event is one of those that neither make a subscription nor start `Close`. -/
def PushEvent.isPlain : PushEvent → Bool
  | .subscribe (some _) | .snapshot => false
  | _ => true

/-- The ways to get from a state to another. -/
inductive Steps (cfg : PushConfig) (s : PushState) : PushEvent → PushState → Prop where
  | begin (e : PushEvent) (he : e.isPlain) (hs : s.unstored = []) :
    Steps cfg s e { s with pass := some { receivers := cfg.receivers } }
  /-- The pass goes on, and neither has a subscription to store nor gets one. -/
  | move (e : PushEvent) (p p' : Pass) (he : e.isPlain) (hp : s.pass = some p) (hs : s.unstored = [])
    (hs' : ∀ sub, p'.stage ≠ .storing sub) (hknown : p.Known cfg → p'.Known cfg)
    (hkey : ∀ t, p'.stage = .subscribing t → ∀ sub ∈ s.subs, sub.key ≠ subKey p'.receiver t) :
    Steps cfg s e { s with pass := some p' }
  | create (p : Pass) (tenant : String) (a : String × ℤ) (hp : s.pass = some p)
    (hstage : p.stage = .subscribing tenant) :
    Steps cfg s (.subscribe (some a)) (s.subscribed p (newSubscription cfg s p tenant a))
  | store (p : Pass) (sub : PushSubscription) (hp : s.pass = some p) (hstage : p.stage = .storing sub) :
    Steps cfg s .store (s.stored p sub)
  | renew (p : Pass) (sub : PushSubscription) (e : ℤ) (hp : s.pass = some p) (hstage : p.stage = .renewed sub e) :
    Steps cfg s .storeRenewed (s.storedExpiry p sub e)
  | finish (err : Option String) (hs : s.unstored = []) :
    Steps cfg s .finish { s with pass := none, results := s.results ++ [err] }
  | snapshot (hc : s.closing = .idle) : Steps cfg s .snapshot { s with subs := [], closing := .tearing s.subs none 0 }
  /-- There is no receiver for a subscription of the snapshot. -/
  | skip (k errs : ℕ) (left : List PushSubscription) (sub : PushSubscription) (hc : s.closing = .tearing left none errs)
    (hk : left[k]? = some sub) (hfind : cfg.findReceiver sub.provider = none) :
    Steps cfg s (.unsubscribe k) { s with closing := .tearing (left.eraseIdx k) none errs }
  | unsubscribe (k errs : ℕ) (left : List PushSubscription) (sub : PushSubscription)
    (hc : s.closing = .tearing left none errs) (hk : left[k]? = some sub) :
    Steps cfg s (.unsubscribe k)
      { s with closing := .tearing (left.eraseIdx k) (some sub) errs, passed := s.passed ++ [sub.toWatch] }
  | unsubscribed (ok : Bool) (errs errs' : ℕ) (left : List PushSubscription) (sub : PushSubscription)
    (hc : s.closing = .tearing left (some sub) errs) (live : List Watch) (hlive : live.Sublist s.live) :
    Steps cfg s (.unsubscribed ok) { s with closing := .tearing left none errs', live }
  | close (errs : ℕ) (err : Option String) (hc : s.closing = .tearing [] none errs) :
    Steps cfg s .closeReturns { s with closing := .returned err }

section Steps

variable {cfg : PushConfig} {s s' : PushState} {e : PushEvent} {p : Pass}

lemma unstored_eq_nil (hp : s.pass = some p) (h : ∀ sub, p.stage ≠ .storing sub) : s.unstored = [] := by
  unfold PushState.unstored
  split
  · next sub _ heq =>
    rw [hp, Option.some.injEq] at heq
    exact absurd (congrArg Pass.stage heq) (h sub)
  · rfl

lemma unstored_eq_singleton {sub : PushSubscription} (hp : s.pass = some p) (h : p.stage = .storing sub) :
    s.unstored = [sub] := by
  obtain ⟨receiver, tenants, receivers, stage, errs⟩ := p
  simp only at h
  subst h
  simp [PushState.unstored, hp]

lemma known_check {t : String} {ts : List String} (ht : p.tenants = t :: ts) (now : ℤ)
    (h : p.Known cfg) : (p.check cfg s now t ts).Known cfg := by
  have hrecv : p.receiver ∈ cfg.receivers := by
    rcases h.receiver with hr | ⟨hnil, -⟩
    · exact hr
    · simp [ht] at hnil
  unfold Pass.check
  dsimp only
  split_ifs
  · exact ⟨h.receivers, Or.inl hrecv⟩
  split
  · exact ⟨h.receivers, Or.inl hrecv⟩
  · split_ifs
    · exact ⟨h.receivers, Or.inl hrecv⟩
    · exact ⟨h.receivers, Or.inl hrecv⟩

lemma check_stage (cfg : PushConfig) (s : PushState) (hp : p.stage = .next) (now : ℤ) (t : String) (ts : List String) :
    (∀ sub, (p.check cfg s now t ts).stage ≠ .storing sub) ∧ ∀ t', (p.check cfg s now t ts).stage = .subscribing t' →
      ∀ sub ∈ s.subs, sub.key ≠ subKey (p.check cfg s now t ts).receiver t' := by
  unfold Pass.check
  dsimp only
  split_ifs
  · simp [hp]
  split
  · next hfind =>
    refine ⟨by simp, ?_⟩
    rintro t' ht' sub hsub
    obtain rfl : t = t' := by simpa using ht'
    simpa using List.find?_eq_none.mp hfind sub hsub
  · split_ifs <;> simp [hp]

lemma passStep_steps (hp : s.pass = some p) (h : passStep cfg s p e = some s') : Steps cfg s e s' := by
  cases e with
  | begin => cases h
  | tenants ts =>
    dsimp only [passStep] at h
    split at h
    · next r rs hstage htenants hreceivers =>
      obtain rfl := Option.some.inj h
      refine .move _ _ _ rfl hp (unstored_eq_nil hp (by simp [hstage])) (by simp [hstage]) (fun hk => ?_)
        (by simp [hstage])
      have hk' := hk.receivers
      rw [hreceivers] at hk'
      exact ⟨fun x hx => hk' x (List.mem_cons_of_mem _ hx), Or.inl (hk' r List.mem_cons_self)⟩
    · cases h
  | check now =>
    dsimp only [passStep] at h
    split at h
    · next t ts hstage htenants =>
      obtain rfl := Option.some.inj h
      obtain ⟨hstoring, hkeys⟩ := check_stage cfg s hstage now t ts
      exact .move _ _ _ rfl hp (unstored_eq_nil hp (by simp [hstage])) hstoring (known_check htenants now) hkeys
    · cases h
  | subscribe answer =>
    dsimp only [passStep] at h
    split at h
    · next t hstage =>
      obtain rfl := Option.some.inj h
      refine .move _ _ _ rfl hp (unstored_eq_nil hp (by simp [hstage])) (by simp) (fun hk => ?_) (by simp)
      refine ⟨hk.receivers, Or.inl (hk.receiver.resolve_right ?_)⟩
      simp [hstage]
    · next t a hstage =>
      obtain rfl := Option.some.inj h
      exact .create _ t a hp hstage
    · cases h
  | store =>
    dsimp only [passStep] at h
    split at h
    · next sub hstage =>
      obtain rfl := Option.some.inj h
      exact .store _ sub hp hstage
    · cases h
  | renew answer =>
    dsimp only [passStep] at h
    split at h
    · next sub hstage =>
      obtain rfl := Option.some.inj h
      refine .move _ _ _ rfl hp (unstored_eq_nil hp (by simp [hstage])) (by simp) (fun hk => ?_) (by simp)
      refine ⟨hk.receivers, Or.inl (hk.receiver.resolve_right ?_)⟩
      simp [hstage]
    · next sub expiry hstage =>
      obtain rfl := Option.some.inj h
      refine .move _ _ _ rfl hp (unstored_eq_nil hp (by simp [hstage])) (by simp) (fun hk => ?_) (by simp)
      refine ⟨hk.receivers, Or.inl (hk.receiver.resolve_right ?_)⟩
      simp [hstage]
    · cases h
  | storeRenewed =>
    dsimp only [passStep] at h
    split at h
    · next sub expiry hstage =>
      obtain rfl := Option.some.inj h
      exact .renew _ sub expiry hp hstage
    · cases h
  | finish =>
    dsimp only [passStep] at h
    split at h
    · next hstage _ _ =>
      obtain rfl := Option.some.inj h
      exact .finish _ (unstored_eq_nil hp (by simp [hstage]))
    · cases h
  | snapshot => cases h
  | unsubscribe k => cases h
  | unsubscribed ok => cases h
  | closeReturns => cases h

lemma closeStep_steps (h : closeStep cfg s e = some s') : Steps cfg s e s' := by
  cases e with
  | snapshot =>
    dsimp only [closeStep] at h
    split at h
    · next hc =>
      obtain rfl := Option.some.inj h
      exact .snapshot hc
    · cases h
  | unsubscribe k =>
    dsimp only [closeStep] at h
    split at h
    · next left errs hc =>
      split at h
      · cases h
      next sub hk =>
      split at h
      · next hfind =>
        obtain rfl := Option.some.inj h
        exact .skip k errs left sub hc hk hfind
      · obtain rfl := Option.some.inj h
        exact .unsubscribe k errs left sub hc hk
    · cases h
  | unsubscribed ok =>
    dsimp only [closeStep] at h
    split at h
    · next left sub errs hc =>
      split at h
      · obtain rfl := Option.some.inj h
        exact .unsubscribed ok errs errs left sub hc _ List.filter_sublist
      · obtain rfl := Option.some.inj h
        exact .unsubscribed ok errs (errs + 1) left sub hc _ (List.Sublist.refl _)
    · cases h
  | closeReturns =>
    dsimp only [closeStep] at h
    split at h
    · next errs hc =>
      obtain rfl := Option.some.inj h
      exact .close errs _ hc
    · cases h
  | begin => cases h
  | tenants ts => cases h
  | check now => cases h
  | subscribe answer => cases h
  | store => cases h
  | renew answer => cases h
  | storeRenewed => cases h
  | finish => cases h

/-- **What a step does.** -/
theorem step_steps (h : pushStep cfg s e = some s') : Steps cfg s e s' := by
  unfold pushStep at h
  split at h
  · next hp =>
    obtain rfl := Option.some.inj h
    exact .begin _ rfl (by simp [PushState.unstored, hp])
  · next p _ hp =>
    rcases Option.or_eq_some_iff.mp h with h | ⟨-, h⟩
    · exact passStep_steps hp h
    · exact closeStep_steps h
  · exact closeStep_steps h

end Steps

/-! ### What the manager has hold of -/

/-- What is in the map or about to be. -/
def PushState.tracked (s : PushState) : List Watch := (s.subs ++ s.unstored).map (·.toWatch)

/-- What can still be passed to `Unsubscribe`. -/
def PushState.held (s : PushState) : List Watch :=
  match s.closing with
  | .idle => s.tracked
  | .tearing left _ _ => left.map (·.toWatch)
  | .returned _ => []

/-- Nothing that was created is lost. -/
def PushState.NoneLost (s : PushState) : Prop := ∀ w ∈ s.created, w ∈ s.passed ∨ w ∈ s.held

/-- No receiver and tenant have two subscriptions. -/
def PushState.Single (s : PushState) : Prop :=
  s.live.Pairwise fun v w => ¬ (v.provider = w.provider ∧ v.tenantID = w.tenantID)

/-- What is so in every state. -/
structure Tidy (cfg : PushConfig) (s : PushState) : Prop where
  numbered : ∀ w ∈ s.created, w.number < s.created.length
  live : ∀ w ∈ s.live, w ∈ s.created
  passed : ∀ w ∈ s.passed, w ∈ s.created
  tracked : ∀ w ∈ s.tracked, w ∈ s.created ∧ w.provider ∈ cfg.receivers
  held : ∀ w ∈ s.held, w ∈ s.created ∧ w.provider ∈ cfg.receivers
  unpassed : s.closing = .idle → s.passed = []
  /-- What a pass is about to store is not in the map. -/
  unstored : ∀ sub ∈ s.unstored, ∀ x ∈ s.subs, x.key ≠ sub.key
  subscribing : ∀ p t, s.pass = some p → p.stage = .subscribing t → ∀ x ∈ s.subs, x.key ≠ subKey p.receiver t
  known : ∀ p, s.pass = some p → p.Known cfg

section Invariants

variable {cfg : PushConfig} {s s' : PushState} {e : PushEvent} {p : Pass} {sub : PushSubscription}

lemma tidy_start : Tidy cfg {} := by
  constructor <;> simp [PushState.held, PushState.tracked, PushState.unstored]

lemma held_congr (s s' : PushState) (hc : s'.closing = s.closing) (h : ∀ w, w ∈ s'.tracked ↔ w ∈ s.tracked)
    (w : Watch) : w ∈ s'.held ↔ w ∈ s.held := by
  unfold PushState.held
  rw [hc]
  split
  · exact h w
  · rfl
  · rfl

lemma tracked_of_pass (hs : s.unstored = []) (pass : Option Pass) (results : List (Option String))
    (hs' : { s with pass, results }.unstored = []) (w : Watch) :
    w ∈ { s with pass, results }.tracked ↔ w ∈ s.tracked := by
  simp [PushState.tracked, hs, hs']

/-- A step after which the pass has nothing to store, and that changes nothing else. -/
lemma Tidy.of_pass (h : Tidy cfg s) (hs : s.unstored = []) (pass : Option Pass) (results : List (Option String))
    (hs' : { s with pass, results }.unstored = [])
    (hkey : ∀ p t, pass = some p → p.stage = .subscribing t → ∀ x ∈ s.subs, x.key ≠ subKey p.receiver t)
    (hknown : ∀ p, pass = some p → p.Known cfg) : Tidy cfg { s with pass, results } := by
  have htracked := tracked_of_pass hs pass results hs'
  have hheld := held_congr s { s with pass, results } rfl htracked
  refine ⟨h.numbered, h.live, h.passed, ?_, ?_, h.unpassed, by simp [hs'], hkey, hknown⟩
  · exact fun w hw => h.tracked w ((htracked w).mp hw)
  · exact fun w hw => h.held w ((hheld w).mp hw)

lemma newSubscription_notMem (h : Tidy cfg s) (p : Pass) (t : String) (a : String × ℤ) :
    (newSubscription cfg s p t a).toWatch ∉ s.created := by
  intro hmem
  exact Nat.lt_irrefl _ (h.numbered _ hmem)

lemma tracked_subscribed (hs : s.unstored = []) : (s.subscribed p sub).tracked = s.tracked ++ [sub.toWatch] := by
  have hsome : (s.subscribed p sub).unstored = [sub] := unstored_eq_singleton rfl rfl
  rw [PushState.tracked, hsome]
  simp [PushState.tracked, PushState.subscribed, hs]

/-- Before `Close` the new subscription is held, and later what is held is what is left. -/
lemma held_subscribed (hs : s.unstored = []) :
    (s.subscribed p sub).held = if s.closing = .idle then s.held ++ [sub.toWatch] else s.held := by
  have hclosing : (s.subscribed p sub).closing = s.closing := rfl
  unfold PushState.held
  rw [hclosing, tracked_subscribed hs]
  cases s.closing <;> rfl

lemma Tidy.create (h : Tidy cfg s) {t : String} (a : String × ℤ) (hp : s.pass = some p)
    (hstage : p.stage = .subscribing t) : Tidy cfg (s.subscribed p (newSubscription cfg s p t a)) := by
  have hkeys := h.subscribing p t hp hstage
  have hrecv : p.receiver ∈ cfg.receivers := (h.known p hp).receiver.resolve_right (by simp [hstage])
  have hnone : s.unstored = [] := unstored_eq_nil hp (by simp [hstage])
  set sub := newSubscription cfg s p t a with hsub
  have hsome : (s.subscribed p sub).unstored = [sub] := unstored_eq_singleton rfl rfl
  have hold : ∀ w ∈ s.created, w ∈ (s.subscribed p sub).created := fun w hw => List.mem_append_left _ hw
  have hnew : sub.toWatch ∈ (s.subscribed p sub).created := List.mem_append_right _ List.mem_cons_self
  have htracked : ∀ w ∈ s.tracked ++ [sub.toWatch],
      w ∈ (s.subscribed p sub).created ∧ w.provider ∈ cfg.receivers := by
    intro w hw
    rcases List.mem_append.mp hw with hw | hw
    · exact ⟨hold w (h.tracked w hw).1, (h.tracked w hw).2⟩
    · obtain rfl := List.mem_singleton.mp hw
      exact ⟨hnew, hrecv⟩
  refine ⟨?_, ?_, fun w hw => hold w (h.passed w hw), ?_, ?_, h.unpassed, ?_, ?_, ?_⟩
  · intro w hw
    have hlen : (s.subscribed p sub).created.length = s.created.length + 1 := by simp [PushState.subscribed]
    rcases List.mem_append.mp hw with hw | hw
    · exact hlen ▸ Nat.lt_succ_of_lt (h.numbered w hw)
    · obtain rfl := List.mem_singleton.mp hw
      exact hlen ▸ Nat.lt_succ_self _
  · intro w hw
    rcases List.mem_append.mp hw with hw | hw
    · exact hold w (h.live w hw)
    · obtain rfl := List.mem_singleton.mp hw
      exact hnew
  · rwa [tracked_subscribed hnone]
  · intro w hw
    rw [held_subscribed hnone] at hw
    split at hw
    · rcases List.mem_append.mp hw with hw | hw
      · exact ⟨hold w (h.held w hw).1, (h.held w hw).2⟩
      · exact htracked w (List.mem_append_right _ hw)
    · exact ⟨hold w (h.held w hw).1, (h.held w hw).2⟩
  · intro x hx y hy
    rw [hsome] at hx
    obtain rfl := List.mem_singleton.mp hx
    exact hkeys y hy
  · rintro p' t' hp' hstage'
    obtain rfl := Option.some.inj hp'
    cases hstage'
  · rintro p' hp'
    obtain rfl := Option.some.inj hp'
    exact ⟨(h.known p hp).receivers, Or.inl hrecv⟩

lemma tracked_stored (h : Tidy cfg s) (hp : s.pass = some p) (hstage : p.stage = .storing sub) (w : Watch) :
    w ∈ (s.stored p sub).tracked ↔ w ∈ s.tracked := by
  have hsome : s.unstored = [sub] := unstored_eq_singleton hp hstage
  have hfilter : s.subs.filter (·.key ≠ sub.key) = s.subs := by
    rw [List.filter_eq_self]
    intro x hx
    simpa using h.unstored sub (by simp [hsome]) x hx
  have hnone : (s.stored p sub).unstored = [] := unstored_eq_nil rfl (by simp)
  rw [PushState.tracked, hnone, PushState.stored, hfilter]
  simp [PushState.tracked, hsome, or_comm]

/-- The new expiry is not seen on the side of the provider. -/
lemma tracked_storedExpiry {expiry : ℤ} (hp : s.pass = some p) (hstage : p.stage = .renewed sub expiry) (w : Watch) :
    w ∈ (s.storedExpiry p sub expiry).tracked ↔ w ∈ s.tracked := by
  have hnone : s.unstored = [] := unstored_eq_nil hp (by simp [hstage])
  have hnone' : (s.storedExpiry p sub expiry).unstored = [] := unstored_eq_nil rfl (by simp)
  have hmap : (s.storedExpiry p sub expiry).subs.map (·.toWatch) = s.subs.map (·.toWatch) := by
    rw [PushState.storedExpiry, List.map_map]
    refine List.map_congr_left fun x _ => ?_
    simp only [Function.comp_apply]
    split <;> rfl
  simp [PushState.tracked, hnone, hnone', hmap]

/-- The pass is back at the next tenant, and the same is tracked. -/
lemma Tidy.of_tracked (h : Tidy cfg s) (hp : s.pass = some p) (hstage : p.stage ≠ .next)
    (subs : List PushSubscription)
    (htracked : ∀ w, w ∈ { s with subs, pass := some { p with stage := .next } }.tracked ↔ w ∈ s.tracked) :
    Tidy cfg { s with subs, pass := some { p with stage := .next } } := by
  have hnone : { s with subs, pass := some { p with stage := .next } }.unstored = [] := unstored_eq_nil rfl (by simp)
  have hheld := held_congr s { s with subs, pass := some { p with stage := .next } } rfl htracked
  refine ⟨h.numbered, h.live, h.passed, ?_, ?_, h.unpassed, ?_, ?_, ?_⟩
  · exact fun w hw => h.tracked w ((htracked w).mp hw)
  · exact fun w hw => h.held w ((hheld w).mp hw)
  · simp [hnone]
  · rintro p' t' hp' hstage'
    obtain rfl := Option.some.inj hp'
    cases hstage'
  · rintro p' hp'
    obtain rfl := Option.some.inj hp'
    exact ⟨(h.known p hp).receivers, Or.inl ((h.known p hp).receiver.resolve_right fun hnext => hstage hnext.2)⟩

lemma Tidy.snapshot (h : Tidy cfg s) :
    Tidy cfg { s with subs := [], closing := .tearing s.subs none 0 } := by
  have hsubs : ∀ w ∈ s.subs.map (·.toWatch), w ∈ s.tracked := by
    intro w hw
    rw [PushState.tracked, List.map_append]
    exact List.mem_append_left _ hw
  have hunstored : ∀ w ∈ s.unstored.map (·.toWatch), w ∈ s.tracked := by
    intro w hw
    rw [PushState.tracked, List.map_append]
    exact List.mem_append_right _ hw
  refine ⟨h.numbered, h.live, h.passed, ?_, ?_, by simp, by simp, by simp, h.known⟩
  · exact fun w hw => h.tracked w (hunstored w hw)
  · exact fun w hw => h.tracked w (hsubs w hw)

/-- A step of `Close` after its start. -/
lemma Tidy.of_close (h : Tidy cfg s) (closing : Closing) (live passed : List Watch)
    (hc' : closing ≠ .idle) (hlive : ∀ w ∈ live, w ∈ s.live) (hpassed : ∀ w ∈ passed, w ∈ s.passed ∨ w ∈ s.held)
    (hheld : ∀ w ∈ { s with closing, live, passed }.held, w ∈ s.held) :
    Tidy cfg { s with closing, live, passed } := by
  refine ⟨h.numbered, fun w hw => h.live w (hlive w hw), ?_, h.tracked, ?_, fun heq => absurd heq hc',
    h.unstored, h.subscribing, h.known⟩
  · intro w hw
    rcases hpassed w hw with hw | hw
    · exact h.passed w hw
    · exact (h.held w hw).1
  · exact fun w hw => h.held w (hheld w hw)

lemma mem_held_tearing {left : List PushSubscription} {call : Option PushSubscription} {errs : ℕ}
    (hc : s.closing = .tearing left call errs) (w : Watch) : w ∈ s.held ↔ ∃ sub ∈ left, sub.toWatch = w := by
  simp [PushState.held, hc]

/-- **Every step keeps the state tidy.** -/
lemma Tidy.step (h : Tidy cfg s) (hstep : Steps cfg s e s') : Tidy cfg s' := by
  cases hstep with
  | begin e he hs =>
    refine h.of_pass hs _ _ rfl ?_ ?_
    · rintro p t hp hstage
      obtain rfl := Option.some.inj hp
      cases hstage
    · rintro p hp
      obtain rfl := Option.some.inj hp
      exact ⟨fun r hr => hr, Or.inr ⟨rfl, rfl⟩⟩
  | move e p p' he hp hs hs' hknown hkey =>
    refine h.of_pass hs _ _ (unstored_eq_nil rfl hs') ?_ ?_
    · rintro p₁ t hp₁ hstage
      obtain rfl := Option.some.inj hp₁
      exact hkey t hstage
    · rintro p₁ hp₁
      obtain rfl := Option.some.inj hp₁
      exact hknown (h.known p hp)
  | create p tenant a hp hstage => exact h.create a hp hstage
  | store p sub hp hstage => exact h.of_tracked hp (by simp [hstage]) _ (tracked_stored h hp hstage)
  | renew p sub expiry hp hstage => exact h.of_tracked hp (by simp [hstage]) _ (tracked_storedExpiry hp hstage)
  | finish err hs => exact h.of_pass hs none _ rfl (by simp) (by simp)
  | snapshot hc => exact h.snapshot
  | skip k errs left sub hc hk hfind =>
    refine h.of_close _ s.live s.passed (by simp) (fun w hw => hw) (fun w hw => Or.inl hw) ?_
    intro w hw
    obtain ⟨x, hx, rfl⟩ := (mem_held_tearing rfl w).mp hw
    exact (mem_held_tearing hc _).mpr ⟨x, List.mem_of_mem_eraseIdx hx, rfl⟩
  | unsubscribe k errs left sub hc hk =>
    refine h.of_close _ s.live _ (by simp) (fun w hw => hw) ?_ ?_
    · intro w hw
      rcases List.mem_append.mp hw with hw | hw
      · exact Or.inl hw
      · obtain rfl := List.mem_singleton.mp hw
        exact Or.inr ((mem_held_tearing hc _).mpr ⟨sub, List.mem_of_getElem? hk, rfl⟩)
    · intro w hw
      obtain ⟨x, hx, rfl⟩ := (mem_held_tearing rfl w).mp hw
      exact (mem_held_tearing hc _).mpr ⟨x, List.mem_of_mem_eraseIdx hx, rfl⟩
  | unsubscribed ok errs errs' left sub hc live hlive =>
    refine h.of_close _ live s.passed (by simp) (fun w hw => hlive.subset hw) (fun w hw => Or.inl hw) ?_
    intro w hw
    exact (mem_held_tearing hc w).mpr ((mem_held_tearing rfl w).mp hw)
  | close errs err hc =>
    refine h.of_close _ s.live s.passed (by simp) (fun w hw => hw) (fun w hw => Or.inl hw) ?_
    intro w hw
    cases hw

end Invariants

/-! ### What is lost -/

/-- The steps that lose nothing: `Close` looks at the map while no subscription waits to be stored, and none is made
after that. -/
def Calm (s : PushState) : PushEvent → Prop
  | .snapshot => s.unstored = []
  | .subscribe (some _) => s.closing = .idle
  | _ => True

instance (s : PushState) (e : PushEvent) : Decidable (Calm s e) := by
  unfold Calm
  split <;> infer_instance

section Lost

variable {cfg : PushConfig} {s s' : PushState} {e : PushEvent} {p : Pass} {sub : PushSubscription}

lemma calm_of_isPlain (he : e.isPlain) : Calm s e := by
  unfold PushEvent.isPlain at he
  unfold Calm
  split <;> simp_all

lemma noneLost_congr (hcreated : s'.created = s.created)
    (hmem : ∀ w, w ∈ s'.passed ∨ w ∈ s'.held ↔ w ∈ s.passed ∨ w ∈ s.held) : s'.NoneLost ↔ s.NoneLost := by
  unfold PushState.NoneLost
  rw [hcreated]
  exact forall₂_congr fun w _ => hmem w

lemma findReceiver_isSome (hfold : ∀ k, cfg.equalFold k k) {kind : String} (h : kind ∈ cfg.receivers) :
    cfg.findReceiver kind ≠ none := by
  intro hnone
  exact List.find?_eq_none.mp hnone kind h (hfold kind)

/-- An element of a list is the one at a place, or at another place. -/
lemma mem_iff_of_getElem? {α : Type*} {l : List α} {k : ℕ} {x : α} (hk : l[k]? = some x) (y : α) :
    y ∈ l ↔ y = x ∨ y ∈ l.eraseIdx k := by
  induction l generalizing k with
  | nil => simp at hk
  | cons z l ih =>
    cases k with
    | zero =>
      obtain rfl : z = x := by simpa using hk
      simp
    | succ k =>
      rw [List.eraseIdx_cons_succ, List.mem_cons, ih (by simpa using hk), List.mem_cons]
      exact or_left_comm

/-- A step that leaves alone what was created and passed, and tracks the same. -/
lemma noneLost_of_tracked (hclosing : s'.closing = s.closing) (hcreated : s'.created = s.created)
    (hpassed : s'.passed = s.passed) (htracked : ∀ w, w ∈ s'.tracked ↔ w ∈ s.tracked) : s'.NoneLost ↔ s.NoneLost := by
  refine noneLost_congr hcreated fun w => ?_
  rw [hpassed, held_congr s s' hclosing htracked]

/-- A new subscription is held exactly if `Close` has not looked at the map. -/
lemma noneLost_subscribed (h : Tidy cfg s) (hs : s.unstored = []) (hnew : sub.toWatch ∉ s.created) :
    (s.subscribed p sub).NoneLost ↔ s.NoneLost ∧ s.closing = .idle := by
  have hpassed : sub.toWatch ∉ s.passed := fun hw => hnew (h.passed _ hw)
  have hheld : sub.toWatch ∉ s.held := fun hw => hnew (h.held _ hw).1
  unfold PushState.NoneLost
  rw [held_subscribed hs]
  simp only [PushState.subscribed, List.mem_append, List.mem_singleton]
  constructor
  · intro hall
    by_cases hc : s.closing = .idle
    · refine ⟨fun w hw => ?_, hc⟩
      have hwnew : w ≠ sub.toWatch := by
        rintro rfl
        exact hnew hw
      simpa [hc, hwnew] using hall w (Or.inl hw)
    · simpa [hc, hpassed, hheld] using hall sub.toWatch (Or.inr rfl)
  · rintro ⟨hall, hc⟩ w hw
    rw [if_pos hc, List.mem_append, List.mem_singleton]
    rcases hw with hw | hw
    · exact (hall w hw).imp_right Or.inl
    · exact Or.inr (Or.inr hw)

/-- `Close` takes what is in the map, and loses what is not stored. -/
lemma noneLost_snapshot (h : Tidy cfg s) (hc : s.closing = .idle) :
    { s with subs := [], closing := .tearing s.subs none 0 }.NoneLost ↔ s.NoneLost ∧ s.unstored = [] := by
  have hheld : s.held = s.tracked := by simp [PushState.held, hc]
  constructor
  · intro hall
    have hnil : s.unstored = [] := by
      rw [List.eq_nil_iff_forall_not_mem]
      intro sub hsub
      have hmem : sub.toWatch ∈ s.tracked := by
        rw [PushState.tracked, List.map_append]
        exact List.mem_append_right _ (List.mem_map_of_mem hsub)
      rcases hall sub.toWatch (h.tracked _ hmem).1 with hw | hw
      · simp [h.unpassed hc] at hw
      · obtain ⟨x, hx, heq⟩ := (mem_held_tearing rfl _).mp hw
        exact h.unstored sub hsub x hx (by rw [heq])
    refine ⟨fun w hw => (hall w hw).imp_right fun hw => ?_, hnil⟩
    rw [hheld, PushState.tracked, hnil, List.append_nil]
    exact hw
  · rintro ⟨hall, hnil⟩ w hw
    refine (hall w hw).imp_right fun hw => ?_
    rw [hheld, PushState.tracked, hnil, List.append_nil] at hw
    exact hw

/-- **What a step loses.** -/
lemma noneLost_step (hfold : ∀ k, cfg.equalFold k k) (h : Tidy cfg s) (hstep : Steps cfg s e s') :
    s'.NoneLost ↔ s.NoneLost ∧ Calm s e := by
  cases hstep with
  | begin e he hs =>
    rw [and_iff_left (calm_of_isPlain he)]
    exact noneLost_of_tracked rfl rfl rfl (tracked_of_pass hs _ _ rfl)
  | move e p p' he hp hs hs' hknown hkey =>
    rw [and_iff_left (calm_of_isPlain he)]
    exact noneLost_of_tracked rfl rfl rfl (tracked_of_pass hs _ _ (unstored_eq_nil rfl hs'))
  | create p tenant a hp hstage =>
    exact noneLost_subscribed h (unstored_eq_nil hp (by simp [hstage])) (newSubscription_notMem h p tenant a)
  | store p sub hp hstage =>
    rw [and_iff_left (calm_of_isPlain rfl)]
    exact noneLost_of_tracked rfl rfl rfl (tracked_stored h hp hstage)
  | renew p sub expiry hp hstage =>
    rw [and_iff_left (calm_of_isPlain rfl)]
    exact noneLost_of_tracked rfl rfl rfl (tracked_storedExpiry hp hstage)
  | finish err hs =>
    rw [and_iff_left (calm_of_isPlain rfl)]
    exact noneLost_of_tracked rfl rfl rfl (tracked_of_pass hs none _ rfl)
  | snapshot hc => exact noneLost_snapshot h hc
  | skip k errs left sub hc hk hfind =>
    have hmem : sub.toWatch ∈ s.held := (mem_held_tearing hc _).mpr ⟨sub, List.mem_of_getElem? hk, rfl⟩
    exact absurd hfind (findReceiver_isSome hfold (h.held _ hmem).2)
  | unsubscribe k errs left sub hc hk =>
    rw [and_iff_left (calm_of_isPlain rfl)]
    refine noneLost_congr rfl fun w => ?_
    rw [mem_held_tearing hc, mem_held_tearing rfl, List.mem_append, List.mem_singleton, or_assoc]
    refine or_congr_right ?_
    simp only [mem_iff_of_getElem? hk, or_and_right, exists_or, exists_eq_left]
    exact or_congr_left eq_comm
  | unsubscribed ok errs errs' left sub hc live hlive =>
    rw [and_iff_left (calm_of_isPlain rfl)]
    refine noneLost_congr rfl fun w => or_congr_right ?_
    rw [mem_held_tearing hc, mem_held_tearing rfl]
  | close errs err hc =>
    rw [and_iff_left (calm_of_isPlain rfl)]
    refine noneLost_congr rfl fun w => or_congr_right ?_
    rw [mem_held_tearing hc]
    simp [PushState.held]

/-- While nothing is lost a second subscription is never made. -/
lemma single_step (h : Tidy cfg s) (hlost : s.NoneLost) (hsingle : s.Single) (hcalm : Calm s e)
    (hstep : Steps cfg s e s') : s'.Single := by
  cases hstep with
  | begin e he hs => exact hsingle
  | move e p p' he hp hs hs' hknown hkey => exact hsingle
  | create p tenant a hp hstage =>
    refine List.pairwise_append.mpr ⟨hsingle, List.pairwise_singleton _ _, fun v hv w hw => ?_⟩
    obtain rfl := List.mem_singleton.mp hw
    have hidle : s.closing = .idle := hcalm
    have hnone : s.unstored = [] := unstored_eq_nil hp (by simp [hstage])
    -- what is live is in the map, and the map had nothing under the key
    have hmem : v ∈ s.tracked := by
      rcases hlost v (h.live v hv) with hv' | hv'
      · simp [h.unpassed hidle] at hv'
      · simpa [PushState.held, hidle] using hv'
    rw [PushState.tracked, hnone, List.append_nil] at hmem
    obtain ⟨x, hx, rfl⟩ := List.mem_map.mp hmem
    rintro ⟨hprovider, htenant⟩
    refine h.subscribing p tenant hp hstage x hx ?_
    rw [Watch.key, hprovider, htenant]
    rfl
  | store p sub hp hstage => exact hsingle
  | renew p sub expiry hp hstage => exact hsingle
  | finish err hs => exact hsingle
  | snapshot hc => exact hsingle
  | skip k errs left sub hc hk hfind => exact hsingle
  | unsubscribe k errs left sub hc hk => exact hsingle
  | unsubscribed ok errs errs' left sub hc live hlive => exact hsingle.sublist hlive
  | close errs err hc => exact hsingle

end Lost

/-! ### Runs -/

/-- `Close` has returned and no pass is in progress. -/
def PushState.Ended (s : PushState) : Prop := (∃ err, s.closing = .returned err) ∧ s.pass = none

/-- No receiver and tenant have two subscriptions, and in the end every subscription was passed to `Unsubscribe`. -/
structure Cared (s : PushState) : Prop where
  single : s.Single
  passed : s.Ended → ∀ w ∈ s.created, w ∈ s.passed

section Runs

variable {cfg : PushConfig} {s : PushState}

lemma noneLost_iff_of_ended (h : s.Ended) : s.NoneLost ↔ ∀ w ∈ s.created, w ∈ s.passed := by
  obtain ⟨⟨err, hc⟩, -⟩ := h
  simp [PushState.NoneLost, PushState.held, hc]

/-- What the steps keep while they are calm. -/
structure Kept (cfg : PushConfig) (s : PushState) : Prop where
  tidy : Tidy cfg s
  noneLost : s.NoneLost
  single : s.Single

lemma Kept.step (hfold : ∀ k, cfg.equalFold k k) (s : PushState) (e : PushEvent) (s' : PushState) (h : Kept cfg s)
    (hcalm : Calm s e) (hstep : pushStep cfg s e = some s') : Kept cfg s' := by
  have hsteps := step_steps hstep
  exact ⟨h.tidy.step hsteps, (noneLost_step hfold h.tidy hsteps).mpr ⟨h.noneLost, hcalm⟩,
    single_step h.tidy h.noneLost h.single hcalm hsteps⟩

lemma kept_start : Kept cfg {} := ⟨tidy_start, by simp [PushState.NoneLost], List.Pairwise.nil⟩

/-- **The subscriptions of the push manager.** In a run whose steps are all calm every state is cared for, and a run to
the end in which every state is cared for has only calm steps. -/
theorem push_subscriptions_iff (cfg : PushConfig) (hfold : ∀ k, cfg.equalFold k k) {es : List PushEvent}
    (hrun : Lts.run (pushStep cfg) {} es = some s) :
    (Lts.Meets (pushStep cfg) Calm {} es → Lts.Throughout (pushStep cfg) Cared {} es) ∧
      (s.Ended → (Lts.Throughout (pushStep cfg) Cared {} es ↔ Lts.Meets (pushStep cfg) Calm {} es)) := by
  have hmeets : Lts.Meets (pushStep cfg) Calm {} es → Lts.Throughout (pushStep cfg) Cared {} es := by
    intro h
    refine Lts.throughout_of_meets (Kept.step hfold) (fun t ht => ?_) kept_start h
    exact ⟨ht.single, fun hend => (noneLost_iff_of_ended hend).mp ht.noneLost⟩
  refine ⟨hmeets, fun hend => ⟨fun h => ?_, hmeets⟩⟩
  have hlost : s.NoneLost := (noneLost_iff_of_ended hend).mpr ((h.last hrun).passed hend)
  refine ((Lts.run_iff (I := Tidy cfg) (P := PushState.NoneLost) ?_ ?_ tidy_start hrun).mp hlost).2
  · exact fun t e t' ht hstep => ht.step (step_steps hstep)
  · exact fun t e t' ht hstep => noneLost_step hfold ht (step_steps hstep)

end Runs

/-- A manager with one receiver. -/
def outlookConfig : PushConfig where
  receivers := ["outlook"]
  callbackBaseURL := "https://mx.test"
  renewalBuffer := 3600
  equalFold a b := a.toList.map Char.toLower = b.toList.map Char.toLower

/-- A pass for a tenant, and then `Close`. -/
def calmRun : List PushEvent :=
  [.begin, .tenants ["contoso"], .check 0, .subscribe (some ("sub-1", 10000)), .store, .finish, .snapshot,
    .unsubscribe 0, .unsubscribed true, .closeReturns]

theorem push_subscriptions_calm : Lts.Throughout (pushStep outlookConfig) Cared {} calmRun := by
  obtain ⟨s, hrun⟩ := Option.isSome_iff_exists.mp
    (show (Lts.run (pushStep outlookConfig) {} calmRun).isSome by decide)
  exact (push_subscriptions_iff outlookConfig (by simp [outlookConfig]) hrun).1 (by decide)

/-- `Close` looks at the map while the answer of `Subscribe` is not stored. -/
def lateRun : List PushEvent :=
  [.begin, .tenants ["contoso"], .check 0, .subscribe (some ("sub-1", 10000)), .snapshot, .closeReturns, .store,
    .finish]

/-- The subscription is left on the side of the provider. -/
theorem late_subscription_orphaned : ¬ Lts.Throughout (pushStep outlookConfig) Cared {} lateRun := by
  intro h
  have hrun : Lts.run (pushStep outlookConfig) {} lateRun = some
      { subs := [⟨⟨0, "outlook", "contoso", "sub-1"⟩, 10000, "https://mx.test/v1/push/outlook/contoso"⟩]
        closing := .returned none
        results := [none]
        created := [⟨0, "outlook", "contoso", "sub-1"⟩]
        live := [⟨0, "outlook", "contoso", "sub-1"⟩] } := by decide
  have hpassed := (h.last hrun).passed ⟨⟨none, rfl⟩, rfl⟩ _ List.mem_cons_self
  cases hpassed

end Sn360Es.Ingestion
