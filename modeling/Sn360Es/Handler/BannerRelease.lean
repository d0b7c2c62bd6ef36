import Sn360Es.Action.VerdictActions
import Sn360Es.Handler.Quarantine

/-!
# Which tokens release a message

* `release_restores_iff` — when the release service asks the provider to restore a message;
* `selfRelease_restores`, `selfRelease_recorded` — what the self-release service has checked by then, and that it keeps
  a record of what it restores;
* `banner_token_releases_iff` — the token of a banner takes the path of the operators, which has none of this;
* `phish_banner_token_restores` — a phish that self-service would not release.
-/

namespace Sn360Es.Handler

open Lib Sn360Es.Action Privacy SelfRelease

/-! ### Restores -/

/-- A call of the provider that restores a message. -/
def isRestore : Op → Bool
  | .restoreFromQuarantine .. => true
  | _ => false

/-- The service, alone, asks the provider to restore a message. -/
def RestoresAlone {α : Type} (p : ActionM α) (env : ℕ → Environment) (st : Store) : Prop :=
  Prog.Performs exec (fun x => isRestore x.1 = true) p env st

/-- The message is in quarantine and can be read, its verdict no longer blocks, and its provider is there. The call
makes seven operations: two that look the record up, the evaluation, the clock, two that claim the record, and the
restore. -/
structure Cleared (s : ReleaseService) (tenantID msg : String) (env : ℕ → Environment) (st : Store) : Prop where
  lookup : (env 0).storeError .caller = none
  claim : (env 4).storeError .caller = none
  verdict : ∃ v, (env 2).reevaluate tenantID msg = .ok v ∧ isStillBlocked v.tier s.minReleaseTier = false
  record : ∃ encHex enc, st (quarantineKey tenantID msg) = some encHex ∧ Hex.decode encHex = .ok enc ∧
    (∃ plain r, (env 1).decrypt tenantID enc = .ok plain ∧ s.quarantine.unmarshal plain = .ok r) ∧
    ∃ plain r, (env 5).decrypt tenantID enc = .ok plain ∧ s.quarantine.unmarshal plain = .ok r ∧
      s.quarantine.providers r.provider = true

section Release

variable {s : ReleaseService} {q : QuarantineService} {req : ReleaseRequest} {env : ℕ → Environment} {st : Store}

/-- No operation of the program is a restore. -/
abbrev Silent {α : Type} (p : ActionM α) : Prop := p.Every fun o => isRestore o = false

lemma not_silent_of_restore : ∀ x : (o : Op) × o.Ans, isRestore x.1 = true → ¬ isRestore x.1 = false := by
  intro x hx hsilent
  rw [hx] at hsilent
  cases hsilent

lemma Silent.not_restores {α : Type} {p : ActionM α} (h : Silent p) : ¬ RestoresAlone p env st :=
  Prog.not_performs_of_every not_silent_of_restore h

/-- What a silent program is followed by decides. -/
lemma Silent.restores_bind {α β : Type} {p : ActionM α} (h : Silent p) {f : α → ActionM β} :
    RestoresAlone (p >>= f) env st ↔
      RestoresAlone (f (p.eval exec env st).1) (p.eval exec env st).2.2 (p.eval exec env st).2.1 :=
  Prog.performs_bind_of_every not_silent_of_restore h

lemma silent_perform {o : Op} (h : isRestore o = false) : Silent (Prog.perform o) := Prog.every_perform h

lemma silent_decodeReference (tenant encHex : String) : Silent (q.decodeReference tenant encHex) :=
  every_decodeReference (fun _ _ => rfl) tenant encHex

lemma silent_lookupReference (tenant msg : String) : Silent (q.lookupReference tenant msg) :=
  every_lookupReference (fun _ => rfl) (fun _ _ => rfl) tenant msg

lemma silent_claimReference (tenant msg : String) : Silent (q.claimReference tenant msg) := by
  refine Prog.Every.bind (silent_perform rfl) fun a => ?_
  split
  · exact Prog.every_pure _
  · exact Prog.every_pure _
  · refine Prog.Every.bind (silent_decodeReference _ _) fun a => ?_
    split
    · refine Prog.Every.bind (silent_perform rfl) fun a => ?_
      split <;> exact Prog.every_pure _
    · exact Prog.every_pure _

lemma silent_restoreReference (tenant msg : String) (record : QuarantineRecord) :
    Silent (q.restoreReference tenant msg record) := by
  refine Prog.Every.bind (silent_perform rfl) fun a => ?_
  split
  · exact Prog.every_pure _
  · refine Prog.Every.bind (silent_perform rfl) fun a => ?_
    split <;> exact Prog.every_pure _

lemma silent_finish (o : ReleaseOutcome) : Silent (s.finish req o) := every_finish (fun _ _ _ => rfl) s req o

lemma restores_restoreClaimed {o : ReleaseOutcome} {record : QuarantineRecord} :
    RestoresAlone (s.restoreClaimed req o record) env st ↔ s.quarantine.providers record.provider = true := by
  unfold ReleaseService.restoreClaimed
  dsimp only
  split
  · next hprovider =>
    refine iff_of_false (Silent.not_restores ?_) hprovider
    exact Prog.Every.bind (silent_restoreReference _ _ record) fun _ => Prog.every_pure _
  · next hprovider =>
    refine iff_of_true ?_ (not_not.mp hprovider)
    exact Prog.performs_bind.mpr (.inl (Prog.performs_perform.mpr rfl))

lemma restores_claimAndRestore {o : ReleaseOutcome} : RestoresAlone (s.claimAndRestore req o) env st ↔
    ∃ record, ((s.quarantine.claimReference req.tenantID req.pseudonymizedMessage).eval exec env st).1 =
      .ok (some record) ∧ s.quarantine.providers record.provider = true := by
  unfold ReleaseService.claimAndRestore
  rw [(silent_claimReference _ _).restores_bind]
  generalize (s.quarantine.claimReference req.tenantID req.pseudonymizedMessage).eval exec env st = x
  rcases x with ⟨_ | _ | record, st', env'⟩
  · exact iff_of_false (Prog.not_performs_ret _) (by rintro ⟨_, h, -⟩; cases h)
  · exact iff_of_false (silent_finish _).not_restores (by rintro ⟨_, h, -⟩; cases h)
  · refine restores_restoreClaimed.trans ?_
    constructor
    · intro h
      exact ⟨record, rfl, h⟩
    · rintro ⟨record', hrecord, h⟩
      cases hrecord
      exact h

lemma restores_reevaluateFound {record : QuarantineRecord} : RestoresAlone (s.reevaluateFound req record) env st ↔
    (∃ v, (env 0).reevaluate req.tenantID req.pseudonymizedMessage = .ok v ∧
      isStillBlocked v.tier s.minReleaseTier = false) ∧
    ∃ r, ((s.quarantine.claimReference req.tenantID req.pseudonymizedMessage).eval exec (fun n => env (n + 2)) st).1 =
      .ok (some r) ∧ s.quarantine.providers r.provider = true := by
  unfold ReleaseService.reevaluateFound
  rw [ActionM.reevaluate, (silent_perform rfl).restores_bind, Prog.eval_perform]
  simp only [exec]
  cases (env 0).reevaluate req.tenantID req.pseudonymizedMessage with
  | error err => exact iff_of_false (Prog.not_performs_ret _) (by rintro ⟨⟨_, h, -⟩, -⟩; cases h)
  | ok v =>
    simp only
    rw [ActionM.now, (silent_perform rfl).restores_bind, Prog.eval_perform]
    cases hblocked : isStillBlocked v.tier s.minReleaseTier with
    | true =>
      refine iff_of_false (silent_finish _).not_restores ?_
      rintro ⟨⟨v', hv, hclear⟩, -⟩
      cases hv
      rw [hblocked] at hclear
      cases hclear
    | false =>
      refine restores_claimAndRestore.trans ?_
      exact ⟨fun h => ⟨⟨v, rfl, hblocked⟩, h⟩, fun h => h.2⟩

/-- What a claim finds. -/
lemma claimReference_found_iff {tenant msg : String} {record : QuarantineRecord} :
    ((q.claimReference tenant msg).eval exec env st).1 = .ok (some record) ↔
      (env 0).storeError .caller = none ∧ ∃ encHex enc plain, st (quarantineKey tenant msg) = some encHex ∧
        Hex.decode encHex = .ok enc ∧ (env 1).decrypt tenant enc = .ok plain ∧ q.unmarshal plain = .ok record := by
  constructor
  · intro h
    rcases heval : (q.claimReference tenant msg).eval exec env st with ⟨a, st', env'⟩
    rw [heval] at h
    obtain rfl : a = .ok (some record) := h
    obtain ⟨hstore, encHex, hst, hdecode⟩ := eval_claimReference_iff.mp heval
    obtain ⟨⟨enc, plain, henc, hplain, hrecord⟩, -⟩ := eval_decodeReference_iff.mp hdecode
    exact ⟨hstore, encHex, enc, plain, hst, henc, hplain, hrecord⟩
  · rintro ⟨hstore, encHex, enc, plain, hst, henc, hplain, hrecord⟩
    rw [eval_claimReference_iff.mpr ⟨hstore, encHex, hst,
      eval_decodeReference_iff.mpr ⟨⟨enc, plain, henc, hplain, hrecord⟩, rfl, rfl⟩⟩]

/-- **When a release restores.** -/
theorem release_restores_iff (htenant : req.tenantID ≠ "") (hmsg : req.pseudonymizedMessage ≠ "") :
    RestoresAlone (s.release req) env st ↔ Cleared s req.tenantID req.pseudonymizedMessage env st := by
  unfold ReleaseService.release
  rw [if_neg (not_or.mpr ⟨htenant, hmsg⟩), (silent_lookupReference _ _).restores_bind]
  constructor
  · intro h
    rcases hlookup : (s.quarantine.lookupReference req.tenantID req.pseudonymizedMessage).eval exec env st with
      ⟨_ | _ | record, st', env'⟩
    · rw [hlookup] at h
      exact absurd h (Prog.not_performs_ret _)
    · rw [hlookup] at h
      refine absurd h (Silent.not_restores ?_)
      exact Prog.Every.bind (silent_perform rfl) fun _ => silent_finish _
    · rw [hlookup] at h
      obtain ⟨hstore, encHex, hst, hdecode⟩ := eval_lookupReference_iff.mp hlookup
      obtain ⟨⟨enc, plain, henc, hplain, hrecord⟩, rfl, rfl⟩ := eval_decodeReference_iff.mp hdecode
      obtain ⟨hverdict, r, hclaim, hprovider⟩ := restores_reevaluateFound.mp h
      obtain ⟨hstore', encHex', enc', plain', hst', henc', hplain', hrecord'⟩ := claimReference_found_iff.mp hclaim
      obtain rfl := Option.some.inj (hst.symm.trans hst')
      obtain rfl := Except.ok.inj (henc.symm.trans henc')
      exact ⟨hstore, hstore', hverdict, encHex, enc, hst, henc, ⟨plain, record, hplain, hrecord⟩, plain', r, hplain',
        hrecord', hprovider⟩
  · rintro ⟨hstore, hstore', hverdict, encHex, enc, hst, henc, ⟨plain, record, hplain, hrecord⟩, plain', r, hplain',
      hrecord', hprovider⟩
    rw [eval_lookupReference_iff.mpr ⟨hstore, encHex, hst,
      eval_decodeReference_iff.mpr ⟨⟨enc, plain, henc, hplain, hrecord⟩, rfl, rfl⟩⟩]
    exact restores_reevaluateFound.mpr ⟨hverdict, r,
      claimReference_found_iff.mpr ⟨hstore', encHex, enc, plain', hst, henc, hplain', hrecord'⟩, hprovider⟩

/-- A restore that has succeeded. -/
def isRestored : (o : Op) × o.Ans → Prop
  | ⟨.restoreFromQuarantine _ _ _ _ _, (_, err)⟩ => err = none
  | _ => False

lemma isRestore_of_restored : ∀ x, isRestored x → isRestore x.1 = true := by
  rintro ⟨o, a⟩ h
  cases o <;> first | rfl | cases h

lemma not_silent_of_restored (x : (o : Op) × o.Ans) (h : isRestored x) : ¬ isRestore x.1 = false :=
  not_silent_of_restore x (isRestore_of_restored x h)

lemma Silent.not_restored {α : Type} {p : ActionM α} (h : Silent p) : ¬ Prog.Performs exec isRestored p env st :=
  Prog.not_performs_of_every not_silent_of_restored h

/-- The call returns that the release was allowed. -/
def IsAllowed (r : ReleaseOutcome × Option ReleaseError) : Prop := r.2 = none ∧ r.1.reason = some .allowed

lemma eval_finish (o : ReleaseOutcome) : ((s.finish req o).eval exec env st).1 = (o, none) := by
  unfold ReleaseService.finish
  rw [Prog.eval_bind]
  rfl

lemma restored_restoreClaimed {o : ReleaseOutcome} {record : QuarantineRecord}
    (h : Prog.Performs exec isRestored (s.restoreClaimed req o record) env st) :
    IsAllowed ((s.restoreClaimed req o record).eval exec env st).1 := by
  unfold ReleaseService.restoreClaimed at h ⊢
  dsimp only at h ⊢
  split at h
  · refine absurd h (Silent.not_restored ?_)
    exact Prog.Every.bind (silent_restoreReference _ _ record) fun _ => Prog.every_pure _
  · next hprovider =>
    rw [if_neg hprovider, Prog.eval_bind]
    have hrestore := (Prog.performs_bind.mp h).resolve_right (Silent.not_restored ?_)
    · rw [ActionM.restoreFromQuarantine, Prog.performs_perform] at hrestore
      rw [ActionM.restoreFromQuarantine, Prog.eval_perform]
      rcases hanswer : (exec (Op.restoreFromQuarantine record.provider record.email record.messageID record.labelID
        (if req.restoredBody = "" then defaultRestoredBody o.verdict else req.restoredBody)) (env 0) st).1 with ⟨id, err⟩
      rw [hanswer] at hrestore
      obtain rfl : err = none := hrestore
      simp only
      rw [eval_finish]
      exact ⟨rfl, rfl⟩
    · split
      · exact Prog.Every.bind (silent_restoreReference _ _ _) fun _ => Prog.every_pure _
      · exact silent_finish _

lemma restored_claimAndRestore {o : ReleaseOutcome}
    (h : Prog.Performs exec isRestored (s.claimAndRestore req o) env st) :
    IsAllowed ((s.claimAndRestore req o).eval exec env st).1 := by
  unfold ReleaseService.claimAndRestore at h ⊢
  rw [Prog.performs_bind_of_every not_silent_of_restored (silent_claimReference _ _)] at h
  rw [Prog.eval_bind]
  revert h
  generalize (s.quarantine.claimReference req.tenantID req.pseudonymizedMessage).eval exec env st = x
  intro h
  rcases x with ⟨_ | _ | record, st', env'⟩
  · exact absurd h (Prog.not_performs_ret _)
  · exact absurd h (silent_finish _).not_restored
  · exact restored_restoreClaimed h

lemma restored_reevaluateFound {record : QuarantineRecord}
    (h : Prog.Performs exec isRestored (s.reevaluateFound req record) env st) :
    IsAllowed ((s.reevaluateFound req record).eval exec env st).1 := by
  unfold ReleaseService.reevaluateFound at h ⊢
  rw [ActionM.reevaluate, Prog.performs_bind_of_every not_silent_of_restored (silent_perform rfl)] at h
  rw [ActionM.reevaluate, Prog.eval_bind]
  revert h
  generalize (Prog.perform (Op.reevaluate req.tenantID req.pseudonymizedMessage) : ActionM _).eval exec env st = x
  intro h
  rcases x with ⟨_ | v, st', env'⟩
  · exact absurd h (Prog.not_performs_ret _)
  · simp only at h ⊢
    rw [ActionM.now, Prog.performs_bind_of_every not_silent_of_restored (silent_perform rfl)] at h
    rw [ActionM.now, Prog.eval_bind]
    split at h
    · exact absurd h (silent_finish _).not_restored
    · next hblocked =>
      rw [if_neg hblocked]
      exact restored_claimAndRestore h

/-- **A restore that succeeds** is the last thing but the event: the call returns that it was allowed. -/
lemma release_restored (h : Prog.Performs exec isRestored (s.release req) env st) :
    IsAllowed ((s.release req).eval exec env st).1 := by
  unfold ReleaseService.release at h ⊢
  split at h
  · exact absurd h (Prog.not_performs_ret _)
  · next hids =>
    rw [if_neg hids, Prog.eval_bind]
    rw [Prog.performs_bind_of_every not_silent_of_restored (silent_lookupReference _ _)] at h
    revert h
    generalize (s.quarantine.lookupReference req.tenantID req.pseudonymizedMessage).eval exec env st = x
    intro h
    rcases x with ⟨_ | _ | record, st', env'⟩
    · exact absurd h (Prog.not_performs_ret _)
    · refine absurd h (Silent.not_restored ?_)
      exact Prog.Every.bind (silent_perform rfl) fun _ => silent_finish _
    · exact restored_reevaluateFound h

end Release

/-! ### Self-service -/

/-- A restore, among all operations of the endpoint. -/
def isHandlerRestore : HandlerOp → Bool
  | .inl o => isRestore o
  | .inr _ => false

/-- The endpoint asks the provider to restore a message. -/
def Restores {α : Type} (p : HandlerM α) (env : ℕ → HandlerEnv) (w : HandlerWorld) : Prop :=
  Prog.Performs handlerExec (fun x => isHandlerRestore x.1 = true) p env w

/-- The policy of the self-release service: the record does not carry the second tier's verdict, and the recipient has
attempts left in the hour. -/
structure PassedPolicy (s : ReleaseService) (req : Request) (env : ℕ → HandlerEnv) (w : HandlerWorld) : Prop where
  tier2 : ∃ record, ((s.quarantine.lookupReference req.tenantID req.pseudoMessageID).eval exec
    (fun n => (env (n + 1)).1) w.1).1 = .ok (some record) ∧ record.tier2Malicious = false
  cap : w.2.entries.countP (AuditEntry.counts req.tenantID req.recipientUserHash
    ((env 0).2.audit.now - 3600 * GoTime.second)) < w.2.cap req.tenantID

section SelfService

variable {s : ReleaseService} {req : Request} {env : ℕ → HandlerEnv} {w : HandlerWorld}

lemma restores_inl {α : Type} {p : ActionM α} : Restores p.inl env w ↔ RestoresAlone p (fun n => (env n).1) w.1 :=
  Prog.performs_inl

/-- No operation of the program is a restore. -/
abbrev Quiet {α : Type} (p : HandlerM α) : Prop := p.Every fun o => isHandlerRestore o = false

lemma not_quiet_of_restore :
    ∀ x : (o : HandlerOp) × HandlerAns o, isHandlerRestore x.1 = true → ¬ isHandlerRestore x.1 = false := by
  intro x hx hquiet
  rw [hx] at hquiet
  cases hquiet

lemma Quiet.not_restores {α : Type} {p : HandlerM α} (h : Quiet p) : ¬ Restores p env w :=
  Prog.not_performs_of_every not_quiet_of_restore h

lemma Quiet.restores_bind {α β : Type} {p : HandlerM α} (h : Quiet p) {f : α → HandlerM β} :
    Restores (p >>= f) env w ↔
      Restores (f (p.eval handlerExec env w).1) (p.eval handlerExec env w).2.2 (p.eval handlerExec env w).2.1 :=
  Prog.performs_bind_of_every not_quiet_of_restore h

lemma quiet_audit (o : ReleaseOp) : Quiet (HandlerM.audit o) := Prog.every_perform rfl

lemma quiet_withTenant (tenantID : String) : Quiet (HandlerM.withTenant tenantID) := Prog.every_perform rfl

lemma Silent.inl {α : Type} {p : ActionM α} (h : Silent p) : Quiet (p.inl : HandlerM α) :=
  Prog.Every.inl (fun _ ho => ho) h

lemma quiet_auditedWithRestored (requestedAt : ℤ) (outcome : QuarantineReleaseOutcome) (reason : String)
    (restored : Bool) : Quiet ((selfReleaseService s).auditedWithRestored req requestedAt outcome reason restored) := by
  refine Prog.Every.bind (quiet_audit _) fun a => ?_
  cases a <;> exact Prog.every_pure _

lemma quiet_audited (requestedAt : ℤ) (outcome : QuarantineReleaseOutcome) (reason : String) :
    Quiet ((selfReleaseService s).audited req requestedAt outcome reason) :=
  quiet_auditedWithRestored requestedAt outcome reason false

/-- What is returned after an audit row was written. -/
lemma quiet_audited_map (requestedAt : ℤ) (outcome : QuarantineReleaseOutcome) (reason : String) :
    Quiet (do return (.ok (← (selfReleaseService s).audited req requestedAt outcome reason) : Except String Result)) :=
  Prog.Every.bind (quiet_audited requestedAt outcome reason) fun _ => Prog.every_pure _

/-- What the services of the operators return and leave behind. -/
lemma eval_service {α : Type} (p : ActionM α) (env : ℕ → HandlerEnv) (w : HandlerWorld) :
    ∃ k, (p.inl : HandlerM α).eval handlerExec env w =
      ((p.eval exec (fun n => (env n).1) w.1).1, ((p.eval exec (fun n => (env n).1) w.1).2.1, w.2),
        fun n => env (n + k)) := Prog.eval_inl p env w

lemma eval_audit (o : ReleaseOp) : (HandlerM.audit o).eval handlerExec env w =
    ((o.exec (env 0).2.audit w.2).1, (w.1, (o.exec (env 0).2.audit w.2).2), fun n => env (n + 1)) := rfl

/-- What a policy that was read says. -/
lemma policy_answer {e : ReleaseEnv} {u : ReleaseWorld} {tenantID : String} {policy : TenantReleasePolicy}
    (h : (ReleaseOp.exec (.policy tenantID) e u).1 = .ok policy) :
    policy.quarantineSelfReleasePerHour = u.cap tenantID := by
  simp only [ReleaseOp.exec] at h
  split at h
  · cases h
  · simp only [getPolicy] at h
    split at h
    · cases h
    · cases h
      rfl

/-- What a count that was read says. -/
lemma count_answer {e : ReleaseEnv} {u : ReleaseWorld} {tenantID : String} {hash : Bytes} {since : ℤ} {count : ℕ}
    (h : (ReleaseOp.exec (.countRecent tenantID hash since) e u).1 = .ok count) :
    count = u.entries.countP (AuditEntry.counts tenantID hash since) := by
  simp only [ReleaseOp.exec] at h
  split at h
  · cases h
  · simp only [countRecentByRecipient] at h
    split at h
    · cases h
    · split at h
      · cases h
      · cases h
        rfl

/-- Reading leaves the repositories as they are. -/
lemma exec_policy_world (e : ReleaseEnv) (u : ReleaseWorld) (tenantID : String) :
    (ReleaseOp.exec (.policy tenantID) e u).2 = u := by
  simp only [ReleaseOp.exec]
  split <;> rfl

/-- **Behind the cap**: a call that restores has attempts left. -/
lemma restores_rateLimited {requestedAt : ℤ}
    (h : Restores ((selfReleaseService s).rateLimited req requestedAt) env w) :
    w.2.entries.countP (AuditEntry.counts req.tenantID req.recipientUserHash (requestedAt - 3600 * GoTime.second)) <
      w.2.cap req.tenantID := by
  unfold Service.rateLimited at h
  rw [show (selfReleaseService s).policy req.tenantID = HandlerM.audit (.policy req.tenantID) from rfl,
    (quiet_audit _).restores_bind, eval_audit] at h
  simp only [exec_policy_world] at h
  split at h
  · exact absurd h (Prog.not_performs_ret _)
  · next policy hpolicy =>
    have hcap := policy_answer hpolicy
    split at h
    · exact absurd h (quiet_audited_map _ _ _).not_restores
    · rw [show (selfReleaseService s).countRecent req.tenantID req.recipientUserHash
          (requestedAt - (selfReleaseService s).rateWindow) =
            HandlerM.audit (.countRecent req.tenantID req.recipientUserHash (requestedAt - 3600 * GoTime.second)) from rfl,
        (quiet_audit _).restores_bind, eval_audit] at h
      simp only at h
      split at h
      · exact absurd h (Prog.not_performs_ret _)
      · next count hcount =>
        have hseen := count_answer hcount
        split at h
        · exact absurd h (quiet_audited_map _ _ _).not_restores
        · omega

/-- **What the policy has let pass.** A call of the self-release service that restores has passed both checks. -/
lemma selfRelease_restores (h : Restores ((selfReleaseService s).release req) env w) : PassedPolicy s req env w := by
  unfold Service.release at h
  split_ifs at h
  · exact absurd h (Prog.not_performs_ret _)
  · exact absurd h (Prog.not_performs_ret _)
  · exact absurd h (Prog.not_performs_ret _)
  · unfold Service.releaseChecked at h
    rw [show (selfReleaseService s).now = HandlerM.audit .now from rfl, (quiet_audit _).restores_bind, eval_audit,
      show (selfReleaseService s).lookupReference req.tenantID req.pseudoMessageID =
        (s.quarantine.lookupReference req.tenantID req.pseudoMessageID).inl from rfl,
      (silent_lookupReference _ _).inl.restores_bind] at h
    obtain ⟨k, hk⟩ := eval_service (s.quarantine.lookupReference req.tenantID req.pseudoMessageID)
      (fun n => env (n + 1)) w
    rw [show (w.1, (ReleaseOp.exec .now (env 0).2.audit w.2).2) = w from rfl, hk] at h
    simp only at h
    split at h
    · exact absurd h (Prog.not_performs_ret _)
    · exact absurd h (quiet_audited_map _ _ _).not_restores
    · next record hrecord =>
      split at h
      · exact absurd h (quiet_audited_map _ _ _).not_restores
      · next hmalicious =>
        have hcap := restores_rateLimited h
        exact ⟨⟨record, hrecord, by simpa using hmalicious⟩, hcap⟩

/-- A restore that has succeeded. -/
def isHandlerRestored : (o : HandlerOp) × HandlerAns o → Prop
  | ⟨.inl o, a⟩ => isRestored ⟨o, a⟩
  | ⟨.inr _, _⟩ => False

/-- The audit row of a release. -/
def isReleasedRow (req : Request) : (o : HandlerOp) × HandlerAns o → Prop
  | ⟨.inr (.audit (.record entry)), _⟩ => entry.outcome = .released ∧ entry.tenantID = req.tenantID ∧
      entry.pseudoMessageID = req.pseudoMessageID ∧ entry.recipientUserHash = req.recipientUserHash
  | _ => False

lemma not_quiet_of_restored (x : (o : HandlerOp) × HandlerAns o) (h : isHandlerRestored x) :
    ¬ isHandlerRestore x.1 = false := by
  obtain ⟨o | o, a⟩ := x
  · exact not_silent_of_restored ⟨o, a⟩ h
  · cases h

/-- A restore that succeeds has its row. -/
def RestoresRecorded {α : Type} (req : Request) (p : HandlerM α) (env : ℕ → HandlerEnv) (w : HandlerWorld) : Prop :=
  Prog.Performs handlerExec isHandlerRestored p env w → Prog.Performs handlerExec (isReleasedRow req) p env w

lemma Quiet.not_restored {α : Type} {p : HandlerM α} (h : Quiet p) :
    ¬ Prog.Performs handlerExec isHandlerRestored p env w :=
  Prog.not_performs_of_every not_quiet_of_restored h

lemma Quiet.recorded {α : Type} {p : HandlerM α} (h : Quiet p) : RestoresRecorded req p env w :=
  fun hrestored => absurd hrestored h.not_restored

lemma Quiet.recorded_bind {α β : Type} {p : HandlerM α} (h : Quiet p) {f : α → HandlerM β}
    (hf : ∀ a env w, RestoresRecorded req (f a) env w) : RestoresRecorded req (p >>= f) env w := by
  intro hrestored
  have hrest := (Prog.performs_bind_of_every not_quiet_of_restored h).mp hrestored
  exact Prog.performs_bind.mpr (.inr (hf _ _ _ hrest))

lemma RestoresRecorded.bind {α β : Type} {p : HandlerM α} (h : RestoresRecorded req p env w) {f : α → HandlerM β}
    (hf : ∀ a, Quiet (f a)) : RestoresRecorded req (p >>= f) env w := by
  intro hrestored
  rcases Prog.performs_bind.mp hrestored with hrestored | hrestored
  · exact Prog.performs_bind.mpr (.inl (h hrestored))
  · exact absurd hrestored (hf _).not_restored

lemma quiet_fromRunnerOutcome (requestedAt : ℤ) (outcome : ReleaseOutcome) :
    Quiet ((selfReleaseService s).fromRunnerOutcome req requestedAt outcome) := by
  unfold Service.fromRunnerOutcome
  split <;> exact quiet_auditedWithRestored _ _ _ _

/-- The release that is allowed writes its row. -/
lemma recorded_runRelease (requestedAt : ℤ) :
    RestoresRecorded req ((selfReleaseService s).runRelease req requestedAt) env w := by
  intro hrestored
  unfold Service.runRelease at hrestored ⊢
  set run : ReleaseRequest :=
    { tenantID := req.tenantID, pseudonymizedMessage := req.pseudoMessageID
      requestedBy := Hex.encode req.recipientUserHash, correlationID := req.correlationID } with hrun
  rw [show (selfReleaseService s).runner run = (s.release run).inl from rfl] at hrestored ⊢
  obtain ⟨k, hk⟩ := eval_service (s.release run) env w
  rcases Prog.performs_bind.mp hrestored with hrestored | hrestored
  · have hallowed := release_restored (Prog.performs_inl.mp hrestored)
    refine Prog.performs_bind.mpr (.inr ?_)
    rw [hk]
    rcases hr : ((s.release run).eval exec (fun n => (env n).1) w.1).1 with ⟨o, err⟩
    rw [hr] at hallowed
    obtain ⟨herr, hreason⟩ := hallowed
    obtain rfl : err = none := herr
    refine Prog.performs_bind.mpr (.inl ?_)
    unfold Service.fromRunnerOutcome
    rw [hreason]
    refine Prog.performs_bind.mpr (.inl ?_)
    exact Prog.performs_perform.mpr ⟨rfl, rfl, rfl, rfl⟩
  · refine absurd hrestored (Quiet.not_restored ?_)
    split
    · exact Prog.every_pure _
    · exact Prog.Every.bind (quiet_fromRunnerOutcome _ _) fun _ => Prog.every_pure _

lemma recorded_rateLimited (requestedAt : ℤ) :
    RestoresRecorded req ((selfReleaseService s).rateLimited req requestedAt) env w := by
  refine (quiet_audit _).recorded_bind fun policy env w => ?_
  split
  · exact Quiet.recorded (Prog.every_pure _)
  · split
    · exact (quiet_audited_map _ _ _).recorded
    · refine (quiet_audit _).recorded_bind fun count env w => ?_
      split
      · exact Quiet.recorded (Prog.every_pure _)
      · split
        · exact (quiet_audited_map _ _ _).recorded
        · exact recorded_runRelease requestedAt

/-- **Every restore is on record.** -/
lemma selfRelease_recorded : RestoresRecorded req ((selfReleaseService s).release req) env w := by
  unfold Service.release
  split_ifs
  · exact Quiet.recorded (Prog.every_pure _)
  · exact Quiet.recorded (Prog.every_pure _)
  · exact Quiet.recorded (Prog.every_pure _)
  · refine (quiet_audit _).recorded_bind fun requestedAt env w => ?_
    refine (silent_lookupReference _ _).inl.recorded_bind fun found env w => ?_
    split
    · exact Quiet.recorded (Prog.every_pure _)
    · exact (quiet_audited_map _ _ _).recorded
    · split
      · exact (quiet_audited_map _ _ _).recorded
      · exact recorded_rateLimited _

end SelfService

/-! ### The endpoint -/

section Endpoint

variable {h : QuarantineHandler} {claims : ActionClaims} {req : QuarantineReleaseRequest} {env : ℕ → HandlerEnv}
  {w : HandlerWorld}

lemma quiet_auditFailure (expired : Bool) (correlationID : String) :
    Quiet (h.auditFailure claims expired correlationID) := by
  refine Prog.Every.bind ?_ fun _ => Prog.every_pure _
  unfold Service.auditAuthFailure
  split
  · exact Prog.every_pure _
  · refine Prog.Every.bind (quiet_audit _) fun _ => Prog.Every.bind (quiet_audit _) fun a => ?_
    cases a <;> exact Prog.every_pure _

/-- A token that is not verified restores nothing. -/
lemma quiet_handleAuthFailure (f : ParseFailure) (correlationID : String) :
    Quiet (h.handleAuthFailure f correlationID) := by
  unfold QuarantineHandler.handleAuthFailure
  split
  · exact Prog.every_pure _
  · split_ifs
    · refine Prog.Every.bind (quiet_withTenant _) fun a => ?_
      split
      · exact Prog.every_pure _
      · exact Prog.Every.bind (quiet_auditFailure _ _) fun _ => Prog.every_pure _
    · exact Prog.Every.bind (quiet_auditFailure _ _) fun _ => Prog.every_pure _
    · exact Prog.every_pure _

/-- The operators' path. -/
lemma restores_serveOperatorRelease {correlationID : String} (htenant : claims.tenantID ≠ "")
    (hmsg : claims.pseudonymizedMessage ≠ "") :
    Restores (h.serveOperatorRelease claims req correlationID) env w ↔
      Cleared h.release claims.tenantID claims.pseudonymizedMessage (fun n => (env n).1) w.1 := by
  unfold QuarantineHandler.serveOperatorRelease Restores
  rw [Prog.performs_bind, or_iff_left]
  · exact restores_inl.trans (release_restores_iff htenant hmsg)
  · refine Quiet.not_restores ?_
    split <;> exact Prog.every_pure _

/-- The answer to a recipient. -/
lemma quiet_answer (a : Except String Result) : Quiet (match a with
    | .error _ => return ReleaseResponse.error 503 "release temporarily unavailable"
    | .ok res => return .selfRelease (selfReleaseStatus res.outcome) res.outcome.name res.restored) := by
  split <;> exact Prog.every_pure _

lemma recorded_serveSelfRelease {correlationID : String} {hash : Bytes}
    (hdecode : Hex.decode claims.recipientUserHash = .ok hash) :
    RestoresRecorded ⟨claims.tenantID, claims.pseudonymizedMessage, hash, correlationID⟩
      (h.serveSelfRelease claims correlationID) env w := by
  unfold QuarantineHandler.serveSelfRelease
  split
  · exact Quiet.recorded (Prog.every_pure _)
  · split
    · exact Quiet.recorded (Prog.every_pure _)
    · exact Quiet.recorded (Prog.every_pure _)
    · next hash' _ hdecode' =>
      obtain rfl := Except.ok.inj (hdecode.symm.trans hdecode')
      refine (quiet_withTenant _).recorded_bind fun bindErr env w => ?_
      split
      · exact Quiet.recorded (Prog.every_pure _)
      · exact selfRelease_recorded.bind quiet_answer

/-- The recipients' path: a call that restores has passed the policy. -/
lemma restores_serveSelfRelease {correlationID : String}
    (hrestores : Restores (h.serveSelfRelease claims correlationID) env w) :
    ∃ hash, Hex.decode claims.recipientUserHash = .ok hash ∧
      PassedPolicy h.release ⟨claims.tenantID, claims.pseudonymizedMessage, hash, correlationID⟩
        (fun n => env (n + 1)) w := by
  unfold QuarantineHandler.serveSelfRelease at hrestores
  split at hrestores
  · exact absurd hrestores (Prog.not_performs_ret _)
  · split at hrestores
    · exact absurd hrestores (Prog.not_performs_ret _)
    · exact absurd hrestores (Prog.not_performs_ret _)
    · next hash _ hdecode =>
      refine ⟨hash, hdecode, ?_⟩
      rw [(quiet_withTenant _).restores_bind] at hrestores
      split at hrestores
      · exact absurd hrestores (Prog.not_performs_ret _)
      · refine selfRelease_restores ((Prog.performs_bind.mp hrestores).resolve_right ?_)
        exact (quiet_answer _).not_restores

/-- **Every other token** that restores has passed the policy, and a restore that succeeds is on record. -/
lemma restores_dispatch {correlationID : String} (hscope : effectiveScope claims.scope ≠ scopeBannerAction)
    (hrestores : Restores (h.dispatch claims req correlationID) env w) :
    ∃ hash, Hex.decode claims.recipientUserHash = .ok hash ∧
      PassedPolicy h.release ⟨claims.tenantID, claims.pseudonymizedMessage, hash, correlationID⟩
        (fun n => env (n + 1)) w ∧
      RestoresRecorded ⟨claims.tenantID, claims.pseudonymizedMessage, hash, correlationID⟩
        (h.dispatch claims req correlationID) env w := by
  unfold QuarantineHandler.dispatch at hrestores ⊢
  split_ifs at hrestores with hids hself
  · exact absurd hrestores (Prog.not_performs_ret _)
  · rw [if_neg hids, if_pos hself]
    obtain ⟨hash, hdecode, hpassed⟩ := restores_serveSelfRelease hrestores
    exact ⟨hash, hdecode, hpassed, recorded_serveSelfRelease hdecode⟩
  · exact absurd hrestores (Prog.not_performs_ret _)

/-- Which path a token that was verified takes. -/
lemma serveHTTP_verified {now : ℤ} {r : ReleaseHTTPRequest} (hpost : r.method = "POST")
    (hreq : decodeReleaseRequest h.toLower r = .ok req) (htok : req.token ≠ "")
    (hverify : h.verifier.verifyDetail now req.token = .ok claims) :
    h.serveHTTP now r = h.dispatch claims req (GoStrings.trimSpace r.correlationID) := by
  simp [QuarantineHandler.serveHTTP, hpost, hreq, htok, hverify]

variable {a : VerdictActions} {issued : ℤ} {id tok : String} {res : EvaluateResult}

/-- The claims of the token of a banner. -/
lemma bannerToken_claims {i : JWTIssuer} (hissuer : a.jwtIssuer = some i)
    (htok : a.bannerToken issued id res = some tok) :
    res.tenantID ≠ "" ∧ res.messageID ≠ "" ∧
      i.sign (i.claimsFor issued id res.tenantID res.messageID (VerdictActions.bannerTokenOptions res)) = .ok tok := by
  rw [VerdictActions.bannerToken, hissuer, Option.bind_some] at htok
  cases hissue : i.issue issued id res.tenantID res.messageID (VerdictActions.bannerTokenOptions res) with
  | error err =>
    rw [hissue] at htok
    cases htok
  | ok tok' =>
    rw [hissue] at htok
    obtain rfl := Option.some.inj htok
    exact JWTIssuer.sign_of_issue hissue

/-- **What the token of a banner does** at the endpoint while it is valid. -/
lemma restores_bannerToken (hissuer : a.jwtIssuer = some h.verifier) (hsound : h.verifier.Sound)
    (htok : a.bannerToken issued id res = some tok) {now : ℤ} (hlo : issued - 60 ≤ now)
    (hhi : now < issued + h.verifier.ttl) {r : ReleaseHTTPRequest} (hpost : r.method = "POST")
    (hreq : decodeReleaseRequest h.toLower r = .ok req) (hpresented : req.token = tok) :
    Restores (h.serveHTTP now r) env w ↔
      Cleared h.release res.tenantID res.messageID (fun n => (env n).1) w.1 := by
  obtain ⟨htenant, hmsg, hsign⟩ := bannerToken_claims hissuer htok
  have hne : req.token ≠ "" := hpresented ▸ hsound.signed_ne hsign
  have hparse := hsound.parse _ tok now hsign rfl hlo hhi
  have hverify : h.verifier.verifyDetail now req.token = .ok
      (h.verifier.claimsFor issued id res.tenantID res.messageID (VerdictActions.bannerTokenOptions res)) := by
    rw [JWTIssuer.verifyDetail, if_neg hne, hpresented, hparse]
  rw [serveHTTP_verified hpost hreq hne hverify]
  have hscope : effectiveScope "" = scopeBannerAction := by decide
  have hself : scopeBannerAction ≠ scopeQuarantineRelease := by decide
  simp only [QuarantineHandler.dispatch, JWTIssuer.claimsFor, VerdictActions.bannerTokenOptions, hscope, hself,
    htenant, hmsg, or_self, if_false, if_true]
  exact restores_serveOperatorRelease htenant hmsg

/-- A token that is no longer valid, or not yet, restores nothing. -/
lemma not_restores_invalid (hissuer : a.jwtIssuer = some h.verifier) (hsound : h.verifier.Sound)
    (hstrict : h.verifier.Strict) (htok : a.bannerToken issued id res = some tok) {now : ℤ}
    (hvalid : ¬ (issued - 60 ≤ now ∧ now < issued + h.verifier.ttl)) {r : ReleaseHTTPRequest}
    (hpost : r.method = "POST") (hreq : decodeReleaseRequest h.toLower r = .ok req) (hpresented : req.token = tok) :
    ¬ Restores (h.serveHTTP now r) env w := by
  obtain ⟨-, -, hsign⟩ := bannerToken_claims hissuer htok
  have hne : req.token ≠ "" := hpresented ▸ hsound.signed_ne hsign
  have hout : now < issued - 60 ∨ issued + h.verifier.ttl ≤ now := by omega
  obtain ⟨f, hf⟩ := hstrict _ tok now hsign hout
  have hverify : h.verifier.verifyDetail now req.token = .error { f with err := "privacy/jwt: parse: " ++ f.err } := by
    rw [JWTIssuer.verifyDetail, if_neg hne, hpresented, hf]
  have hserve : h.serveHTTP now r =
      h.handleAuthFailure { f with err := "privacy/jwt: parse: " ++ f.err } (GoStrings.trimSpace r.correlationID) := by
    simp [QuarantineHandler.serveHTTP, hpost, hreq, hne, hverify]
  rw [hserve]
  exact (quiet_handleAuthFailure _ _).not_restores

/-- **When the token of a banner releases a message.** A token that `handleIngestionAction` issues restores nothing
exactly if it is not posted, is not valid then, or the message is not to be released anyway; no second tier, cap or
audit row stands in its way. Every other token that restores has passed the policy. -/
theorem banner_token_releases_iff (hissuer : a.jwtIssuer = some h.verifier) (hsound : h.verifier.Sound)
    (hstrict : h.verifier.Strict) (htok : a.bannerToken issued id res = some tok) (now : ℤ) {r : ReleaseHTTPRequest}
    (hreq : decodeReleaseRequest h.toLower r = .ok req) (hpresented : req.token = tok) (env : ℕ → HandlerEnv)
    (w : HandlerWorld) :
    (¬ Restores (h.serveHTTP now r) env w ↔
      ¬ (r.method = "POST" ∧ issued - 60 ≤ now ∧ now < issued + h.verifier.ttl ∧
        Cleared h.release res.tenantID res.messageID (fun n => (env n).1) w.1)) ∧
    ∀ (r' : ReleaseHTTPRequest) (req' : QuarantineReleaseRequest) (claims : ActionClaims),
      decodeReleaseRequest h.toLower r' = .ok req' → h.verifier.verifyDetail now req'.token = .ok claims →
      effectiveScope claims.scope ≠ scopeBannerAction → Restores (h.serveHTTP now r') env w →
      ∃ hash, Hex.decode claims.recipientUserHash = .ok hash ∧
        PassedPolicy h.release ⟨claims.tenantID, claims.pseudonymizedMessage, hash,
          GoStrings.trimSpace r'.correlationID⟩ (fun n => env (n + 1)) w ∧
        RestoresRecorded ⟨claims.tenantID, claims.pseudonymizedMessage, hash, GoStrings.trimSpace r'.correlationID⟩
          (h.serveHTTP now r') env w := by
  refine ⟨not_congr ?_, ?_⟩
  · by_cases hpost : r.method = "POST"
    · by_cases hvalid : issued - 60 ≤ now ∧ now < issued + h.verifier.ttl
      · rw [restores_bannerToken hissuer hsound htok hvalid.1 hvalid.2 hpost hreq hpresented]
        exact ⟨fun hcleared => ⟨hpost, hvalid.1, hvalid.2, hcleared⟩, fun hall => hall.2.2.2⟩
      · refine iff_of_false ?_ fun hall => hvalid ⟨hall.2.1, hall.2.2.1⟩
        exact not_restores_invalid hissuer hsound hstrict htok hvalid hpost hreq hpresented
    · refine iff_of_false ?_ fun hall => hpost hall.1
      rw [QuarantineHandler.serveHTTP, if_pos hpost]
      exact Prog.not_performs_ret _
  · intro r' req' claims hreq' hverify hscope hrestores
    by_cases hpost : r'.method = "POST"
    · by_cases hne : req'.token = ""
      · rw [JWTIssuer.verifyDetail, if_pos hne] at hverify
        cases hverify
      · rw [serveHTTP_verified hpost hreq' hne hverify] at hrestores ⊢
        exact restores_dispatch hscope hrestores
    · rw [QuarantineHandler.serveHTTP, if_pos hpost] at hrestores
      exact absurd hrestores (Prog.not_performs_ret _)

end Endpoint

section Samples

/-- A phish that the second tier has found malicious. -/
def phishRecord : QuarantineRecord :=
  { provider := .gmail, email := "bob@acme.test", messageID := "m", tenant := "acme", labelID := "q"
    originalTier := some .blocked, primary := some .likelyPhishing, quarantineAt := 0, tier2Malicious := true }

def phishHandler : QuarantineHandler :=
  { verifier := plainIssuer, release := newReleaseService (serviceOf phishRecord) false "" none }

def phishActions : VerdictActions := { jwtIssuer := some plainIssuer }

def phishResult : EvaluateResult :=
  { messageID := "m", tenantID := "acme", tier := some .blocked, primary := some .likelyPhishing }

/-- The token of its banner. -/
def phishToken : String := (phishActions.bannerToken 0 "j" phishResult).getD ""

def phishRequest : ReleaseHTTPRequest :=
  { method := "POST", body := { json := some (.obj [("token", .str phishToken)]) } }

/-- The record is stored, by an encryptor that passes the text through. -/
def phishWorld : HandlerWorld :=
  (fun key => if key = quarantineKey "acme" "m" then some (Hex.encode (recordJson phishRecord)) else none, {})

/-- Nothing fails, and the latest verdict no longer blocks. -/
def phishEnv : ℕ → HandlerEnv := fun _ =>
  ({ encrypt := fun _ bs => .ok bs, decrypt := fun _ bs => .ok bs
     reevaluate := fun _ _ => .ok { tier := some .caution } }, {})

lemma phishToken_signed : plainIssuer.sign (plainIssuer.claimsFor 0 "j" "acme" "m"
    (VerdictActions.bannerTokenOptions phishResult)) = .ok phishToken := rfl

lemma phishRequest_decodes :
    decodeReleaseRequest phishHandler.toLower phishRequest = .ok { token := phishToken } := by
  have htype : mediaType id "" ≠ "application/x-www-form-urlencoded" := by decide
  have hdecode : ∀ tok, decReleaseRequest {} (.obj [("token", .str tok)]) = some { token := tok } := by
    intro tok
    have hby : Json.foldName "token" ≠ Json.foldName "requested_by" := by decide
    have hbody : Json.foldName "token" ≠ Json.foldName "restored_body" := by decide
    simp [decReleaseRequest, Json.decStrict, Json.decStruct, Json.field, Json.decString, hby, hbody]
  rw [decodeReleaseRequest, show phishHandler.toLower = id from rfl, show phishRequest.contentType = "" from rfl,
    if_neg htype, show phishRequest.body.json = some (.obj [("token", .str phishToken)]) from rfl, Option.bind_some,
    hdecode]
  simp only [trimSpace_plainIssuer phishToken_signed]

lemma phish_cleared : Cleared phishHandler.release "acme" "m" (fun n => (phishEnv n).1) phishWorld.1 where
  lookup := rfl
  claim := rfl
  verdict := ⟨_, rfl, rfl⟩
  record := ⟨Hex.encode (recordJson phishRecord), recordJson phishRecord, rfl, Hex.decode_encode _,
    ⟨_, phishRecord, rfl, serviceOf_unmarshal _⟩, _, phishRecord, rfl, serviceOf_unmarshal _, rfl⟩

/-- **The failing input**: the token of the banner restores the message; the policy of self-service would have refused
it. -/
theorem phish_banner_token_restores :
    phishActions.bannerToken 0 "j" phishResult = some phishToken ∧
    Restores (phishHandler.serveHTTP 1 phishRequest) phishEnv phishWorld ∧
    phishRecord.tier2Malicious = true := by
  have htok : phishActions.bannerToken 0 "j" phishResult = some phishToken := rfl
  refine ⟨htok, ?_, rfl⟩
  have hhi : (1 : ℤ) < 0 + plainIssuer.ttl := by decide
  refine (restores_bannerToken rfl plainIssuer_sound htok (by decide) hhi rfl phishRequest_decodes ?_).mpr
    phish_cleared
  rfl

theorem phish_banner_token_expires :
    Restores (phishHandler.serveHTTP 1 phishRequest) phishEnv phishWorld ∧
    ¬ Restores (phishHandler.serveHTTP (8 * 24 * 3600) phishRequest) phishEnv phishWorld := by
  have htok : phishActions.bannerToken 0 "j" phishResult = some phishToken := rfl
  have hiff := fun now => (banner_token_releases_iff (h := phishHandler) rfl plainIssuer_sound plainIssuer_strict htok now
    phishRequest_decodes rfl phishEnv phishWorld).1
  constructor
  · refine not_not.mp (mt (hiff 1).mp (not_not.mpr ⟨rfl, by decide, ?_, phish_cleared⟩))
    show (1 : ℤ) < 0 + 7 * 24 * 3600
    omega
  · refine (hiff (8 * 24 * 3600)).mpr ?_
    rintro ⟨-, -, hhi, -⟩
    change (8 * 24 * 3600 : ℤ) < 0 + 7 * 24 * 3600 at hhi
    omega

end Samples

end Sn360Es.Handler
