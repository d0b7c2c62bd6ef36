import Sn360Es.Action.Quarantine
import Sn360Es.Action.VerdictActions
import Sn360Es.Lib.Performs

/-!
# From a Blocked verdict to the quarantine (`cmd/sn360-es/consumers_action.go`, `pkg/events/nats/consumer.go`)

The verdict passes two consumers: `handleIngestionAction` publishes `es.action.quarantine`, and `handleActionQuarantine`
moves the message. The broker delivers an event again while the handler returns an error and deliveries are left, and
then writes it to the dead letters.

Both handlers log what fails and return no error, so each event is delivered once.

* `deliver` — the deliveries of one event;
* `quarantine_ok_iff` — when `Quarantine` returns no error;
* `blocked_settled_iff` — when a Blocked message is moved or an event of it is a dead letter, and no handler reports
  success for what has failed.
-/

namespace Sn360Es.Action

open Lib

/-! ### The broker -/

/-- The deliveries of one event: the runs of its handler, by their number, with what each has returned, and the state
after them. `left` is how many deliveries there are after this one. -/
def deliver {σ : Type} (handler : ℕ → σ → Option String × σ) : (left n : ℕ) → σ → List (ℕ × Option String) × σ
  | 0, n, s => ([(n, (handler n s).1)], (handler n s).2)
  | left + 1, n, s =>
    match handler n s with
    | (none, s') => ([(n, none)], s')
    | (some err, s') =>
      let r := deliver handler left (n + 1) s'
      ((n, some err) :: r.1, r.2)

/-- The event is a dead letter: its last delivery has failed. -/
def DeadLettered (runs : List (ℕ × Option String)) : Prop := ∃ n err, runs.getLast? = some (n, some err)

/-- A handler that returns no error has one delivery. -/
lemma deliver_of_ok {σ : Type} {handler : ℕ → σ → Option String × σ} {n : ℕ} {s : σ} (left : ℕ)
    (h : (handler n s).1 = none) : deliver handler left n s = ([(n, none)], (handler n s).2) := by
  cases left with
  | zero => rw [deliver, h]
  | succ left =>
    rw [deliver]
    split
    · next s' heq => rw [heq]
    · next err s' heq =>
      rw [heq] at h
      cases h

/-! ### The handlers -/

/-- What the two consumers have of the application. -/
structure BlockedApp where
  verdicts : VerdictActions
  quarantineSvc : Option QuarantineService
  /-- The kind of the provider that is registered for a tenant. -/
  resolveKind : String → Option LabelProviderKind

namespace BlockedApp

variable (a : BlockedApp)

/-- The call of `Quarantine` in `handleActionQuarantine`, where it is made. -/
def callQuarantine : Option ActionSignal → ActionM (Option (Option QuarantineRecord × Option String))
  | some (.quarantine tenantID messageID _ tier primary _ email tier2Malicious) =>
    match a.quarantineSvc, a.resolveKind tenantID with
    | some q, some kind => do
      if tenantID = "" ∨ messageID = "" ∨ email = "" then return none
      else if tier ≠ some .blocked then return none
      else
        return some (← q.quarantine
          { tenant := tenantID, pseudonymizedMessage := messageID, provider := kind, email, messageID, tier, primary
            tier2Malicious })
    | _, _ => return none
  | _ => return none

/-- `handleActionQuarantine`; a payload that does not decode is `none`. -/
def handleActionQuarantine (sig : Option ActionSignal) : ActionM (Option String) := do
  let _ ← a.callQuarantine sig
  return none

end BlockedApp

/-- What the deliveries meet: the errors of the publishes at each delivery of the verdict, and the world at each
delivery of the quarantine event. -/
structure DeliveryPattern where
  now : ℕ → ℤ
  id : ℕ → String
  publishError : ℕ → ActionSignal → Option String
  env : ℕ → ℕ → Environment
  /-- How many deliveries there are after the first. -/
  left : ℕ

namespace BlockedApp

variable (a : BlockedApp) (pat : DeliveryPattern) (res : EvaluateResult)

/-- What `handleIngestionAction` publishes at a delivery. -/
def published (n : ℕ) : List ActionSignal :=
  (a.verdicts.handleIngestionAction (pat.now n) (pat.id n) (some res)).filter fun sig => (pat.publishError n sig).isNone

/-- The deliveries of the verdict, and the events that they leave in the action stream. -/
def deliverVerdict : List (ℕ × Option String) × List ActionSignal :=
  deliver (fun n stream => (none, stream ++ a.published pat res n)) pat.left 1 []

/-- The deliveries of an event of the action stream. -/
def deliverQuarantine (sig : ActionSignal) (st : Store) : List (ℕ × Option String) × Store :=
  deliver (fun n st =>
    let r := (a.handleActionQuarantine (some sig)).eval exec (pat.env n) st
    (r.1, r.2.1)) pat.left 1 st

end BlockedApp

/-- The signal that asks for the quarantine. -/
def quarantineSignalOf (res : EvaluateResult) : ActionSignal :=
  .quarantine res.tenantID res.messageID res.correlationID res.tier res.primary res.score res.recipient
    (res.tier2.any Tier2Outcome.isMalicious)

/-- The message was moved: it has a new id, or the move had no error. -/
def Moves : (o : Op) × o.Ans → Prop
  | ⟨.moveToQuarantine .., ans⟩ => ¬ (ans.1 = "" ∧ ans.2.isSome)
  | _ => False

/-- The message of a Blocked result ends up quarantined, or one of the two events is a dead letter. -/
def BlockedApp.Settles (a : BlockedApp) (pat : DeliveryPattern) (res : EvaluateResult) (st : Store) : Prop :=
  DeadLettered (a.deliverVerdict pat res).1 ∨
  ∃ sig ∈ (a.deliverVerdict pat res).2, sig = quarantineSignalOf res ∧
    (DeadLettered (a.deliverQuarantine pat sig st).1 ∨
      ∃ run ∈ (a.deliverQuarantine pat sig st).1,
        Prog.Performs exec Moves (a.handleActionQuarantine (some sig)) (pat.env run.1) st)

/-- No handler reports success for an event whose effect has failed: the verdict that is acknowledged was handed on, and
`Quarantine` was called and has returned no error. -/
structure BlockedApp.Truthful (a : BlockedApp) (pat : DeliveryPattern) (res : EvaluateResult) (st : Store) : Prop where
  verdict : ∀ run ∈ (a.deliverVerdict pat res).1, run.2 = none → quarantineSignalOf res ∈ a.published pat res run.1
  quarantine : ∀ sig ∈ (a.deliverVerdict pat res).2, sig = quarantineSignalOf res →
    ∀ run ∈ (a.deliverQuarantine pat sig st).1, run.2 = none →
      ∃ record, ((a.callQuarantine (some sig)).eval exec (pat.env run.1) st).1 = some (record, none)

/-! ### When `Quarantine` succeeds -/

/-- The record that `recordMoved` stores. -/
def movedRecord (req : QuarantineRequest) (labelID newMessageID : String) (now : ℤ) : QuarantineRecord :=
  { provider := req.provider, email := req.email
    messageID := if newMessageID = "" then req.messageID else newMessageID
    tenant := req.tenant, labelID, originalTier := req.tier, primary := req.primary
    quarantineAt := now, tier2Malicious := req.tier2Malicious }

/-- The world lets every step of `Quarantine` succeed. -/
structure QuarantineSucceeds (q : QuarantineService) (req : QuarantineRequest) (env : ℕ → Environment) : Prop where
  provider : q.providers req.provider = true
  moved : ∃ labelID newMessageID enc, (env 0).ensureQuarantineLabel req.provider req.email = .ok labelID ∧
    (env 1).moveToQuarantine req.provider req.email req.messageID labelID quarantineStubBody = (newMessageID, none) ∧
    (env 3).encrypt req.tenant (q.marshal (movedRecord req labelID newMessageID (env 2).now)) = .ok enc
  stored : (env 4).storeError .caller = none

section Service

variable {q : QuarantineService} {req : QuarantineRequest} {env : ℕ → Environment} {st : Store}

lemma eval_persist_error (q : QuarantineService) (env : ℕ → Environment) (st : Store) (tenant msg : String)
    (record : QuarantineRecord) :
    ((q.persist tenant msg record).eval exec env st).1 = none ↔
      (∃ enc, (env 0).encrypt tenant (q.marshal record) = .ok enc) ∧ (env 1).storeError .caller = none := by
  constructor
  · intro h
    obtain ⟨enc, henc, hstored, -, -⟩ := eval_persist_iff.mp
      (show (q.persist tenant msg record).eval exec env st = (none, _, _) by rw [← h])
    exact ⟨⟨enc, henc⟩, hstored⟩
  · rintro ⟨⟨enc, henc⟩, hstored⟩
    rw [eval_persist_iff.mpr ⟨enc, henc, hstored, rfl, rfl⟩]

lemma recordMoved_ok_iff {labelID newMessageID : String} {moveErr : Option String} :
    ((q.recordMoved req labelID newMessageID moveErr).eval exec env st).1.2 = none ↔
      moveErr = none ∧ (∃ enc, (env 1).encrypt req.tenant
        (q.marshal (movedRecord req labelID newMessageID (env 0).now)) = .ok enc) ∧
      (env 2).storeError .caller = none := by
  have hpersist := eval_persist_error q (fun n => env (n + 1)) st req.tenant req.pseudonymizedMessage
    (movedRecord req labelID newMessageID (env 0).now)
  unfold QuarantineService.recordMoved
  simp only [ActionM.now, Prog.eval_bind, Prog.eval_perform, exec]
  rw [← movedRecord]
  cases hp : ((q.persist req.tenant req.pseudonymizedMessage (movedRecord req labelID newMessageID (env 0).now)).eval
      exec (fun n => env (n + 1)) st).1 with
  | some err =>
    rw [hp] at hpersist
    cases moveErr with
    | some moveErr => simp
    | none =>
      simp only [Prog.pure_eq, Prog.eval_ret]
      constructor
      · intro h
        cases h
      · rintro ⟨-, hok⟩
        cases hpersist.mpr hok
  | none =>
    rw [hp] at hpersist
    cases moveErr with
    | some moveErr => simp
    | none =>
      simp only [Prog.eval_bind, Prog.pure_eq, Prog.eval_ret]
      exact iff_of_true trivial ⟨trivial, hpersist.mp rfl⟩

/-- The fields that `Quarantine` asks for. -/
structure QuarantineRequest.Complete (req : QuarantineRequest) : Prop where
  tenant : req.tenant ≠ ""
  email : req.email ≠ ""
  messageID : req.messageID ≠ ""
  pseudonymizedMessage : req.pseudonymizedMessage ≠ ""
  tier : req.tier = some .blocked

/-- **When `Quarantine` returns no error.** -/
lemma quarantine_ok_iff (hreq : req.Complete) :
    ((q.quarantine req).eval exec env st).1.2 = none ↔ QuarantineSucceeds q req env := by
  obtain ⟨htenant, hemail, hmsg, hpseudo, htier⟩ := hreq
  unfold QuarantineService.quarantine
  rw [if_neg (by simp [htenant, hemail, hmsg]), if_neg hpseudo, if_neg (by simp [htier, Tier.isBlocking])]
  split
  · next hprovider =>
    refine iff_of_false (by simp) fun h => ?_
    exact hprovider h.provider
  · next hprovider =>
    simp only [ActionM.ensureQuarantineLabel, ActionM.moveToQuarantine, Prog.eval_bind, Prog.eval_perform, exec]
    cases hlabel : (env 0).ensureQuarantineLabel req.provider req.email with
    | error err =>
      refine iff_of_false (by simp) fun h => ?_
      obtain ⟨labelID, newMessageID, enc, hok, -⟩ := h.moved
      rw [hlabel] at hok
      cases hok
    | ok labelID =>
      simp only [Prog.eval_bind, Prog.eval_perform, exec]
      rcases hmove : (env 1).moveToQuarantine req.provider req.email req.messageID labelID quarantineStubBody with
        ⟨newMessageID, moveErr⟩
      have hrecord : ((q.recordMoved req labelID newMessageID moveErr).eval exec (fun n => env (n + 2)) st).1.2 = none ↔
          QuarantineSucceeds q req env := by
        rw [recordMoved_ok_iff]
        constructor
        · rintro ⟨rfl, ⟨enc, henc⟩, hstored⟩
          exact ⟨by simpa using hprovider, ⟨labelID, newMessageID, enc, hlabel, hmove, henc⟩, hstored⟩
        · rintro ⟨-, ⟨labelID', newMessageID', enc, hlabel', hmove', henc⟩, hstored⟩
          obtain rfl := Except.ok.inj (hlabel.symm.trans hlabel')
          obtain ⟨rfl, rfl⟩ := Prod.mk.inj (hmove.symm.trans hmove')
          exact ⟨rfl, ⟨enc, henc⟩, hstored⟩
      split
      · next moveErr' heq =>
        obtain ⟨rfl, rfl⟩ := Prod.mk.inj heq
        refine iff_of_false (by simp) fun h => ?_
        obtain ⟨labelID', newMessageID', enc, hlabel', hmove', -⟩ := h.moved
        obtain rfl := Except.ok.inj (hlabel.symm.trans hlabel')
        cases (Prod.mk.inj (hmove.symm.trans hmove')).2
      · next newMessageID' moveErr' _ heq =>
        obtain ⟨rfl, rfl⟩ := Prod.mk.inj heq
        exact hrecord

/-- Then the message was moved. -/
lemma quarantine_moves (hreq : req.Complete) (h : QuarantineSucceeds q req env) :
    Prog.Performs exec Moves (q.quarantine req) env st := by
  obtain ⟨htenant, hemail, hmsg, hpseudo, htier⟩ := hreq
  obtain ⟨labelID, newMessageID, enc, hlabel, hmove, -⟩ := h.moved
  unfold QuarantineService.quarantine
  rw [if_neg (by simp [htenant, hemail, hmsg]), if_neg hpseudo, if_neg (by simp [htier, Tier.isBlocking]),
    if_neg (by simp [h.provider])]
  refine Prog.performs_bind.mpr (.inr ?_)
  rw [ActionM.ensureQuarantineLabel, Prog.eval_perform]
  simp only [exec, hlabel]
  refine Prog.performs_bind.mpr (.inl ?_)
  refine Prog.performs_perform.mpr ?_
  simp only [Moves, exec, hmove]
  simp

end Service

/-! ### The two deliveries -/

/-- The request that `handleActionQuarantine` makes. -/
def quarantineRequestOf (res : EvaluateResult) (kind : LabelProviderKind) : QuarantineRequest :=
  { tenant := res.tenantID, pseudonymizedMessage := res.messageID, provider := kind, email := res.recipient
    messageID := res.messageID, tier := res.tier, primary := res.primary
    tier2Malicious := res.tier2.any Tier2Outcome.isMalicious }

section Deliveries

variable {a : BlockedApp} {pat : DeliveryPattern} {res : EvaluateResult} {st : Store} {kind : LabelProviderKind}

lemma deliverVerdict_eq : a.deliverVerdict pat res = ([(1, none)], a.published pat res 1) :=
  deliver_of_ok pat.left rfl

lemma handleActionQuarantine_returns (sig : Option ActionSignal) (env : ℕ → Environment) (st : Store) :
    ((a.handleActionQuarantine sig).eval exec env st).1 = none := by
  rw [BlockedApp.handleActionQuarantine, Prog.eval_bind]
  rfl

lemma deliverQuarantine_runs (sig : ActionSignal) : (a.deliverQuarantine pat sig st).1 = [(1, none)] := by
  rw [BlockedApp.deliverQuarantine, deliver_of_ok pat.left]
  exact handleActionQuarantine_returns _ _ _

lemma mem_published (htier : res.tier = some .blocked) (n : ℕ) :
    quarantineSignalOf res ∈ a.published pat res n ↔
      (res.messageID ≠ "" ∧ res.tenantID ≠ "") ∧ pat.publishError n (quarantineSignalOf res) = none := by
  rw [BlockedApp.published, List.mem_filter, Option.isNone_iff_eq_none]
  refine and_congr_left fun _ => ?_
  simp only [VerdictActions.handleIngestionAction]
  split
  · next hids =>
    refine iff_of_false List.not_mem_nil fun h => ?_
    exact hids.elim h.1 h.2
  · next hids =>
    refine iff_of_true ?_ (not_or.mp hids)
    simp [VerdictActions.quarantineSignal, htier, quarantineSignalOf]

/-- What `handleActionQuarantine` calls. -/
lemma callQuarantine_eq (hkind : a.resolveKind res.tenantID = some kind) (htier : res.tier = some .blocked)
    {q : QuarantineService} (hq : a.quarantineSvc = some q)
    (hids : res.tenantID ≠ "" ∧ res.messageID ≠ "" ∧ res.recipient ≠ "") :
    a.callQuarantine (some (quarantineSignalOf res)) =
      q.quarantine (quarantineRequestOf res kind) >>= fun r => pure (some r) := by
  simp only [BlockedApp.callQuarantine, quarantineSignalOf, hq, hkind]
  rw [if_neg (by simp [hids]), if_neg (by simp [htier])]
  rfl

lemma callQuarantine_ok_iff (hkind : a.resolveKind res.tenantID = some kind) (htier : res.tier = some .blocked)
    (hids : res.messageID ≠ "" ∧ res.tenantID ≠ "") (env : ℕ → Environment) :
    (∃ record, ((a.callQuarantine (some (quarantineSignalOf res))).eval exec env st).1 = some (record, none)) ↔
      res.recipient ≠ "" ∧ ∃ q, a.quarantineSvc = some q ∧ QuarantineSucceeds q (quarantineRequestOf res kind) env := by
  cases hq : a.quarantineSvc with
  | none =>
    refine iff_of_false ?_ ?_
    · simp [BlockedApp.callQuarantine, quarantineSignalOf, hq]
    · rintro ⟨-, q, hq', -⟩
      cases hq'
  | some q =>
    by_cases hemail : res.recipient = ""
    · refine iff_of_false ?_ fun h => h.1 hemail
      simp [BlockedApp.callQuarantine, quarantineSignalOf, hq, hkind, hemail]
    · have hcomplete : (quarantineRequestOf res kind).Complete := ⟨hids.2, hemail, hids.1, hids.1, htier⟩
      rw [callQuarantine_eq hkind htier hq ⟨hids.2, hids.1, hemail⟩, Prog.eval_bind]
      simp only [Prog.pure_eq, Prog.eval_ret, Option.some.injEq]
      constructor
      · rintro ⟨record, hrecord⟩
        exact ⟨hemail, q, rfl, (quarantine_ok_iff hcomplete).mp (congrArg Prod.snd hrecord)⟩
      · rintro ⟨-, q', rfl, hsucceeds⟩
        exact ⟨_, Prod.ext rfl ((quarantine_ok_iff hcomplete).mpr hsucceeds)⟩

lemma handleActionQuarantine_moves (hkind : a.resolveKind res.tenantID = some kind) (htier : res.tier = some .blocked)
    {q : QuarantineService} (hq : a.quarantineSvc = some q)
    (hids : res.tenantID ≠ "" ∧ res.messageID ≠ "" ∧ res.recipient ≠ "") {env : ℕ → Environment}
    (h : QuarantineSucceeds q (quarantineRequestOf res kind) env) :
    Prog.Performs exec Moves (a.handleActionQuarantine (some (quarantineSignalOf res))) env st := by
  refine Prog.performs_bind.mpr (.inl ?_)
  rw [callQuarantine_eq hkind htier hq hids]
  exact Prog.performs_bind.mpr (.inl (quarantine_moves ⟨hids.1, hids.2.2, hids.2.1, hids.2.1, htier⟩ h))

/-- **When a Blocked message is not left in the inbox.** The message is quarantined or an event of it is a dead letter,
and no handler reports success for what has failed, exactly if nothing fails at all: the result names the message, the
tenant and the recipient, the first publish succeeds, and so does the first call of `Quarantine`. -/
theorem blocked_settled_iff (htier : res.tier = some .blocked) (hkind : a.resolveKind res.tenantID = some kind) :
    a.Settles pat res st ∧ a.Truthful pat res st ↔
      (res.messageID ≠ "" ∧ res.tenantID ≠ "" ∧ res.recipient ≠ "") ∧
      pat.publishError 1 (quarantineSignalOf res) = none ∧
      ∃ q, a.quarantineSvc = some q ∧ QuarantineSucceeds q (quarantineRequestOf res kind) (pat.env 1) := by
  constructor
  · rintro ⟨-, hverdict, hquarantine⟩
    rw [deliverVerdict_eq] at hverdict hquarantine
    have hpublished := hverdict (1, none) List.mem_cons_self rfl
    obtain ⟨hids, hpublish⟩ := (mem_published htier 1).mp hpublished
    have hok := hquarantine _ hpublished rfl (1, none) (by rw [deliverQuarantine_runs]; exact List.mem_cons_self) rfl
    obtain ⟨hemail, hsucceeds⟩ := (callQuarantine_ok_iff hkind htier hids (pat.env 1)).mp hok
    exact ⟨⟨hids.1, hids.2, hemail⟩, hpublish, hsucceeds⟩
  · rintro ⟨⟨hmsg, htenant, hemail⟩, hpublish, q, hq, hsucceeds⟩
    have hpublished : quarantineSignalOf res ∈ a.published pat res 1 :=
      (mem_published htier 1).mpr ⟨⟨hmsg, htenant⟩, hpublish⟩
    refine ⟨.inr ⟨_, ?_, rfl, .inr ⟨(1, none), ?_, ?_⟩⟩, ?_, ?_⟩
    · rw [deliverVerdict_eq]
      exact hpublished
    · rw [deliverQuarantine_runs]
      exact List.mem_cons_self
    · exact handleActionQuarantine_moves hkind htier hq ⟨htenant, hmsg, hemail⟩ hsucceeds
    · rw [deliverVerdict_eq]
      intro run hrun _
      rw [List.mem_singleton.mp hrun]
      exact hpublished
    · intro sig _ hsig run hrun _
      subst hsig
      rw [deliverQuarantine_runs] at hrun
      rw [List.mem_singleton.mp hrun]
      exact (callQuarantine_ok_iff hkind htier ⟨hmsg, htenant⟩ _).mpr ⟨hemail, q, hq, hsucceeds⟩

end Deliveries

section Samples

/-- A result with tier Blocked. -/
def blockedResult : EvaluateResult :=
  { messageID := "m", tenantID := "acme", recipient := "bob@acme.test", tier := some .blocked }

/-- The record of its quarantine, under the label `L`. -/
def blockedRecord (kind : LabelProviderKind) : QuarantineRecord :=
  movedRecord (quarantineRequestOf blockedResult kind) "L" "m" 0

def blockedApp : BlockedApp where
  verdicts := {}
  quarantineSvc := some (serviceOf (blockedRecord .gmail))
  resolveKind _ := some .gmail

/-- The world, where the label can be ensured or not. -/
def labelWorld (err : Option String) : Environment :=
  { encrypt := fun _ x => .ok x, decrypt := fun _ x => .ok x
    ensureQuarantineLabel := fun _ _ => match err with
      | some err => .error err
      | none => .ok "L" }

/-- The publish fails at the first delivery of the verdict, or the label at the first delivery of the event. -/
def failingPattern (publishErr labelErr : Option String) : DeliveryPattern where
  now _ := 0
  id _ := ""
  publishError n sig := if n = 1 ∧ sig = quarantineSignalOf blockedResult then publishErr else none
  env n _ := labelWorld (if n = 1 then labelErr else none)
  left := 4

/-- **The failing input**: the label cannot be ensured once, and the message stays in the inbox. -/
theorem blocked_left_in_inbox :
    ¬ blockedApp.Settles (failingPattern none (some "503")) blockedResult (fun _ => none) := by
  rintro (⟨n, err, hlast⟩ | ⟨sig, -, rfl, ⟨n, err, hlast⟩ | ⟨run, hrun, hmoves⟩⟩)
  · rw [deliverVerdict_eq] at hlast
    cases hlast
  · rw [deliverQuarantine_runs] at hlast
    cases hlast
  · rw [deliverQuarantine_runs] at hrun
    rw [List.mem_singleton.mp hrun] at hmoves
    obtain ⟨x, hx, hmoved⟩ := hmoves
    rcases List.mem_singleton.mp (show x ∈ [_] from hx) with rfl
    exact hmoved

theorem blocked_settled_without_failures :
    blockedApp.Settles (failingPattern none none) blockedResult (fun _ => none) ∧
      blockedApp.Truthful (failingPattern none none) blockedResult (fun _ => none) := by
  have hkind : blockedApp.resolveKind blockedResult.tenantID = some .gmail := rfl
  refine (blocked_settled_iff rfl hkind).mpr ⟨by decide, rfl, _, rfl, ?_⟩
  exact ⟨rfl, ⟨"L", "m", recordJson (blockedRecord .gmail), rfl, rfl, rfl⟩, rfl⟩

end Samples

end Sn360Es.Action
