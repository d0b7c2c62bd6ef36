import Sn360Es.Escalation.Resolver
import Sn360Es.Lib.Solo

/-!
# Redeliveries of one resolution

The broker delivers an event again until `Reconcile` returns without an error; the deliveries come one after the
other, and any operation of any of them may fail.

* `Resolver.plan` — what an event asks for, in a state of the repositories;
* `solo_reconcile` — a delivery fails and leaves everything as it was, or finds the audit row, or carries out the plan,
  unless it fails after it has overridden the verdict;
* `resolution_survives_redelivery` — so the deliveries together do what one failure-free delivery does; a banner whose
  probe or reopening fails is not reopened.
-/

namespace Sn360Es.Escalation

open Lib

/-! ### The plan -/

/-- What an event asks for: only an audit row, or a new verdict and perhaps a reopened banner, too. -/
inductive Plan where
  | record (row : EmailVerdictAudit)
  | override (tenantID hash : String) (new : Verdict) (reopening : Option Reopening) (row : EmailVerdictAudit)
  deriving DecidableEq, Repr

/-- The audit row of `persistSkip`. -/
def skipRow (ev : IncidentResolved) (reason : String) : EmailVerdictAudit :=
  auditRow ev none none (composeReason ev.resolution ev.analystNotes ++ " [skip: " ++
    (if reason = "" then "no findable evaluation row" else reason) ++ "]")

namespace Resolver

variable (r : Resolver) (ev : IncidentResolved) (w : ResolverWorld)

/-- What `locateEvaluation` finds by the correlation id. -/
def locatedByCorrelation (corr : String) : Located :=
  r.searchRecent corr (w.recent ev.tenantID evalListLookbackForCorrelation)

/-- What `locateEvaluation` finds. -/
def located : Located :=
  match ev.relatedEmail with
  | none => .missing "payload missing related_email"
  | some link =>
    let pseudo := GoStrings.trimSpace link.pseudoMessageID
    let corr := GoStrings.trimSpace link.correlationID
    if pseudo ≠ "" then
      match w.evaluation ev.tenantID pseudo with
      | some row => .found pseudo row
      | none =>
        if corr ≠ "" then r.locatedByCorrelation ev w corr
        else .missing ("no evaluation_results row for pseudo_message_id=" ++ pseudo)
    else if corr ≠ "" then r.locatedByCorrelation ev w corr
    else .missing "payload related_email had no identifiers"

/-- The banner to be reopened: one that the user has seen, if the new verdict is worse. -/
def reopening (tenantID hash : String) (new : Verdict) : Option Reopening :=
  if new = .malicious ∧ r.reopener then
    match (ResolverOp.effect {} w (.getBanner tenantID hash)).1 with
    | .error _ => none
    | .ok bs =>
      if bs.deliveredAt = none then none
      else some ⟨tenantID, hash, composeBannerReason ev.resolution ev.analystNotes⟩
  else none

/-- What an event asks for once the evaluation is located. -/
def planFor (hash : String) (row : EvaluationResult) : Plan :=
  if row.tenantID ≠ ev.tenantID then
    .record (skipRow ev ("cross-tenant: payload tenant=" ++ ev.tenantID ++ " row tenant=" ++ row.tenantID))
  else
    let original := automatedVerdict row
    let reason := composeReason ev.resolution ev.analystNotes
    match flipFor ev.resolution original with
    | none => .record (auditRow ev original none reason)
    | some new =>
      if (w.evaluation row.tenantID hash).isSome then
        .override row.tenantID hash new (r.reopening ev w row.tenantID hash new)
          (auditRow ev original (some new) reason)
      else .record (skipRow ev "evaluation_results row vanished between locate and SetFinalVerdict")

/-- **What an event asks for.** -/
def plan : Plan :=
  match r.located ev w with
  | .missing reason => .record (skipRow ev reason)
  | .found hash row => r.planFor ev w hash row

end Resolver

namespace Plan

/-- The audit row. -/
def row : Plan → EmailVerdictAudit
  | record row => row
  | override _ _ _ _ row => row

/-- The verdict and the banner. -/
def change (w : ResolverWorld) (bannerFailed : Bool) : Plan → ResolverWorld
  | record _ => w
  | override tenantID hash new reopening _ =>
    match reopening with
    | none => w.setVerdict tenantID hash new
    | some b => if bannerFailed then w.setVerdict tenantID hash new else (w.setVerdict tenantID hash new).reopen b

@[simp] lemma change_audits (plan : Plan) (w : ResolverWorld) (bannerFailed : Bool) :
    (plan.change w bannerFailed).audits = w.audits := by
  cases plan with
  | record row => rfl
  | override tenantID hash new reopening row =>
    cases reopening with
    | none => rfl
    | some b => cases bannerFailed <;> rfl

/-- The state once the plan is carried out. -/
def carryOut (plan : Plan) (w : ResolverWorld) (bannerFailed : Bool) (id : String) : ResolverWorld :=
  (plan.change w bannerFailed).addAudit { plan.row with id }

end Plan

section Plan

variable (r : Resolver) (ev : IncidentResolved) (w : ResolverWorld)

lemma Resolver.plan_row_keys : (r.plan ev w).row.tenantID = ev.tenantID ∧ (r.plan ev w).row.dedupID = ev.dedupID := by
  unfold Resolver.plan
  split
  · exact ⟨rfl, rfl⟩
  · unfold Resolver.planFor
    split
    · exact ⟨rfl, rfl⟩
    · simp only
      split
      · exact ⟨rfl, rfl⟩
      · split
        · exact ⟨rfl, rfl⟩
        · exact ⟨rfl, rfl⟩

end Plan

/-! ### One delivery -/

/-- The operations of a delivery, with their answers. -/
abbrev ResolverTrace := List ((o : ResolverOp) × o.Ans)

namespace ResolverTrace

variable (tr tr' : ResolverTrace)

/-- The verdict was overridden. -/
def overridden : Bool := tr.any fun x => x.1.overrides x.2

/-- An operation has failed whose error the call returns. -/
def failed : Bool := tr.any fun x => x.1.fails x.2

/-- An operation of the banner path has failed. -/
def bannerFailed : Bool := tr.any fun x => x.1.bannerFails x.2

@[simp] lemma overridden_nil : overridden [] = false := rfl
@[simp] lemma failed_nil : failed [] = false := rfl
@[simp] lemma bannerFailed_nil : bannerFailed [] = false := rfl

@[simp] lemma overridden_append : overridden (tr ++ tr') = (tr.overridden || overridden tr') := List.any_append
@[simp] lemma failed_append : failed (tr ++ tr') = (tr.failed || failed tr') := List.any_append
@[simp] lemma bannerFailed_append : bannerFailed (tr ++ tr') = (tr.bannerFailed || bannerFailed tr') :=
  List.any_append

end ResolverTrace

open ResolverTrace

section Delivery

variable {r : Resolver} {ev : IncidentResolved} {w : ResolverWorld}

lemma solo_listRecent (tenantID : String) (limit : ℕ) :
    Prog.Solo ResolverOp.exec (ResolverM.listRecent tenantID limit) w fun a w' tr =>
      w' = w ∧ overridden tr = false ∧ bannerFailed tr = false ∧
        match a with
        | .error _ => failed tr = true
        | .ok rows => rows = w.recent tenantID limit := by
  refine Prog.solo_perform fun e a w' hexec => ?_
  obtain ⟨rfl, ⟨err, -, rfl⟩ | ⟨-, rfl⟩⟩ := exec_listRecent hexec
  · exact ⟨rfl, rfl, rfl, rfl⟩
  · exact ⟨rfl, rfl, rfl, rfl⟩

lemma solo_getByMessageHash (tenantID hash : String) :
    Prog.Solo ResolverOp.exec (ResolverM.getByMessageHash tenantID hash) w fun a w' tr =>
      w' = w ∧ overridden tr = false ∧ bannerFailed tr = false ∧
        match a with
        | .error (.failed _) => failed tr = true
        | .error .notFound => w.evaluation tenantID hash = none
        | .ok row => w.evaluation tenantID hash = some row := by
  refine Prog.solo_perform fun e a w' hexec => ?_
  obtain ⟨rfl, ⟨err, -, rfl⟩ | ⟨-, row, hrow, rfl⟩ | ⟨-, hnone, rfl⟩⟩ := exec_getByMessageHash hexec
  · exact ⟨rfl, rfl, rfl, rfl⟩
  · exact ⟨rfl, rfl, rfl, hrow⟩
  · exact ⟨rfl, rfl, rfl, hnone⟩

lemma solo_getByDedupID (tenantID dedupID : String) :
    Prog.Solo ResolverOp.exec (ResolverM.getByDedupID tenantID dedupID) w fun a w' tr =>
      w' = w ∧ overridden tr = false ∧ bannerFailed tr = false ∧
        match a with
        | .error (.failed _) => failed tr = true
        | .error .notFound => w.audits tenantID dedupID = none
        | .ok row => w.audits tenantID dedupID = some row := by
  refine Prog.solo_perform fun e a w' hexec => ?_
  obtain ⟨rfl, ⟨err, -, rfl⟩ | ⟨-, row, hrow, rfl⟩ | ⟨-, hnone, rfl⟩⟩ := exec_getByDedupID hexec
  · exact ⟨rfl, rfl, rfl, rfl⟩
  · exact ⟨rfl, rfl, rfl, hrow⟩
  · exact ⟨rfl, rfl, rfl, hnone⟩

lemma solo_setFinalVerdict (tenantID hash : String) (v : Verdict) :
    Prog.Solo ResolverOp.exec (ResolverM.setFinalVerdict tenantID hash v) w fun a w' tr =>
      bannerFailed tr = false ∧
        match a with
        | some (.failed _) => w' = w ∧ failed tr = true
        | some .notFound => w' = w ∧ overridden tr = false ∧ (w.evaluation tenantID hash).isSome = false
        | none => w' = w.setVerdict tenantID hash v ∧ overridden tr = true ∧
            (w.evaluation tenantID hash).isSome = true := by
  refine Prog.solo_perform fun e a w' hexec => ?_
  obtain ⟨err, -, rfl, rfl⟩ | ⟨-, hnone, rfl, rfl⟩ | ⟨-, hsome, rfl, rfl⟩ := exec_setFinalVerdict hexec
  · exact ⟨rfl, rfl, rfl⟩
  · exact ⟨rfl, rfl, rfl, by rw [hnone]; rfl⟩
  · exact ⟨rfl, rfl, rfl, hsome⟩

/-- `Insert`, where there is no row. -/
lemma solo_insertAudit (row : EmailVerdictAudit) (hnone : w.audits row.tenantID row.dedupID = none) :
    Prog.Solo ResolverOp.exec (ResolverM.insertAudit row) w fun a w' tr =>
      overridden tr = false ∧ bannerFailed tr = false ∧
        match a with
        | .error _ => w' = w ∧ failed tr = true
        | .ok (_, id) => w' = w.addAudit { row with id } := by
  refine Prog.solo_perform fun e a w' hexec => ?_
  obtain ⟨err, -, rfl, rfl⟩ | ⟨-, old, hold, -⟩ | ⟨-, -, rfl, rfl⟩ := exec_insertAudit hexec
  · exact ⟨rfl, rfl, rfl, rfl⟩
  · rw [hnone] at hold
    cases hold
  · exact ⟨rfl, rfl, rfl⟩

lemma solo_searchRecent (corr : String) : Prog.Solo ResolverOp.exec
    (do match ← ResolverM.listRecent ev.tenantID evalListLookbackForCorrelation with
        | .error err => return .error ("escalation: ListRecent for correlation: " ++ err)
        | .ok recents => return .ok (r.searchRecent corr recents) : ResolverM (Except String Resolver.Located)) w
    fun res w' tr => w' = w ∧ overridden tr = false ∧ bannerFailed tr = false ∧
      match res with
      | .error _ => failed tr = true
      | .ok loc => loc = r.locatedByCorrelation ev w corr := by
  refine Prog.Solo.bind ((solo_listRecent _ _).mono fun a w' tr h => ?_)
  obtain ⟨rfl, hover, hbanner, ha⟩ := h
  cases a with
  | error err => simp [hover, hbanner, ha]
  | ok rows =>
    subst ha
    simp [hover, hbanner, Resolver.locatedByCorrelation]

lemma solo_locateEvaluation : Prog.Solo ResolverOp.exec (r.locateEvaluation ev) w fun res w' tr =>
    w' = w ∧ overridden tr = false ∧ bannerFailed tr = false ∧
      match res with
      | .error _ => failed tr = true
      | .ok loc => loc = r.located ev w := by
  unfold Resolver.locateEvaluation Resolver.located
  cases ev.relatedEmail with
  | none => exact ⟨rfl, rfl, rfl, rfl⟩
  | some link =>
    simp only
    generalize GoStrings.trimSpace link.pseudoMessageID = pseudo
    generalize GoStrings.trimSpace link.correlationID = corr
    split
    · refine Prog.Solo.bind ((solo_getByMessageHash _ _).mono fun a w' tr h => ?_)
      obtain ⟨rfl, hover, hbanner, ha⟩ := h
      cases a with
      | ok row => simp [hover, hbanner, ha]
      | error err =>
        cases err with
        | failed err => simp [hover, hbanner, ha]
        | notFound =>
          simp only [ha]
          split
          · refine (solo_searchRecent _).mono fun res w' tr' h => ?_
            obtain ⟨rfl, hover', hbanner', hres⟩ := h
            cases res with
            | error err => simp [hover, hbanner, hover', hbanner', hres]
            | ok loc => simp [hover, hbanner, hover', hbanner', hres]
          · simp [hover, hbanner]
    · split
      · exact solo_searchRecent _
      · exact ⟨rfl, rfl, rfl, rfl⟩

/-- The banner path neither overrides a verdict nor fails the call. -/
lemma solo_reopenPath (tenantID hash : String) (new : Verdict) :
    Prog.Solo ResolverOp.exec (r.reopenPath ev tenantID hash new) w fun _ w' tr =>
      w' = match r.reopening ev w tenantID hash new with
        | none => w
        | some b => if bannerFailed tr then w else w.reopen b := by
  unfold Resolver.reopenPath Resolver.reopening
  split
  · refine Prog.Solo.bind (Prog.solo_perform fun e a w' hexec => ?_)
    obtain ⟨rfl, ⟨err, -, rfl⟩ | ⟨-, ha⟩⟩ := exec_getBanner hexec
    · -- the probe has failed: nothing is reopened, whatever the banner is
      by_cases hempty : hash = ""
      · simp [hempty, ResolverOp.effect]
      · simp only [Prog.pure_eq, Prog.solo_ret, List.append_nil]
        split
        · rfl
        · simp [bannerFailed, ResolverOp.bannerFails, hempty]
    · have heff : (ResolverOp.effect {} w' (.getBanner tenantID hash)).1 = a := ha.symm
      rw [heff]
      cases a with
      | error err => rfl
      | ok bs =>
        simp only
        split
        · rfl
        · refine Prog.Solo.bind (Prog.solo_perform fun e' a' w'' hexec' => ?_)
          obtain ⟨err, -, rfl, rfl⟩ | ⟨-, rfl, rfl⟩ := exec_reopenBanner hexec'
          · rfl
          · rfl
  · rfl

/-- How a delivery ends that has found no audit row. -/
def Attempted (w : ResolverWorld) (plan : Plan) : Except String Outcome → ResolverWorld → ResolverTrace → Prop
  | .error _, w', tr => failed tr = true ∧ (overridden tr = false → w' = w ∧ bannerFailed tr = false)
  | .ok _, w', tr => ∃ id, w' = plan.carryOut w (bannerFailed tr) id

lemma solo_persistSkip (hnone : w.audits ev.tenantID ev.dedupID = none) (reason : String) :
    Prog.Solo ResolverOp.exec (Resolver.persistSkip ev reason) w (Attempted w (.record (skipRow ev reason))) := by
  refine Prog.Solo.bind ((solo_insertAudit (skipRow ev reason) hnone).mono fun a w' tr h => ?_)
  obtain ⟨-, hbanner, h⟩ := h
  cases a with
  | error err => simpa [Attempted, hbanner] using ⟨h.2, fun _ => h.1⟩
  | ok res => exact ⟨res.2, h⟩

/-- The audit row comes after the verdict and the banner. -/
lemma solo_persistAudit {w₀ : ResolverWorld} {plan : Plan} {out : Outcome} (tr₀ : ResolverTrace)
    (hnone : w.audits ev.tenantID ev.dedupID = none) (hw : w = plan.change w₀ (bannerFailed tr₀))
    (hrow : auditRow ev out.originalVerdict out.newVerdict out.reason = plan.row)
    (hkeep : overridden tr₀ = false → w = w₀ ∧ bannerFailed tr₀ = false) :
    Prog.Solo ResolverOp.exec (Resolver.persistAudit ev out) w fun res w' tr =>
      Attempted w₀ plan res w' (tr₀ ++ tr) := by
  refine Prog.Solo.bind ((solo_insertAudit _ hnone).mono fun a w' tr h => ?_)
  obtain ⟨hover, hbanner, h⟩ := h
  cases a with
  | error err =>
    obtain ⟨rfl, hfailed⟩ := h
    simpa [Attempted, hfailed, hover, hbanner] using hkeep
  | ok res =>
    refine ⟨res.2, ?_⟩
    simp only [h, hrow, Plan.carryOut, bannerFailed_append, hbanner, bannerFailed_nil, Bool.or_false, hw]

lemma solo_applyResolution (hnone : w.audits ev.tenantID ev.dedupID = none) (hash : String) (row : EvaluationResult) :
    Prog.Solo ResolverOp.exec (r.applyResolution ev hash row) w (Attempted w (r.planFor ev w hash row)) := by
  unfold Resolver.applyResolution Resolver.planFor
  split
  · exact solo_persistSkip hnone _
  · simp only
    cases flipFor ev.resolution (automatedVerdict row) with
    | none =>
      generalize composeReason ev.resolution ev.analystNotes = reason
      exact solo_persistAudit [] hnone rfl rfl fun _ => ⟨rfl, rfl⟩
    | some new =>
      refine Prog.Solo.bind ((solo_setFinalVerdict _ _ _).mono fun a w' tr h => ?_)
      obtain ⟨hbanner, h⟩ := h
      cases a with
      | some err =>
        cases err with
        | failed err =>
          obtain ⟨rfl, hfailed⟩ := h
          simp [Attempted, hfailed, hbanner]
        | notFound =>
          obtain ⟨rfl, hover, hgone⟩ := h
          refine (solo_persistSkip hnone _).mono fun res w'' tr' h' => ?_
          simp only [hgone, Bool.false_eq_true, if_false]
          cases res with
          | error err => simpa [Attempted, hover, hbanner] using ⟨.inr h'.1, h'.2⟩
          | ok out =>
            obtain ⟨id, hw⟩ := h'
            exact ⟨id, hw⟩
      | none =>
        obtain ⟨rfl, hover, hthere⟩ := h
        simp only [hthere, if_true]
        refine Prog.Solo.bind ((solo_reopenPath _ _ _).mono fun reopened w'' tr' hw => ?_)
        -- the verdict is not an input of the banner path
        have hchange : w'' = (Plan.override row.tenantID hash new (r.reopening ev w row.tenantID hash new)
            (auditRow ev (automatedVerdict row) (some new) (composeReason ev.resolution ev.analystNotes))).change w
              (bannerFailed (tr ++ tr')) := by
          rw [hw, bannerFailed_append, hbanner, Bool.false_or]
          rfl
        have hnone' : w''.audits ev.tenantID ev.dedupID = none := by
          rw [hchange, Plan.change_audits]
          exact hnone
        refine (solo_persistAudit (tr ++ tr') hnone' hchange rfl fun h => ?_).mono fun res w₁ tr'' h => ?_
        · simp [hover] at h
        · rw [List.append_assoc] at h
          exact h

/-- **What a delivery does.** -/
def Delivered (r : Resolver) (ev : IncidentResolved) (w : ResolverWorld) (res : Except String Outcome)
    (w' : ResolverWorld) (tr : ResolverTrace) : Prop :=
  (∃ err, validateInput ev = some err ∧ res = .error err ∧ w' = w ∧ tr = []) ∨
    (∃ err, res = .error err ∧ failed tr = true ∧ (overridden tr = false → w' = w ∧ bannerFailed tr = false)) ∨
    (∃ out, res = .ok out ∧ (w.audits ev.tenantID ev.dedupID).isSome ∧ w' = w ∧ bannerFailed tr = false) ∨
    (∃ out id, res = .ok out ∧ w.audits ev.tenantID ev.dedupID = none ∧
      w' = (r.plan ev w).carryOut w (bannerFailed tr) id)

/-- What comes before, if it only reads, does not count. -/
lemma Attempted.delivered {res : Except String Outcome} {w' : ResolverWorld} {tr tr' : ResolverTrace}
    (h : Attempted w (r.plan ev w) res w' tr) (hnone : w.audits ev.tenantID ev.dedupID = none)
    (hover : overridden tr' = false) (hbanner : bannerFailed tr' = false) :
    Delivered r ev w res w' (tr' ++ tr) := by
  cases res with
  | error err =>
    refine .inr (.inl ⟨err, rfl, ?_, fun hno => ?_⟩)
    · rw [failed_append, h.1, Bool.or_true]
    · rw [overridden_append, hover, Bool.false_or] at hno
      rw [bannerFailed_append, hbanner, Bool.false_or]
      exact h.2 hno
  | ok out =>
    obtain ⟨id, hw⟩ := h
    refine .inr (.inr (.inr ⟨out, id, rfl, hnone, ?_⟩))
    rw [bannerFailed_append, hbanner, Bool.false_or]
    exact hw

lemma solo_reconcile : Prog.Solo ResolverOp.exec (r.reconcile ev) w (Delivered r ev w) := by
  unfold Resolver.reconcile
  cases hvalid : validateInput ev with
  | some err => exact .inl ⟨err, hvalid, rfl, rfl, rfl⟩
  | none =>
    refine Prog.Solo.bind ((solo_getByDedupID _ _).mono fun a w' tr h => ?_)
    obtain ⟨rfl, hover, hbanner, ha⟩ := h
    match a, ha with
    | .ok existing, ha =>
      refine .inr (.inr (.inl ⟨_, rfl, ?_, rfl, ?_⟩))
      · exact Option.isSome_iff_exists.mpr ⟨existing, ha⟩
      · simpa using hbanner
    | .error (.failed err), ha =>
      refine .inr (.inl ⟨_, rfl, ?_, fun _ => ⟨rfl, ?_⟩⟩)
      · simpa using ha
      · simpa using hbanner
    | .error .notFound, hnone =>
      refine Prog.Solo.bind (solo_locateEvaluation.mono fun res w₁ tr' h => ?_)
      obtain ⟨rfl, hover', hbanner', hres⟩ := h
      have hreads : overridden (tr ++ tr') = false ∧ bannerFailed (tr ++ tr') = false := by
        simp [hover, hbanner, hover', hbanner']
      match res, hres with
      | .error err, hres =>
        refine .inr (.inl ⟨_, rfl, ?_, fun _ => ⟨rfl, ?_⟩⟩)
        · simp [hres]
        · simp [hbanner, hbanner']
      | .ok (.missing reason), hres =>
        refine (solo_persistSkip hnone reason).mono fun res w₂ tr'' h => ?_
        rw [← List.append_assoc]
        refine Attempted.delivered ?_ hnone hreads.1 hreads.2
        rw [Resolver.plan, ← hres]
        exact h
      | .ok (.found hash row), hres =>
        refine (solo_applyResolution hnone hash row).mono fun res w₂ tr'' h => ?_
        rw [← List.append_assoc]
        refine Attempted.delivered ?_ hnone hreads.1 hreads.2
        rw [Resolver.plan, ← hres]
        exact h

end Delivery

/-! ### Runs of deliveries -/

/-- A delivery: what it returned, what it did, and the state it left. -/
structure Attempt where
  result : Except String Outcome
  performed : ResolverTrace
  world : ResolverWorld

def Resolver.deliver (r : Resolver) (ev : IncidentResolved) (w : ResolverWorld) (env : ℕ → ResolverEnv) : Attempt where
  result := ((r.reconcile ev).eval ResolverOp.exec env w).1
  performed := (r.reconcile ev).trace ResolverOp.exec env w
  world := ((r.reconcile ev).eval ResolverOp.exec env w).2.1

/-- The deliveries of an event, one after the other. -/
def Resolver.deliveries (r : Resolver) (ev : IncidentResolved) : ResolverWorld → List (ℕ → ResolverEnv) → List Attempt
  | _, [] => []
  | w, env :: envs => r.deliver ev w env :: r.deliveries ev (r.deliver ev w env).world envs

/-- The state after the deliveries. -/
def Resolver.deliverAll (r : Resolver) (ev : IncidentResolved) (w : ResolverWorld) (envs : List (ℕ → ResolverEnv)) :
    ResolverWorld :=
  envs.foldl (fun w env => (r.deliver ev w env).world) w

namespace Attempt

variable (a : Attempt)

def Succeeds : Prop := ∃ out, a.result = .ok out

/-- The delivery has failed after it had overridden the verdict. -/
def Halfway : Prop := overridden a.performed = true ∧ failed a.performed = true

def BannerFailed : Prop := bannerFailed a.performed = true

instance : Decidable a.Succeeds :=
  match h : a.result with
  | .ok out => isTrue ⟨out, h⟩
  | .error _ => isFalse fun ⟨_, hout⟩ => by rw [h] at hout; cases hout

instance : Decidable a.Halfway := inferInstanceAs (Decidable (_ ∧ _))

instance : Decidable a.BannerFailed := inferInstanceAs (Decidable (_ = _))

end Attempt

section Redelivery

variable {r : Resolver} {ev : IncidentResolved} {w : ResolverWorld} {env : ℕ → ResolverEnv}
  {envs : List (ℕ → ResolverEnv)}

/-- A delivery that does not stop halfway changes nothing, or carries out the plan. -/
lemma Resolver.deliver_cases (h : ¬ (r.deliver ev w env).Halfway) :
    (¬ (r.deliver ev w env).Succeeds ∧ ¬ (r.deliver ev w env).BannerFailed ∧ (r.deliver ev w env).world = w) ∨
    ((r.deliver ev w env).Succeeds ∧ (w.audits ev.tenantID ev.dedupID).isSome ∧
      ¬ (r.deliver ev w env).BannerFailed ∧ (r.deliver ev w env).world = w) ∨
    ((r.deliver ev w env).Succeeds ∧ w.audits ev.tenantID ev.dedupID = none ∧
      ∃ id, (r.deliver ev w env).world =
        (r.plan ev w).carryOut w (bannerFailed (r.deliver ev w env).performed) id) := by
  have hdeliver : Delivered r ev w (r.deliver ev w env).result (r.deliver ev w env).world
      (r.deliver ev w env).performed := solo_reconcile.run env
  generalize r.deliver ev w env = a at h hdeliver ⊢
  obtain ⟨err, -, hres, hw, htr⟩ | ⟨err, hres, hfailed, hkeep⟩ | ⟨out, hres, hsome, hw, hbanner⟩ |
    ⟨out, id, hres, hnone, hw⟩ := hdeliver
  · refine .inl ⟨?_, ?_, hw⟩
    · rintro ⟨out, hok⟩
      rw [hres] at hok
      cases hok
    · simp [Attempt.BannerFailed, htr]
  · obtain ⟨hw, hbanner⟩ := hkeep (Bool.eq_false_iff.mpr fun hover => h ⟨hover, hfailed⟩)
    refine .inl ⟨?_, ?_, hw⟩
    · rintro ⟨out, hok⟩
      rw [hres] at hok
      cases hok
    · simp [Attempt.BannerFailed, hbanner]
  · exact .inr (.inl ⟨⟨out, hres⟩, hsome, by simp [Attempt.BannerFailed, hbanner], hw⟩)
  · exact .inr (.inr ⟨⟨out, hres⟩, hnone, id, hw⟩)

lemma Plan.carryOut_audits (w : ResolverWorld) (failed : Bool) (id : String) :
    ((r.plan ev w).carryOut w failed id).audits ev.tenantID ev.dedupID = some { (r.plan ev w).row with id } := by
  obtain ⟨htenant, hdedup⟩ := r.plan_row_keys ev w
  simp [Plan.carryOut, ResolverWorld.addAudit, htenant, hdedup]

/-- Once the audit row is there, deliveries change nothing. -/
lemma Resolver.deliverAll_of_audited (hsome : (w.audits ev.tenantID ev.dedupID).isSome)
    (hwhole : ∀ a ∈ r.deliveries ev w envs, ¬ a.Halfway) :
    r.deliverAll ev w envs = w ∧ ∀ a ∈ r.deliveries ev w envs, ¬ a.BannerFailed := by
  induction envs with
  | nil => exact ⟨rfl, fun a ha => absurd ha List.not_mem_nil⟩
  | cons env envs ih =>
    have hkeep : (r.deliver ev w env).world = w ∧ ¬ (r.deliver ev w env).BannerFailed := by
      obtain ⟨-, hb, hw⟩ | ⟨-, -, hb, hw⟩ | ⟨-, hnone, -⟩ :=
        Resolver.deliver_cases (hwhole _ List.mem_cons_self)
      · exact ⟨hw, hb⟩
      · exact ⟨hw, hb⟩
      · rw [hnone] at hsome
        cases hsome
    simp only [Resolver.deliveries, List.forall_mem_cons, hkeep.1] at hwhole ⊢
    simp only [Resolver.deliverAll, List.foldl_cons, hkeep.1]
    obtain ⟨hall, hbanner⟩ := ih hwhole.2
    exact ⟨hall, hkeep.2, hbanner⟩

/-- What the deliveries of an event amount to, once one of them has succeeded. -/
lemma Resolver.deliverAll_cases (hwhole : ∀ a ∈ r.deliveries ev w envs, ¬ a.Halfway)
    (hok : ∃ a ∈ r.deliveries ev w envs, a.Succeeds) :
    ((w.audits ev.tenantID ev.dedupID).isSome ∧ r.deliverAll ev w envs = w) ∨
    (w.audits ev.tenantID ev.dedupID = none ∧ ∃ failed id, r.deliverAll ev w envs =
      (r.plan ev w).carryOut w failed id ∧ (failed = true ↔ ∃ a ∈ r.deliveries ev w envs, a.BannerFailed)) := by
  induction envs with
  | nil =>
    obtain ⟨a, ha, -⟩ := hok
    cases ha
  | cons env envs ih =>
    obtain ⟨hno, hb, hw⟩ | ⟨-, hsome, -⟩ | ⟨-, hnone, id, hw⟩ :=
      Resolver.deliver_cases (hwhole _ List.mem_cons_self)
    · -- nothing has happened yet
      simp only [Resolver.deliveries, List.forall_mem_cons, List.exists_mem_cons_iff, hno, hb, hw, false_or,
        Resolver.deliverAll, List.foldl_cons] at hwhole hok ⊢
      exact ih hwhole.2 hok
    · exact .inl ⟨hsome, (Resolver.deliverAll_of_audited hsome hwhole).1⟩
    · -- this delivery has done it all, and the later ones are duplicates
      have hsome : ((r.deliver ev w env).world.audits ev.tenantID ev.dedupID).isSome := by
        rw [hw, Plan.carryOut_audits]
        rfl
      simp only [Resolver.deliveries, List.forall_mem_cons] at hwhole
      obtain ⟨hall, hbanner⟩ := Resolver.deliverAll_of_audited hsome hwhole.2
      refine .inr ⟨hnone, bannerFailed (r.deliver ev w env).performed, id, hall.trans hw, ?_⟩
      have hnobanner : ¬ ∃ a ∈ r.deliveries ev (r.deliver ev w env).world envs, a.BannerFailed := by
        rintro ⟨a, ha, hab⟩
        exact hbanner a ha hab
      simp only [Resolver.deliveries, List.exists_mem_cons_iff, hnobanner, or_false]
      exact Iff.rfl

/-- The delivery in which nothing fails. -/
def Resolver.failureFree (r : Resolver) (ev : IncidentResolved) (w : ResolverWorld) : Attempt :=
  r.deliver ev w fun _ => {}

variable (r ev w) in
lemma Resolver.failureFree_performed : failed (r.failureFree ev w).performed = false ∧
    bannerFailed (r.failureFree ev w).performed = false := by
  have hmem : ∀ x ∈ (r.failureFree ev w).performed, x.1.fails x.2 = false ∧ x.1.bannerFails x.2 = false := by
    intro x hx
    obtain ⟨n, w', hans⟩ := Prog.mem_trace hx
    rw [hans]
    exact ResolverOp.effect_fails {} w' x.1
  constructor
  · rw [failed, List.any_eq_false]
    exact fun x hx => Bool.eq_false_iff.mp (hmem x hx).1
  · rw [bannerFailed, List.any_eq_false]
    exact fun x hx => Bool.eq_false_iff.mp (hmem x hx).2

/-- What one failure-free delivery of a valid event does. -/
lemma Resolver.failureFree_cases (hvalid : validateInput ev = none) : (r.failureFree ev w).Succeeds ∧
    (((w.audits ev.tenantID ev.dedupID).isSome ∧ (r.failureFree ev w).world = w) ∨
      (w.audits ev.tenantID ev.dedupID = none ∧
        ∃ id, (r.failureFree ev w).world = (r.plan ev w).carryOut w false id)) := by
  obtain ⟨hfailed, hbanner⟩ := r.failureFree_performed ev w
  have hdeliver : Delivered r ev w (r.failureFree ev w).result (r.failureFree ev w).world
      (r.failureFree ev w).performed := solo_reconcile.run _
  obtain ⟨err, hinvalid, -⟩ | ⟨err, -, hfailed', -⟩ | ⟨out, hres, hsome, hw, -⟩ | ⟨out, id, hres, hnone, hw⟩ :=
    hdeliver
  · rw [hvalid] at hinvalid
    cases hinvalid
  · rw [hfailed] at hfailed'
    cases hfailed'
  · exact ⟨⟨out, hres⟩, .inl ⟨hsome, hw⟩⟩
  · rw [hbanner] at hw
    exact ⟨⟨out, hres⟩, .inr ⟨hnone, id, hw⟩⟩

/-- An event that is refused never succeeds. -/
lemma Resolver.valid_of_succeeds (hok : ∃ a ∈ r.deliveries ev w envs, a.Succeeds) : validateInput ev = none := by
  induction envs generalizing w with
  | nil =>
    obtain ⟨a, ha, -⟩ := hok
    cases ha
  | cons env envs ih =>
    obtain ⟨a, ha, out, hout⟩ := hok
    rcases List.mem_cons.mp ha with rfl | ha
    · cases hvalid : validateInput ev with
      | none => rfl
      | some err =>
        simp only [Resolver.deliver, Resolver.reconcile, hvalid] at hout
        cases hout
    · exact ih ⟨a, ha, out, hout⟩

/-- An audit row without its id. -/
def EmailVerdictAudit.content (row : EmailVerdictAudit) : EmailVerdictAudit := { row with id := "" }

lemma Plan.change_evaluations (plan : Plan) (w : ResolverWorld) (b b' : Bool) :
    (plan.change w b).evaluations = (plan.change w b').evaluations := by
  cases plan with
  | record row => rfl
  | override tenantID hash new reopening row =>
    cases reopening with
    | none => rfl
    | some x => cases b <;> cases b' <;> rfl

lemma Plan.change_reopened (plan : Plan) (w : ResolverWorld) : (plan.change w true).reopened = w.reopened := by
  cases plan with
  | record row => rfl
  | override tenantID hash new reopening row =>
    cases reopening with
    | none => rfl
    | some x => rfl

/-- **Redeliveries do what one delivery does.** An event is delivered again and again, and no delivery fails after it
has overridden the verdict. Once one has succeeded, the audit row and the verdicts are those of a single failure-free
delivery; and so are the reopened banners, unless the banner path of a delivery has failed: then it reopens none. -/
theorem resolution_survives_redelivery (r : Resolver) (ev : IncidentResolved) (w : ResolverWorld)
    (envs : List (ℕ → ResolverEnv)) (hwhole : ∀ a ∈ r.deliveries ev w envs, ¬ a.Halfway)
    (hok : ∃ a ∈ r.deliveries ev w envs, a.Succeeds) :
    (r.failureFree ev w).Succeeds ∧
      ((r.deliverAll ev w envs).audits ev.tenantID ev.dedupID).map (·.content) =
        ((r.failureFree ev w).world.audits ev.tenantID ev.dedupID).map (·.content) ∧
      (r.deliverAll ev w envs).evaluations = (r.failureFree ev w).world.evaluations ∧
      ((¬ ∃ a ∈ r.deliveries ev w envs, a.BannerFailed) →
        (r.deliverAll ev w envs).reopened = (r.failureFree ev w).world.reopened) ∧
      ((∃ a ∈ r.deliveries ev w envs, a.BannerFailed) → (r.deliverAll ev w envs).reopened = w.reopened) := by
  obtain ⟨hsucceeds, hfree⟩ := Resolver.failureFree_cases (r := r) (w := w) (Resolver.valid_of_succeeds hok)
  refine ⟨hsucceeds, ?_⟩
  rcases Resolver.deliverAll_cases hwhole hok with ⟨hsome, hall⟩ | ⟨hnone, failed, id, hall, hfailed⟩
  · obtain ⟨-, hw⟩ | ⟨hnone, -⟩ := hfree
    · rw [hall, hw]
      exact ⟨rfl, rfl, fun _ => rfl, fun _ => rfl⟩
    · rw [hnone] at hsome
      cases hsome
  · obtain ⟨hsome, -⟩ | ⟨-, id', hw⟩ := hfree
    · rw [hnone] at hsome
      cases hsome
    · rw [hall, hw, Plan.carryOut_audits, Plan.carryOut_audits]
      refine ⟨rfl, Plan.change_evaluations _ _ _ _, fun hno => ?_, fun hyes => ?_⟩
      · have hfalse : failed = false := Bool.eq_false_iff.mpr fun h => hno (hfailed.mp h)
        rw [hfalse]
        rfl
      · rw [hfailed.mpr hyes]
        exact Plan.change_reopened _ w

end Redelivery

section Witness

/-- The environment in which one operation fails. -/
def failsAt (n : ℕ) : ℕ → ResolverEnv := fun i => if i = n then { fail := some "timeout" } else {}

/-- The lookup fails first, then the delivery goes through, then there is a duplicate. -/
def lookupFailsFirst : List (ℕ → ResolverEnv) := [failsAt 1, fun _ => { uuid := "a1" }, fun _ => {}]

theorem resolution_survives_failed_lookup :
    (plainResolver.failureFree threatConfirmed trustedDelivered).Succeeds ∧
      ((plainResolver.deliverAll threatConfirmed trustedDelivered lookupFailsFirst).audits "acme" "d1").map
          (·.content) =
        ((plainResolver.failureFree threatConfirmed trustedDelivered).world.audits "acme" "d1").map (·.content) ∧
      (plainResolver.deliverAll threatConfirmed trustedDelivered lookupFailsFirst).evaluations =
        (plainResolver.failureFree threatConfirmed trustedDelivered).world.evaluations ∧
      (plainResolver.deliverAll threatConfirmed trustedDelivered lookupFailsFirst).reopened =
        (plainResolver.failureFree threatConfirmed trustedDelivered).world.reopened := by
  obtain ⟨hfree, haudit, heval, hreopen, -⟩ := resolution_survives_redelivery plainResolver threatConfirmed
    trustedDelivered lookupFailsFirst (by decide +kernel) (by decide +kernel)
  exact ⟨hfree, haudit, heval, hreopen (by decide +kernel)⟩

/-- **Failures after the verdict.** A reopening that fails is only logged: the delivery succeeds, where one without a
failure reopens the banner. If the audit row fails, the next delivery finds the verdict overridden and records that
there was nothing to do. -/
theorem redelivery_after_late_failures :
    ((plainResolver.deliver threatConfirmed trustedDelivered (failsAt 4)).Succeeds ∧
      (plainResolver.deliverAll threatConfirmed trustedDelivered [failsAt 4]).reopened.length = 0 ∧
      (plainResolver.failureFree threatConfirmed trustedDelivered).world.reopened.length = 1) ∧
    ((∃ a ∈ plainResolver.deliveries threatConfirmed trustedDelivered [failsAt 5, fun _ => {}], a.Succeeds) ∧
      ((plainResolver.deliverAll threatConfirmed trustedDelivered [failsAt 5, fun _ => {}]).audits "acme" "d1").map
        (fun row => (row.originalVerdict, row.newVerdict)) = some (some .malicious, none) ∧
      ((plainResolver.failureFree threatConfirmed trustedDelivered).world.audits "acme" "d1").map
        (fun row => (row.originalVerdict, row.newVerdict)) = some (some .benign, some .malicious)) := by
  decide +kernel

end Witness

end Sn360Es.Escalation
