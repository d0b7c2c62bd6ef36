import Sn360Es.Config.ScoreEngine
import Sn360Es.Lib.Every
import Sn360Es.Lib.Phase

/-!
# Approval of tuning proposals (`internal/service/agent/tuning_approval.go`)

A change of the scoring configuration is held as a proposal until a reviewer approves or rejects it. `ApproveProposal`
reads the proposal, sets its status and writes the decision to the configuration; `RejectProposal` sets the status
whatever it is.

* `Orderly` — the condition on a step: an `Update` finds the proposal pending, and a write to the configuration
  succeeds;
* `proposal_decided_once` — then the proposal is decided once, applied at most once, and approved exactly if it is
  applied;
* `proposal_decided_twice` — two approvals that both read before either writes, a rejection after an approval, and a
  write to the configuration that fails.
-/

namespace Sn360Es.Agent

open Lib Config

/-- `TuningApprovalStatus`. -/
inductive TuningApprovalStatus where
  | proposed
  | approved
  | rejected
  deriving DecidableEq, Repr

def TuningApprovalStatus.name : TuningApprovalStatus → String
  | proposed => "proposed"
  | approved => "approved"
  | rejected => "rejected"

/-- The part of a `TuningDecision` that is applied. -/
structure TuningDecision where
  newWeights : Option ScoreWeights := none
  newThresholds : Option AgentThresholds := none

/-- A write to the `ConfigStore`. -/
inductive ConfigWrite where
  | weights (tenantID : String) (w : ScoreWeights)
  | thresholds (tenantID : String) (t : AgentThresholds)

/-- The writes of a decision, in their order. -/
def TuningDecision.writes (d : TuningDecision) (tenantID : String) : List ConfigWrite :=
  (d.newWeights.map (.weights tenantID)).toList ++ (d.newThresholds.map (.thresholds tenantID)).toList

/-- `TuningProposal`. `Tune` holds a decision for approval only if it changes something. -/
structure TuningProposal where
  id : String
  tenantID : String
  status : TuningApprovalStatus := .proposed
  decision : TuningDecision
  proposedAt : ℤ := 0
  reviewedAt : Option ℤ := none
  reviewedBy : String := ""
  changes : decision.newWeights.isSome ∨ decision.newThresholds.isSome

/-! ### Operations -/

inductive TuningOp where
  | get (id : String)
  | update (id : String) (status : TuningApprovalStatus) (reviewedBy : String)
  | config (u : ConfigWrite)

abbrev TuningOp.Ans : TuningOp → Type
  | get _ => Except String TuningProposal
  | update _ _ _ => Option String
  | config _ => Option String

/-- The proposals of `MemoryTuningProposalStore`, and what was written to the configuration, the first write first. -/
structure TuningWorld where
  proposals : String → Option TuningProposal
  written : List ConfigWrite := []

/-- `proposals[id] = p`. -/
def TuningWorld.put (w : TuningWorld) (id : String) (p : TuningProposal) : TuningWorld :=
  { w with proposals := Function.update w.proposals id (some p) }

/-- The status of the proposal. -/
def TuningWorld.status? (w : TuningWorld) (id : String) : Option TuningApprovalStatus :=
  (w.proposals id).map TuningProposal.status

@[simp] lemma TuningWorld.put_self (w : TuningWorld) (id : String) (p : TuningProposal) :
    (w.put id p).proposals id = some p := Function.update_self ..

@[simp] lemma TuningWorld.status?_put_self (w : TuningWorld) (id : String) (p : TuningProposal) :
    (w.put id p).status? id = some p.status := by
  rw [status?, put_self]
  rfl

lemma TuningWorld.status?_put_of_ne {id id' : String} (h : id ≠ id') (w : TuningWorld) (p : TuningProposal) :
    (w.put id' p).status? id = w.status? id := by
  exact congrArg (Option.map TuningProposal.status) (Function.update_of_ne h ..)

/-- The clock, and the error of a write to the configuration. -/
structure TuningEnv where
  now : ℤ := 0
  configError : Option String := none

def proposalNotFound (id : String) : String := "tuning_approval: proposal not found: " ++ id

/-- The effect of an operation; a write to the configuration that fails has none. -/
def TuningOp.exec : (o : TuningOp) → TuningEnv → TuningWorld → o.Ans × TuningWorld
  | get id, _, w =>
    match w.proposals id with
    | none => (.error (proposalNotFound id), w)
    | some p => (.ok p, w)
  | update id status reviewedBy, e, w =>
    match w.proposals id with
    | none => (some (proposalNotFound id), w)
    | some p =>
      (none, w.put id { p with status, reviewedBy, reviewedAt := some e.now })
  | config u, e, w =>
    match e.configError with
    | some err => (some err, w)
    | none => (none, { w with written := w.written ++ [u] })

abbrev TuningM := Prog TuningOp TuningOp.Ans

/-! ### The two calls -/

/-- The write of the weights in `ApproveProposal`. -/
def applyWeights (tenantID : String) (newWeights : Option ScoreWeights) : TuningM (Option String) := do
  match newWeights with
  | none => return none
  | some w =>
    match ← Prog.perform (TuningOp.config (.weights tenantID w)) with
    | some err => return some ("tuning_approval: apply weights: " ++ err)
    | none => return none

/-- The write of the thresholds in `ApproveProposal`. -/
def applyThresholds (tenantID : String) (newThresholds : Option AgentThresholds) : TuningM (Option String) := do
  match newThresholds with
  | none => return none
  | some t =>
    match ← Prog.perform (TuningOp.config (.thresholds tenantID t)) with
    | some err => return some ("tuning_approval: apply thresholds: " ++ err)
    | none => return none

/-- `ApproveProposal`: the error, if there is one. -/
def approveProposal (id approvedBy : String) : TuningM (Option String) := do
  match ← Prog.perform (TuningOp.get id) with
  | .error err => return some err
  | .ok p =>
    if p.status ≠ .proposed then
      return some ("tuning_approval: proposal " ++ id ++ " is not pending (status=" ++ p.status.name ++ ")")
    else
      match ← Prog.perform (TuningOp.update id .approved approvedBy) with
      | some err => return some ("tuning_approval: update: " ++ err)
      | none =>
        match ← applyWeights p.tenantID p.decision.newWeights with
        | some err => return some err
        | none => applyThresholds p.tenantID p.decision.newThresholds

/-- `RejectProposal`. -/
def rejectProposal (id rejectedBy : String) : TuningM (Option String) :=
  Prog.perform (TuningOp.update id .rejected rejectedBy)

/-- A call of a reviewer. -/
inductive Review where
  | approve (approvedBy : String)
  | reject (rejectedBy : String)

def Review.call (id : String) : Review → TuningM (Option String)
  | approve approvedBy => approveProposal id approvedBy
  | reject rejectedBy => rejectProposal id rejectedBy

abbrev ReviewPool := Pool TuningOp TuningOp.Ans (Option String) TuningWorld

/-- A step of the calls on one proposal. -/
def reviewStep (id : String) : ReviewPool → Pool.Label Review TuningEnv → Option ReviewPool :=
  Pool.step TuningOp.exec (Review.call id)

/-! ### Phases -/

/-- What a call has done: nothing, or set the status and written some of the decision. -/
inductive ReviewPhase where
  | idle
  | decided (status : TuningApprovalStatus) (done : List ConfigWrite)

def ReviewPhase.next : ReviewPhase → (o : TuningOp) → o.Ans → ReviewPhase
  | .idle, .update _ status _, none => .decided status []
  | .decided status done, .config u, none => .decided status (done ++ [u])
  | g, _, _ => g

/-- **The condition on a step**: an `Update` finds the proposal pending, and a write to the configuration succeeds. -/
def Orderly (w : TuningWorld) (e : TuningEnv) : TuningOp → Prop
  | .get _ => True
  | .update id _ _ => ∀ status ∈ w.status? id, status = .proposed
  | .config _ => e.configError = none

instance (w : TuningWorld) (e : TuningEnv) : ∀ o : TuningOp, Decidable (Orderly w e o)
  | .get _ => isTrue trivial
  | .update id _ _ => inferInstanceAs (Decidable (∀ status ∈ w.status? id, status = .proposed))
  | .config _ => inferInstanceAs (Decidable (e.configError = none))

/-- One call has set the status, and what it has done is what was written. -/
structure DecidedBy (p : TuningProposal) (status : TuningApprovalStatus) (gs : List ReviewPhase) (m : ℕ)
    (done : List ConfigWrite) : Prop where
  decider : gs[m]? = some (.decided status done)
  only : ∀ k g, gs[k]? = some g → g ≠ .idle → k = m
  part : done <+: p.decision.writes p.tenantID
  not_pending : status ≠ .proposed
  rejected : status = .rejected → done = []

/-- The books of the proposal `p`: as long as it is pending nothing was written, and then one call writes. -/
structure ReviewBooks (id : String) (p : TuningProposal) (base : List ConfigWrite) (w : TuningWorld)
    (gs : List ReviewPhase) : Prop where
  found : ∃ q, w.proposals id = some q ∧ q.tenantID = p.tenantID ∧ q.decision = p.decision
  pending : w.status? id = some .proposed → (∀ g ∈ gs, g = .idle) ∧ w.written = base
  decided : ∀ status, w.status? id = some status → status ≠ .proposed →
    ∃ m done, DecidedBy p status gs m done ∧ w.written = base ++ done

def reviewTracker (id : String) (p : TuningProposal) (base : List ConfigWrite) :
    Tracker TuningOp TuningOp.Ans TuningWorld TuningEnv ReviewPhase where
  exec := TuningOp.exec
  start := .idle
  next := ReviewPhase.next
  allows := fun w _ _ o e => Orderly w e o
  inv := ReviewBooks id p base

section Keeps

variable {id : String} {p : TuningProposal} {base : List ConfigWrite} {w : TuningWorld} {gs : List ReviewPhase}
  {g : ReviewPhase} {n : ℕ}

/-- A thread that joins has done nothing. -/
lemma ReviewBooks.spawn (h : ReviewBooks id p base w gs) : ReviewBooks id p base w (gs ++ [.idle]) where
  found := h.found
  pending := fun hst => by
    obtain ⟨hidle, hbase⟩ := h.pending hst
    refine ⟨fun g hg => ?_, hbase⟩
    rcases List.mem_append.mp hg with hg | hg
    · exact hidle g hg
    · exact List.mem_singleton.mp hg
  decided := fun status hst hne => by
    obtain ⟨m, done, hdec, hwritten⟩ := h.decided status hst hne
    have hlt : m < gs.length := (List.getElem?_eq_some_iff.mp hdec.decider).1
    refine ⟨m, done, { hdec with decider := ?_, only := fun k g hk hg => ?_ }, hwritten⟩
    · rw [List.getElem?_append_left hlt]
      exact hdec.decider
    · rw [List.getElem?_append] at hk
      split at hk
      · exact hdec.only k g hk hg
      · rw [List.getElem?_singleton] at hk
        split at hk
        · exact absurd (Option.some.inj hk).symm hg
        · cases hk

/-- `Get` finds the decision that was proposed. -/
lemma keeps_get : (reviewTracker id p base).Keeps (Prog.perform (TuningOp.get id)) .idle fun a g =>
    g = .idle ∧ ∀ q, a = .ok q → q.tenantID = p.tenantID ∧ q.decision = p.decision := by
  refine Tracker.keeps_perform fun e w gs n hinv hn _ a w' hexec => ?_
  obtain ⟨q, hq, htenant, hdecision⟩ := hinv.found
  simp only [reviewTracker, TuningOp.exec, hq] at hexec
  cases hexec
  refine ⟨?_, rfl, fun q' hq' => ?_⟩
  · have hsame : gs.set n .idle = gs := Tracker.set_self_eq hn
    simp only [reviewTracker, ReviewPhase.next]
    rw [hsame]
    exact hinv
  · cases hq'
    exact ⟨htenant, hdecision⟩

/-- An `Update` that finds the proposal pending decides it. -/
lemma keeps_update {status : TuningApprovalStatus} (hne : status ≠ .proposed) (reviewedBy : String) :
    (reviewTracker id p base).Keeps (Prog.perform (TuningOp.update id status reviewedBy)) .idle fun a g =>
      a = none ∧ g = .decided status [] := by
  refine Tracker.keeps_perform fun e w gs n hinv hn hok a w' hexec => ?_
  obtain ⟨q, hq, htenant, hdecision⟩ := hinv.found
  have hstatus : w.status? id = some q.status := by rw [TuningWorld.status?, hq]; rfl
  have hpending : w.status? id = some .proposed := by
    rw [hstatus]
    exact congrArg some (hok q.status hstatus)
  obtain ⟨hidle, hbase⟩ := hinv.pending hpending
  simp only [reviewTracker, TuningOp.exec, hq] at hexec
  cases hexec
  refine ⟨⟨⟨_, TuningWorld.put_self .., htenant, hdecision⟩, fun hst => ?_, fun st hst _ => ?_⟩, rfl, rfl⟩
  · rw [TuningWorld.status?_put_self] at hst
    exact absurd (Option.some.inj hst) hne
  · rw [TuningWorld.status?_put_self] at hst
    obtain rfl : status = st := Option.some.inj hst
    refine ⟨n, [], ⟨?_, fun k g hk hg => ?_, List.nil_prefix, hne, fun _ => rfl⟩, ?_⟩
    · exact List.getElem?_set_self (List.getElem?_eq_some_iff.mp hn).1
    · -- before this step nobody had done anything
      by_contra hkn
      rw [List.getElem?_set_ne fun h => hkn h.symm] at hk
      exact hg (hidle g (List.mem_of_getElem? hk))
    · rw [List.append_nil]
      exact hbase

/-- The call that has approved writes the next part of the decision. -/
lemma keeps_config {done : List ConfigWrite} {u : ConfigWrite}
    (hpart : done ++ [u] <+: p.decision.writes p.tenantID) : (reviewTracker id p base).Keeps
      (Prog.perform (TuningOp.config u)) (.decided .approved done) fun a g =>
        a = none ∧ g = .decided .approved (done ++ [u]) := by
  refine Tracker.keeps_perform fun e w gs n hinv hn hok a w' hexec => ?_
  have hok' : e.configError = none := hok
  simp only [reviewTracker, TuningOp.exec, hok'] at hexec
  cases hexec
  refine ⟨⟨hinv.found, fun hst => ?_, fun status hst hne => ?_⟩, rfl, rfl⟩
  · exact absurd ((hinv.pending hst).1 _ (List.mem_of_getElem? hn)) ReviewPhase.noConfusion
  · obtain ⟨m, done', hdec, hwritten⟩ := hinv.decided status hst hne
    obtain rfl : n = m := hdec.only n _ hn ReviewPhase.noConfusion
    obtain ⟨hstatus, hdone⟩ : status = .approved ∧ done' = done := by
      have hsame := hdec.decider.symm.trans hn
      simpa using hsame
    subst hstatus hdone
    refine ⟨n, done' ++ [u], ⟨?_, fun k g hk hg => ?_, hpart, hne, fun h => by cases h⟩, ?_⟩
    · exact List.getElem?_set_self (List.getElem?_eq_some_iff.mp hn).1
    · by_contra hkn
      rw [List.getElem?_set_ne fun h => hkn h.symm] at hk
      exact hkn (hdec.only k g hk hg)
    · rw [← List.append_assoc]
      exact congrArg (· ++ [u]) hwritten

/-- What a call that has returned has done. -/
def ReviewEnd (p : TuningProposal) (g : ReviewPhase) : Prop :=
  g = .idle ∨ g = .decided .approved (p.decision.writes p.tenantID) ∨ g = .decided .rejected []

lemma keeps_applyWeights : (reviewTracker id p base).Keeps
    (applyWeights p.tenantID p.decision.newWeights) (.decided .approved []) fun a g => a = none ∧
      g = .decided .approved (p.decision.newWeights.map (.weights p.tenantID)).toList := by
  unfold applyWeights
  cases hw : p.decision.newWeights with
  | none => exact ⟨rfl, rfl⟩
  | some w =>
    have hpart : [] ++ [.weights p.tenantID w] <+: p.decision.writes p.tenantID := by
      simp [TuningDecision.writes, hw]
    refine Tracker.Keeps.bind ((keeps_config hpart).mono fun a g hg => ?_)
    obtain ⟨rfl, rfl⟩ := hg
    exact ⟨rfl, rfl⟩

lemma keeps_applyThresholds : (reviewTracker id p base).Keeps
    (applyThresholds p.tenantID p.decision.newThresholds)
    (.decided .approved (p.decision.newWeights.map (.weights p.tenantID)).toList) fun _ g => ReviewEnd p g := by
  unfold applyThresholds
  cases ht : p.decision.newThresholds with
  | none =>
    refine .inr (.inl ?_)
    simp [TuningDecision.writes, ht]
  | some t =>
    have hpart : (p.decision.newWeights.map (.weights p.tenantID)).toList ++ [.thresholds p.tenantID t] =
        p.decision.writes p.tenantID := by
      simp [TuningDecision.writes, ht]
    have hlast : (p.decision.newWeights.map (.weights p.tenantID)).toList ++ [.thresholds p.tenantID t] <+:
        p.decision.writes p.tenantID := by
      rw [hpart]
    refine Tracker.Keeps.bind ((keeps_config hlast).mono fun a g hg => ?_)
    obtain ⟨rfl, rfl⟩ := hg
    exact .inr (.inl (congrArg _ hpart))

/-- **A call keeps the books.** -/
lemma keeps_review (r : Review) : (reviewTracker id p base).Keeps (r.call id) .idle fun _ g => ReviewEnd p g := by
  cases r with
  | reject rejectedBy =>
    refine (keeps_update (fun h => by cases h) rejectedBy).mono fun a g hg => ?_
    exact .inr (.inr hg.2)
  | approve approvedBy =>
    refine Tracker.Keeps.bind (keeps_get.mono fun a g hg => ?_)
    obtain ⟨rfl, hq⟩ := hg
    cases a with
    | error err => exact .inl rfl
    | ok q =>
      obtain ⟨htenant, hdecision⟩ := hq q rfl
      simp only [htenant, hdecision]
      split_ifs
      · exact .inl rfl
      · refine Tracker.Keeps.bind ((keeps_update (fun h => by cases h) approvedBy).mono fun a g hg => ?_)
        obtain ⟨rfl, rfl⟩ := hg
        refine Tracker.Keeps.bind (keeps_applyWeights.mono fun a g hg => ?_)
        obtain ⟨rfl, rfl⟩ := hg
        exact keeps_applyThresholds

end Keeps

/-! ### Any number of calls -/

section Runs

/-- The condition on a step of the calls. -/
def OrderlyStep : ReviewPool → Pool.Label Review TuningEnv → Prop := Pool.Permits fun w o e => Orderly w e o

instance (s : ReviewPool) (l : Pool.Label Review TuningEnv) : Decidable (OrderlyStep s l) :=
  inferInstanceAs (Decidable (Pool.Permits (fun w o e => Orderly w e o) s l))

/-- The step changes the status of the proposal. -/
def changesStatus (id : String) (s s' : ReviewPool) : Bool := s.shared.status? id ≠ s'.shared.status? id

/-- The step takes the proposal out of the status `proposed`. -/
def leavesProposed (id : String) (s s' : ReviewPool) : Bool :=
  s.shared.status? id = some .proposed && s'.shared.status? id ≠ some .proposed

variable {id : String} {s s' : ReviewPool} {l : Pool.Label Review TuningEnv}

/-- An operation that meets the condition changes the status only of a pending proposal. -/
lemma exec_status {w : TuningWorld} {e : TuningEnv} {o : TuningOp} (h : Orderly w e o) :
    (o.exec e w).2.status? id = w.status? id ∨ w.status? id = some .proposed := by
  cases o with
  | get i =>
    simp only [TuningOp.exec]
    split <;> exact .inl rfl
  | config u =>
    simp only [TuningOp.exec]
    split <;> exact .inl rfl
  | update i status reviewedBy =>
    simp only [TuningOp.exec]
    cases hq : w.proposals i with
    | none => exact .inl rfl
    | some q =>
      by_cases hi : id = i
      · subst hi
        have hstatus : w.status? id = some q.status := by rw [TuningWorld.status?, hq]; rfl
        right
        rw [hstatus]
        exact congrArg some (h q.status hstatus)
      · exact .inl (TuningWorld.status?_put_of_ne hi w _)

lemma step_status (hok : OrderlyStep s l) (hst : reviewStep id s l = some s') :
    s'.shared.status? id = s.shared.status? id ∨ s.shared.status? id = some .proposed := by
  obtain ⟨i, rfl, rfl⟩ | ⟨n, e, done, o, k, rfl, hn, rfl⟩ := Pool.step_cases hst
  · exact .inl rfl
  · simp only [OrderlyStep, Pool.Permits, hn] at hok
    exact exec_status hok

/-- The status changes at most once. -/
lemma countSteps_status_le {P : ReviewPool → ReviewPool → Bool}
    (hP : ∀ s s', P s s' = true → changesStatus id s s' = true) {ls : List (Pool.Label Review TuningEnv)}
    (hmeets : Lts.Meets (reviewStep id) OrderlyStep s ls) : Lts.countSteps (reviewStep id) P s ls ≤ 1 := by
  refine le_trans (Lts.countSteps_le (Φ := fun s => if s.shared.status? id = some .proposed then 1 else 0)
    (fun s l s' hok hst => ?_) hmeets) (by split_ifs <;> omega)
  have hcases : P s s' = true → s.shared.status? id = some .proposed ∧ s'.shared.status? id ≠ some .proposed := by
    intro hp
    have hchange : s.shared.status? id ≠ s'.shared.status? id := of_decide_eq_true (hP s s' hp)
    have hpending := (step_status hok hst).resolve_left fun h => hchange h.symm
    exact ⟨hpending, fun h => hchange (hpending.trans h.symm)⟩
  cases hp : P s s' with
  | true =>
    obtain ⟨hbefore, hafter⟩ := hcases hp
    simp [hbefore, hafter]
  | false =>
    rcases step_status hok hst with hsame | hpending
    · simp [hsame]
    · simp only [hpending, if_true, Bool.toNat_false]
      split_ifs <;> omega

variable {w : TuningWorld} {p : TuningProposal} {ls : List (Pool.Label Review TuningEnv)}

lemma review_holds (hp : w.proposals id = some p) (hpending : p.status = .proposed)
    (hmeets : Lts.Meets (reviewStep id) OrderlyStep ⟨w, []⟩ ls)
    (hrun : Lts.run (reviewStep id) ⟨w, []⟩ ls = some s) :
    (reviewTracker id p w.written).Holds (fun _ _ g => ReviewEnd p g) s := by
  refine Tracker.run_holds (fun w gs hinv => hinv.spawn) (fun r _ => keeps_review r) (Tracker.holds_nil ?_) hmeets hrun
  refine ⟨⟨p, hp, rfl, rfl⟩, fun _ => ⟨fun g hg => (by cases hg), rfl⟩, fun status hst hne => ?_⟩
  rw [TuningWorld.status?, hp, Option.map_some, hpending] at hst
  exact absurd (Option.some.inj hst).symm hne

/-- **A proposal is decided once.** Its status changes at most once, so it leaves `proposed` at most once; no part of
its decision is written twice; and when all calls have returned, it is approved exactly if its decision was written. -/
theorem proposal_decided_once (id : String) (w : TuningWorld) (p : TuningProposal) (hp : w.proposals id = some p)
    (hpending : p.status = .proposed) (s : ReviewPool) (ls : List (Pool.Label Review TuningEnv))
    (hmeets : Lts.Meets (reviewStep id) OrderlyStep ⟨w, []⟩ ls)
    (hrun : Lts.run (reviewStep id) ⟨w, []⟩ ls = some s) :
    Lts.countSteps (reviewStep id) (leavesProposed id) ⟨w, []⟩ ls ≤ 1 ∧
      Lts.countSteps (reviewStep id) (changesStatus id) ⟨w, []⟩ ls ≤ 1 ∧
      (∃ done, done <+: p.decision.writes p.tenantID ∧ s.shared.written = w.written ++ done) ∧
      ((∀ t ∈ s.threads, t.Finished) → (s.shared.status? id = some .approved ↔
        s.shared.written = w.written ++ p.decision.writes p.tenantID)) := by
  have hholds := review_holds hp hpending hmeets hrun
  obtain ⟨q, hq, -, -⟩ := hholds.inv.found
  have hstatus : s.shared.status? id = some q.status := by rw [TuningWorld.status?, hq]; rfl
  have hwrites : p.decision.writes p.tenantID ≠ [] := by
    rcases p.changes with h | h <;> obtain ⟨x, hx⟩ := Option.isSome_iff_exists.mp h <;>
      simp [TuningDecision.writes, hx]
  refine ⟨countSteps_status_le (fun s s' h => ?_) hmeets, countSteps_status_le (fun _ _ h => h) hmeets, ?_, ?_⟩
  · simp only [leavesProposed, Bool.and_eq_true, decide_eq_true_eq] at h
    exact decide_eq_true fun hsame => h.2 (hsame ▸ h.1)
  · by_cases hst : q.status = .proposed
    · exact ⟨[], List.nil_prefix, by rw [(hholds.inv.pending (hst ▸ hstatus)).2, List.append_nil]⟩
    · obtain ⟨m, done, hdec, hwritten⟩ := hholds.inv.decided q.status hstatus hst
      exact ⟨done, hdec.part, hwritten⟩
  · intro hfinished
    rw [hstatus, Option.some.injEq]
    by_cases hst : q.status = .proposed
    · rw [(hholds.inv.pending (hst ▸ hstatus)).2, hst]
      simpa using hwrites
    · obtain ⟨m, done, hdec, hwritten⟩ := hholds.inv.decided q.status hstatus hst
      rw [hwritten, List.append_cancel_left_eq]
      -- the call that has decided has returned
      have hphase := hdec.decider
      rw [reviewTracker, Tracker.phases, List.getElem?_map, Option.map_eq_some_iff] at hphase
      obtain ⟨t, ht, hphase⟩ := hphase
      obtain ⟨a, ha⟩ := hfinished t (List.mem_of_getElem? ht)
      have hret : t.result? = some a := by rw [Thread.result?, ha]
      have hend : ReviewEnd p (.decided q.status done) := hphase ▸ hholds.returned ht hret
      rcases hend with hend | hend | hend
      · cases hend
      · obtain ⟨hq, hdone⟩ := ReviewPhase.decided.inj hend
        exact ⟨fun _ => hdone, fun _ => hq⟩
      · obtain ⟨hq, hdone⟩ := ReviewPhase.decided.inj hend
        rw [hq, hdone]
        exact ⟨fun h => (by cases h), fun h => absurd h.symm hwrites⟩

end Runs

section Witness

/-- A proposal that changes the thresholds of the tenant `acme`. -/
def stricterBanners : TuningProposal where
  id := "tp-acme-1"
  tenantID := "acme"
  decision := { newThresholds := some ⟨20, 60, 85, 70, 50, 30, 15⟩ }
  changes := .inr rfl

def oneProposal : TuningWorld := { proposals := Function.update (fun _ => none) "tp-acme-1" (some stricterBanners) }

/-- The status and the number of writes at the end of a run in which every call has returned. -/
def reviewed (s : ReviewPool) : Option (Option TuningApprovalStatus × ℕ) :=
  if ∀ t ∈ s.threads, t.Finished then some (s.shared.status? "tp-acme-1", s.shared.written.length) else none

/-- The first approval returns before the second one reads. -/
def approveTwice : List (Pool.Label Review TuningEnv) :=
  [.spawn (.approve "ann"), .spawn (.approve "bob"), .advance 0 {}, .advance 0 {}, .advance 0 {}, .advance 1 {}]

theorem proposal_decided_once_approved : ∃ s,
    Lts.run (reviewStep "tp-acme-1") ⟨oneProposal, []⟩ approveTwice = some s ∧
      reviewed s = some (some .approved, 1) ∧
      Lts.countSteps (reviewStep "tp-acme-1") (leavesProposed "tp-acme-1") ⟨oneProposal, []⟩ approveTwice ≤ 1 ∧
      Lts.countSteps (reviewStep "tp-acme-1") (changesStatus "tp-acme-1") ⟨oneProposal, []⟩ approveTwice ≤ 1 ∧
      (∃ done, done <+: stricterBanners.decision.writes "acme" ∧ s.shared.written = oneProposal.written ++ done) ∧
      ((∀ t ∈ s.threads, t.Finished) → (s.shared.status? "tp-acme-1" = some .approved ↔
        s.shared.written = oneProposal.written ++ stricterBanners.decision.writes "acme")) := by
  have hend : (Lts.run (reviewStep "tp-acme-1") ⟨oneProposal, []⟩ approveTwice).map reviewed =
      some (some (some .approved, 1)) := by
    decide +kernel
  obtain ⟨s, hrun, hs⟩ := Option.map_eq_some_iff.mp hend
  exact ⟨s, hrun, hs, proposal_decided_once "tp-acme-1" oneProposal stricterBanners rfl rfl s approveTwice
    (by decide +kernel) hrun⟩

/-- Both approvals read before either of them writes. -/
def approveTogether : List (Pool.Label Review TuningEnv) :=
  [.spawn (.approve "ann"), .spawn (.approve "bob"), .advance 0 {}, .advance 1 {}, .advance 0 {}, .advance 1 {},
    .advance 0 {}, .advance 1 {}]

/-- An approval, and then a rejection. -/
def approveThenReject : List (Pool.Label Review TuningEnv) :=
  [.spawn (.approve "ann"), .spawn (.reject "bob"), .advance 0 {}, .advance 0 {}, .advance 0 {}, .advance 1 {}]

/-- An approval whose write to the configuration fails. -/
def approveInVain : List (Pool.Label Review TuningEnv) :=
  [.spawn (.approve "ann"), .advance 0 {}, .advance 0 {}, .advance 0 { configError := some "timeout" }]

/-- **A proposal that is decided twice.** The one decision is written twice; a proposal that was applied ends as
rejected; and one that was not applied ends as approved. -/
theorem proposal_decided_twice :
    (stricterBanners.decision.writes "acme").length = 1 ∧
      (Lts.run (reviewStep "tp-acme-1") ⟨oneProposal, []⟩ approveTogether).map reviewed =
        some (some (some .approved, 2)) ∧
      (Lts.run (reviewStep "tp-acme-1") ⟨oneProposal, []⟩ approveThenReject).map reviewed =
        some (some (some .rejected, 1)) ∧
      (Lts.run (reviewStep "tp-acme-1") ⟨oneProposal, []⟩ approveInVain).map reviewed =
        some (some (some .approved, 0)) := by
  decide +kernel

end Witness

end Sn360Es.Agent
