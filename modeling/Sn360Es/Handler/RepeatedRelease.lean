import Sn360Es.Action.ReleaseFencing
import Sn360Es.Handler.Quarantine
import Sn360Es.Lib.Late

/-!
# Repeated self-service releases (`internal/service/selfrelease/service.go`)

Any number of calls of the self-release service, over the release service of the operators, interleaved operation by
operation. The release takes the reference out of the store, and a call that starts afterwards does not find it; the
`already_released` that the package speaks of is for a call that overlaps the release.

* `holds_run` — a reference is in the store, with one call, or used up, whatever fails;
* `later_release_not_found` — so a call that starts after a release returns `not_found`, or an error if the store fails,
  and changes nothing;
* `repeated_release_iff` — and never `already_released`.
-/

namespace Sn360Es.Handler

open Lib Sn360Es.Action SelfRelease

/-! ### Who has the reference -/

/-- Where a call stands: it does not have the reference, has claimed it, or has released the message. -/
inductive ClaimPhase where
  | free
  | holding
  | used
  deriving DecidableEq, Repr

/-- How an operation changes the phase, for the reference under `key`. -/
def ClaimPhase.next (key : String) : ClaimPhase → (o : Op) → o.Ans → ClaimPhase
  | .free, .getDel k, .ok (some _) => if k = key then .holding else .free
  | .holding, .set _ k _, none => if k = key then .free else .holding
  | .holding, .restoreFromQuarantine _ _ _ _ _, (_, none) => .used
  | g, _, _ => g

/-- The call has the reference, or had it last. -/
def ClaimPhase.busy : ClaimPhase → Bool
  | .free => false
  | _ => true

/-- The reference is in at most one place. -/
def AtMostOne (key : String) (st : Store) (gs : List ClaimPhase) : Prop :=
  (st key).isSome.toNat + gs.countP ClaimPhase.busy ≤ 1

def claimTracker (key : String) : Tracker Op Op.Ans Store Environment ClaimPhase where
  exec := exec
  start := .free
  next := ClaimPhase.next key
  allows _ _ _ _ _ := True
  inv := AtMostOne key

/-- The phase of a call that has claimed the reference under `k`. -/
def claimed (key k : String) : ClaimPhase := if k = key then .holding else .free

/-- The phase of a call that has released the message of the reference under `k`. -/
def releasedPhase (key k : String) : ClaimPhase := if k = key then .used else .free

/-- An operation that is none of the claim, the writes and the restore. -/
def isNeutral : Op → Bool
  | .getDel _ | .set _ _ _ | .restoreFromQuarantine _ _ _ _ _ => false
  | _ => true

section Rules

variable {key k : String} {g : ClaimPhase}

lemma next_neutral {o : Op} (ho : isNeutral o = true) (a : o.Ans) : ClaimPhase.next key g o a = g := by
  cases o <;> cases g <;> first | rfl | exact absurd ho Bool.false_ne_true

lemma exec_neutral {o : Op} (ho : isNeutral o = true) (e : Environment) (st : Store) : (exec o e st).2 = st := by
  cases o with
  | get k =>
    simp only [exec, Environment.onStore]
    split <;> rfl
  | _ => first | rfl | exact absurd ho Bool.false_ne_true

lemma keeps_neutral {α : Type} {p : ActionM α} {Q : α → ClaimPhase → Prop} (hp : p.Every fun o => isNeutral o = true)
    (hQ : ∀ a, Q a g) : (claimTracker key).Keeps p g Q := by
  refine Tracker.keeps_of_every (fun o e st ho => ⟨fun gs hinv => ?_, next_neutral ho _⟩) hp hQ
  show AtMostOne key (exec o e st).2 gs
  rw [exec_neutral ho]
  exact hinv

/-- What changes when the call at `n` does. -/
lemma atMostOne_set_iff {st : Store} {gs : List ClaimPhase} {n : ℕ} (hn : gs[n]? = some g) (g' : ClaimPhase) :
    AtMostOne key st (gs.set n g') ↔
      (st key).isSome.toNat + gs.countP ClaimPhase.busy + g'.busy.toNat ≤ 1 + g.busy.toNat := by
  have hcount := Tracker.countP_set_add hn g' ClaimPhase.busy
  unfold AtMostOne
  omega

/-- The claim. -/
lemma keeps_getDel {Q : Except String (Option String) → ClaimPhase → Prop} (herr : ∀ err, Q (.error err) .free)
    (hnone : Q (.ok none) .free) (hsome : ∀ v, Q (.ok (some v)) (claimed key k)) :
    (claimTracker key).Keeps (ActionM.getDel k) .free Q := by
  intro e st gs n hinv hn _
  have hinv : AtMostOne key st gs := hinv
  simp only [claimTracker, exec, Environment.onStore]
  cases e.storeError .caller with
  | some err =>
    refine ⟨?_, herr err⟩
    rw [show ClaimPhase.next key .free (.getDel k) (.error err) = .free from rfl, Tracker.set_self_eq hn]
    exact hinv
  | none =>
    cases hv : st k with
    | none =>
      refine ⟨?_, hnone⟩
      have hsame : Function.update st k none = st := by
        rw [← hv]
        exact Function.update_eq_self k st
      rw [show ClaimPhase.next key .free (.getDel k) (.ok none) = .free from rfl, Tracker.set_self_eq hn, hsame]
      exact hinv
    | some v =>
      refine ⟨?_, hsome v⟩
      rw [show ClaimPhase.next key .free (.getDel k) (.ok (some v)) = claimed key k from rfl, atMostOne_set_iff hn]
      unfold AtMostOne at hinv
      unfold claimed
      by_cases hk : k = key
      · subst hk
        simp [hv, ClaimPhase.busy] at hinv ⊢
        omega
      · simpa [hk, ClaimPhase.busy, Function.update_of_ne (Ne.symm hk)] using hinv

/-- A write of a call that has the reference. -/
lemma keeps_set {ctx : Ctx} {v : String} {Q : Option String → ClaimPhase → Prop} (hQ : ∀ a g, Q a g) :
    (claimTracker key).Keeps (ActionM.set ctx k v) (claimed key k) Q := by
  intro e st gs n hinv hn _
  refine ⟨?_, hQ _ _⟩
  have hinv : AtMostOne key st gs := hinv
  simp only [claimTracker, exec, Environment.onStore]
  cases e.storeError ctx with
  | some err =>
    rw [show ClaimPhase.next key (claimed key k) (.set ctx k v) (some err) = claimed key k by
      unfold claimed; split <;> rfl, Tracker.set_self_eq hn]
    exact hinv
  | none =>
    rw [atMostOne_set_iff hn]
    unfold AtMostOne at hinv
    unfold claimed at hn ⊢
    by_cases hk : k = key
    · subst hk
      have hpos : 0 < gs.countP ClaimPhase.busy :=
        List.countP_pos_iff.mpr ⟨_, List.mem_of_getElem? hn, by simp [ClaimPhase.busy]⟩
      simp [ClaimPhase.next, ClaimPhase.busy]
      omega
    · simpa [hk, ClaimPhase.next, ClaimPhase.busy, Function.update_of_ne (Ne.symm hk)] using hinv

/-- The restore. -/
lemma keeps_restoreFromQuarantine {kind : LabelProviderKind} {email id label body : String}
    {Q : String × Option String → ClaimPhase → Prop} (hok : ∀ newID, Q (newID, none) (releasedPhase key k))
    (herr : ∀ newID err, Q (newID, some err) (claimed key k)) :
    (claimTracker key).Keeps (ActionM.restoreFromQuarantine kind email id label body) (claimed key k) Q := by
  intro e st gs n hinv hn _
  have hinv : AtMostOne key st gs := hinv
  simp only [claimTracker, exec]
  rcases e.restoreFromQuarantine kind email id label body with ⟨newID, _ | err⟩
  · have hnext : ClaimPhase.next key (claimed key k) (.restoreFromQuarantine kind email id label body) (newID, none) =
        releasedPhase key k := by
      unfold claimed releasedPhase
      split <;> rfl
    rw [hnext]
    refine ⟨?_, hok newID⟩
    rw [atMostOne_set_iff hn]
    unfold AtMostOne at hinv
    unfold claimed releasedPhase
    split <;> simp [ClaimPhase.busy] <;> omega
  · have hnext : ClaimPhase.next key (claimed key k) (.restoreFromQuarantine kind email id label body)
        (newID, some err) = claimed key k := by
      unfold claimed
      split <;> rfl
    rw [hnext, Tracker.set_self_eq hn]
    exact ⟨hinv, herr newID err⟩

end Rules

/-! ### The calls -/

/-- A release that was allowed has used the reference up. -/
def Settled (key k : String) (r : ReleaseOutcome × Option ReleaseError) (g : ClaimPhase) : Prop :=
  r.2 = none → r.1.reason = some .allowed → g = releasedPhase key k

section Calls

variable {key tenant msg : String} {s : ReleaseService} {q : QuarantineService}

lemma settled_error {k : String} {g : ClaimPhase} (o : ReleaseOutcome) (err : ReleaseError) :
    Settled key k (o, some err) g := by
  intro hnone
  cases hnone

lemma settled_reason {k : String} {g : ClaimPhase} {o : ReleaseOutcome} {r : ReleaseReason}
    (ho : o.reason = some r) (hr : r ≠ .allowed) : Settled key k (o, none) g := by
  intro _ hallowed
  rw [show (o, (none : Option ReleaseError)).1.reason = some r from ho] at hallowed
  exact absurd (Option.some.inj hallowed) hr

/-- A claim has the reference exactly when it returns a record. -/
lemma keeps_claimReference {Q : Except String (Option QuarantineRecord) → ClaimPhase → Prop}
    (herr : ∀ err g, Q (.error err) g) (hnone : Q (.ok none) .free)
    (hsome : ∀ record, Q (.ok (some record)) (claimed key (quarantineKey tenant msg))) :
    (claimTracker key).Keeps (q.claimReference tenant msg) .free Q := by
  unfold QuarantineService.claimReference
  refine .bind (keeps_getDel (fun err => herr _ _) hnone fun encHex => ?_)
  refine .bind (keeps_neutral (every_decodeReference (fun _ _ => rfl) _ _) fun r => ?_)
  rcases r with ⟨op, err⟩ | record
  · refine .bind (keeps_set fun a g => ?_)
    cases a <;> exact herr _ _
  · exact hsome record

lemma keeps_persist {record : QuarantineRecord} {Q : Option String → ClaimPhase → Prop} (hQ : ∀ a g, Q a g) :
    (claimTracker key).Keeps (q.persist tenant msg record) (claimed key (quarantineKey tenant msg)) Q := by
  unfold QuarantineService.persist
  refine .bind (keeps_neutral (Prog.every_perform rfl) fun r => ?_)
  rcases r with err | enc
  · exact hQ _ _
  · refine .bind (keeps_set fun a g => ?_)
    cases a <;> exact hQ _ _

lemma keeps_finish {req : ReleaseRequest} {o : ReleaseOutcome} {g : ClaimPhase} {k : String}
    (h : Settled key k (o, none) g) : (claimTracker key).Keeps (s.finish req o) g (Settled key k) := by
  unfold ReleaseService.finish
  exact .bind (keeps_neutral (every_publishOutcome (fun _ _ _ => rfl) s req o) fun _ => h)

lemma keeps_restoreClaimed (req : ReleaseRequest) (o : ReleaseOutcome) (record : QuarantineRecord) :
    (claimTracker key).Keeps (s.restoreClaimed req o record)
      (claimed key (quarantineKey req.tenantID req.pseudonymizedMessage))
      (Settled key (quarantineKey req.tenantID req.pseudonymizedMessage)) := by
  unfold ReleaseService.restoreClaimed
  simp only
  split
  · exact .bind (keeps_persist fun _ _ => settled_error _ _)
  · refine .bind (keeps_restoreFromQuarantine (fun newID => ?_) fun newID err => ?_)
    · exact keeps_finish fun _ _ => rfl
    · exact .bind (keeps_persist fun _ _ => settled_error _ _)

/-- **A call of `Release`** keeps the reference in one place. -/
theorem keeps_release (req : ReleaseRequest) :
    (claimTracker key).Keeps (s.release req) .free
      (Settled key (quarantineKey req.tenantID req.pseudonymizedMessage)) := by
  unfold ReleaseService.release
  split
  · exact settled_error _ _
  refine .bind (keeps_neutral (every_lookupReference (fun _ => rfl) (fun _ _ => rfl) _ _) fun r => ?_)
  rcases r with err | _ | record
  · exact settled_error _ _
  · refine .bind (keeps_neutral (Prog.every_perform rfl) fun t => ?_)
    exact keeps_finish (settled_reason rfl (by decide))
  refine .bind (keeps_neutral (Prog.every_perform rfl) fun r => ?_)
  rcases r with err | verdict
  · exact settled_error _ _
  refine .bind (keeps_neutral (Prog.every_perform rfl) fun t => ?_)
  simp only
  split
  · exact keeps_finish (settled_reason rfl (by decide))
  refine .bind (keeps_claimReference (fun _ _ => settled_error _ _) ?_ fun record => ?_)
  · exact keeps_finish (settled_reason rfl (by decide))
  · exact keeps_restoreClaimed req _ record

end Calls

/-! ### Self-service -/

/-- A call of the self-release service, which returns with its request. -/
def selfRelease (s : ReleaseService) (req : Request) : HandlerM (Request × Except String Result) := do
  return (req, ← (selfReleaseService s).release req)

/-- The calls of the self-release service, operation by operation. -/
def selfReleaseStep (s : ReleaseService) := Pool.step handlerExec (selfRelease s)

abbrev SelfReleasePool := Pool HandlerOp HandlerAns (Request × Except String Result) HandlerWorld

/-- The key of the message that is asked for. -/
def requestKey (req : Request) : String := quarantineKey req.tenantID req.pseudoMessageID

/-- A call that has released its message has used the reference up. -/
def SelfSettled (key : String) (r : Request × Except String Result) (g : ClaimPhase) : Prop :=
  ∀ res, r.2 = .ok res → res.outcome = .released → g = releasedPhase key (requestKey r.1)

/-- The tracker among the operations of the endpoint. -/
def selfTracker (key : String) := (claimTracker key).inl AuditOp.exec

section SelfService

variable {key : String} {s : ReleaseService} {req : Request} {g : ClaimPhase}

lemma keeps_audit {o : ReleaseOp} {Q : o.Ans → ClaimPhase → Prop} (hQ : ∀ a, Q a g) :
    (selfTracker key).Keeps (HandlerM.audit o) g Q := Tracker.keeps_inr hQ

lemma keeps_auditedWithRestored {requestedAt : ℤ} {outcome : QuarantineReleaseOutcome} {reason : String}
    {restored : Bool} {Q : Result → ClaimPhase → Prop} (hQ : ∀ res, res.outcome = outcome → Q res g) :
    (selfTracker key).Keeps ((selfReleaseService s).auditedWithRestored req requestedAt outcome reason restored) g
      Q := by
  unfold Service.auditedWithRestored
  refine .bind (keeps_audit fun r => ?_)
  cases r <;> exact hQ _ rfl

/-- What is returned after an audit row was written. -/
lemma keeps_audited {requestedAt : ℤ} {outcome : QuarantineReleaseOutcome} {reason : String}
    {Q : Except String Result → ClaimPhase → Prop} (hQ : ∀ res, res.outcome = outcome → Q (.ok res) g) :
    (selfTracker key).Keeps (do return .ok (← (selfReleaseService s).audited req requestedAt outcome reason)) g Q :=
  .bind (keeps_auditedWithRestored hQ)

/-- The outcome of a call is `released` only if the release was allowed. -/
lemma keeps_fromRunnerOutcome {requestedAt : ℤ} {o : ReleaseOutcome} {Q : Result → ClaimPhase → Prop}
    (hallowed : o.reason = some .allowed → ∀ res, res.outcome = .released → Q res g)
    (hother : ∀ res, res.outcome ≠ .released → Q res g) :
    (selfTracker key).Keeps ((selfReleaseService s).fromRunnerOutcome req requestedAt o) g Q := by
  unfold Service.fromRunnerOutcome
  split
  · next hreason => exact keeps_auditedWithRestored (hallowed hreason)
  all_goals
    refine keeps_auditedWithRestored fun res hres => hother res ?_
    rw [hres]
    decide

/-- **A call of the self-release service** keeps the reference in one place. -/
lemma keeps_selfRelease (req : Request) : (selfTracker key).Keeps (selfRelease s req) .free (SelfSettled key) := by
  have hother : ∀ {g : ClaimPhase} {outcome : QuarantineReleaseOutcome} {res : Result}, res.outcome = outcome →
      outcome ≠ .released → SelfSettled key (req, .ok res) g := by
    rintro g outcome res hres hne _ ⟨⟩ hreleased
    exact absurd (hres.symm.trans hreleased) hne
  have herr : ∀ {g : ClaimPhase} {err : String}, SelfSettled key (req, .error err) g := by
    rintro g err _ ⟨⟩
  unfold selfRelease
  refine .bind ?_
  unfold Service.release
  split_ifs
  · exact herr
  · exact herr
  · exact herr
  refine .bind (keeps_audit fun requestedAt => .bind (Tracker.keeps_inl (keeps_neutral
    (every_lookupReference (fun _ => rfl) (fun _ _ => rfl) _ _) fun r => ?_)))
  rcases r with err | _ | record
  · exact herr
  · exact keeps_audited fun res hres => hother hres (by decide)
  simp only
  split
  · exact keeps_audited fun res hres => hother hres (by decide)
  refine .bind (keeps_audit fun policy => ?_)
  rcases policy with err | policy
  · exact herr
  simp only
  split
  · exact keeps_audited fun res hres => hother hres (by decide)
  refine .bind (keeps_audit fun count => ?_)
  rcases count with err | count
  · exact herr
  simp only
  split
  · exact keeps_audited fun res hres => hother hres (by decide)
  refine .bind (Tracker.keeps_inl ((keeps_release _).mono fun r g hsettled => ?_))
  rcases r with ⟨o, _ | err⟩
  · refine .bind (keeps_fromRunnerOutcome (fun hallowed res _ => ?_) fun res hres => hother rfl hres)
    rintro _ ⟨⟩ -
    exact hsettled rfl hallowed
  · exact herr

end SelfService

/-! ### Runs -/

/-- A call for the message has returned that it released it. -/
def HasReleased (p : SelfReleasePool) (tenant msg : String) : Prop :=
  ∃ t ∈ p.threads, ∃ req res, t.result? = some (req, .ok res) ∧ req.tenantID = tenant ∧ req.pseudoMessageID = msg ∧
    res.outcome = .released

/-- A call `t` for the message that starts after `p` has returned in `p'` with `res`. -/
def ReturnsLater (p p' : SelfReleasePool) (tenant msg : String) (req : Request)
    (t : Thread HandlerOp HandlerAns (Request × Except String Result)) (res : Except String Result) : Prop :=
  ∃ n, p.threads.length ≤ n ∧ p'.threads[n]? = some t ∧ t.result? = some (req, res) ∧ req.tenantID = tenant ∧
    req.pseudoMessageID = msg

/-- An operation that changes a mailbox. -/
def isMutation : HandlerOp → Bool
  | .inl (.ensureQuarantineLabel _ _) | .inl (.moveToQuarantine _ _ _ _ _)
  | .inl (.restoreFromQuarantine _ _ _ _ _) => true
  | _ => false

/-- An operation that changes a mailbox or a reference, or tells others about it. -/
def isChange : HandlerOp → Bool
  | .inl (.getDel _) | .inl (.set _ _ _) | .inl (.publish _ _ _) => true
  | o => isMutation o

/-- The request lacks something that `Release` asks for. -/
def Incomplete (req : Request) : Prop :=
  req.tenantID = "" ∨ req.pseudoMessageID = "" ∨ req.recipientUserHash = []

/-- The store has not answered what is under `key`. -/
def StoreFailed (key : String) (done : List ((o : HandlerOp) × HandlerAns o)) : Prop :=
  ∃ err : String, (⟨.inl (.get key), .error err⟩ : (o : HandlerOp) × HandlerAns o) ∈ done

/-- **What the package says**: once a call has returned `released`, every later call for the message returns
`already_released` and changes no mailbox. -/
def IdempotentFrom (p p' : SelfReleasePool) (tenant msg : String) : Prop :=
  HasReleased p tenant msg → ∀ req t res, ReturnsLater p p' tenant msg req t res →
    (∃ r, res = .ok r ∧ r.outcome = .alreadyReleased) ∧ ∀ x ∈ t.performed, isMutation x.1 = false

section Runs

variable {s : ReleaseService} {key : String} {p p' : SelfReleasePool} {ls : List (Pool.Label Request HandlerEnv)}

lemma selfTracker_allows (p : SelfReleasePool) (l : Pool.Label Request HandlerEnv) :
    (selfTracker key).Allows p l := by
  refine Tracker.allows_of_forall (fun _ _ _ o _ => ?_) l
  cases o <;> trivial

/-- The reference stays in at most one place. -/
lemma holds_step {l : Pool.Label Request HandlerEnv} (h : (selfTracker key).Holds (fun _ => SelfSettled key) p)
    (hst : selfReleaseStep s p l = some p') : (selfTracker key).Holds (fun _ => SelfSettled key) p' := by
  refine h.step (fun w gs hinv => ?_) (fun req _ => keeps_selfRelease req) (selfTracker_allows p l) hst
  show AtMostOne key w.1 (gs ++ [.free])
  have hinv : AtMostOne key w.1 gs := hinv
  unfold AtMostOne at hinv ⊢
  rw [List.countP_append]
  simpa [ClaimPhase.busy] using hinv

/-- **In every run** the reference is in at most one place. -/
lemma holds_run (h : (selfTracker key).Holds (fun _ => SelfSettled key) p)
    (hrun : Lts.run (selfReleaseStep s) p ls = some p') :
    (selfTracker key).Holds (fun _ => SelfSettled key) p' :=
  Lts.run_induct (C := fun _ _ => True) (fun _ _ _ hp _ hst => holds_step hp hst) h
    (Lts.meets_of_forall p fun _ _ => trivial) hrun

variable (key) in
lemma holds_start (w : HandlerWorld) :
    (selfTracker key).Holds (fun _ => SelfSettled key) (⟨w, []⟩ : SelfReleasePool) := by
  refine Tracker.holds_nil ?_
  show AtMostOne key w.1 []
  unfold AtMostOne
  cases (w.1 key).isSome <;> decide

/-- A release has used the reference up. -/
lemma used_of_released {tenant msg : String} (h : (selfTracker (quarantineKey tenant msg)).Holds
      (fun _ => SelfSettled (quarantineKey tenant msg)) p) (hreleased : HasReleased p tenant msg) :
    .used ∈ (selfTracker (quarantineKey tenant msg)).phases p := by
  obtain ⟨t, ht, req, res, hresult, rfl, rfl, houtcome⟩ := hreleased
  obtain ⟨n, hn⟩ := List.mem_iff_getElem?.mp ht
  have hphase := (h.returned hn hresult res rfl houtcome).trans (if_pos rfl)
  rw [← hphase]
  exact List.mem_map_of_mem ht

/-- What is used up is not in the store. -/
lemma absent_of_used (h : (selfTracker key).Holds (fun _ => SelfSettled key) p)
    (hused : .used ∈ (selfTracker key).phases p) : p.shared.1 key = none := by
  have hinv : AtMostOne key p.shared.1 ((selfTracker key).phases p) := h.inv
  have hpos : 0 < ((selfTracker key).phases p).countP ClaimPhase.busy :=
    List.countP_pos_iff.mpr ⟨.used, hused, rfl⟩
  unfold AtMostOne at hinv
  cases hst : p.shared.1 key with
  | none => rfl
  | some v =>
    rw [hst] at hinv
    simp only [Option.isSome_some, Bool.toNat_true] at hinv
    omega

/-- The reference stays used up. -/
lemma spent_step {l : Pool.Label Request HandlerEnv}
    (h : (selfTracker key).Holds (fun _ => SelfSettled key) p ∧ .used ∈ (selfTracker key).phases p)
    (hst : selfReleaseStep s p l = some p') :
    (selfTracker key).Holds (fun _ => SelfSettled key) p' ∧ .used ∈ (selfTracker key).phases p' := by
  refine ⟨holds_step h.1 hst, Tracker.mem_phases_step (fun o a => ?_) h.2 hst⟩
  rcases o with o | o
  · cases o <;> rfl
  · rfl

/-- A call that has not found its reference. -/
def Misses (key : String) (r : Request × Except String Result) (done : List ((o : HandlerOp) × HandlerAns o)) : Prop :=
  requestKey r.1 = key → ((∃ res, r.2 = .ok res ∧ res.outcome = .notFound) ∨
      (∃ err, r.2 = .error err) ∧ (Incomplete r.1 ∨ StoreFailed key done)) ∧
    ∀ x ∈ done, isChange x.1 = false

/-- The answer of a store without the reference. -/
lemma exec_get_absent {k : String} {e : Environment} {st : Store} (h : st k = none) :
    (exec (.get k) e st).1 = .ok none ∨ ∃ err, (exec (.get k) e st).1 = .error err := by
  simp only [exec, Environment.onStore]
  cases e.storeError .caller with
  | none => exact .inl (congrArg Except.ok h)
  | some err => exact .inr ⟨err, rfl⟩

lemma within_lookupReference {tenant msg : String} {done : List ((o : HandlerOp) × HandlerAns o)}
    {Q : Except String (Option QuarantineRecord) → List ((o : HandlerOp) × HandlerAns o) → Prop}
    (herr : ∀ err failure, Q (.error err) (⟨.inl (.get (quarantineKey tenant msg)), .error failure⟩ :: done))
    (hnone : ∀ a, Q (.ok none) (⟨.inl (.get (quarantineKey tenant msg)), a⟩ :: done)) :
    Prog.Within handlerExec (fun w => w.1 (quarantineKey tenant msg) = none)
      (s.quarantine.lookupReference tenant msg).inl done Q := by
  intro e w hw
  have hget : (handlerExec (.inl (.get (quarantineKey tenant msg))) e w).1 = .ok none ∨
      ∃ err, (handlerExec (.inl (.get (quarantineKey tenant msg))) e w).1 = .error err := exec_get_absent hw
  generalize (handlerExec (.inl (.get (quarantineKey tenant msg))) e w).1 = a at hget ⊢
  rcases hget with rfl | ⟨err, rfl⟩
  · exact hnone _
  · exact herr _ _

/-- **A call that sees no reference** misses it. -/
lemma within_selfRelease (req : Request) :
    Prog.Within handlerExec (fun w => w.1 key = none) (selfRelease s req) [] (Misses key) := by
  by_cases hkey : requestKey req = key
  swap
  · refine Prog.Within.bind (Prog.within_of_forall fun r done => ?_)
    intro hmiss
    exact absurd hmiss hkey
  subst hkey
  unfold selfRelease
  refine Prog.Within.bind ?_
  unfold Service.release
  split_ifs
  · next htenant => exact fun _ => ⟨.inr ⟨⟨_, rfl⟩, .inl (.inl htenant)⟩, by simp⟩
  · next hmsg => exact fun _ => ⟨.inr ⟨⟨_, rfl⟩, .inl (.inr (.inl hmsg))⟩, by simp⟩
  · next hhash => exact fun _ => ⟨.inr ⟨⟨_, rfl⟩, .inl (.inr (.inr hhash))⟩, by simp⟩
  refine Prog.Within.bind fun e w _ => ?_
  refine Prog.Within.bind (within_lookupReference (fun err failure _ => ⟨.inr ⟨⟨_, rfl⟩, .inr ?_⟩, ?_⟩) fun a => ?_)
  · exact ⟨failure, List.mem_cons_self⟩
  · simp [isChange, isMutation]
  -- the audit row of the miss
  · refine Prog.Within.bind (Prog.Within.bind fun e' w' _ => ?_)
    generalize (handlerExec (.inr (.audit (.record _))) e' w').1 = r
    cases r <;> exact fun _ => ⟨.inl ⟨_, rfl, rfl⟩, by simp [isChange, isMutation]⟩

/-- A later call misses the reference. -/
lemma later_misses {tenant msg : String} (w : HandlerWorld) {ls₁ ls₂ : List (Pool.Label Request HandlerEnv)}
    (hrun₁ : Lts.run (selfReleaseStep s) ⟨w, []⟩ ls₁ = some p) (hrun₂ : Lts.run (selfReleaseStep s) p ls₂ = some p')
    (hreleased : HasReleased p tenant msg) {req : Request}
    {t : Thread HandlerOp HandlerAns (Request × Except String Result)} {res : Except String Result}
    (hlater : ReturnsLater p p' tenant msg req t res) :
    ((∃ r, res = .ok r ∧ r.outcome = .notFound) ∨
        (∃ err, res = .error err) ∧ (Incomplete req ∨ StoreFailed (quarantineKey tenant msg) t.performed)) ∧
      ∀ x ∈ t.performed, isChange x.1 = false := by
  have hholds := holds_run (holds_start (quarantineKey tenant msg) w) hrun₁
  obtain ⟨n, hn, ht, hresult, rfl, rfl⟩ := hlater
  have hwithin := Pool.run_within (fun _ _ _ hp hst => spent_step hp hst) (fun _ hp => absent_of_used hp.1 hp.2)
    within_selfRelease ⟨hholds, used_of_released hholds hreleased⟩ hrun₂ n t hn ht
  obtain ⟨done, rest⟩ := t
  cases rest with
  | call o k => cases hresult
  | ret a =>
    obtain rfl : a = (req, res) := Option.some.inj hresult
    exact hwithin rfl

/-- **A release is final.** In every run, whatever fails, a call that starts after a release of its message returns
`not_found`, or an error if its request is incomplete or the store did not answer; it changes no mailbox and no
reference. -/
theorem later_release_not_found (s : ReleaseService) (w : HandlerWorld)
    (ls₁ ls₂ : List (Pool.Label Request HandlerEnv)) (hrun₁ : Lts.run (selfReleaseStep s) ⟨w, []⟩ ls₁ = some p)
    (hrun₂ : Lts.run (selfReleaseStep s) p ls₂ = some p') (tenant msg : String) (hreleased : HasReleased p tenant msg)
    (req : Request) (t : Thread HandlerOp HandlerAns (Request × Except String Result)) (res : Except String Result)
    (hlater : ReturnsLater p p' tenant msg req t res) :
    ((∃ r, res = .ok r ∧ r.outcome = .notFound) ∨
        (∃ err, res = .error err) ∧ (Incomplete req ∨ StoreFailed (quarantineKey tenant msg) t.performed)) ∧
      ∀ x ∈ t.performed, isChange x.1 = false :=
  later_misses w hrun₁ hrun₂ hreleased hlater

/-- **A release is never repeated as documented.** In every run, whatever fails, a call that starts after a release of
its message returns an error or `not_found`: what the package says holds exactly of the runs without such a call. -/
theorem repeated_release_iff (s : ReleaseService) (w : HandlerWorld) (ls₁ ls₂ : List (Pool.Label Request HandlerEnv))
    (hrun₁ : Lts.run (selfReleaseStep s) ⟨w, []⟩ ls₁ = some p) (hrun₂ : Lts.run (selfReleaseStep s) p ls₂ = some p')
    (tenant msg : String) :
    IdempotentFrom p p' tenant msg ↔
      ¬ (HasReleased p tenant msg ∧ ∃ req t res, ReturnsLater p p' tenant msg req t res) := by
  constructor
  · rintro hidem ⟨hreleased, req, t, res, hlater⟩
    obtain ⟨⟨r, rfl, halready⟩, -⟩ := hidem hreleased req t res hlater
    rcases (later_misses w hrun₁ hrun₂ hreleased hlater).1 with ⟨r', hr', hmissing⟩ | ⟨⟨err, herr⟩, -⟩
    · cases hr'
      rw [halready] at hmissing
      cases hmissing
    · cases herr
  · intro hno hreleased req t res hlater
    exact absurd ⟨hreleased, req, t, res, hlater⟩ hno

end Runs

/-! ### Two clicks -/

section Samples

/-- The request of a recipient. -/
def clickRequest : Request := { tenantID := "t", pseudoMessageID := "p", recipientUserHash := [1] }

/-- The first click, to its end, in a world in which nothing fails. -/
def firstClick : List (Pool.Label Request HandlerEnv) :=
  .spawn clickRequest :: List.replicate 13 (.advance 0 (healthyWorld, {}))

/-- The second click, after the first one has returned. -/
def secondClick : List (Pool.Label Request HandlerEnv) :=
  .spawn clickRequest :: List.replicate 3 (.advance 1 (healthyWorld, {}))

/-- What the calls have returned. -/
def outcomes (p : SelfReleasePool) : List (Option (Request × Option QuarantineReleaseOutcome)) :=
  p.threads.map fun t => t.result?.map fun r => (r.1, r.2.toOption.map Result.outcome)

lemma result_of_outcomes {p : SelfReleasePool} {n : ℕ} {req : Request} {o : QuarantineReleaseOutcome}
    (h : (outcomes p)[n]? = some (some (req, some o))) :
    ∃ t res, p.threads[n]? = some t ∧ t.result? = some (req, .ok res) ∧ res.outcome = o := by
  unfold outcomes at h
  rw [List.getElem?_map, Option.map_eq_some_iff] at h
  obtain ⟨t, ht, h⟩ := h
  rw [Option.map_eq_some_iff] at h
  obtain ⟨⟨req', _ | res⟩, hresult, h⟩ := h
  · cases h
  · obtain ⟨rfl, ho⟩ := Prod.mk.inj h
    exact ⟨t, res, ht, hresult, Option.some.inj ho⟩

/-- The two clicks: the first one releases, the second one finds nothing. -/
lemma two_clicks : ∃ p p', Lts.run (selfReleaseStep sampleService) ⟨(sampleStore, {}), []⟩ firstClick = some p ∧
    Lts.run (selfReleaseStep sampleService) p secondClick = some p' ∧ HasReleased p "t" "p" ∧
    ∃ t r, ReturnsLater p p' "t" "p" clickRequest t (.ok r) ∧ r.outcome = .notFound := by
  have hfirst : (Lts.run (selfReleaseStep sampleService) ⟨(sampleStore, {}), []⟩ firstClick).map outcomes =
      some [some (clickRequest, some .released)] := by decide +kernel
  have hsecond : (Lts.run (selfReleaseStep sampleService) ⟨(sampleStore, {}), []⟩ (firstClick ++ secondClick)).map
      outcomes = some [some (clickRequest, some .released), some (clickRequest, some .notFound)] := by decide +kernel
  obtain ⟨p, hp, hout⟩ := Option.map_eq_some_iff.mp hfirst
  rw [Lts.run_append, hp, Option.bind_some] at hsecond
  obtain ⟨p', hp', hout'⟩ := Option.map_eq_some_iff.mp hsecond
  obtain ⟨t, res, ht, hresult, ho⟩ := result_of_outcomes (p := p) (n := 0) (by rw [hout]; rfl)
  obtain ⟨t', res', ht', hresult', ho'⟩ := result_of_outcomes (p := p') (n := 1) (by rw [hout']; rfl)
  refine ⟨p, p', hp, hp', ⟨t, List.mem_of_getElem? ht, _, res, hresult, rfl, rfl, ho⟩, t', res', ?_, ho'⟩
  have hlength : (outcomes p).length = 1 := by rw [hout]; rfl
  rw [outcomes, List.length_map] at hlength
  exact ⟨1, hlength.le, ht', hresult', rfl, rfl⟩

/-- The second click has changed nothing. -/
theorem second_click_changes_nothing : ∃ p p' t r,
    Lts.run (selfReleaseStep sampleService) ⟨(sampleStore, {}), []⟩ firstClick = some p ∧
      Lts.run (selfReleaseStep sampleService) p secondClick = some p' ∧ HasReleased p "t" "p" ∧
      ReturnsLater p p' "t" "p" clickRequest t (.ok r) ∧ r.outcome = .notFound ∧
      ∀ x ∈ t.performed, isChange x.1 = false := by
  obtain ⟨p, p', hp, hp', hreleased, t, r, hlater, hmissing⟩ := two_clicks
  have hlast := later_release_not_found sampleService _ _ _ hp hp' "t" "p" hreleased clickRequest t (.ok r) hlater
  exact ⟨p, p', t, r, hp, hp', hreleased, hlater, hmissing, hlast.2⟩

/-- **The second click** on a message that was just released: `not_found`. -/
theorem second_click_not_found : ∃ p p',
    Lts.run (selfReleaseStep sampleService) ⟨(sampleStore, {}), []⟩ firstClick = some p ∧
      Lts.run (selfReleaseStep sampleService) p secondClick = some p' ∧ HasReleased p "t" "p" ∧
      (∃ t r, ReturnsLater p p' "t" "p" clickRequest t (.ok r) ∧ r.outcome = .notFound) ∧
      ¬ IdempotentFrom p p' "t" "p" := by
  obtain ⟨p, p', hp, hp', hreleased, t, r, hlater, hmissing⟩ := two_clicks
  refine ⟨p, p', hp, hp', hreleased, ⟨t, r, hlater, hmissing⟩, fun hidem => ?_⟩
  obtain ⟨⟨r', hr', halready⟩, -⟩ := hidem hreleased _ t _ hlater
  cases hr'
  rw [hmissing] at halready
  cases halready

end Samples

end Sn360Es.Handler
