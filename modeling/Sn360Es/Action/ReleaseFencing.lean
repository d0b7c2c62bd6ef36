import Sn360Es.Action.ReleaseRecovery
import Sn360Es.Lib.Token

/-!
# Concurrent releases of one message

Any number of `Release` calls on one message, interleaved operation by operation. The stored reference is a
token: `ClaimReference` takes it out of the store, a successful restore uses it up, and every other way out of
the claim puts it back, be it the `repersist` of a reference that cannot be read or the `persist` after a failed
restore.

* `linear_release` — a call keeps these books, operation by operation;
* `release_fencing` — so at most one call gets its restore, and the reference is in the store as long as none
  did;
* `lost_reference_reachable` — the store has to answer for this: a failed write after a failed restore loses
  the reference.
-/

namespace Sn360Es.Action

open Lib

/-- The store answers, and the encryptor serves. -/
structure Environment.Healthy (e : Environment) : Prop where
  store : ∀ ctx, e.storeError ctx = none
  encrypts : e.Encrypts

/-- The operation is the `GETDEL` of a claim. -/
def Op.isClaim : Op → Bool
  | .getDel _ => true
  | _ => false

/-- The answer is a successful `RestoreFromQuarantine`. -/
def Op.restored : (o : Op) → o.Ans → Bool
  | .restoreFromQuarantine _ _ _ _ _, a => a.2.isNone
  | _, _ => false

/-- A call of `Release` in the middle of its run. -/
abbrev ReleaseCall := Thread Op Op.Ans (ReleaseOutcome × Option ReleaseError)

/-- The call got a successful `RestoreFromQuarantine`. -/
def ReleaseCall.gotRestore (c : ReleaseCall) : Bool := c.performed.any fun x => x.1.restored x.2

/-- The call has claimed, or tried to, and has not returned. -/
def ReleaseCall.Claiming (c : ReleaseCall) : Prop := (∃ x ∈ c.performed, x.1.isClaim) ∧ ¬ c.Finished

/-- The requests to release one message. -/
abbrev RequestFor (tenantID msg : String) : Type :=
  { req : ReleaseRequest // req.tenantID = tenantID ∧ req.pseudonymizedMessage = msg }

/-- The reference of a message as a token. -/
def referenceLedger (tenantID msg : String) : Ledger Op Op.Ans Store Environment where
  exec := exec
  ok := Environment.Healthy
  cap := 1
  tokens st := (st (quarantineKey tenantID msg)).isSome.toNat
  uses o a := (o.restored a).toNat
  acquires o := o.isClaim

section Rules

variable {tenant msg : String} {n : ℕ}

lemma onStore_healthy {α : Type} {e : Environment} (he : e.Healthy) (ctx : Ctx) (st : Store)
    (fail : String → α) (r : α × Store) : e.onStore ctx st fail r = r := by
  unfold Environment.onStore
  rw [he.store ctx]

/-- An operation that leaves the store alone and restores nothing. -/
lemma linear_neutral {o : Op} {Q : o.Ans → ℕ → Prop} (hst : ∀ e st, e.Healthy → (exec o e st).2 = st)
    (hres : ∀ a, o.restored a = false) (h : ∀ e st, e.Healthy → Q (exec o e st).1 n) :
    (referenceLedger tenant msg).Linear (.perform o) n Q := by
  refine Ledger.linear_perform fun e st he _ => ⟨n, ⟨?_, .inl le_rfl⟩, h e st he⟩
  simp only [referenceLedger, hst e st he, hres, Bool.toNat_false, Nat.add_zero]

lemma linear_now {Q : ℤ → ℕ → Prop} (h : ∀ t, Q t n) :
    (referenceLedger tenant msg).Linear ActionM.now n Q :=
  linear_neutral (o := .now) (fun _ _ _ => rfl) (fun _ => rfl) fun _ _ _ => h _

lemma linear_get {key : String} {Q : Except String (Option String) → ℕ → Prop} (h : ∀ r, Q r n) :
    (referenceLedger tenant msg).Linear (ActionM.get key) n Q :=
  linear_neutral (o := .get key) (fun e st he => by rw [exec, onStore_healthy he]) (fun _ => rfl)
    fun _ _ _ => h _

lemma linear_decrypt {t : String} {b : Bytes} {Q : Except String Bytes → ℕ → Prop} (h : ∀ r, Q r n) :
    (referenceLedger tenant msg).Linear (ActionM.decrypt t b) n Q :=
  linear_neutral (o := .decrypt t b) (fun _ _ _ => rfl) (fun _ => rfl) fun _ _ _ => h _

lemma linear_encrypt {t : String} {b : Bytes} {Q : Except String Bytes → ℕ → Prop} (ht : t ≠ "")
    (h : ∀ enc, Q (.ok enc) n) : (referenceLedger tenant msg).Linear (ActionM.encrypt t b) n Q := by
  refine linear_neutral (o := .encrypt t b) (fun _ _ _ => rfl) (fun _ => rfl) fun e st he => ?_
  obtain ⟨enc, henc⟩ := he.encrypts t b ht
  rw [exec, henc]
  exact h enc

lemma linear_reevaluate {t m : String} {Q : Except String EvaluateResult → ℕ → Prop} (h : ∀ r, Q r n) :
    (referenceLedger tenant msg).Linear (ActionM.reevaluate t m) n Q :=
  linear_neutral (o := .reevaluate t m) (fun _ _ _ => rfl) (fun _ => rfl) fun _ _ _ => h _

lemma linear_publish {subject : String} {ev : ActionEvent} {opts : PublishOptions}
    {Q : Option String → ℕ → Prop} (h : ∀ r, Q r n) :
    (referenceLedger tenant msg).Linear (ActionM.publish subject ev opts) n Q :=
  linear_neutral (o := .publish subject ev opts) (fun _ _ _ => rfl) (fun _ => rfl) fun _ _ _ => h _

/-- `GETDEL` takes the token if it is there. -/
lemma linear_getDel {Q : Except String (Option String) → ℕ → Prop} (hnone : Q (.ok none) 0)
    (hsome : ∀ v, Q (.ok (some v)) 1) :
    (referenceLedger tenant msg).Linear (ActionM.getDel (quarantineKey tenant msg)) 0 Q := by
  refine Ledger.linear_perform (o := Op.getDel _) fun e st he _ => ?_
  refine ⟨(st (quarantineKey tenant msg)).isSome.toNat, ⟨?_, .inr rfl⟩, ?_⟩
  · simp [referenceLedger, exec, onStore_healthy he, Op.restored]
  · change Q (exec (Op.getDel _) e st).1 _
    rw [exec, onStore_healthy he]
    cases hv : st (quarantineKey tenant msg) with
    | none => exact hnone
    | some v => exact hsome v

/-- `SET` puts the token back: while a call owns it, it is not in the store. -/
lemma linear_set {ctx : Ctx} {v : String} {Q : Option String → ℕ → Prop} (h : Q none 0) :
    (referenceLedger tenant msg).Linear (ActionM.set ctx (quarantineKey tenant msg) v) 1 Q := by
  refine Ledger.linear_perform (o := Op.set ctx _ v) fun e st he hcap => ?_
  have hgone : (st (quarantineKey tenant msg)).isSome.toNat = 0 := by
    simp only [referenceLedger] at hcap
    omega
  refine ⟨0, ⟨?_, .inl (Nat.zero_le 1)⟩, ?_⟩
  · simp [referenceLedger, exec, onStore_healthy he, Op.restored, hgone]
  · change Q (exec (Op.set ctx _ v) e st).1 _
    rw [exec, onStore_healthy he]
    exact h

/-- A successful restore uses the token up. -/
lemma linear_restoreFromQuarantine {kind : LabelProviderKind} {email id label body : String}
    {Q : String × Option String → ℕ → Prop} (hok : ∀ newID, Q (newID, none) 0)
    (herr : ∀ newID err, Q (newID, some err) 1) :
    (referenceLedger tenant msg).Linear (ActionM.restoreFromQuarantine kind email id label body) 1 Q := by
  refine Ledger.linear_perform (o := Op.restoreFromQuarantine kind email id label body)
    fun e st _ _ => ?_
  change ∃ m, _ ∧ Q (e.restoreFromQuarantine kind email id label body) m
  rcases hr : e.restoreFromQuarantine kind email id label body with ⟨newID, _ | err⟩
  · refine ⟨0, ⟨?_, .inl (Nat.zero_le 1)⟩, hok newID⟩
    simp [referenceLedger, exec, Op.restored, hr]
  · refine ⟨1, ⟨?_, .inl le_rfl⟩, herr newID err⟩
    simp [referenceLedger, exec, Op.restored, hr]

end Rules

/-! ### The functions of the services -/

section Functions

variable {tenant msg : String} {n : ℕ}

lemma linear_decodeReference {q : QuarantineService} {encHex : String}
    {Q : Except (String × String) QuarantineRecord → ℕ → Prop} (h : ∀ r, Q r n) :
    (referenceLedger tenant msg).Linear (q.decodeReference tenant encHex) n Q := by
  unfold QuarantineService.decodeReference
  split
  · exact h _
  · refine .bind (linear_decrypt fun r => ?_)
    rcases r with err | plain
    · exact h _
    · simp only
      split <;> exact h _

lemma linear_lookupReference {q : QuarantineService}
    {Q : Except String (Option QuarantineRecord) → ℕ → Prop} (h : ∀ r, Q r n) :
    (referenceLedger tenant msg).Linear (q.lookupReference tenant msg) n Q := by
  unfold QuarantineService.lookupReference
  refine .bind (linear_get fun r => ?_)
  rcases r with err | _ | encHex
  · exact h _
  · exact h _
  · refine .bind (linear_decodeReference fun r => ?_)
    rcases r with ⟨op, err⟩ | record
    · exact h _
    · exact h _

/-- A claim owns the token exactly when it returns a record. -/
lemma linear_claimReference {q : QuarantineService}
    {Q : Except String (Option QuarantineRecord) → ℕ → Prop} (herr : ∀ err, Q (.error err) 0)
    (hnone : Q (.ok none) 0) (hsome : ∀ record, Q (.ok (some record)) 1) :
    (referenceLedger tenant msg).Linear (q.claimReference tenant msg) 0 Q := by
  unfold QuarantineService.claimReference
  refine .bind (linear_getDel hnone fun encHex => .bind (linear_decodeReference fun r => ?_))
  rcases r with ⟨op, err⟩ | record
  · exact .bind (linear_set (herr _))
  · exact hsome record

/-- `persist` gives the token back. -/
lemma linear_persist {q : QuarantineService} {record : QuarantineRecord} {Q : Option String → ℕ → Prop}
    (ht : tenant ≠ "") (h : Q none 0) :
    (referenceLedger tenant msg).Linear (q.persist tenant msg record) 1 Q := by
  unfold QuarantineService.persist
  exact .bind (linear_encrypt ht fun enc => .bind (linear_set h))

lemma linear_finish {s : ReleaseService} {req : ReleaseRequest} {o : ReleaseOutcome}
    {Q : ReleaseOutcome × Option ReleaseError → ℕ → Prop} (h : Q (o, none) n) :
    (referenceLedger tenant msg).Linear (s.finish req o) n Q := by
  unfold ReleaseService.finish ReleaseService.publishOutcome
  refine .bind ?_
  split
  · exact .bind (linear_publish fun _ => h)
  · exact h

variable {s : ReleaseService} {req : ReleaseRequest}

/-- A call that owns the token gives it back or uses it up. -/
lemma linear_restoreClaimed (hreq : req.tenantID = tenant ∧ req.pseudonymizedMessage = msg)
    (ht : tenant ≠ "") (o : ReleaseOutcome) (record : QuarantineRecord) :
    (referenceLedger tenant msg).Linear (s.restoreClaimed req o record) 1 fun _ m => m = 0 := by
  obtain ⟨rfl, rfl⟩ := hreq
  unfold ReleaseService.restoreClaimed
  simp only
  split
  · exact .bind (linear_persist ht rfl)
  · refine .bind (linear_restoreFromQuarantine (fun newID => ?_) fun newID err => ?_)
    · exact linear_finish rfl
    · exact .bind (linear_persist ht rfl)

/-- **A call of `Release` keeps the books.** -/
theorem linear_release (hreq : req.tenantID = tenant ∧ req.pseudonymizedMessage = msg) :
    (referenceLedger tenant msg).Linear (s.release req) 0 fun _ m => m = 0 := by
  unfold ReleaseService.release
  split
  · exact rfl
  · next hne =>
    obtain ⟨rfl, rfl⟩ := hreq
    have ht : req.tenantID ≠ "" := fun h => hne (.inl h)
    refine .bind (linear_lookupReference fun r => ?_)
    rcases r with err | _ | record
    · exact rfl
    · exact .bind (linear_now fun t => linear_finish rfl)
    refine .bind (linear_reevaluate fun r => ?_)
    rcases r with err | verdict
    · exact rfl
    refine .bind (linear_now fun t => ?_)
    simp only
    split
    · exact linear_finish rfl
    refine .bind (linear_claimReference (fun _ => rfl) (linear_finish rfl) fun claimed => ?_)
    exact linear_restoreClaimed ⟨rfl, rfl⟩ ht _ claimed

end Functions

/-! ### Runs -/

section Runs

variable (s : ReleaseService) (tenant msg : String)

/-- The calls of `Release` on one message, operation by operation. -/
def releaseStep := Pool.step exec fun req : RequestFor tenant msg => s.release req.1

variable {s tenant msg}

/-- The restores that a call got. -/
lemma used_eq_countP (c : ReleaseCall) :
    (referenceLedger tenant msg).used c = c.performed.countP fun x => x.1.restored x.2 := by
  rw [Ledger.used]
  induction c.performed with
  | nil => rfl
  | cons x xs ih =>
    rw [List.map_cons, List.sum_cons, ih, List.countP_cons, Nat.add_comm]
    simp only [referenceLedger]
    cases x.1.restored x.2 <;> rfl

variable (tenant msg) in
lemma used_pos_iff (c : ReleaseCall) : 0 < (referenceLedger tenant msg).used c ↔ c.gotRestore := by
  rw [used_eq_countP, List.countP_pos_iff, ReleaseCall.gotRestore, List.any_eq_true]

/-- The calls that got a restore are at most the restores. -/
lemma countP_gotRestore_le (cs : List ReleaseCall) :
    cs.countP ReleaseCall.gotRestore ≤ (cs.map (referenceLedger tenant msg).used).sum := by
  induction cs with
  | nil => exact le_rfl
  | cons c cs ih =>
    rw [List.countP_cons, List.map_cons, List.sum_cons]
    split
    · next hc =>
      have := (used_pos_iff tenant msg c).mpr hc
      omega
    · omega

/-- The books balance after every run that starts with the reference in the store. -/
lemma release_run_balanced {store : Store} (hstored : (store (quarantineKey tenant msg)).isSome)
    {ls : List (Pool.Label (RequestFor tenant msg) Environment)}
    (henv : ∀ i e, .advance i e ∈ ls → e.Healthy) {p : Pool Op Op.Ans _ Store}
    (hrun : Lts.run (releaseStep s tenant msg) ⟨store, []⟩ ls = some p) :
    (referenceLedger tenant msg).Balanced 1 p := by
  have hinit := Ledger.balanced_nil (α := ReleaseOutcome × Option ReleaseError)
    (L := referenceLedger tenant msg) store
  have hone : (referenceLedger tenant msg).tokens store = 1 := by
    change (store (quarantineKey tenant msg)).isSome.toNat = 1
    rw [hstored]
    rfl
  rw [hone] at hinit
  exact Ledger.run_balanced (L := referenceLedger tenant msg) (fun req => linear_release req.2) le_rfl henv
    hinit hrun

/-- **Release fencing.** Whatever the interleaving of any number of `Release` calls on a quarantined message,
at most one of them ever gets a successful `RestoreFromQuarantine`; and while no call is between its claim and
its end, the reference is in the store if and only if no call got one. -/
theorem release_fencing {store : Store} (hstored : (store (quarantineKey tenant msg)).isSome)
    {ls : List (Pool.Label (RequestFor tenant msg) Environment)}
    (henv : ∀ i e, .advance i e ∈ ls → e.Healthy) {p : Pool Op Op.Ans _ Store}
    (hrun : Lts.run (releaseStep s tenant msg) ⟨store, []⟩ ls = some p) :
    p.threads.countP ReleaseCall.gotRestore ≤ 1 ∧
      ((∀ c ∈ p.threads, ¬ ReleaseCall.Claiming c) →
        ((p.shared (quarantineKey tenant msg)).isSome ↔ ∀ c ∈ p.threads, ¬ ReleaseCall.gotRestore c)) := by
  have hbal := release_run_balanced hstored henv hrun
  refine ⟨(countP_gotRestore_le p.threads).trans hbal.used_le, fun hquiet => ?_⟩
  have hsum := hbal.quiet hquiet
  have hzero : (p.threads.map (referenceLedger tenant msg).used).sum = 0 ↔
      ∀ c ∈ p.threads, ¬ ReleaseCall.gotRestore c := by
    simp only [List.sum_eq_zero_iff_forall_eq_nat, List.forall_mem_map, ← used_pos_iff tenant msg,
      Nat.pos_iff_ne_zero, not_not]
  rw [← hzero]
  change (p.shared (quarantineKey tenant msg)).isSome.toNat + _ = 1 at hsum
  cases hp : (p.shared (quarantineKey tenant msg)).isSome with
  | false =>
    rw [hp, Bool.toNat_false] at hsum
    simp only [Bool.false_eq_true, false_iff]
    omega
  | true =>
    rw [hp, Bool.toNat_true] at hsum
    simp only [true_iff]
    omega

/-- The state after a call that runs alone is reached by the concurrent calls. -/
lemma release_alone_reaches (req : RequestFor tenant msg) (env : ℕ → Environment) (st : Store) :
    ∃ done, Lts.Reaches (releaseStep s tenant msg) ⟨st, []⟩
      ⟨((s.release req.1).eval exec env st).2.1,
        [⟨done, .ret ((s.release req.1).eval exec env st).1⟩]⟩ := by
  obtain ⟨n, done, hrun⟩ := Pool.run_solo exec (fun req : RequestFor tenant msg => s.release req.1)
    (s.release req.1) env st []
  refine ⟨done, .spawn req :: (List.range n).map fun i => .advance 0 (env i), ?_⟩
  rw [Lts.run_cons]
  exact hrun

/-- **The store has to answer.** A call whose restore failed, and whose write fails too, leads to a state in
which every call has returned and the reference is gone. -/
theorem lost_reference_reachable {req : RequestFor tenant msg} {env : ℕ → Environment} {st : Store}
    {err : ReleaseError} (henc : ∀ n, (env n).Encrypts) (herr : err.isRestoreFailure)
    (hr : ((s.release req.1).eval exec env st).1.2 = some err)
    (hwrite : (env (writeBackAt err)).storeError .caller ≠ none) :
    ∃ p, Lts.Reaches (releaseStep s tenant msg) ⟨st, []⟩ p ∧ (∀ c ∈ p.threads, c.Finished) ∧
      p.shared (quarantineKey tenant msg) = none := by
  obtain ⟨done, hreach⟩ := release_alone_reaches (s := s) req env st
  refine ⟨_, hreach, ?_, ?_⟩
  · intro c hc
    rw [List.mem_singleton.mp hc]
    exact ⟨_, rfl⟩
  · have hlost := (failed_stored_iff henc herr hr).not.mpr hwrite
    rw [ReleaseRequest.key, req.2.1, req.2.2, Option.not_isSome_iff_eq_none] at hlost
    exact hlost

end Runs

/-! ### Two calls -/

/-- A world in which the message is no longer blocked and the provider restores it. -/
def healthyWorld : Environment where
  encrypt _ plaintext := .ok plaintext
  decrypt _ ciphertext := .ok ciphertext
  reevaluate _ _ := .ok { tier := some .informational }

lemma healthyWorld_healthy : healthyWorld.Healthy :=
  ⟨fun _ => rfl, fun _ plaintext _ => ⟨plaintext, rfl⟩⟩

/-- Two calls that both find the reference and both are cleared; the second one claims first. -/
def twoCalls : List (Pool.Label (RequestFor "t" "p") Environment) :=
  [.spawn ⟨sampleRequest, rfl, rfl⟩, .spawn ⟨sampleRequest, rfl, rfl⟩] ++
    [0, 1, 0, 1, 0, 1, 0, 1, 1, 0, 1, 1].map (Pool.Label.advance · healthyWorld)

/-- The run of `twoCalls`: one restore, and no reference left. -/
theorem release_fencing_two_calls : ∃ p,
    Lts.run (releaseStep sampleService "t" "p") ⟨sampleStore, []⟩ twoCalls = some p ∧
      (p.threads.countP ReleaseCall.gotRestore = 1 ∧ (p.shared (quarantineKey "t" "p")).isSome = false) ∧
      p.threads.countP ReleaseCall.gotRestore ≤ 1 ∧
      ((∀ c ∈ p.threads, ¬ ReleaseCall.Claiming c) →
        ((p.shared (quarantineKey "t" "p")).isSome ↔ ∀ c ∈ p.threads, ¬ ReleaseCall.gotRestore c)) := by
  have hend : (Lts.run (releaseStep sampleService "t" "p") ⟨sampleStore, []⟩ twoCalls).map
      (fun p => (p.threads.countP ReleaseCall.gotRestore, (p.shared (quarantineKey "t" "p")).isSome)) =
      some (1, false) := by
    decide +kernel
  obtain ⟨p, hrun, hp⟩ := Option.map_eq_some_iff.mp hend
  refine ⟨p, hrun, Prod.ext_iff.mp hp, release_fencing (by decide +kernel) (fun i e he => ?_) hrun⟩
  rcases List.mem_append.mp he with he | he
  · simp only [List.mem_cons, reduceCtorEq, List.not_mem_nil, or_self] at he
  · obtain ⟨n, -, hn⟩ := List.mem_map.mp he
    cases hn
    exact healthyWorld_healthy

end Sn360Es.Action
