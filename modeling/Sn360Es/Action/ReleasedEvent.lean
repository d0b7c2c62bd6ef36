import Sn360Es.Action.ReleaseLoop
import Sn360Es.Action.ReleaseRecovery
import Sn360Es.Bridge.PlatformPublisher
import Sn360Es.Lib.Performs

/-!
# The released events of the platform (`cmd/sn360-es/consumers_action.go`)

`handleQuarantineRelease` tells the platform that a message was released whenever `Release` returns no error. `Release`
returns none for a message that it does not find, or that it refuses to release.

* `release_unreleased_iff` — when a call of `Release` returns no error and has released nothing;
* `released_event_iff` — the event is true exactly if this is not so.
-/

namespace Sn360Es.Action

open Lib

/-! ### The handler -/

/-- The calls of the bridge. -/
inductive BridgeOp where
  | publishQuarantine (evt : Bridge.QuarantineEvent)
  deriving DecidableEq, Repr

abbrev BridgeOp.Ans : BridgeOp → Type
  | publishQuarantine _ => Option String

/-- The bridge keeps the events that it was given, and answers with an error or not. -/
def bridgeExec : (o : BridgeOp) → Option String → List Bridge.QuarantineEvent → o.Ans × List Bridge.QuarantineEvent
  | .publishQuarantine evt, err, given => (err, given ++ [evt])

abbrev HandlerM := Prog (Op ⊕ BridgeOp) (Sum.elim Op.Ans BridgeOp.Ans)

/-- The call of the bridge. -/
def publishQuarantine (evt : Bridge.QuarantineEvent) : HandlerM (Option String) :=
  Prog.perform (Sum.inr (BridgeOp.publishQuarantine evt))

structure Application where
  releaseSvc : Option ReleaseService
  /-- Whether there is a bridge. -/
  platformBridge : Bool

/-- The event of a release. -/
def releasedEvent (req : ReleaseRequest) : Bridge.QuarantineEvent :=
  { tenantID := req.tenantID
    messageID := req.pseudonymizedMessage
    correlationID := req.correlationID
    action := Bridge.quarantineActionReleased
    requestedBy := req.requestedBy }

/-- `handleQuarantineRelease` once `Release` has returned. -/
def Application.report (a : Application) (req : ReleaseRequest) (r : ReleaseOutcome × Option ReleaseError) :
    HandlerM (Option ReleaseError) :=
  match r.2 with
  | some err => pure (some err)
  | none => do
    if a.platformBridge then
      -- an error of the bridge is logged only
      let _ ← publishQuarantine (releasedEvent req)
    return none

/-- `handleQuarantineRelease`. -/
def Application.handleQuarantineRelease (a : Application) (payload : Payload) : HandlerM (Option ReleaseError) :=
  match a.releaseSvc, decodeRequest payload with
  | some s, some req => (s.release req).inl >>= a.report req
  | _, _ => pure none

/-- The bridge is told that a message was released. -/
def isReleasedEvent : Op ⊕ BridgeOp → Bool
  | .inr (.publishQuarantine evt) => evt.action = Bridge.quarantineActionReleased
  | _ => false

/-! ### Releases that release nothing -/

/-- The outcome of a release that has restored the message, or left that to another one. -/
def ReleaseOutcome.Released (o : ReleaseOutcome) : Prop := o.restored = true ∨ o.reason = some .alreadyDone

/-- The message is not in quarantine; or it is, and the new verdict still blocks. -/
def Unreleased (s : ReleaseService) (req : ReleaseRequest) (env : ℕ → Environment) (st : Store) : Prop :=
  (env 0).storeError .caller = none ∧
    (st req.key = none ∨
      (∃ encHex enc plain record, st req.key = some encHex ∧ Hex.decode encHex = .ok enc ∧
        (env 1).decrypt req.tenantID enc = .ok plain ∧ s.quarantine.unmarshal plain = .ok record) ∧
      ∃ verdict, (env 2).reevaluate req.tenantID req.pseudonymizedMessage = .ok verdict ∧
        isStillBlocked verdict.tier s.minReleaseTier = true)

section Unreleased

variable {s : ReleaseService} {req : ReleaseRequest} {env : ℕ → Environment} {st : Store}

/-- A call that has returned no error, and released nothing. -/
def ReturnsUnreleased (r : ReleaseOutcome × Option ReleaseError) : Prop := r.2 = none ∧ ¬ r.1.Released

lemma not_returnsUnreleased_error (o : ReleaseOutcome) (err : ReleaseError) : ¬ ReturnsUnreleased (o, some err) := by
  rintro ⟨hnone, -⟩
  cases hnone

/-- A call that has claimed the record releases the message or fails. -/
lemma restoreClaimed_released (o : ReleaseOutcome) (record : QuarantineRecord) :
    ¬ ReturnsUnreleased ((s.restoreClaimed req o record).eval exec env st).1 := by
  unfold ReleaseService.restoreClaimed
  simp only
  split
  · rw [Prog.eval_bind]
    exact not_returnsUnreleased_error _ _
  · simp only [ActionM.restoreFromQuarantine, Prog.eval_bind, Prog.eval_perform]
    split
    · rw [Prog.eval_bind]
      exact not_returnsUnreleased_error _ _
    · rw [eval_finish]
      rintro ⟨-, hnot⟩
      exact hnot (.inl rfl)

lemma claimAndRestore_released (o : ReleaseOutcome) :
    ¬ ReturnsUnreleased ((s.claimAndRestore req o).eval exec env st).1 := by
  unfold ReleaseService.claimAndRestore
  rw [Prog.eval_bind]
  split
  · exact not_returnsUnreleased_error _ _
  · rw [eval_finish]
    rintro ⟨-, hnot⟩
    exact hnot (.inr rfl)
  · exact restoreClaimed_released _ _

/-- **Behind the look-up** the verdict decides. -/
lemma reevaluateFound_unreleased_iff (record : QuarantineRecord) :
    ReturnsUnreleased ((s.reevaluateFound req record).eval exec env st).1 ↔
      ∃ verdict, (env 0).reevaluate req.tenantID req.pseudonymizedMessage = .ok verdict ∧
        isStillBlocked verdict.tier s.minReleaseTier = true := by
  unfold ReleaseService.reevaluateFound
  simp only [ActionM.reevaluate, ActionM.now, Prog.eval_bind, Prog.eval_perform, exec]
  cases hv : (env 0).reevaluate req.tenantID req.pseudonymizedMessage with
  | error err => exact iff_of_false (not_returnsUnreleased_error _ _) (by simp)
  | ok verdict =>
    simp only [Prog.eval_bind, Prog.eval_perform, exec, Except.ok.injEq, exists_eq_left']
    by_cases hblocked : isStillBlocked verdict.tier s.minReleaseTier = true
    · rw [if_pos hblocked, eval_finish]
      refine iff_of_true ⟨rfl, ?_⟩ hblocked
      rintro (hrestored | hdone)
      · cases hrestored
      · cases hdone
    · rw [if_neg hblocked]
      exact iff_of_false (claimAndRestore_released _) hblocked

/-- A look-up that finds nothing. -/
lemma eval_lookupReference_none_iff {q : QuarantineService} {tenant msg : String} :
    ((q.lookupReference tenant msg).eval exec env st).1 = .ok none ↔
      (env 0).storeError .caller = none ∧ st (quarantineKey tenant msg) = none := by
  unfold QuarantineService.lookupReference
  simp only [ActionM.get, Prog.eval_bind, Prog.eval_perform, exec, Environment.onStore]
  cases he : (env 0).storeError .caller with
  | some err => simp
  | none =>
    cases hv : st (quarantineKey tenant msg) with
    | none => simp
    | some encHex =>
      simp only [Prog.eval_bind]
      rcases hd : (q.decodeReference tenant encHex).eval exec (fun n => env (n + 1)) st with
        ⟨_ | r, st₁, env₁⟩ <;> simp

/-- **When a release releases nothing** and returns no error. -/
theorem release_unreleased_iff (ht : req.tenantID ≠ "") (hm : req.pseudonymizedMessage ≠ "") :
    ReturnsUnreleased ((s.release req).eval exec env st).1 ↔ Unreleased s req env st := by
  have hnone : ((s.quarantine.lookupReference req.tenantID req.pseudonymizedMessage).eval exec env st).1 = .ok none ↔
      _ := eval_lookupReference_none_iff
  have hfound : ∀ {record st' env'},
      (s.quarantine.lookupReference req.tenantID req.pseudonymizedMessage).eval exec env st =
        (.ok (some record), st', env') ↔ _ := eval_lookupReference_iff
  unfold ReleaseService.release
  rw [if_neg (not_or.mpr ⟨ht, hm⟩), Prog.eval_bind]
  rcases hlookup : (s.quarantine.lookupReference req.tenantID req.pseudonymizedMessage).eval exec env st with
    ⟨_ | _ | record, st', env'⟩
  · -- an error is neither of the two
    refine iff_of_false (not_returnsUnreleased_error _ _) ?_
    rintro ⟨hstore, hmissing | ⟨⟨encHex, enc, plain, record, hst, henc, hplain, hrecord⟩, -⟩⟩
    · rw [hlookup] at hnone
      cases hnone.mpr ⟨hstore, hmissing⟩
    · rw [hfound.mpr ⟨hstore, encHex, hst,
        eval_decodeReference_iff.mpr ⟨⟨enc, plain, henc, hplain, hrecord⟩, rfl, rfl⟩⟩] at hlookup
      cases hlookup
  · rw [hlookup] at hnone
    obtain ⟨hstore, hmissing⟩ := hnone.mp rfl
    simp only [ActionM.now, Prog.eval_bind, eval_finish]
    refine iff_of_true ⟨rfl, ?_⟩ ⟨hstore, .inl hmissing⟩
    rintro (hrestored | hdone)
    · cases hrestored
    · cases hdone
  · obtain ⟨hstore, encHex, hst, hdecode⟩ := hfound.mp hlookup
    obtain ⟨⟨enc, plain, henc, hplain, hrecord⟩, rfl, rfl⟩ := eval_decodeReference_iff.mp hdecode
    refine (reevaluateFound_unreleased_iff record).trans ⟨fun hverdict => ?_, ?_⟩
    · exact ⟨hstore, .inr ⟨⟨encHex, enc, plain, record, hst, henc, hplain, hrecord⟩, hverdict⟩⟩
    · rintro ⟨-, hmissing | ⟨-, hverdict⟩⟩
      · rw [hst] at hmissing
        cases hmissing
      · exact hverdict

end Unreleased

/-! ### The event -/

/-- The bridge gets the event of a release only if the message was released. -/
def Truthful (a : Application) (payload : Payload) (env : ℕ → Environment × Option String)
    (st : Store × List Bridge.QuarantineEvent) : Prop :=
  Prog.Performs (Prog.both exec bridgeExec) (fun x => isReleasedEvent x.1 = true) (a.handleQuarantineRelease payload)
      env st →
    ∀ s req, a.releaseSvc = some s → decodeRequest payload = some req →
      ((s.release req).eval exec (fun n => (env n).1) st.1).1.1.Released

section Event

variable {a : Application} {env : ℕ → Environment × Option String} {st : Store × List Bridge.QuarantineEvent}

/-- `Release` itself does not call the bridge. -/
lemma not_performs_inl {α : Type} (p : ActionM α) :
    ¬ Prog.Performs (Prog.both exec bridgeExec) (fun x => isReleasedEvent x.1 = true) p.inl env st := by
  rw [Prog.performs_inl]
  rintro ⟨x, -, hx⟩
  cases hx

/-- **When the bridge gets the event**: there is a bridge, and `Release` has returned no error. -/
lemma performs_released_iff {s : ReleaseService} {req : ReleaseRequest} {payload : Payload} (hs : a.releaseSvc = some s)
    (hreq : decodeRequest payload = some req) :
    Prog.Performs (Prog.both exec bridgeExec) (fun x => isReleasedEvent x.1 = true) (a.handleQuarantineRelease payload)
      env st ↔
      a.platformBridge = true ∧ ((s.release req).eval exec (fun n => (env n).1) st.1).1.2 = none := by
  obtain ⟨k, hk⟩ : ∃ k, (s.release req).inl.eval (Prog.both exec bridgeExec) env st = _ := Prog.eval_inl _ env st
  unfold Application.handleQuarantineRelease
  simp only [hs, hreq]
  rw [Prog.performs_bind, or_iff_right (not_performs_inl _), hk]
  unfold Application.report
  cases herr : ((s.release req).eval exec (fun n => (env n).1) st.1).1.2 with
  | some err => simp
  | none =>
    cases hbridge : a.platformBridge with
    | false => simp
    | true =>
      simp only [if_true, and_self, iff_true]
      refine Prog.performs_bind.mpr (.inl ?_)
      exact Prog.performs_perform.mpr rfl

/-- **The platform is told the truth** exactly if there is no bridge or service, no request, or a release: the message
is in quarantine, and its new verdict does not block. -/
theorem released_event_iff (a : Application) (payload : Payload) (env : ℕ → Environment × Option String)
    (st : Store × List Bridge.QuarantineEvent) :
    Truthful a payload env st ↔ a.platformBridge = false ∨
      ∀ s req, a.releaseSvc = some s → decodeRequest payload = some req →
        ¬ Unreleased s req (fun n => (env n).1) st.1 := by
  unfold Truthful
  constructor
  · intro htrue
    rw [or_iff_not_imp_left, Bool.not_eq_false]
    rintro hbridge s req hs hreq hun
    obtain ⟨ht, hm⟩ := decodeRequest_ids hreq
    obtain ⟨hnone, hnot⟩ := (release_unreleased_iff ht hm).mpr hun
    exact hnot (htrue ((performs_released_iff hs hreq).mpr ⟨hbridge, hnone⟩) s req hs hreq)
  · intro hcond hperf s req hs hreq
    obtain ⟨hbridge, hnone⟩ := (performs_released_iff hs hreq).mp hperf
    obtain ⟨ht, hm⟩ := decodeRequest_ids hreq
    rcases hcond with hno | hcond
    · rw [hbridge] at hno
      cases hno
    · by_contra hnot
      exact hcond s req hs hreq ((release_unreleased_iff ht hm).mp ⟨hnone, hnot⟩)

/-- A service without providers, and a bridge. -/
def bareApplication : Application :=
  { releaseSvc := some (newReleaseService bareQuarantine true "" none), platformBridge := true }

/-- **A message that is not in quarantine** is reported as released. -/
theorem unknown_reported_released :
    ¬ Truthful bareApplication unknownRelease (fun n => (calmDelivery.env n, none)) (fun _ => none, []) ∧
      ((bareApplication.handleQuarantineRelease unknownRelease).eval (Prog.both exec bridgeExec)
          (fun n => (calmDelivery.env n, none)) (fun _ => none, [])).2.1.2 =
        [{ tenantID := "t", messageID := "p", action := "released" }] := by
  have hreq : decodeRequest unknownRelease = some { tenantID := "t", pseudonymizedMessage := "p" } := by decide
  refine ⟨fun htrue => ?_, rfl⟩
  rcases htrue ((performs_released_iff rfl hreq).mpr ⟨rfl, rfl⟩) _ _ rfl hreq with hrestored | hdone
  · cases hrestored
  · cases hdone

end Event

end Sn360Es.Action
