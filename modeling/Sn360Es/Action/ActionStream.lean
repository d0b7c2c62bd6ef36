import Sn360Es.Action.ReportWorkflow

/-!
# The action stream (`ES_ACTION`, `pkg/events/nats/streams.go`)

The events of the quarantine service, the release service and the report workflow go to one stream, which stores an
event unless it has stored one with the same message id within its window; it answers success all the same. All three
take the pseudonymised message as the id of the event.

* `receive_exact` — when the stream swallows nothing;
* `publishes_body` — the id of an event is the message it is about;
* `nothing_swallowed_iff` — in a run of calls no event that is new in the window is swallowed, if and only if none is
  published while an event about the same message is in the window;
* `second_report_swallowed` — two users report the same message.
-/

namespace Sn360Es.Action

open Lib

/-! ### The stream -/

inductive StreamPayload where
  | action (e : ActionEvent)
  | report (e : ReportEvent)
  deriving DecidableEq, Repr

/-- The message that an event of the two services is about. -/
def ActionEvent.message : ActionEvent → String
  | .quarantineApplied _ m _ _ _ _ => m
  | .release _ m _ _ _ _ _ _ _ _ => m

/-- The message that an event is about. -/
def StreamPayload.message : StreamPayload → String
  | .action e => e.message
  | .report e => e.pseudonymizedMessage

/-- A `Publish`; the id is the `Nats-Msg-Id`. -/
structure StreamMessage where
  subject : String
  payload : StreamPayload
  id : String
  deriving DecidableEq, Repr

/-- A `Publish` that has reached the stream, when, and whether it was stored. -/
structure StreamEntry where
  msg : StreamMessage
  time : ℤ
  stored : Bool
  deriving DecidableEq, Repr

/-- The same subject and payload. -/
def StreamMessage.Same (m m' : StreamMessage) : Prop := m.subject = m'.subject ∧ m.payload = m'.payload

instance (m m' : StreamMessage) : Decidable (m.Same m') := inferInstanceAs (Decidable (_ ∧ _))

/-- The stream has stored an event with this id within its window. -/
def Remembers (window now : ℤ) (log : List StreamEntry) (id : String) : Prop :=
  ∃ x ∈ log, x.stored = true ∧ now - x.time < window ∧ x.msg.id = id

instance (window now : ℤ) (log : List StreamEntry) (id : String) : Decidable (Remembers window now log id) :=
  inferInstanceAs (Decidable (∃ x ∈ log, x.stored = true ∧ now - x.time < window ∧ x.msg.id = id))

/-- An event comes in; the last one is the first of the log. -/
def receive (window now : ℤ) (m : StreamMessage) (log : List StreamEntry) : List StreamEntry :=
  ⟨m, now, decide (¬ Remembers window now log m.id)⟩ :: log

/-- Every event whose subject or payload differs from all earlier ones in the window is stored. -/
def NothingSwallowed (window : ℤ) : List StreamEntry → Prop
  | [] => True
  | e :: earlier => ((∀ x ∈ earlier, e.time - x.time < window → ¬ x.msg.Same e.msg) → e.stored = true) ∧
      NothingSwallowed window earlier

instance instDecidableNothingSwallowed (window : ℤ) : ∀ log, Decidable (NothingSwallowed window log)
  | [] => isTrue trivial
  | e :: earlier =>
    have := instDecidableNothingSwallowed window earlier
    inferInstanceAs (Decidable (((∀ x ∈ earlier, e.time - x.time < window → ¬ x.msg.Same e.msg) → e.stored = true) ∧
      NothingSwallowed window earlier))

/-- The condition on an event that comes in: the same one is in the window, or none about its message has been stored in
the window. -/
def Fits (window now : ℤ) (m : StreamMessage) (log : List StreamEntry) : Prop :=
  (∃ x ∈ log, now - x.time < window ∧ x.msg.Same m) ∨
    ∀ x ∈ log, x.stored = true → now - x.time < window → x.msg.payload.message ≠ m.payload.message

instance (window now : ℤ) (m : StreamMessage) (log : List StreamEntry) : Decidable (Fits window now m log) :=
  inferInstanceAs (Decidable ((∃ x ∈ log, now - x.time < window ∧ x.msg.Same m) ∨
    ∀ x ∈ log, x.stored = true → now - x.time < window → x.msg.payload.message ≠ m.payload.message))

/-- The id of an event is the message it is about. -/
def StreamMessage.Own (m : StreamMessage) : Prop := m.id = m.payload.message

/-- **When the stream swallows nothing.** -/
lemma receive_exact {window now : ℤ} {m : StreamMessage} {log : List StreamEntry} (hm : m.Own)
    (hlog : ∀ x ∈ log, x.msg.Own) :
    NothingSwallowed window (receive window now m log) ↔ NothingSwallowed window log ∧ Fits window now m log := by
  have hremember : (¬ Remembers window now log m.id) ↔
      ∀ x ∈ log, x.stored = true → now - x.time < window → x.msg.payload.message ≠ m.payload.message := by
    unfold Remembers
    constructor
    · intro hnone x hx hstored hrecent hsame
      exact hnone ⟨x, hx, hstored, hrecent, by rw [hlog x hx, hm, hsame]⟩
    · rintro hdiffer ⟨x, hx, hstored, hrecent, hid⟩
      refine hdiffer x hx hstored hrecent ?_
      rw [← hlog x hx, ← hm, hid]
  have hnew : (∀ x ∈ log, now - x.time < window → ¬ x.msg.Same m) ↔
      ¬ ∃ x ∈ log, now - x.time < window ∧ x.msg.Same m := by
    simp only [not_exists, not_and]
  show ((∀ x ∈ log, now - x.time < window → ¬ x.msg.Same m) →
    decide (¬ Remembers window now log m.id) = true) ∧ NothingSwallowed window log ↔ _
  rw [decide_eq_true_iff, hremember, hnew, and_comm]
  refine and_congr Iff.rfl ?_
  unfold Fits
  exact ⟨fun h => or_iff_not_imp_left.mpr h, fun h => or_iff_not_imp_left.mp h⟩

/-! ### The calls -/

/-- What the calls share: the references, the reporters of every message (`MemoryReportStore`), and the stream. -/
structure ActionWorld where
  refs : Store := fun _ => none
  reports : String → String → List String := fun _ _ => []
  log : List StreamEntry := []

/-- What an operation meets. A `Publish` that fails may have reached the stream. -/
structure StreamEnv where
  base : Environment
  reached : Bool := true
  addError : Option String := none
  verdict : Except String ReportVerdict := .ok {}
  recipients : Except String (List String) := .ok []

def StreamEnv.Reaches (e : StreamEnv) : Prop := e.base.publishError = none ∨ e.reached = true

instance (e : StreamEnv) : Decidable e.Reaches := inferInstanceAs (Decidable (_ ∨ _))

/-- A `Publish` answers the same whether the event is stored or swallowed. -/
def ActionWorld.publish (window : ℤ) (e : StreamEnv) (m : StreamMessage) (w : ActionWorld) :
    Option String × ActionWorld :=
  (e.base.publishError, if e.Reaches then { w with log := receive window e.base.now m w.log } else w)

/-- `MemoryReportStore.Add`: a reporter counts once. -/
def ActionWorld.addReport (tenantID pseudoMessageID reporterHash : String) (w : ActionWorld) : ℕ × ActionWorld :=
  let seen := w.reports tenantID pseudoMessageID
  let seen' := if reporterHash ∈ seen then seen else seen ++ [reporterHash]
  (seen'.length, { w with reports := fun t m =>
    if t = tenantID ∧ m = pseudoMessageID then seen' else w.reports t m })

/-- The effect of an operation. -/
def streamExec (window : ℤ) : (o : StreamOp) → StreamEnv → ActionWorld → StreamAns o × ActionWorld
  | .inl (.publish subject event opts), e, w => w.publish window e ⟨subject, .action event, opts.messageID⟩
  | .inl o, e, w => ((exec o e.base w.refs).1, { w with refs := (exec o e.base w.refs).2 })
  | .inr (.add tenantID pseudoMessageID reporterHash), e, w =>
    match e.addError with
    | some err => (.error err, w)
    | none => ((.ok (w.addReport tenantID pseudoMessageID reporterHash).1 : Except String ℕ),
        (w.addReport tenantID pseudoMessageID reporterHash).2)
  | .inr (.reEvaluateForced _ _), e, w => (e.verdict, w)
  | .inr (.recipients _ _), e, w => (e.recipients, w)
  | .inr (.publish subject event opts), e, w => w.publish window e ⟨subject, .report event, opts.messageID⟩

/-- The three services. -/
structure ActionServices where
  quarantine : QuarantineService
  release : ReleaseService
  reports : ReportWorkflow

inductive ActionCall where
  | quarantine (req : QuarantineRequest)
  | release (req : ReleaseRequest)
  | report (tenantID pseudoMessageID reporterHash correlationID : String)
  deriving DecidableEq, Repr

def ActionCall.body (s : ActionServices) : ActionCall → StreamM PUnit
  | .quarantine req => do
    let _ ← (s.quarantine.quarantine req).inl
    return
  | .release req => do
    let _ ← (s.release.release req).inl
    return
  | .report tenantID pseudoMessageID reporterHash correlationID => do
    let _ ← s.reports.handleReport tenantID pseudoMessageID reporterHash correlationID
    return

abbrev StreamPool := Pool StreamOp StreamAns PUnit ActionWorld

/-- A step of the calls. -/
def streamStep (window : ℤ) (s : ActionServices) :
    StreamPool → Pool.Label ActionCall StreamEnv → Option StreamPool :=
  Pool.step (streamExec window) (ActionCall.body s)

/-- The event that an operation publishes. -/
def published : StreamOp → Option StreamMessage
  | .inl (.publish subject event opts) => some ⟨subject, .action event, opts.messageID⟩
  | .inr (.publish subject event opts) => some ⟨subject, .report event, opts.messageID⟩
  | _ => none

/-- An operation publishes events under the message they are about. -/
def OwnIds (o : StreamOp) : Prop := ∀ m ∈ published o, m.Own

section Exec

variable {window : ℤ} {o : StreamOp} {e : StreamEnv} {w : ActionWorld}

/-- What an operation does to the stream. -/
lemma streamExec_log (o : StreamOp) : (streamExec window o e w).2.log =
    match published o with
    | some m => if e.Reaches then receive window e.base.now m w.log else w.log
    | none => w.log := by
  have hpublish : ∀ m, (w.publish window e m).2.log =
      if e.Reaches then receive window e.base.now m w.log else w.log := by
    intro m
    unfold ActionWorld.publish
    split <;> rfl
  cases o with
  | inl o => cases o with
    | publish subject event opts => exact hpublish _
    | _ => rfl
  | inr o => cases o with
    | publish subject event opts => exact hpublish _
    | add t m r =>
      simp only [streamExec, published]
      cases e.addError <;> rfl
    | _ => rfl

end Exec

/-! ### The ids of the events -/

section Ids

/-- Every operation of the program publishes under the message. -/
abbrev PublishesOwn {α : Type} (p : StreamM α) : Prop := p.Every OwnIds

/-- The same, for the two services. -/
abbrev ActsOwn {α : Type} (p : ActionM α) : Prop := p.Every fun o => OwnIds (.inl o)

lemma ActsOwn.inl {α : Type} {p : ActionM α} (h : ActsOwn p) : PublishesOwn (p.inl : StreamM α) :=
  Prog.Every.inl (fun _ ho => ho) h

/-- An operation that publishes nothing. -/
lemma acts_silent {o : Op} (h : published (.inl o) = none) : ActsOwn (Prog.perform o) :=
  Prog.every_perform fun m hm => by rw [h] at hm; cases hm

variable {q : QuarantineService}

lemma acts_persist (tenant msg : String) (record : QuarantineRecord) : ActsOwn (q.persist tenant msg record) := by
  refine Prog.Every.bind (acts_silent rfl) fun a => ?_
  cases a with
  | error err => exact Prog.every_pure _
  | ok enc =>
    refine Prog.Every.bind (acts_silent rfl) fun a => ?_
    cases a <;> exact Prog.every_pure _

lemma acts_publishApplied (req : QuarantineRequest) (record : QuarantineRecord) :
    ActsOwn (q.publishApplied req record) := by
  unfold QuarantineService.publishApplied
  split
  · refine Prog.Every.bind (Prog.every_perform fun m hm => ?_) fun _ => Prog.every_pure _
    cases hm
    rfl
  · exact Prog.every_pure _

lemma acts_recordMoved (req : QuarantineRequest) (labelID newMessageID : String) (moveErr : Option String) :
    ActsOwn (q.recordMoved req labelID newMessageID moveErr) := by
  refine Prog.Every.bind (acts_silent rfl) fun quarantineAt => ?_
  refine Prog.Every.bind (acts_persist _ _ _) fun err => ?_
  match err, moveErr with
  | some _, some _ => exact Prog.every_pure _
  | some _, none => exact Prog.every_pure _
  | none, some _ => exact Prog.every_pure _
  | none, none => exact Prog.Every.bind (acts_publishApplied _ _) fun _ => Prog.every_pure _

lemma acts_quarantine (req : QuarantineRequest) : ActsOwn (q.quarantine req) := by
  unfold QuarantineService.quarantine
  split_ifs
  · exact Prog.every_pure _
  · exact Prog.every_pure _
  · refine Prog.Every.bind (acts_silent rfl) fun label => ?_
    cases label with
    | error err => exact Prog.every_pure _
    | ok labelID =>
      refine Prog.Every.bind (acts_silent rfl) fun moved => ?_
      split
      · exact Prog.every_pure _
      · exact acts_recordMoved _ _ _ _
  · exact Prog.every_pure _
  · exact Prog.every_pure _

lemma acts_decodeReference (tenant encHex : String) : ActsOwn (q.decodeReference tenant encHex) := by
  unfold QuarantineService.decodeReference
  cases Hex.decode encHex with
  | error err => exact Prog.every_pure _
  | ok enc =>
    refine Prog.Every.bind (acts_silent rfl) fun a => ?_
    cases a with
    | error err => exact Prog.every_pure _
    | ok plain =>
      dsimp only
      cases q.unmarshal plain <;> exact Prog.every_pure _

lemma acts_lookupReference (tenant msg : String) : ActsOwn (q.lookupReference tenant msg) := by
  refine Prog.Every.bind (acts_silent rfl) fun a => ?_
  match a with
  | .error err => exact Prog.every_pure _
  | .ok none => exact Prog.every_pure _
  | .ok (some encHex) =>
    refine Prog.Every.bind (acts_decodeReference _ _) fun a => ?_
    cases a <;> exact Prog.every_pure _

lemma acts_claimReference (tenant msg : String) : ActsOwn (q.claimReference tenant msg) := by
  refine Prog.Every.bind (acts_silent rfl) fun a => ?_
  match a with
  | .error err => exact Prog.every_pure _
  | .ok none => exact Prog.every_pure _
  | .ok (some encHex) =>
    refine Prog.Every.bind (acts_decodeReference _ _) fun a => ?_
    match a with
    | .error (op, err) =>
      refine Prog.Every.bind (acts_silent rfl) fun a => ?_
      cases a <;> exact Prog.every_pure _
    | .ok record => exact Prog.every_pure _

variable {r : ReleaseService}

lemma acts_finish (req : ReleaseRequest) (o : ReleaseOutcome) : ActsOwn (r.finish req o) := by
  refine Prog.Every.bind ?_ fun _ => Prog.every_pure _
  unfold ReleaseService.publishOutcome
  split
  · refine Prog.Every.bind (Prog.every_perform fun m hm => ?_) fun _ => Prog.every_pure _
    cases hm
    rfl
  · exact Prog.every_pure _

lemma acts_restoreClaimed (req : ReleaseRequest) (o : ReleaseOutcome) (record : QuarantineRecord) :
    ActsOwn (r.restoreClaimed req o record) := by
  unfold ReleaseService.restoreClaimed
  simp only
  split
  · exact Prog.Every.bind (acts_persist _ _ _) fun _ => Prog.every_pure _
  · refine Prog.Every.bind (acts_silent rfl) fun a => ?_
    match a with
    | (newMessageID, some err) => exact Prog.Every.bind (acts_persist _ _ _) fun _ => Prog.every_pure _
    | (_, none) => exact acts_finish _ _

lemma acts_claimAndRestore (req : ReleaseRequest) (o : ReleaseOutcome) : ActsOwn (r.claimAndRestore req o) := by
  refine Prog.Every.bind (acts_claimReference _ _) fun a => ?_
  match a with
  | .error err => exact Prog.every_pure _
  | .ok none => exact acts_finish _ _
  | .ok (some record) => exact acts_restoreClaimed _ _ _

lemma acts_reevaluateFound (req : ReleaseRequest) (record : QuarantineRecord) :
    ActsOwn (r.reevaluateFound req record) := by
  refine Prog.Every.bind (acts_silent rfl) fun a => ?_
  cases a with
  | error err => exact Prog.every_pure _
  | ok verdict =>
    refine Prog.Every.bind (acts_silent rfl) fun occurredAt => ?_
    simp only
    split
    · exact acts_finish _ _
    · exact acts_claimAndRestore _ _

lemma acts_release (req : ReleaseRequest) : ActsOwn (r.release req) := by
  unfold ReleaseService.release
  split
  · exact Prog.every_pure _
  · refine Prog.Every.bind (acts_lookupReference _ _) fun a => ?_
    match a with
    | .error err => exact Prog.every_pure _
    | .ok none => exact Prog.Every.bind (acts_silent rfl) fun _ => acts_finish _ _
    | .ok (some record) => exact acts_reevaluateFound _ _

variable {wf : ReportWorkflow}

lemma publishes_silent {o : StreamOp} (h : published o = none) : PublishesOwn (Prog.perform o) :=
  Prog.every_perform fun m hm => by rw [h] at hm; cases hm

lemma publishes_quarantineAll (request : String → QuarantineRequest) (rs : List String) :
    PublishesOwn (ReportWorkflow.quarantineAll q request rs) := by
  induction rs with
  | nil => exact Prog.every_pure _
  | cons r rs ih => exact Prog.Every.bind (acts_quarantine _).inl fun _ => ih

lemma publishes_fanoutQuarantine (tenantID pseudoMessageID : String) :
    PublishesOwn (wf.fanoutQuarantine tenantID pseudoMessageID) := by
  unfold ReportWorkflow.fanoutQuarantine
  split
  · refine Prog.Every.bind (publishes_silent rfl) fun a => ?_
    cases a with
    | error err => exact Prog.every_pure _
    | ok rs => exact Prog.Every.bind (publishes_quarantineAll _ _) fun _ => Prog.every_pure _
  · exact Prog.every_pure _

lemma publishes_reEvaluate (tenantID pseudoMessageID : String) :
    PublishesOwn (wf.reEvaluate tenantID pseudoMessageID) := by
  unfold ReportWorkflow.reEvaluate
  split
  · refine Prog.Every.bind (publishes_silent rfl) fun a => ?_
    cases a <;> exact Prog.every_pure _
  · exact Prog.every_pure _

lemma publishes_publishReport (event : ReportEvent) : PublishesOwn (ReportWorkflow.publishReport event) := by
  refine Prog.Every.bind (Prog.every_perform fun m hm => ?_) fun a => ?_
  · cases hm
    rfl
  · cases a <;> exact Prog.every_pure _

lemma publishes_handleReport (tenantID pseudoMessageID reporterHash correlationID : String) :
    PublishesOwn (wf.handleReport tenantID pseudoMessageID reporterHash correlationID) := by
  unfold ReportWorkflow.handleReport
  split
  · exact Prog.every_pure _
  · refine Prog.Every.bind (publishes_silent rfl) fun a => ?_
    cases a with
    | error err => exact Prog.every_pure _
    | ok count =>
      refine Prog.Every.bind (publishes_reEvaluate _ _) fun verdict => ?_
      have htail : ∀ event : ℤ → ReportEvent,
          PublishesOwn (StreamM.now >>= fun occurredAt => ReportWorkflow.publishReport (event occurredAt)) :=
        fun event => Prog.Every.bind (acts_silent rfl).inl fun _ => publishes_publishReport _
      simp only
      split
      · exact Prog.Every.bind (publishes_fanoutQuarantine _ _) fun _ => htail _
      · exact htail _

/-- **The id of an event is the message it is about.** -/
lemma publishes_body (s : ActionServices) (c : ActionCall) : PublishesOwn (c.body s) := by
  cases c with
  | quarantine req => exact Prog.Every.bind (acts_quarantine req).inl fun _ => Prog.every_pure _
  | release req => exact Prog.Every.bind (acts_release req).inl fun _ => Prog.every_pure _
  | report t m r c => exact Prog.Every.bind (publishes_handleReport t m r c) fun _ => Prog.every_pure _

end Ids

/-! ### Runs -/

/-- The condition on a step of the calls. -/
def PublishFits (window : ℤ) (w : ActionWorld) (o : StreamOp) (e : StreamEnv) : Prop :=
  ∀ m ∈ published o, e.Reaches → Fits window e.base.now m w.log

instance (window : ℤ) (w : ActionWorld) (o : StreamOp) (e : StreamEnv) : Decidable (PublishFits window w o e) :=
  inferInstanceAs (Decidable (∀ m ∈ published o, e.Reaches → Fits window e.base.now m w.log))

/-- The ids in the stream. -/
def LogOwn (w : ActionWorld) : Prop := ∀ x ∈ w.log, x.msg.Own

section Runs

variable {window : ℤ} {o : StreamOp} {e : StreamEnv} {w : ActionWorld}

lemma streamExec_own (ho : OwnIds o) (hw : LogOwn w) : LogOwn (streamExec window o e w).2 := by
  intro x hx
  rw [streamExec_log] at hx
  cases hp : published o with
  | none =>
    simp only [hp] at hx
    exact hw x hx
  | some m =>
    simp only [hp] at hx
    split at hx
    · rcases List.mem_cons.mp hx with rfl | hx
      · exact ho m hp
      · exact hw x hx
    · exact hw x hx

lemma streamExec_exact (ho : OwnIds o) (hw : LogOwn w) :
    NothingSwallowed window (streamExec window o e w).2.log ↔
      NothingSwallowed window w.log ∧ PublishFits window w o e := by
  rw [streamExec_log]
  unfold PublishFits
  cases hp : published o with
  | none => simp
  | some m =>
    simp only [Option.mem_some_iff, forall_eq']
    by_cases hreach : e.Reaches
    · rw [if_pos hreach, receive_exact (ho m hp) hw]
      exact and_congr Iff.rfl ⟨fun h _ => h, fun h => h hreach⟩
    · rw [if_neg hreach]
      exact ⟨fun h => ⟨h, fun hr => absurd hr hreach⟩, And.left⟩

end Runs

/-- **When the stream swallows nothing in a run of calls.** -/
theorem nothing_swallowed_iff (window : ℤ) (s : ActionServices) {ls : List (Pool.Label ActionCall StreamEnv)}
    {w : ActionWorld} (hnew : w.log = []) {p : StreamPool}
    (hrun : Lts.run (streamStep window s) ⟨w, []⟩ ls = some p) :
    NothingSwallowed window p.shared.log ↔
      Lts.Meets (streamStep window s) (Pool.Permits (PublishFits window)) ⟨w, []⟩ ls := by
  have hown : LogOwn w := by
    intro x hx
    rw [hnew] at hx
    cases hx
  have hstart : NothingSwallowed window w.log := by rw [hnew]; trivial
  have hexact := Pool.run_exact (P := fun w => NothingSwallowed window w.log) (publishes_body s)
    (fun _ _ _ ho hw => streamExec_own ho hw) (fun _ _ _ ho hw => streamExec_exact ho hw)
    (fun t ht => by cases ht) hown hrun
  rw [hexact]
  exact ⟨And.right, fun h => ⟨hstart, h⟩⟩

/-! ### Two reports -/

def plainQuarantine : QuarantineService where
  providers _ := true
  marshal := recordJson
  unmarshal _ := .error "unexpected end of JSON input"

def plainServices : ActionServices where
  quarantine := plainQuarantine
  release := { quarantine := plainQuarantine }
  reports := {}

/-- Nothing fails. -/
def secondsIn (now : ℤ) : StreamEnv where
  base := { now, encrypt := fun _ b => .ok b, decrypt := fun _ b => .ok b }

/-- Two users report a message each, ten seconds apart. -/
def twoReports (first second : String) : List (Pool.Label ActionCall StreamEnv) :=
  [.spawn (.report "acme" first "u1" ""), .advance 0 (secondsIn 0), .advance 0 (secondsIn 0), .advance 0 (secondsIn 0),
    .spawn (.report "acme" second "u2" ""), .advance 1 (secondsIn 10), .advance 1 (secondsIn 10),
    .advance 1 (secondsIn 10)]

/-- Reports of two messages are both stored. -/
theorem two_messages_stored : ∃ p, Lts.run (streamStep 120 plainServices) ⟨{}, []⟩ (twoReports "m1" "m2") = some p ∧
    p.shared.log.map (·.stored) = [true, true] ∧ NothingSwallowed 120 p.shared.log := by
  have hend : (Lts.run (streamStep 120 plainServices) ⟨{}, []⟩ (twoReports "m1" "m2")).map
      (fun p => p.shared.log.map (·.stored)) = some [true, true] := by
    decide +kernel
  obtain ⟨p, hrun, hstored⟩ := Option.map_eq_some_iff.mp hend
  exact ⟨p, hrun, hstored, (nothing_swallowed_iff 120 plainServices rfl hrun).mpr (by decide +kernel)⟩

/-- **The second report of a message is swallowed.** -/
theorem second_report_swallowed : ∃ p,
    Lts.run (streamStep 120 plainServices) ⟨{}, []⟩ (twoReports "m1" "m1") = some p ∧
      (∀ t ∈ p.threads, t.Finished) ∧ p.shared.log.map (·.stored) = [false, true] ∧
      ¬ NothingSwallowed 120 p.shared.log := by
  have hend : (Lts.run (streamStep 120 plainServices) ⟨{}, []⟩ (twoReports "m1" "m1")).map
      (fun p => (decide (∀ t ∈ p.threads, t.Finished), p.shared.log.map (·.stored),
        decide (NothingSwallowed 120 p.shared.log))) = some (true, [false, true], false) := by
    decide +kernel
  obtain ⟨p, hrun, hp⟩ := Option.map_eq_some_iff.mp hend
  obtain ⟨hdone, hp⟩ := Prod.mk.inj hp
  obtain ⟨hstored, hswallowed⟩ := Prod.mk.inj hp
  exact ⟨p, hrun, of_decide_eq_true hdone, hstored, of_decide_eq_false hswallowed⟩

end Sn360Es.Action
