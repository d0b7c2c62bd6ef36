import Mathlib.Data.List.Nodup
import Mathlib.Data.List.Pairwise
import Sn360Es.Sinks.Event
import Sn360Es.Sinks.Publisher

/-!
# The webhook dispatcher (`internal/service/webhooksink/dispatcher.go`)

`DispatchVerdict` sends the event of a result to every sink of the tenant. A failure that may pass goes to a queue, in
an envelope whose id is made of the sink, the event and the attempt. The id of the event is a new one for every call.

* `mem_envelopes` — the envelopes of a call are those of the sinks that are retried, with the event of the call;
* `dedupID_inj` — equal ids belong to the same event;
* `envelopes_idempotent_iff` — two calls with one result never give a sink the same id.
-/

namespace Sn360Es.Sinks

open Lib

/-! ### Sinks -/

/-- `WebhookSinkFilters`. -/
structure SinkFilters where
  minTier : String := ""
  categories : List String := []
  rateLimitPerMinute : ℤ := 0
  deriving DecidableEq, Repr

/-- `WebhookSink`, without its times. -/
structure WebhookSink where
  id : String
  tenantID : String
  name : String := ""
  url : String := ""
  hmacSecretCiphertext : Bytes := []
  format : String := "ecs"
  filters : SinkFilters := {}
  enabled : Bool := true
  deriving DecidableEq, Repr

/-- `WebhookSinkAuditEntry` of a dispatch that failed. -/
structure AuditEntry where
  tenantID : String
  sinkID : String
  sinkName : String
  dedupID : String
  reason : Bytes
  deriving DecidableEq, Repr

/-- `DLQEnvelope`, but for its instants. -/
structure DLQEnvelope where
  sinkID : String
  tenantID : String
  sinkName : String
  url : String
  format : String
  eventID : String
  body : Bytes
  signature : String
  attempt : ℕ
  lastCause : Bytes
  lastStatus : ℕ
  deriving DecidableEq, Repr

/-- `DedupID`. -/
def dedupID (sinkID eventID : String) (attempt : ℕ) : String := sinkID ++ "|" ++ eventID ++ "|" ++ toString attempt

/-- `DLQSubject`. -/
def dlqSubject (tenantID sinkID : String) : String := "sn360.dlq.webhook." ++ tenantID ++ "." ++ sinkID

/-- A message for the queue, with the id by which the broker knows it again. -/
structure QueuedEnvelope where
  subject : String
  messageID : String
  envelope : DLQEnvelope
  deriving DecidableEq, Repr

/-- `boundReason`. -/
def boundReason (s : Bytes) : Bytes := cutAt 1024 s

/-! ### One sink -/

/-- What the outside does while an event goes to a sink: the answer of the limiter, the body and the signature, the
reply of the endpoint, and the errors of the envelope and of the queue. -/
structure SinkEnv where
  allowed : Except Unit Bool := .ok true
  signed : Except Bytes (Bytes × String)
  reply : Reply
  marshalErr : Option Bytes := none
  publishErr : Option Bytes := none
  deriving DecidableEq

/-- What a dispatch does: requests that the endpoint may have received, success, audit entries, envelopes. -/
structure Effects where
  posts : ℕ := 0
  succeeded : Bool := false
  audits : List AuditEntry := []
  queued : List QueuedEnvelope := []
  deriving DecidableEq, Repr

section Dispatch

variable (quote : Bytes → Bytes) (maxBody : ℕ)

/-- The entry of `recordDispatchFailedAudit`. -/
def dispatchFailedAudit (sink : WebhookSink) (eventID stage : String) (cause : Bytes) (status attempt : ℕ) :
    AuditEntry where
  tenantID := sink.tenantID
  sinkID := sink.id
  sinkName := sink.name
  dedupID := sink.id ++ "|" ++ eventID ++ "|attempt=" ++ toString attempt ++ "|stage=" ++ stage
  reason := boundReason ((if 0 < attempt then bytesOf ("attempt=" ++ toString attempt ++ " ") else []) ++
    (if 0 < status then bytesOf ("http=" ++ toString status ++ " ") else []) ++ cause)

/-- `routeToDLQ`. -/
def routeToDLQ (sink : WebhookSink) (req : Request) (result : PublishResult) (env : SinkEnv) : Effects :=
  match env.marshalErr with
  | some err =>
    { audits := [dispatchFailedAudit sink req.eventID "dlq_marshal" (bytesOf "marshal dlq envelope: " ++ err)
        result.httpStatus req.attempt] }
  | none =>
    match env.publishErr with
    | some err =>
      { audits := [dispatchFailedAudit sink req.eventID "dlq_publish" (bytesOf "dlq publish failed: " ++ err)
          result.httpStatus req.attempt] }
    | none =>
      { queued := [{ subject := dlqSubject sink.tenantID sink.id
                     messageID := dedupID sink.id req.eventID req.attempt
                     envelope := { sinkID := sink.id, tenantID := sink.tenantID, sinkName := sink.name, url := sink.url
                                   format := sink.format, eventID := req.eventID, body := req.body
                                   signature := req.signature, attempt := req.attempt, lastCause := result.cause
                                   lastStatus := result.httpStatus } }] }

/-- The request of a first attempt. -/
def firstRequest (sink : WebhookSink) (eventID : String) (body : Bytes) (signature : String) : Request where
  sinkID := sink.id
  tenantID := sink.tenantID
  sinkName := sink.name
  url := sink.url
  format := sink.format
  body := body
  signature := signature
  eventID := eventID
  attempt := 1

/-- `dispatchOne`. -/
def dispatchOne (sink : WebhookSink) (event : Event) (env : SinkEnv) : Effects :=
  match env.signed with
  | .error err =>
    { audits := [dispatchFailedAudit sink event.eventID "format_sign" (bytesOf "format/sign error: " ++ err) 0 0] }
  | .ok (body, signature) =>
    let req := firstRequest sink event.eventID body signature
    let (result, posted) := publish quote maxBody req env.reply
    match result.outcome with
    | .success => { posts := posted.toNat, succeeded := true }
    | .permanentFailure =>
      { posts := posted.toNat
        audits := [dispatchFailedAudit sink event.eventID "http_permanent" result.cause result.httpStatus 1] }
    | .retriable | .unknown => { routeToDLQ sink req result env with posts := posted.toNat }

/-! ### All sinks -/

/-- `skipBySinkFilter`; a minimum that is no tier is ignored, and a tier that is none is below all others. -/
def skipBySinkFilter (sink : WebhookSink) (event : Event) : Bool :=
  (match tierOf sink.filters.minTier with
    | some minTier => ((tierOf event.tier).map fun t => (t.severity : ℤ)).getD (-1) < minTier.severity
    | none => false) ||
  (sink.filters.categories ≠ [] && !sink.filters.categories.contains event.primary)

/-- `takeRateBudget`: an error of the limiter lets the event through. -/
def takeRateBudget (env : SinkEnv) : Bool :=
  match env.allowed with
  | .error () => true
  | .ok allowed => allowed

/-- The event of a call, with the id that was minted for it. -/
def eventOf (res : EvaluateResult) (uuid : String) (now : ℕ) : Event :=
  let event := eventFromEvaluateResult res
  { event with
    eventID := if event.eventID = "" then uuid else event.eventID
    occurredAt := if event.occurredAt = 0 then now else event.occurredAt }

/-- A call of `DispatchVerdict`: the sinks of the tenant, or the error of the repository, with what happens at each. -/
structure VerdictCall where
  uuid : String
  now : ℕ := 0
  sinks : Except String (List (WebhookSink × SinkEnv))

/-- `DispatchVerdict`: what happens at each sink, in the order of the sinks. -/
def dispatchVerdict (res : EvaluateResult) (call : VerdictCall) : Except String (List (WebhookSink × Effects)) :=
  if res.tenantID = "" then .ok []
  else
    match call.sinks with
    | .error err => .error ("webhooksink: list enabled: " ++ err)
    | .ok sinks =>
      let event := eventOf res call.uuid call.now
      .ok ((sinks.filter fun x => !skipBySinkFilter x.1 event && takeRateBudget x.2).map fun x =>
        (x.1, dispatchOne quote maxBody x.1 event x.2))

/-- The envelopes of a call. -/
def envelopes (res : EvaluateResult) (call : VerdictCall) : List QueuedEnvelope :=
  match dispatchVerdict quote maxBody res call with
  | .error _ => []
  | .ok effects => effects.flatMap fun x => x.2.queued

/-! ### The envelopes of a call -/

/-- The event is signed, the endpoint fails in a way that may pass, and the queue takes the envelope. -/
def Deferred (sink : WebhookSink) (eventID : String) (env : SinkEnv) : Prop :=
  ∃ body signature, env.signed = .ok (body, signature) ∧
    (publish quote maxBody (firstRequest sink eventID body signature) env.reply).1.outcome ∈
      [PublishOutcome.retriable, .unknown] ∧ env.marshalErr = none ∧ env.publishErr = none

/-- The sink is listed in a call, wants the event and has budget for it, and the event is deferred there. -/
def Retried (res : EvaluateResult) (call : VerdictCall) (sinkID : String) : Prop :=
  res.tenantID ≠ "" ∧ ∃ sinks, call.sinks = .ok sinks ∧ ∃ x ∈ sinks, x.1.id = sinkID ∧
    skipBySinkFilter x.1 (eventOf res call.uuid call.now) = false ∧ takeRateBudget x.2 = true ∧
    Deferred quote maxBody x.1 call.uuid x.2

variable {quote maxBody}

/-- The id of the event is the one that was minted for the call. -/
@[simp] lemma eventOf_eventID (res : EvaluateResult) (uuid : String) (now : ℕ) :
    (eventOf res uuid now).eventID = uuid := by
  simp [eventOf, eventFromEvaluateResult]

lemma queued_dispatchOne {sink : WebhookSink} {event : Event} {env : SinkEnv} {q : QueuedEnvelope}
    (h : q ∈ (dispatchOne quote maxBody sink event env).queued) :
    q.messageID = dedupID sink.id event.eventID 1 ∧
      (q.envelope.sinkID = sink.id ∧ q.envelope.tenantID = sink.tenantID ∧ q.envelope.eventID = event.eventID) ∧
      Deferred quote maxBody sink event.eventID env := by
  unfold dispatchOne at h
  split at h
  · cases h
  · next body signature hsigned =>
    have hroute : ∀ {result : PublishResult}, q ∈ (routeToDLQ sink
        (firstRequest sink event.eventID body signature) result env).queued →
        (q.messageID = dedupID sink.id event.eventID 1 ∧ q.envelope.sinkID = sink.id ∧
          q.envelope.tenantID = sink.tenantID ∧ q.envelope.eventID = event.eventID) ∧
          env.marshalErr = none ∧ env.publishErr = none := by
      intro result hq
      unfold routeToDLQ at hq
      split at hq
      · cases hq
      · next hmarshal =>
        split at hq
        · cases hq
        · next hpublish =>
          rw [List.mem_singleton.mp hq]
          exact ⟨⟨rfl, rfl, rfl, rfl⟩, hmarshal, hpublish⟩
    simp only at h
    split at h
    · cases h
    · cases h
    · next hout =>
      obtain ⟨⟨hid, hsink⟩, herrs⟩ := hroute h
      exact ⟨hid, hsink, body, signature, hsigned, by rw [hout]; decide, herrs⟩
    · next hout =>
      obtain ⟨⟨hid, hsink⟩, herrs⟩ := hroute h
      exact ⟨hid, hsink, body, signature, hsigned, by rw [hout]; decide, herrs⟩

lemma exists_queued {sink : WebhookSink} (event : Event) {env : SinkEnv}
    (h : Deferred quote maxBody sink event.eventID env) :
    ∃ q, q ∈ (dispatchOne quote maxBody sink event env).queued := by
  obtain ⟨body, signature, hsigned, hout, hmarshal, hpublish⟩ := h
  unfold dispatchOne
  rw [hsigned]
  simp only
  rcases List.mem_pair.mp hout with hout | hout
  · rw [hout]
    simp only [routeToDLQ, hmarshal, hpublish]
    exact ⟨_, List.mem_singleton_self _⟩
  · rw [hout]
    simp only [routeToDLQ, hmarshal, hpublish]
    exact ⟨_, List.mem_singleton_self _⟩

/-- **The envelopes of a call** are those of the sinks that are retried, with the id that was minted for it. -/
lemma mem_envelopes {res : EvaluateResult} {call : VerdictCall} {q : QueuedEnvelope}
    (h : q ∈ envelopes quote maxBody res call) :
    Retried quote maxBody res call q.envelope.sinkID ∧ q.messageID = dedupID q.envelope.sinkID call.uuid 1 := by
  unfold envelopes dispatchVerdict at h
  by_cases htenant : res.tenantID = ""
  · rw [if_pos htenant] at h
    cases h
  · rw [if_neg htenant] at h
    cases hsinks : call.sinks with
    | error err =>
      rw [hsinks] at h
      cases h
    | ok sinks =>
      rw [hsinks] at h
      obtain ⟨y, hy, hq⟩ := List.mem_flatMap.mp h
      obtain ⟨x, hx, rfl⟩ := List.mem_map.mp hy
      obtain ⟨hmem, hpass⟩ := List.mem_filter.mp hx
      rw [Bool.and_eq_true, Bool.not_eq_true'] at hpass
      obtain ⟨hid, ⟨hsink, -⟩, hdeferred⟩ := queued_dispatchOne hq
      rw [eventOf_eventID] at hid hdeferred
      rw [hsink]
      exact ⟨⟨htenant, sinks, hsinks, x, hmem, rfl, hpass.1, hpass.2, hdeferred⟩, hid⟩

lemma exists_envelope {res : EvaluateResult} {call : VerdictCall} {sinkID : String}
    (h : Retried quote maxBody res call sinkID) :
    ∃ q ∈ envelopes quote maxBody res call, q.envelope.sinkID = sinkID := by
  obtain ⟨htenant, sinks, hsinks, x, hmem, hid, hskip, hbudget, hdeferred⟩ := h
  obtain ⟨q, hq⟩ := exists_queued (eventOf res call.uuid call.now) (by rwa [eventOf_eventID])
  refine ⟨q, ?_, (queued_dispatchOne hq).2.1.1.trans hid⟩
  unfold envelopes dispatchVerdict
  rw [if_neg htenant, hsinks]
  refine List.mem_flatMap.mpr ⟨_, List.mem_map.mpr ⟨x, List.mem_filter.mpr ⟨hmem, ?_⟩, rfl⟩, hq⟩
  rw [hskip, hbudget]
  rfl

/-- **Equal ids belong to one event**, since a minted id has no separator. -/
lemma dedupID_inj {s s' u u' : String} (hu : '|' ∉ u.toList) (hu' : '|' ∉ u'.toList)
    (h : dedupID s u 1 = dedupID s' u' 1) : u = u' := by
  have hlist := congrArg String.toList h
  simp only [dedupID, String.toList_append] at hlist
  have hcut := List.append_cancel_right (List.append_cancel_right hlist)
  rw [List.append_assoc, List.append_assoc] at hcut
  exact String.toList_injective (GoStrings.append_sep_inj hu hu' hcut).2

/-! ### Redelivery -/

section History

variable (quote maxBody)

/-- Every call with one result gives the envelopes of a sink one id, and results with different messages share none. -/
def Idempotent (history : List (EvaluateResult × VerdictCall)) : Prop :=
  ∀ x ∈ history, ∀ y ∈ history, ∀ q ∈ envelopes quote maxBody x.1 x.2, ∀ q' ∈ envelopes quote maxBody y.1 y.2,
    (x.1 = y.1 → q.envelope.sinkID = q'.envelope.sinkID → q.messageID = q'.messageID) ∧
      (x.1.messageID ≠ y.1.messageID → q.messageID ≠ q'.messageID)

/-- No sink is retried in two calls with one result. -/
def RetriedOnce (history : List (EvaluateResult × VerdictCall)) : Prop :=
  history.Pairwise fun x y => x.1 = y.1 →
    ∀ sinkID, ¬(Retried quote maxBody x.1 x.2 sinkID ∧ Retried quote maxBody y.1 y.2 sinkID)

end History

/-- The calls with one result give a sink one id exactly if it is retried in one of them at most: every call mints an id
of its own. -/
theorem envelopes_idempotent_iff {history : List (EvaluateResult × VerdictCall)}
    (hdistinct : (history.map fun x => x.2.uuid).Nodup) (hplain : ∀ x ∈ history, '|' ∉ x.2.uuid.toList) :
    Idempotent quote maxBody history ↔ RetriedOnce quote maxBody history := by
  have huuid : ∀ x ∈ history, ∀ y ∈ history, ∀ q ∈ envelopes quote maxBody x.1 x.2,
      ∀ q' ∈ envelopes quote maxBody y.1 y.2, q.messageID = q'.messageID → x.2.uuid = y.2.uuid := by
    intro x hx y hy q hq q' hq' hid
    rw [(mem_envelopes hq).2, (mem_envelopes hq').2] at hid
    exact dedupID_inj (hplain x hx) (hplain y hy) hid
  constructor
  · intro h
    refine (List.pairwise_map.mp hdistinct).imp_of_mem ?_
    rintro x y hx hy hne heq sinkID ⟨hretried, hretried'⟩
    obtain ⟨q, hq, hsink⟩ := exists_envelope hretried
    obtain ⟨q', hq', hsink'⟩ := exists_envelope hretried'
    have hid := (h x hx y hy q hq q' hq').1 heq (hsink.trans hsink'.symm)
    exact hne (huuid x hx y hy q hq q' hq' hid)
  · intro h x hx y hy q hq q' hq'
    by_cases hxy : x = y
    · subst hxy
      refine ⟨fun _ hsink => ?_, fun hne => absurd rfl hne⟩
      rw [(mem_envelopes hq).2, (mem_envelopes hq').2, hsink]
    · have hsymm : Std.Symm fun x y : EvaluateResult × VerdictCall => x.1 = y.1 →
          ∀ sinkID, ¬(Retried quote maxBody x.1 x.2 sinkID ∧ Retried quote maxBody y.1 y.2 sinkID) :=
        ⟨fun x y hr heq sinkID hboth => hr heq.symm sinkID hboth.symm⟩
      refine ⟨fun heq hsink => ?_, fun _ hid => ?_⟩
      · have honce := List.Pairwise.forall h hx hy hxy heq q.envelope.sinkID
        exact absurd ⟨(mem_envelopes hq).1, hsink ▸ (mem_envelopes hq').1⟩ honce
      · exact hxy (List.inj_on_of_nodup_map hdistinct hx hy (huuid x hx y hy q hq q' hq' hid))

/-- A sink whose endpoint answers with status 503. -/
def flakySink : WebhookSink × SinkEnv :=
  ({ id := "s1", tenantID := "t", url := "https://siem.example.com" },
    { signed := .ok (bytesOf "body", "sha256=00"), reply := .response 503 [] [] })

def verdictResult : EvaluateResult := { tenantID := "t", messageID := "m", tier := some .blocked }

/-- The endpoint has come back. -/
def recoveredSink : WebhookSink × SinkEnv := (flakySink.1, { flakySink.2 with reply := .response 200 [] [] })

def laterResult : EvaluateResult := { verdictResult with messageID := "m2" }

/-- A result while the endpoint is down, its redelivery when the endpoint is back, and another result when it is down
again. -/
def recoveredHistory : List (EvaluateResult × VerdictCall) :=
  [(verdictResult, ⟨"u1", 0, .ok [flakySink]⟩), (verdictResult, ⟨"u2", 1, .ok [recoveredSink]⟩),
    (laterResult, ⟨"u3", 2, .ok [flakySink]⟩)]

theorem envelopes_idempotent_once :
    (recoveredHistory.map fun x => (envelopes id 512 x.1 x.2).map (·.messageID)) = [["s1|u1|1"], [], ["s1|u3|1"]] ∧
      Idempotent id 512 recoveredHistory := by
  refine ⟨by decide +kernel, (envelopes_idempotent_iff (by decide) (by decide)).mpr ?_⟩
  have hback : envelopes id 512 verdictResult ⟨"u2", 1, .ok [recoveredSink]⟩ = [] :=
    List.map_eq_nil_iff.mp (show List.map (·.messageID) _ = [] by decide +kernel)
  have hother : verdictResult ≠ laterResult := fun h => absurd (congrArg (·.messageID) h) (by decide)
  unfold recoveredHistory RetriedOnce
  simp only [List.pairwise_cons, List.mem_cons, List.not_mem_nil, or_false, forall_eq_or_imp, forall_eq,
    false_implies, implies_true, List.Pairwise.nil, and_true]
  refine ⟨⟨fun _ sinkID h => ?_, fun h => absurd h hother⟩, fun h => absurd h hother⟩
  obtain ⟨q, hq, -⟩ := exists_envelope h.2
  rw [hback] at hq
  cases hq

/-- The result is delivered twice while the endpoint is down: the broker keeps both envelopes. -/
theorem envelopes_of_redelivery :
    ¬Idempotent id 512 [(verdictResult, ⟨"u1", 0, .ok [flakySink]⟩), (verdictResult, ⟨"u2", 0, .ok [flakySink]⟩)] := by
  have hfirst : ∃ q ∈ envelopes id 512 verdictResult ⟨"u1", 0, .ok [flakySink]⟩,
      q.envelope.sinkID = "s1" ∧ q.messageID = "s1|u1|1" := by decide +kernel
  have hsecond : ∃ q ∈ envelopes id 512 verdictResult ⟨"u2", 0, .ok [flakySink]⟩,
      q.envelope.sinkID = "s1" ∧ q.messageID = "s1|u2|1" := by decide +kernel
  obtain ⟨q, hq, hsink, hid⟩ := hfirst
  obtain ⟨q', hq', hsink', hid'⟩ := hsecond
  intro h
  have hsame := (h _ List.mem_cons_self _ (List.mem_cons_of_mem _ List.mem_cons_self) q hq q' hq').1 rfl
    (hsink.trans hsink'.symm)
  rw [hid, hid'] at hsame
  exact absurd hsame (by decide)

end Dispatch

end Sn360Es.Sinks
