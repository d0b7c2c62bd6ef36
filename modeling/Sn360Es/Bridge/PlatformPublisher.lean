import Sn360Es.Action.Quarantine
import Sn360Es.Agent.Escalation
import Sn360Es.Lib.Dedup
import Sn360Es.Lib.Sha256
import Sn360Es.Lib.Utf8

/-!
# The bridge to the platform (`internal/service/bridge/platform_publisher.go`)

`PublishQuarantine` and `PublishEscalation` put an event on the stream of the platform. The stream drops a message whose
id it remembers, and answers that it has stored it.

* `dedupID_inj` — the id has the tenant, the object and the kind of the event, and not the action;
* `run_covers` — every event is stored if no two calls report different actions on one object;
* `soc_sees_iff` — and only then.

The flat copy of the payload for the correlation engine and the check of the schema, which stops nothing, are left out.
-/

namespace Sn360Es.Bridge

open Lib Lib.Dedup Sn360Es.Action Agent

/-! ### Events -/

def subjectPrefix : String := "sn360.events.email"

def kindQuarantine : String := "quarantine"

def kindEscalation : String := "escalation"

def escalationActionCreated : String := "created"

def escalationActionResolved : String := "resolved"

def quarantineActionApplied : String := "applied"

def quarantineActionReleased : String := "released"

structure Config where
  source : String := ""
  clusterID : String := ""
  publishRetries : ℤ := 0

/-- `withDefaults`. -/
def Config.withDefaults (c : Config) : Config :=
  let source := if c.source = "" then "sn360-es" else c.source
  { source
    clusterID := if c.clusterID = "" then source else c.clusterID
    publishRetries := if c.publishRetries ≤ 0 then 3 else c.publishRetries }

structure QuarantineEvent where
  tenantID : String
  messageID : String
  correlationID : String := ""
  action : String := ""
  tier : Option Tier := none
  primary : Option Category := none
  score : ℤ := 0
  recipient : String := ""
  requestedBy : String := ""
  deriving DecidableEq, Repr

structure QuarantinePayload where
  source : String
  eventType : String
  action : String
  messageID : String
  correlationID : String
  tier : String
  primary : String
  score : ℤ
  recipientHash : String
  requestedBy : String
  at' : ℤ

structure EscalationPayload where
  source : String
  eventType : String
  action : String
  ticketID : String
  reason : String
  createdAt : ℤ
  outcome : String
  resolvedAt : Option ℤ
  resolverHash : String
  messageID : String
  tier : String
  category : String
  score : Float64
  affectedUsers : Int64
  detectedAt : ℤ
  indicators : List String
  aiSummary : String

inductive EventData where
  | quarantine (p : QuarantinePayload)
  | escalation (p : EscalationPayload)

/-- The action of a payload. -/
def EventData.action : EventData → String
  | quarantine p => p.action
  | escalation p => p.action

structure Envelope where
  timestamp : ℤ
  clusterID : String
  ruleID : String
  ruleLevel : ℕ
  ruleDescription : String
  agent : String
  tenantID : String
  data : EventData
  subject : String
  eventID : String
  eventClass : String
  severity : String

/-- A message of the stream: its id, the headers and the envelope. -/
structure Message where
  id : String
  subject : String
  tenantID : String
  correlationID : String
  eventType : String
  source : String
  enqueuedAt : ℤ
  envelope : Envelope

/-! ### Publishing -/

def ruleIDForQuarantine (action : String) : String := if action = quarantineActionReleased then "7831" else "7830"

def ruleIDForEscalation (action : String) : String := if action = escalationActionResolved then "7841" else "7840"

def ruleLevelForTier : Option Tier → ℕ
  | some .blocked => 12
  | some .highRisk => 8
  | _ => 0

def severityForLevel (level : ℕ) : String :=
  if 12 ≤ level then "critical"
  else if 8 ≤ level then "high"
  else if 3 ≤ level then "medium"
  else if 0 < level then "low"
  else "info"

/-- `hashIdentifier`; `lower` is `unicode.ToLower`. -/
def hashIdentifier (lower : ℕ → ℕ) (tenantID email : String) : String :=
  if tenantID = "" ∨ email = "" then ""
  else Hex.encode (Sha256.sum256 (bytesOf tenantID ++ [0x3A] ++ Utf8.toLower lower (Utf8.trimSpace (bytesOf email))))

def nilIfZero (t : ℤ) : Option ℤ := if t = 0 then none else some t

def subject (tenantID kind : String) : String := subjectPrefix ++ "." ++ tenantID ++ "." ++ kind

/-- The id of a message. -/
def dedupID (tenantID msgID subject : String) : String := tenantID ++ ":" ++ msgID ++ ":" ++ subject

/-- What differs between two calls: the time, and the random ids. -/
structure Moment where
  now : ℤ
  uuid : String := ""

/-- The errors of one attempt. -/
inductive PublishError where
  | contextDone
  | noStream
  | other (text : String)
  deriving DecidableEq, Repr

/-- The attempts of `publish`, with what each is answered: a stream that does not exist, or a context that is done, ends
them. -/
def attempts (answers : ℕ → Option PublishError) (attempt : ℕ) : ℕ → Option PublishError
  | 0 => none
  | left + 1 =>
    match answers attempt with
    | none => none
    | some .contextDone => some .contextDone
    | some .noStream => some .noStream
    | some (.other text) => if left = 0 then some (.other text) else attempts answers (attempt + 1) left

section Publisher

variable (lower : ℕ → ℕ) (cfg : Config)

/-- The message that `publish` sends; an empty id is replaced. -/
def outgoing (m : Moment) (subject msgID correlationID tenantID eventType : String) (env : Envelope) : Message where
  id := dedupID tenantID (if msgID = "" then m.uuid else msgID) subject
  subject := subject
  tenantID := tenantID
  correlationID := correlationID
  eventType := eventType
  source := cfg.source
  enqueuedAt := m.now
  envelope := env

/-- `buildEnvelope` and `enrichForEngine`. -/
def buildEnvelope (m : Moment) (tenantID ruleID : String) (level : ℕ) (desc : String) (data : EventData)
    (subject eventClass : String) : Envelope where
  timestamp := m.now
  clusterID := cfg.clusterID
  ruleID := ruleID
  ruleLevel := level
  ruleDescription := desc
  agent := cfg.source
  tenantID := tenantID
  data := data
  subject := subject
  eventID := m.uuid
  eventClass := eventClass
  severity := severityForLevel level

/-- `PublishQuarantine`: the message that is sent, if one is. -/
def publishQuarantine (m : Moment) (evt : QuarantineEvent) : Option Message :=
  if evt.tenantID = "" ∨ evt.messageID = "" then none
  else
    let action := if evt.action = "" then quarantineActionApplied else evt.action
    let subj := subject evt.tenantID kindQuarantine
    let eventClass := "email.quarantine." ++ action
    let payload : QuarantinePayload :=
      { source := cfg.source
        eventType := eventClass
        action
        messageID := evt.messageID
        correlationID := evt.correlationID
        tier := tierText evt.tier
        primary := (evt.primary.map Category.code).getD ""
        score := evt.score
        recipientHash := hashIdentifier lower evt.tenantID evt.recipient
        requestedBy := evt.requestedBy
        at' := m.now }
    let level := if ruleLevelForTier evt.tier = 0 then 10 else ruleLevelForTier evt.tier
    let env := buildEnvelope cfg m evt.tenantID (ruleIDForQuarantine action) level ("sn360-es: quarantine " ++ action)
      (.quarantine payload) subj eventClass
    some (outgoing cfg m subj evt.messageID evt.correlationID evt.tenantID eventClass env)

/-- `PublishEscalation`. -/
def publishEscalation (m : Moment) (action : String) (ticket : Option EscalationTicket) : Option Message :=
  match ticket with
  | none => none
  | some t =>
    if t.tenantID = "" ∨ t.ticketID = "" then none
    else
      let action := if action = "" then escalationActionCreated else action
      let subj := subject t.tenantID kindEscalation
      let eventClass := "email.escalation." ++ action
      let payload : EscalationPayload :=
        { source := cfg.source
          eventType := eventClass
          action
          ticketID := t.ticketID
          reason := t.reason
          createdAt := t.createdAt
          outcome := t.outcome
          resolvedAt := nilIfZero t.resolvedAt
          resolverHash := t.resolverHash
          messageID := t.incident.pseudoMessageID
          tier := t.incident.tier
          category := t.incident.category
          score := t.incident.score
          affectedUsers := t.incident.affectedUserCount
          detectedAt := t.incident.detectedAt
          indicators := t.incident.indicators
          aiSummary := t.incident.aiSummary }
      let env := buildEnvelope cfg m t.tenantID (ruleIDForEscalation action) 12 ("sn360-es: escalation " ++ action)
        (.escalation payload) subj eventClass
      some (outgoing cfg m subj t.ticketID "" t.tenantID eventClass env)

/-- A call of the bridge. -/
inductive Call where
  | quarantine (evt : QuarantineEvent)
  | escalation (action : String) (ticket : Option EscalationTicket)

def Call.message (m : Moment) : Call → Option Message
  | .quarantine evt => publishQuarantine lower cfg m evt
  | .escalation action ticket => publishEscalation cfg m action ticket

/-- The stream, which remembers the ids of `window`. -/
abbrev Stream := Store Message

def Stream.receive (window : ℤ) (s : Stream) (msg : Message) : Stream :=
  (s.forget fun w => msg.enqueuedAt < w.enqueuedAt + window).receive Message.id msg

/-- `publish`: the stream after the attempts, and the error. -/
def publish (window : ℤ) (s : Stream) (answers : ℕ → Option PublishError) (msg : Message) :
    Stream × Option PublishError :=
  match attempts answers 1 cfg.withDefaults.publishRetries.toNat with
  | none => (s.receive window msg, none)
  | some err => (s, some err)

/-- One call, at a moment, on a stream that answers success. -/
def call (window : ℤ) (s : Stream) (c : Moment × Call) : Stream :=
  match c.2.message lower cfg c.1 with
  | none => s
  | some msg => (publish cfg window s (fun _ => none) msg).1

/-- A run of calls. -/
def run (window : ℤ) (calls : List (Moment × Call)) : Stream := calls.foldl (call lower cfg window) {}

/-- The messages of a run. -/
def messages (calls : List (Moment × Call)) : List Message := calls.filterMap fun c => c.2.message lower cfg c.1

end Publisher

/-! ### What is reported -/

/-- What a call reports, in its own words: the kind and the id of the object, with its tenant, and the action. -/
@[ext] structure Report where
  kind : String
  tenantID : String
  object : String
  action : String
  deriving DecidableEq, Repr

def Call.report : Call → Option Report
  | .quarantine evt =>
    if evt.tenantID = "" ∨ evt.messageID = "" then none
    else some
      { kind := kindQuarantine
        tenantID := evt.tenantID
        object := evt.messageID
        action := if evt.action = "" then quarantineActionApplied else evt.action }
  | .escalation action ticket =>
    ticket.bind fun t =>
      if t.tenantID = "" ∨ t.ticketID = "" then none
      else some
        { kind := kindEscalation
          tenantID := t.tenantID
          object := t.ticketID
          action := if action = "" then escalationActionCreated else action }

/-- What a message of the stream says. -/
def Message.report (msg : Message) : Report :=
  match msg.envelope.data with
  | .quarantine p => ⟨kindQuarantine, msg.tenantID, p.messageID, p.action⟩
  | .escalation p => ⟨kindEscalation, msg.tenantID, p.ticketID, p.action⟩

/-- The reports of a run. -/
def reports (calls : List (Moment × Call)) : List Report := calls.filterMap fun c => c.2.report

/-- **The SOC sees every event**: two messages have one id only if they report the same, and everything that was
reported is stored. -/
structure SeesAll (lower : ℕ → ℕ) (cfg : Config) (window : ℤ) (calls : List (Moment × Call)) : Prop where
  ids : ∀ x ∈ messages lower cfg calls, ∀ y ∈ messages lower cfg calls, x.id = y.id → x.report = y.report
  stored : ∀ r ∈ reports calls, ∃ x ∈ (run lower cfg window calls).stored, x.report = r

/-- No two calls report different actions on one object. -/
def OneAction (calls : List (Moment × Call)) : Prop :=
  ∀ r ∈ reports calls, ∀ r' ∈ reports calls,
    r.kind = r'.kind → r.tenantID = r'.tenantID → r.object = r'.object → r.action = r'.action

section Reports

variable {lower : ℕ → ℕ} {cfg : Config} {window : ℤ} {calls : List (Moment × Call)}

variable (lower cfg) in
/-- **What a call sends**: a message about its report, under an id that does not have the action. -/
lemma message_spec (m : Moment) (c : Call) :
    (c.message lower cfg m).map (fun msg => (msg.report, msg.id)) =
      c.report.map fun r => (r, dedupID r.tenantID r.object (subject r.tenantID r.kind)) := by
  cases c with
  | quarantine evt =>
    simp only [Call.message, Call.report, publishQuarantine]
    by_cases hempty : evt.tenantID = "" ∨ evt.messageID = ""
    · rw [if_pos hempty, if_pos hempty]
      rfl
    · rw [if_neg hempty, if_neg hempty]
      simp [outgoing, buildEnvelope, Message.report, (not_or.mp hempty).2]
  | escalation action ticket =>
    cases ticket with
    | none => rfl
    | some t =>
      simp only [Call.message, Call.report, publishEscalation, Option.bind_some]
      by_cases hempty : t.tenantID = "" ∨ t.ticketID = ""
      · rw [if_pos hempty, if_pos hempty]
        rfl
      · rw [if_neg hempty, if_neg hempty]
        simp [outgoing, buildEnvelope, Message.report, (not_or.mp hempty).2]

/-- The two kinds have the same length. -/
lemma report_kind {c : Call} {r : Report} (h : c.report = some r) : r.kind.toList.length = 10 := by
  cases c with
  | quarantine evt =>
    simp only [Call.report] at h
    split at h
    · cases h
    · cases h
      show kindQuarantine.toList.length = 10
      decide
  | escalation action ticket =>
    simp only [Call.report] at h
    obtain ⟨t, -, h⟩ := Option.bind_eq_some_iff.mp h
    split at h
    · cases h
    · cases h
      show kindEscalation.toList.length = 10
      decide

lemma message_report {m : Moment} {c : Call} {msg : Message} (h : c.message lower cfg m = some msg) :
    c.report = some msg.report ∧
      msg.id = dedupID msg.report.tenantID msg.report.object (subject msg.report.tenantID msg.report.kind) := by
  have hspec := message_spec lower cfg m c
  rw [h, Option.map_some] at hspec
  obtain ⟨r, hr, hpair⟩ := Option.map_eq_some_iff.mp hspec.symm
  obtain ⟨rfl, hid⟩ := Prod.mk.inj hpair
  exact ⟨hr, hid.symm⟩

variable (lower cfg) in
lemma exists_message (m : Moment) {c : Call} {r : Report} (h : c.report = some r) :
    ∃ msg, c.message lower cfg m = some msg ∧ msg.report = r := by
  have hspec := message_spec lower cfg m c
  rw [h, Option.map_some] at hspec
  obtain ⟨msg, hmsg, hpair⟩ := Option.map_eq_some_iff.mp hspec
  exact ⟨msg, hmsg, (Prod.mk.inj hpair).1⟩

lemma mem_messages {msg : Message} :
    msg ∈ messages lower cfg calls ↔ ∃ c ∈ calls, c.2.message lower cfg c.1 = some msg := by
  simp [messages]

lemma mem_reports {r : Report} : r ∈ reports calls ↔ ∃ c ∈ calls, c.2.report = some r := by
  simp [reports]

/-- **The id** of an event, for tenants without a colon. -/
lemma dedupID_inj {t t' o o' k k' : String} (ht : ':' ∉ t.toList) (ht' : ':' ∉ t'.toList)
    (hk : k.toList.length = k'.toList.length)
    (h : dedupID t o (subject t k) = dedupID t' o' (subject t' k')) : t = t' ∧ o = o' ∧ k = k' := by
  have hsep : (":" : String).toList = [':'] := rfl
  -- the tenant ends at the first colon
  have hfirst : ∀ {t o s : String}, ':' ∉ t.toList → GoStrings.beforeFirst ':' (dedupID t o s) = some t := by
    intro t o s ht
    have hassoc : dedupID t o s = t ++ ":" ++ (o ++ ":" ++ s) := by simp only [dedupID, String.append_assoc]
    rw [hassoc]
    exact GoStrings.beforeFirst_append hsep ht _
  have htenant : t = t' := by
    have heq := hfirst (o := o) (s := subject t k) ht
    rw [h, hfirst ht'] at heq
    exact (Option.some.inj heq).symm
  subst htenant
  have hlist := congrArg String.toList h
  simp only [dedupID, String.toList_append, List.append_assoc] at hlist
  -- the rest of the two is equally long from the object on
  have hlen : (":".toList ++ (subject t k).toList).length = (":".toList ++ (subject t k').toList).length := by
    simp [subject, hk]
  obtain ⟨hobject, hsubject⟩ :=
    List.append_inj' (List.append_cancel_left (List.append_cancel_left hlist)) hlen
  refine ⟨rfl, String.toList_inj.mp hobject, String.toList_inj.mp ?_⟩
  have hkind := List.append_cancel_left hsubject
  simp only [subject, String.toList_append] at hkind
  exact List.append_cancel_left hkind

/-! ### Runs -/

variable (lower cfg window) in
lemma call_cases (s : Stream) (c : Moment × Call) :
    (c.2.message lower cfg c.1 = none ∧ call lower cfg window s c = s) ∨
    ∃ msg, c.2.message lower cfg c.1 = some msg ∧ call lower cfg window s c = s.receive window msg := by
  have hretries : ∃ n, cfg.withDefaults.publishRetries.toNat = n + 1 := by
    have hpos : 0 < cfg.withDefaults.publishRetries := by
      unfold Config.withDefaults
      simp only
      split_ifs with h
      · decide
      · omega
    exact ⟨cfg.withDefaults.publishRetries.toNat - 1, by omega⟩
  obtain ⟨n, hn⟩ := hretries
  unfold call
  cases hmsg : c.2.message lower cfg c.1 with
  | none => exact .inl ⟨rfl, rfl⟩
  | some msg =>
    refine .inr ⟨msg, rfl, ?_⟩
    simp only [publish, hn, attempts]

/-- What a run has stored and remembers: messages of its calls, and something for every report. -/
structure Covers (s : Stream) (sent : List Message) : Prop where
  sound : s.Sound
  known : ∀ w ∈ s.window, w ∈ sent
  stored : ∀ msg ∈ sent, ∃ x ∈ s.stored, x.report = msg.report

/-- **One call.** -/
lemma Covers.receive {s : Stream} {sent : List Message} {msg : Message} (h : Covers s sent)
    (hids : ∀ w ∈ sent, w.id = msg.id → w.report = msg.report) : Covers (s.receive window msg) (sent ++ [msg]) := by
  have hforget : (s.forget fun w => msg.enqueuedAt < w.enqueuedAt + window).Sound := Store.forget_sound h.sound _
  have hwindow : ∀ w ∈ (s.forget fun w => msg.enqueuedAt < w.enqueuedAt + window).window, w ∈ sent := fun w hw =>
    h.known w (List.mem_filter.mp hw).1
  refine ⟨Store.receive_sound hforget, fun w hw => ?_, fun x hx => ?_⟩
  · rcases Store.window_receive hw with hold | rfl
    · exact List.mem_append_left _ (hwindow w hold)
    · exact List.mem_append_right _ List.mem_cons_self
  · rcases List.mem_append.mp hx with hold | hlast
    · obtain ⟨y, hy, hreport⟩ := h.stored x hold
      exact ⟨y, Store.mem_stored_receive hy, hreport⟩
    · rw [List.mem_singleton.mp hlast]
      exact Store.receive_covers (R := fun a b => a.report = b.report) (fun _ => rfl) hforget
        fun w hw hkey => hids w (hwindow w hw) hkey

/-- **A run.** -/
lemma run_covers
    (hids : ∀ x ∈ messages lower cfg calls, ∀ y ∈ messages lower cfg calls, x.id = y.id → x.report = y.report) :
    Covers (run lower cfg window calls) (messages lower cfg calls) := by
  induction calls using List.reverseRecOn with
  | nil =>
    refine ⟨?_, ?_, ?_⟩ <;> simp [run, messages, Store.Sound]
  | append_singleton calls c ih =>
    have hsub : ∀ x ∈ messages lower cfg calls, x ∈ messages lower cfg (calls ++ [c]) := fun x hx => by
      simp only [messages, List.filterMap_append, List.mem_append]
      exact .inl hx
    have hbefore := ih fun x hx y hy => hids x (hsub x hx) y (hsub y hy)
    have hrun : run lower cfg window (calls ++ [c]) = call lower cfg window (run lower cfg window calls) c := by
      simp [run, List.foldl_append]
    rw [hrun]
    rcases call_cases lower cfg window (run lower cfg window calls) c with ⟨hmsg, hcall⟩ | ⟨msg, hmsg, hcall⟩
    · have hsame : messages lower cfg (calls ++ [c]) = messages lower cfg calls := by
        simp [messages, List.filterMap_append, hmsg]
      rw [hcall, hsame]
      exact hbefore
    · have hmore : messages lower cfg (calls ++ [c]) = messages lower cfg calls ++ [msg] := by
        simp [messages, List.filterMap_append, hmsg]
      rw [hcall, hmore]
      refine hbefore.receive fun w hw hid => hids w (hsub w hw) msg ?_ hid
      rw [hmore]
      exact List.mem_append_right _ List.mem_cons_self

lemma SeesAll.oneAction (h : SeesAll lower cfg window calls) : OneAction calls := by
  intro r hr r' hr' hkind htenant hobject
  obtain ⟨c, hc, hreport⟩ := mem_reports.mp hr
  obtain ⟨c', hc', hreport'⟩ := mem_reports.mp hr'
  obtain ⟨x, hx, rfl⟩ := exists_message lower cfg c.1 hreport
  obtain ⟨y, hy, rfl⟩ := exists_message lower cfg c'.1 hreport'
  have hid : x.id = y.id := by
    rw [(message_report hx).2, (message_report hy).2, hkind, htenant, hobject]
  rw [h.ids x (mem_messages.mpr ⟨c, hc, hx⟩) y (mem_messages.mpr ⟨c', hc', hy⟩) hid]

lemma OneAction.ids (h : OneAction calls) (htenants : ∀ r ∈ reports calls, ':' ∉ r.tenantID.toList) :
    ∀ x ∈ messages lower cfg calls, ∀ y ∈ messages lower cfg calls, x.id = y.id → x.report = y.report := by
  intro x hx y hy hid
  obtain ⟨c, hc, hxm⟩ := mem_messages.mp hx
  obtain ⟨c', hc', hym⟩ := mem_messages.mp hy
  obtain ⟨hxr, hxid⟩ := message_report hxm
  obtain ⟨hyr, hyid⟩ := message_report hym
  have hxin := mem_reports.mpr ⟨c, hc, hxr⟩
  have hyin := mem_reports.mpr ⟨c', hc', hyr⟩
  rw [hxid, hyid] at hid
  obtain ⟨htenant, hobject, hkind⟩ := dedupID_inj (htenants _ hxin) (htenants _ hyin)
    (by rw [report_kind hxr, report_kind hyr]) hid
  have haction := h _ hxin _ hyin hkind htenant hobject
  exact Report.ext hkind htenant hobject haction

/-- **The SOC sees every event** of a run, for tenants without a colon, exactly if no two calls of the run report
different actions on one object. -/
theorem soc_sees_iff (lower : ℕ → ℕ) (cfg : Config) (window : ℤ) (calls : List (Moment × Call))
    (htenants : ∀ r ∈ reports calls, ':' ∉ r.tenantID.toList) : SeesAll lower cfg window calls ↔ OneAction calls := by
  refine ⟨SeesAll.oneAction, fun h => ⟨h.ids htenants, fun r hr => ?_⟩⟩
  obtain ⟨c, hc, hreport⟩ := mem_reports.mp hr
  obtain ⟨x, hx, rfl⟩ := exists_message lower cfg c.1 hreport
  exact (run_covers (h.ids htenants)).stored x (mem_messages.mpr ⟨c, hc, hx⟩)

end Reports

section Samples

def appliedCall : Call := .quarantine { tenantID := "t", messageID := "m", action := quarantineActionApplied }

def releasedCall : Call := .quarantine { tenantID := "t", messageID := "m", action := quarantineActionReleased }

def ticketCall (action : String) : Call := .escalation action (some { tenantID := "t", ticketID := "k" })

/-- **The failing runs**: a message is quarantined and released a second later, and a ticket is created and resolved;
the stream has the first event of each. -/
theorem second_event_dropped :
    ¬ SeesAll id {} 120 [({ now := 0 }, appliedCall), ({ now := 1 }, releasedCall)] ∧
    (run id {} 120 [({ now := 0 }, appliedCall), ({ now := 1 }, releasedCall)]).stored.map Message.report =
      [⟨kindQuarantine, "t", "m", "applied"⟩] ∧
    ¬ SeesAll id {} 120 [({ now := 0 }, ticketCall "created"), ({ now := 1 }, ticketCall "resolved")] := by
  refine ⟨fun h => ?_, by decide, fun h => ?_⟩
  · have hsame := h.oneAction ⟨kindQuarantine, "t", "m", "applied"⟩ (by decide) ⟨kindQuarantine, "t", "m", "released"⟩
      (by decide) rfl rfl rfl
    exact absurd hsame (by decide)
  · have hsame := h.oneAction ⟨kindEscalation, "t", "k", "created"⟩ (by decide) ⟨kindEscalation, "t", "k", "resolved"⟩
      (by decide) rfl rfl rfl
    exact absurd hsame (by decide)

/-- Two messages of one tenant. -/
theorem two_objects_seen :
    SeesAll id {} 120 [({ now := 0 }, appliedCall),
      ({ now := 1 }, .quarantine { tenantID := "t", messageID := "n", action := quarantineActionReleased })] := by
  refine (soc_sees_iff id {} 120 _ (by decide)).mpr ?_
  unfold OneAction
  decide

end Samples

end Sn360Es.Bridge
