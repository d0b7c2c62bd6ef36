import Sn360Es.Events.DeadLetter
import Sn360Es.Lib.JsonTree

/-!
# Escalation tickets (`internal/service/agent/escalation.go`, `cmd/sn360-es/consumers.go`)

`Escalate` opens a ticket for an incident, stores it and publishes it; `ResolveEscalation` records the outcome and
publishes the ticket again. `handleEscalation` is subscribed to both subjects and reads requests from them. It stands
behind the schema check and the tenant binding.

* `decTicket_ticketPayload` — a ticket reads back from its payload;
* `routed_created`, `routed_resolved` — what the handler reads from the payload of a ticket.

The feedback sink and the bridge to the platform, whose errors are logged, are left out.
-/

namespace Sn360Es.Agent

open Lib Lib.Json

/-! ### Tickets -/

/-- `EscalationIncident`; the reason is the text that came in. -/
structure EscalationIncident where
  pseudoMessageID : String := ""
  tier : String := ""
  category : String := ""
  reason : String := ""
  score : Float64 := 0
  affectedUserCount : Int64 := 0
  aiSummary : String := ""
  indicators : List String := []
  detectedAt : ℤ := 0

structure EscalationStep where
  occurredAt : ℤ := 0
  step : String := ""
  detail : String := ""

/-- `EscalationTicket`, less the version of its schema, which nothing sets; an empty outcome is `OutcomePending`. -/
structure EscalationTicket where
  ticketID : String := ""
  tenantID : String := ""
  createdAt : ℤ := 0
  reason : String := ""
  incident : EscalationIncident := {}
  timeline : List EscalationStep := []
  outcome : String := ""
  resolvedAt : ℤ := 0
  resolverHash : String := ""
  resolutionNotes : String := ""

/-- `EscalationReason.Valid`. -/
def validReason (r : String) : Bool :=
  r ∈ ["confirmed_breach", "account_compromise", "zero_day_attachment", "ai_low_confidence", "user_requested",
    "ops_alert"]

/-- `EscalationOutcome.Valid`. -/
def validOutcome (o : String) : Bool :=
  o ∈ ["confirmed_phishing", "false_positive", "requires_hunting", "closed_no_action"]

/-! ### Payloads -/

/-- A time, in the text that `MarshalJSON` gives it. -/
def timeTree (timeText : ℤ → String) (t : ℤ) : Option Tree := some (.time t (timeText t))

/-- A slice with `omitempty`. -/
def sliceTree {α : Type} (enc : α → Tree) (xs : List α) : Option Tree :=
  if xs.isEmpty then none else some (.arr (xs.map enc))

def incidentSlots (timeText : ℤ → String) (i : EscalationIncident) : List Slot :=
  [("pseudo_message_id", some (.str i.pseudoMessageID)), ("tier", some (.str i.tier)),
    ("category", some (.str i.category)), ("reason", some (.str i.reason)), ("score", some (encFloat64 i.score)),
    ("affected_user_count", some (.int i.affectedUserCount.toInt)), slotOmitEmpty "ai_summary" i.aiSummary,
    ("indicators", sliceTree .str i.indicators), ("detected_at", timeTree timeText i.detectedAt)]

def stepTree (timeText : ℤ → String) (s : EscalationStep) : Tree :=
  .obj (members [("occurred_at", timeTree timeText s.occurredAt), ("step", some (.str s.step)),
    slotOmitEmpty "detail" s.detail])

def ticketSlots (timeText : ℤ → String) (t : EscalationTicket) : List Slot :=
  [("ticket_id", some (.str t.ticketID)),
    ("tenant_id", some (.str t.tenantID)), ("created_at", timeTree timeText t.createdAt),
    ("reason", some (.str t.reason)), ("incident", some (.obj (members (incidentSlots timeText t.incident)))),
    ("timeline", sliceTree (stepTree timeText) t.timeline), slotOmitEmpty "outcome" t.outcome,
    ("resolved_at", timeTree timeText t.resolvedAt), slotOmitEmpty "resolver_hash" t.resolverHash,
    slotOmitEmpty "resolution_notes" t.resolutionNotes]

/-- The ticket as it is published: `Stamp` has put the version of the schema in front. -/
def stampedSlots (timeText : ℤ → String) (t : EscalationTicket) : List Slot :=
  ("schema_version", some (.str Events.schemaVersionV1)) :: ticketSlots timeText t

def ticketPayload (timeText : ℤ → String) (t : EscalationTicket) : Tree := .obj (members (stampedSlots timeText t))

def decIncident : Dec EscalationIncident := decStruct fun cur ms => do
  let pseudoMessageID ← field "pseudo_message_id" decString cur.pseudoMessageID ms
  let tier ← field "tier" decString cur.tier ms
  let category ← field "category" decString cur.category ms
  let reason ← field "reason" decString cur.reason ms
  let score ← field "score" decFloat64 cur.score ms
  let affectedUserCount ← field "affected_user_count" decInt64 cur.affectedUserCount ms
  let aiSummary ← field "ai_summary" decString cur.aiSummary ms
  let indicators ← field "indicators" (decList "" decString) cur.indicators ms
  let detectedAt ← field "detected_at" decTime cur.detectedAt ms
  return { pseudoMessageID, tier, category, reason, score, affectedUserCount, aiSummary, indicators, detectedAt }

def decStep : Dec EscalationStep := decStruct fun cur ms => do
  let occurredAt ← field "occurred_at" decTime cur.occurredAt ms
  let step ← field "step" decString cur.step ms
  let detail ← field "detail" decString cur.detail ms
  return { occurredAt, step, detail }

def decTicket : Dec EscalationTicket := decStruct fun cur ms => do
  let _ ← field "schema_version" decString "" ms
  let ticketID ← field "ticket_id" decString cur.ticketID ms
  let tenantID ← field "tenant_id" decString cur.tenantID ms
  let createdAt ← field "created_at" decTime cur.createdAt ms
  let reason ← field "reason" decString cur.reason ms
  let incident ← field "incident" decIncident cur.incident ms
  let timeline ← field "timeline" (decList {} decStep) cur.timeline ms
  let outcome ← field "outcome" decString cur.outcome ms
  let resolvedAt ← field "resolved_at" decTime cur.resolvedAt ms
  let resolverHash ← field "resolver_hash" decString cur.resolverHash ms
  let resolutionNotes ← field "resolution_notes" decString cur.resolutionNotes ms
  return { ticketID, tenantID, createdAt, reason, incident, timeline, outcome, resolvedAt, resolverHash,
           resolutionNotes }

/-- `escalationCreateEnvelope`. -/
structure EscalationCreateEnvelope where
  tenantID : String := ""
  incident : EscalationIncident := {}

def decCreateEnvelope : Dec EscalationCreateEnvelope := decStruct fun cur ms => do
  let tenantID ← field "tenant_id" decString cur.tenantID ms
  let incident ← field "incident" decIncident cur.incident ms
  return { tenantID, incident }

/-- `escalationResolveEnvelope`. -/
structure EscalationResolveEnvelope where
  tenantID : String := ""
  ticketID : String := ""
  resolverHash : String := ""
  outcome : String := ""
  notes : String := ""

def decResolveEnvelope : Dec EscalationResolveEnvelope := decStruct fun cur ms => do
  let tenantID ← field "tenant_id" decString cur.tenantID ms
  let ticketID ← field "ticket_id" decString cur.ticketID ms
  let resolverHash ← field "resolver_hash" decString cur.resolverHash ms
  let outcome ← field "outcome" decString cur.outcome ms
  let notes ← field "notes" decString cur.notes ms
  return { tenantID, ticketID, resolverHash, outcome, notes }

/-! ### What is written reads back -/

section RoundTrip

variable (timeText : ℤ → String)

lemma incidentSlots_nodup (i : EscalationIncident) :
    ((incidentSlots timeText i).map fun x => foldName x.1).Nodup := by
  show (["pseudo_message_id", "tier", "category", "reason", "score", "affected_user_count", "ai_summary", "indicators",
    "detected_at"].map foldName).Nodup
  decide

lemma stampedSlots_nodup (t : EscalationTicket) : ((stampedSlots timeText t).map fun x => foldName x.1).Nodup := by
  show (["schema_version", "ticket_id", "tenant_id", "created_at", "reason", "incident", "timeline", "outcome",
    "resolved_at", "resolver_hash", "resolution_notes"].map foldName).Nodup
  decide

/-- A slice with `omitempty` reads back. -/
lemma sliceTree_elim {α : Type} {zero : α} {dec : Dec α} {enc : α → Tree} (h : ∀ a, dec zero (enc a) = some a)
    (xs : List α) : (sliceTree enc xs).elim (some []) (decList zero dec []) = some xs := by
  cases xs with
  | nil => rfl
  | cons a xs => exact mapM_dec h (a :: xs)

lemma decIncident_members (i : EscalationIncident) :
    decIncident {} (.obj (members (incidentSlots timeText i))) = some i := by
  have hn := incidentSlots_nodup timeText i
  have hpseudo : field "pseudo_message_id" decString "" (members (incidentSlots timeText i)) = some i.pseudoMessageID :=
    field_str hn (by simp [incidentSlots])
  have htier : field "tier" decString "" (members (incidentSlots timeText i)) = some i.tier :=
    field_str hn (by simp [incidentSlots])
  have hcategory : field "category" decString "" (members (incidentSlots timeText i)) = some i.category :=
    field_str hn (by simp [incidentSlots])
  have hreason : field "reason" decString "" (members (incidentSlots timeText i)) = some i.reason :=
    field_str hn (by simp [incidentSlots])
  have hscore : field "score" decFloat64 0 (members (incidentSlots timeText i)) = some i.score := by
    rw [field_members hn (v := some (encFloat64 i.score)) (by simp [incidentSlots])]
    exact decFloat64_encFloat64 0 i.score
  have hcount : field "affected_user_count" decInt64 0 (members (incidentSlots timeText i)) =
      some i.affectedUserCount := by
    rw [field_members hn (v := some (.int i.affectedUserCount.toInt)) (by simp [incidentSlots])]
    exact decInt64_toInt 0 i.affectedUserCount
  have hsummary : field "ai_summary" decString "" (members (incidentSlots timeText i)) = some i.aiSummary :=
    field_slotOmitEmpty hn (by simp [incidentSlots])
  have hindicators : field "indicators" (decList "" decString) [] (members (incidentSlots timeText i)) =
      some i.indicators := by
    rw [field_members hn (v := sliceTree .str i.indicators) (by simp [incidentSlots])]
    exact sliceTree_elim (fun _ => rfl) _
  have hdetected : field "detected_at" decTime 0 (members (incidentSlots timeText i)) = some i.detectedAt :=
    field_time hn (show (_, timeTree timeText i.detectedAt) ∈ _ by simp [incidentSlots])
  simp only [decIncident, decStruct, hpseudo, htier, hcategory, hreason, hscore, hcount, hsummary, hindicators,
    hdetected]
  rfl

lemma decStep_stepTree (s : EscalationStep) : decStep {} (stepTree timeText s) = some s := by
  have hn : (List.map (fun x : Slot => foldName x.1) [("occurred_at", timeTree timeText s.occurredAt),
      ("step", some (.str s.step)), slotOmitEmpty "detail" s.detail]).Nodup := by
    show (["occurred_at", "step", "detail"].map foldName).Nodup
    decide
  have hoccurred := field_time hn (show ("occurred_at", timeTree timeText s.occurredAt) ∈ _ by simp)
  have hstep := field_str hn (show ("step", some (Tree.str s.step)) ∈ _ by simp)
  have hdetail := field_slotOmitEmpty hn (show slotOmitEmpty "detail" s.detail ∈ _ by simp)
  simp only [decStep, stepTree, decStruct, hoccurred, hstep, hdetail]
  rfl

section Ticket

variable {timeText} (t : EscalationTicket)

lemma ticket_string (name text : String) (h : (name, some (.str text)) ∈ stampedSlots timeText t) :
    field name decString "" (members (stampedSlots timeText t)) = some text :=
  field_str (stampedSlots_nodup timeText t) h

lemma ticket_optional (name text : String) (h : slotOmitEmpty name text ∈ stampedSlots timeText t) :
    field name decString "" (members (stampedSlots timeText t)) = some text :=
  field_slotOmitEmpty (stampedSlots_nodup timeText t) h

lemma ticket_incident : field "incident" decIncident {} (members (stampedSlots timeText t)) = some t.incident := by
  rw [field_members (stampedSlots_nodup timeText t)
    (v := some (.obj (members (incidentSlots timeText t.incident)))) (by simp [stampedSlots, ticketSlots])]
  exact decIncident_members timeText t.incident

/-- **A ticket reads back from its payload.** -/
lemma decTicket_ticketPayload : decTicket {} (ticketPayload timeText t) = some t := by
  have hn := stampedSlots_nodup timeText t
  have htimeline : field "timeline" (decList {} decStep) [] (members (stampedSlots timeText t)) = some t.timeline := by
    rw [field_members hn (v := sliceTree (stepTree timeText) t.timeline) (by simp [stampedSlots, ticketSlots])]
    exact sliceTree_elim (decStep_stepTree timeText) _
  have hcreated : field "created_at" decTime 0 (members (stampedSlots timeText t)) = some t.createdAt :=
    field_time hn (show (_, timeTree timeText t.createdAt) ∈ _ by simp [stampedSlots, ticketSlots])
  have hresolved : field "resolved_at" decTime 0 (members (stampedSlots timeText t)) = some t.resolvedAt :=
    field_time hn (show (_, timeTree timeText t.resolvedAt) ∈ _ by simp [stampedSlots, ticketSlots])
  simp only [decTicket, ticketPayload, decStruct, ticket_incident, htimeline, hcreated, hresolved,
    ticket_string t "schema_version" Events.schemaVersionV1 (by simp [stampedSlots]),
    ticket_string t "ticket_id" t.ticketID (by simp [stampedSlots, ticketSlots]),
    ticket_string t "tenant_id" t.tenantID (by simp [stampedSlots, ticketSlots]),
    ticket_string t "reason" t.reason (by simp [stampedSlots, ticketSlots]),
    ticket_optional t "outcome" t.outcome (by simp [stampedSlots, ticketSlots]),
    ticket_optional t "resolver_hash" t.resolverHash (by simp [stampedSlots, ticketSlots]),
    ticket_optional t "resolution_notes" t.resolutionNotes (by simp [stampedSlots, ticketSlots])]
  rfl

/-- The payload of a ticket reads as a request to open one for the same incident. -/
lemma decCreateEnvelope_ticketPayload : decCreateEnvelope {} (ticketPayload timeText t) =
    some { tenantID := t.tenantID, incident := t.incident } := by
  simp only [decCreateEnvelope, ticketPayload, decStruct, ticket_incident,
    ticket_string t "tenant_id" t.tenantID (by simp [stampedSlots, ticketSlots])]
  rfl

/-- The payload of a ticket reads as a request to resolve it as it stands. -/
lemma decResolveEnvelope_ticketPayload : decResolveEnvelope {} (ticketPayload timeText t) =
    some { tenantID := t.tenantID, ticketID := t.ticketID, resolverHash := t.resolverHash, outcome := t.outcome } := by
  have hnotes : field "notes" decString "" (members (stampedSlots timeText t)) = some "" := by
    refine field_absent (fun x hx => ?_) ""
    have hname : foldName x.1 ∈ (stampedSlots timeText t).map fun x => foldName x.1 :=
      List.mem_map.mpr ⟨x, hx, rfl⟩
    have hne : foldName "notes" ∉ (stampedSlots timeText t).map fun x => foldName x.1 := by
      show foldName "notes" ∉ ["schema_version", "ticket_id", "tenant_id", "created_at", "reason", "incident",
        "timeline", "outcome", "resolved_at", "resolver_hash", "resolution_notes"].map foldName
      decide
    exact fun hsame => hne (hsame ▸ hname)
  simp only [decResolveEnvelope, ticketPayload, decStruct, hnotes,
    ticket_string t "ticket_id" t.ticketID (by simp [stampedSlots, ticketSlots]),
    ticket_string t "tenant_id" t.tenantID (by simp [stampedSlots, ticketSlots]),
    ticket_optional t "outcome" t.outcome (by simp [stampedSlots, ticketSlots]),
    ticket_optional t "resolver_hash" t.resolverHash (by simp [stampedSlots, ticketSlots])]
  rfl

end Ticket

end RoundTrip

/-! ### The service -/

/-- The tickets, by tenant and id; a ticket is kept under its own. -/
structure TicketStore where
  find : String → String → Option EscalationTicket
  keyed : ∀ {tenantID ticketID : String} {t : EscalationTicket}, find tenantID ticketID = some t →
    t.tenantID = tenantID ∧ t.ticketID = ticketID

def TicketStore.put (st : TicketStore) (t : EscalationTicket) : TicketStore where
  find tenantID ticketID :=
    if tenantID = t.tenantID ∧ ticketID = t.ticketID then some t else st.find tenantID ticketID
  keyed := by
    intro tenantID ticketID t' h
    split at h
    · next hkey =>
      obtain rfl := Option.some.inj h
      exact ⟨hkey.1.symm, hkey.2.symm⟩
    · exact st.keyed h

def TicketStore.empty : TicketStore where
  find _ _ := none
  keyed h := by cases h

/-- What the world answers to one call: the twelve random bytes, the clock, and the errors of the store and of the
bus. -/
structure EscalationEnv where
  entropy : Except String Bytes := .error "no entropy"
  now : ℤ := 0
  storeError : Option String := none
  publishError : Option String := none

/-- `newTicketID`. -/
def newTicketID (e : EscalationEnv) : Except String String := e.entropy.map fun b => "esc_" ++ Hex.encode b

/-- A ticket that was published; its id is the message id. -/
structure TicketEvent where
  subject : String
  ticket : EscalationTicket

def subjectEscalationCreated : String := "es.action.escalation.created"

def subjectEscalationResolved : String := "es.action.escalation.resolved"

/-- What a call leaves behind: its error, the store, whether it has saved a new ticket, and what it has published. -/
structure EscalationRun where
  err : Option String := none
  store : TicketStore
  saved : Bool := false
  event : Option TicketEvent := none

/-- The ticket that `Escalate` opens; `scrubIncident` copies every field. -/
def openedTicket (tenantID : String) (incident : EscalationIncident) (id : String) (now : ℤ) : EscalationTicket :=
  { ticketID := id, tenantID, createdAt := now, reason := incident.reason
    incident := { incident with detectedAt := if incident.detectedAt = 0 then now else incident.detectedAt }
    timeline := [{ occurredAt := now, step := "created", detail := "Incident detected and escalation ticket opened." }] }

def quotedText (s : String) : String := "\"" ++ s ++ "\""

/-- `Escalate`. The ticket stays stored when it cannot be published. -/
def escalate (e : EscalationEnv) (tenantID : String) (incident : EscalationIncident) (st : TicketStore) :
    EscalationRun :=
  if tenantID = "" then { err := some "escalation: tenant_id is required", store := st }
  else if ¬ validReason incident.reason then
    { err := some ("escalation: invalid reason " ++ quotedText incident.reason), store := st }
  else
    match newTicketID e with
    | .error err => { err := some ("escalation: ticket id: " ++ err), store := st }
    | .ok id =>
      let ticket := openedTicket tenantID incident id e.now
      match e.storeError, e.publishError with
      | some err, _ => { err := some ("escalation: store: " ++ err), store := st }
      | none, some err => { err := some ("escalation: publish: " ++ err), store := st.put ticket, saved := true }
      | none, none => { store := st.put ticket, saved := true, event := some ⟨subjectEscalationCreated, ticket⟩ }

/-- The ticket as `ResolveEscalation` leaves it. -/
def resolvedTicket (t : EscalationTicket) (resolverHash outcome notes : String) (now : ℤ) : EscalationTicket :=
  { t with
    outcome, resolvedAt := now, resolverHash, resolutionNotes := notes
    timeline := t.timeline ++ [{ occurredAt := now, step := "resolved", detail := outcome }] }

/-- `ResolveEscalation`. -/
def resolveEscalation (e : EscalationEnv) (tenantID ticketID resolverHash outcome notes : String) (st : TicketStore) :
    EscalationRun :=
  if tenantID = "" then { err := some "escalation: tenant_id is required", store := st }
  else if ticketID = "" then { err := some "escalation: ticket_id is required", store := st }
  else if ¬ validOutcome outcome then
    { err := some ("escalation: invalid outcome: " ++ quotedText outcome), store := st }
  else
    match e.storeError, st.find tenantID ticketID with
    | some err, _ => { err := some err, store := st }
    | none, none => { err := some "escalation: ticket not found", store := st }
    | none, some t =>
      if t.outcome ≠ "" then
        { err := some ("escalation: already resolved as " ++ quotedText t.outcome), store := st }
      else
        let updated := resolvedTicket t resolverHash outcome notes e.now
        match e.publishError with
        | some err => { err := some ("escalation: publish: " ++ err), store := st.put updated }
        | none => { store := st.put updated, event := some ⟨subjectEscalationResolved, updated⟩ }

/-! ### The consumer -/

/-- A message of the bus: its subject, the tenant in its header, and its payload, if that is JSON at all. -/
structure EscalationMessage where
  subject : String
  tenantHeader : String := ""
  payload : Option Tree

/-- The call that the handler makes of a message. -/
inductive EscalationCall where
  | create (tenantID : String) (incident : EscalationIncident)
  | resolve (tenantID ticketID resolverHash outcome notes : String)

/-- Where a message goes: to the schema dead letters, nowhere, or to the service. -/
inductive Routed where
  | mismatch
  | dropped
  | call (c : EscalationCall)

/-- `PeekVersion`, which ignores what it cannot decode. -/
def peekVersion : Option Tree → String
  | some (.obj ms) => peek "schema_version" ms
  | _ => ""

/-- The check of the two registered subjects: the version is the first, and the payload decodes as a ticket. -/
def schemaAccepts (m : EscalationMessage) : Bool :=
  (m.subject ≠ subjectEscalationCreated && m.subject ≠ subjectEscalationResolved) ||
    ((peekVersion m.payload = "" || peekVersion m.payload = Events.schemaVersionV1) &&
      (m.payload.bind (decTicket {})).isSome)

/-- `strings.HasSuffix`. -/
def hasSuffix (s tail : String) : Bool := tail.toList <:+ s.toList

/-- `verifiedTenantID`. -/
def verifiedTenantID (header bodyFallback : String) : String := if header ≠ "" then header else bodyFallback

/-- `handleEscalation`, up to its call of the service, behind `schemaValidatedMessageHandler`. -/
def routed (m : EscalationMessage) : Routed :=
  if ¬ schemaAccepts m then .mismatch
  else if hasSuffix m.subject ".created" then
    match m.payload.bind (decCreateEnvelope {}) with
    | none => .dropped
    | some env =>
      if verifiedTenantID m.tenantHeader env.tenantID = "" then .dropped
      else .call (.create (verifiedTenantID m.tenantHeader env.tenantID) env.incident)
  else if hasSuffix m.subject ".resolved" then
    match m.payload.bind (decResolveEnvelope {}) with
    | none => .dropped
    | some env =>
      if env.ticketID = "" then .dropped
      else if verifiedTenantID m.tenantHeader env.tenantID = "" then .dropped
      else .call (.resolve (verifiedTenantID m.tenantHeader env.tenantID) env.ticketID env.resolverHash env.outcome
        env.notes)
  else .dropped

/-- The call of the service. -/
def EscalationCall.run (e : EscalationEnv) : EscalationCall → TicketStore → EscalationRun
  | create tenantID incident, st => escalate e tenantID incident st
  | resolve tenantID ticketID resolverHash outcome notes, st =>
    resolveEscalation e tenantID ticketID resolverHash outcome notes st

/-- The message that a ticket is published as. -/
def TicketEvent.message (timeText : ℤ → String) (ev : TicketEvent) : EscalationMessage :=
  { subject := ev.subject, tenantHeader := ev.ticket.tenantID, payload := some (ticketPayload timeText ev.ticket) }

section Routing

variable (timeText : ℤ → String) (t : EscalationTicket)

/-- The payload of a ticket passes the schema check. -/
lemma schemaAccepts_ticket (subject header : String) :
    schemaAccepts { subject, tenantHeader := header, payload := some (ticketPayload timeText t) } = true := by
  have hversion : peekVersion (some (ticketPayload timeText t)) = Events.schemaVersionV1 :=
    peek_of_field (ticket_string t "schema_version" Events.schemaVersionV1 (by simp [stampedSlots]))
  simp [schemaAccepts, hversion, decTicket_ticketPayload]

/-- **A ticket that was opened reads as a request to open another one.** -/
lemma routed_created (htenant : t.tenantID ≠ "") :
    routed (TicketEvent.message timeText ⟨subjectEscalationCreated, t⟩) = .call (.create t.tenantID t.incident) := by
  have hsuffix : hasSuffix subjectEscalationCreated ".created" = true := by decide
  simp [routed, TicketEvent.message, schemaAccepts_ticket, hsuffix, decCreateEnvelope_ticketPayload, verifiedTenantID,
    htenant]

/-- A ticket that was resolved reads as a request to resolve it once more. -/
lemma routed_resolved (htenant : t.tenantID ≠ "") (hid : t.ticketID ≠ "") :
    routed (TicketEvent.message timeText ⟨subjectEscalationResolved, t⟩) =
      .call (.resolve t.tenantID t.ticketID t.resolverHash t.outcome "") := by
  have hcreated : hasSuffix subjectEscalationResolved ".created" = false := by decide
  have hsuffix : hasSuffix subjectEscalationResolved ".resolved" = true := by decide
  simp [routed, TicketEvent.message, schemaAccepts_ticket, hcreated, hsuffix, decResolveEnvelope_ticketPayload,
    verifiedTenantID, htenant, hid]

end Routing

end Sn360Es.Agent
