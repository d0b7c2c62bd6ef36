import Mathlib.Logic.Function.Basic
import Sn360Es.Lib.GoStrings
import Sn360Es.Lib.Hex

/-!
# Publishing (`pkg/events`, `pkg/events/schema`, `pkg/events/nats/publisher.go`)

`Publish` stamps and checks the payload, and builds the message that goes to JetStream. A header has one value
here: `Publish` uses `Header.Set` throughout. `encoding/json` is a parameter; retries and timeouts, which decide
whether the broker is reached, belong to the caller of `publish`.
-/

namespace Sn360Es.Events

open Lib

/-! ### Messages -/

/-- The headers of a message; `nats.Header` is case-sensitive. -/
abbrev Headers := String → Option String

def Headers.set (h : Headers) (key value : String) : Headers := Function.update h key (some value)

/-- Sets a header that is left out when it is empty. -/
def Headers.setNonempty (h : Headers) (key value : String) : Headers :=
  if value = "" then h else h.set key value

def headerMessageID : String := "message-id"
def headerCorrelationID : String := "correlation-id"
def headerTenantID : String := "tenant-id"
def headerEventType : String := "event-type"
def headerSource : String := "source"
def headerDeliveryCount : String := "delivery-count"
def headerError : String := "error"
def headerOriginSubject : String := "origin-subject"
def headerEnqueuedAt : String := "enqueued-at"
def headerSchemaVersion : String := "schema-version"

/-- `jetstream.MsgIDHeader`, the id that the broker drops duplicates by. -/
def msgIDHeader : String := "Nats-Msg-Id"

structure Message where
  subject : String
  data : Bytes
  headers : Headers

/-- `PublishOptions`, resolved; an empty text is an option that was not given. -/
structure PublishOptions where
  messageID : String := ""
  correlationID : String := ""
  tenantID : String := ""
  eventType : String := ""
  headers : Headers := fun _ => none

/-! ### Schemas -/

/-- What the schema package uses of `encoding/json`. -/
structure Json where
  /-- `PeekVersion`: the `schema_version` of the payload, empty if there is none. -/
  peekVersion : Bytes → String
  /-- The members of an object, each with a comma in front, as `Stamp` streams them. -/
  members : Bytes → Except String Bytes

def schemaVersionV1 : String := "v1"

/-- `bytes.TrimSpace` leaves nothing. -/
def isBlank (data : Bytes) : Bool :=
  (String.fromUTF8? ⟨data.toArray⟩).any fun s => s.toList.all GoStrings.isSpace

/-- `Stamp`, with `SchemaVersionV1`: a payload that declares no version gets one in front. -/
def Json.stamp (j : Json) (data : Bytes) : Except String Bytes :=
  let opening := bytesOf "\x7b\"schema_version\":\"v1\""
  let closing := bytesOf "\x7d"
  if isBlank data then .ok (opening ++ closing)
  else if (data.dropWhile fun b => b ∈ [0x20, 0x09, 0x0D, 0x0A]).head? ≠ some 0x7B then
    .error "schema: payload is not a JSON object"
  else if j.peekVersion data ≠ "" then .ok data
  else
    match j.members data with
    | .error err => .error err
    | .ok rest => .ok (opening ++ rest ++ closing)

/-- The shape checks of a subject, by version; a check returns its complaint. -/
abbrev Versions := String → Option (Bytes → Option String)

/-- `MismatchReason`. -/
inductive MismatchReason where
  | none
  | missingVersion
  | unknownVersion
  | payloadInvalid
  deriving DecidableEq, Repr

structure SchemaResult where
  resolvedVersion : String := ""
  reason : MismatchReason := .none
  subjectMatch : String := ""
  err : Option String := Option.none
  deriving DecidableEq, Repr

def SchemaResult.isMismatch (r : SchemaResult) : Bool :=
  r.reason = .unknownVersion || r.reason = .payloadInvalid

/-- `schema.Validator`: the registrations for one subject, and those for a subject and all below it. -/
structure Validator where
  json : Json
  entries : List (String × Versions) := []
  prefixEntries : List (String × Versions) := []

namespace Validator

variable (v : Validator)

/-- The subject, or one below it. -/
def covers (family subject : String) : Bool :=
  subject = family || (family ++ ".").toList <+: subject.toList

/-- The longest registration so far against one more; the source walks a map, but two registrations of one
length cannot cover one subject. -/
def longer (subject : String) (best : Option (String × Versions)) (e : String × Versions) :
    Option (String × Versions) :=
  if covers e.1 subject && (best.map fun b => b.1.utf8ByteSize).getD 0 < e.1.utf8ByteSize then some e else best

/-- `lookup`. -/
def lookup (subject : String) : Option (String × Versions) :=
  match v.entries.find? (·.1 = subject) with
  | some e => some e
  | none => v.prefixEntries.foldl (longer subject) none

/-- `SubjectFamily`. -/
def subjectFamily (subject : String) : String := ((v.lookup subject).map Prod.fst).getD ""

/-- `Validate`. -/
def validate (subject : String) (data : Bytes) : SchemaResult :=
  match v.lookup subject with
  | none => {}
  | some (family, versions) =>
    let claimed := v.json.peekVersion data
    let resolved := if claimed = "" then schemaVersionV1 else claimed
    match versions resolved with
    | none => { resolvedVersion := resolved, reason := .unknownVersion, subjectMatch := family }
    | some check =>
      match check data with
      | some err =>
        { resolvedVersion := resolved, reason := .payloadInvalid, subjectMatch := family, err := some err }
      | none =>
        { resolvedVersion := resolved, reason := if claimed = "" then .missingVersion else .none,
          subjectMatch := family }

end Validator

/-! ### The publisher -/

/-- What `Publish` draws from outside: `uuid.NewString` and the clock. -/
structure Fresh where
  uuid : String
  enqueuedAt : String

inductive PublishError where
  | subjectRequired
  | schema (subject : String) (result : SchemaResult)
  deriving DecidableEq, Repr

structure Publisher where
  source : String := ""
  validator : Option Validator := none
  json : Json

/-- `schema.DLQSubjectPrefix`. -/
def schemaDLQPrefix : String := "sn360.dlq.schema"

namespace Publisher

variable (p : Publisher)

/-- The stamp-and-validate pass of `Publish`: the payload that goes out. -/
def prepare (subject : String) (data : Bytes) : Except PublishError Bytes :=
  match p.validator with
  | none => .ok data
  | some v =>
    if (schemaDLQPrefix ++ ".").toList <+: subject.toList then .ok data
    else if v.subjectFamily subject = "" then .ok data
    else
      let stamped := (v.json.stamp data).toOption.getD data
      let result := v.validate subject stamped
      if result.isMismatch then .error (.schema subject result) else .ok stamped

/-- The headers of an outgoing message. The options' own headers come last, except that `WithMsgID` sets the
broker's id once more. -/
def headersFor (data : Bytes) (opts : PublishOptions) (fresh : Fresh) : Headers :=
  let id := if opts.messageID = "" then fresh.uuid else opts.messageID
  let h : Headers := fun _ => none
  let h := h.setNonempty headerSchemaVersion (p.json.peekVersion data)
  let h := (h.set msgIDHeader id).set headerMessageID id
  let h := h.setNonempty headerCorrelationID opts.correlationID
  let h := h.setNonempty headerTenantID opts.tenantID
  let h := h.setNonempty headerEventType opts.eventType
  let h := h.setNonempty headerSource p.source
  let h := h.set headerEnqueuedAt fresh.enqueuedAt
  Headers.set (fun k => (opts.headers k).or (h k)) msgIDHeader id

/-- `Publish`, up to the call of the broker. -/
def publish (subject : String) (data : Bytes) (opts : PublishOptions) (fresh : Fresh) :
    Except PublishError Message :=
  if subject = "" then .error .subjectRequired
  else
    match p.prepare subject data with
    | .error err => .error err
    | .ok data => .ok { subject, data, headers := p.headersFor data opts fresh }

variable {p} in
lemma publish_ok_iff {subject : String} {data : Bytes} {opts : PublishOptions} {fresh : Fresh} {m : Message} :
    p.publish subject data opts fresh = .ok m ↔
      subject ≠ "" ∧ ∃ d, p.prepare subject data = .ok d ∧
        { subject, data := d, headers := p.headersFor d opts fresh } = m := by
  unfold publish
  split
  · next h => simp [h]
  · next h => cases p.prepare subject data <;> simp [h]

/-- The headers that `PublishToDLQ` adds. Without an origin among the headers of the message, the subject that
is published to stands in for it. -/
def dlqHeaders (dlqSubject : String) (headers : Headers) (delivery : ℕ) (cause : Option String) : Headers :=
  let origin := (headers headerOriginSubject).getD ""
  let h : Headers := fun _ => none
  let h := h.set headerOriginSubject (if origin = "" then dlqSubject else origin)
  let h := h.set headerDeliveryCount (toString delivery)
  match cause with
  | some err => h.set headerError err
  | none => h

/-- `PublishToDLQ`. -/
def publishToDLQ (dlqSubject : String) (data : Bytes) (headers : Headers) (delivery : ℕ)
    (cause : Option String) (fresh : Fresh) : Except PublishError Message :=
  let mid := (headers headerMessageID).getD ""
  p.publish dlqSubject data
    { messageID := if mid = "" then "" else "dlq-" ++ mid
      correlationID := (headers headerCorrelationID).getD ""
      tenantID := (headers headerTenantID).getD ""
      eventType := (headers headerEventType).getD ""
      headers := dlqHeaders dlqSubject headers delivery cause }
    fresh

/-- The origin of an outgoing message is what its options say. -/
lemma headersFor_origin (data : Bytes) (opts : PublishOptions) (fresh : Fresh) :
    p.headersFor data opts fresh headerOriginSubject = opts.headers headerOriginSubject := by
  have hkey : ∀ k ∈ [headerSchemaVersion, msgIDHeader, headerMessageID, headerCorrelationID, headerTenantID,
      headerEventType, headerSource, headerEnqueuedAt], headerOriginSubject ≠ k := by decide
  have hset : ∀ (h : Headers) (k v : String), headerOriginSubject ≠ k →
      h.set k v headerOriginSubject = h headerOriginSubject :=
    fun h k v hk => Function.update_of_ne hk _ _
  have hopt : ∀ (h : Headers) (k v : String), headerOriginSubject ≠ k →
      h.setNonempty k v headerOriginSubject = h headerOriginSubject := by
    intro h k v hk
    unfold Headers.setNonempty
    split
    · rfl
    · exact hset h k v hk
  simp only [List.forall_mem_cons, List.not_mem_nil, IsEmpty.forall_iff, implies_true, and_true] at hkey
  obtain ⟨h1, h2, h3, h4, h5, h6, h7, h8⟩ := hkey
  unfold headersFor
  rw [hset _ _ _ h2]
  simp only [hset _ _ _ h8, hopt _ _ _ h7, hopt _ _ _ h6, hopt _ _ _ h5, hopt _ _ _ h4, hset _ _ _ h3,
    hset _ _ _ h2, hopt _ _ _ h1, Option.or_none]

end Publisher

end Sn360Es.Events
