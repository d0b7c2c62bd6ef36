import Sn360Es.Ingestion.PushOutlook
import Sn360Es.Lib.Dedup
import Sn360Es.Lib.Lts

/-!
# The SMTP gateway (`internal/service/ingestion/smtp_gateway.go`)

`Data` takes a message in three phases: it admits the recipients, publishes an event for each of them, and hands
the message with the recipients to the deliverer. The id of an event is made of the `Message-ID`, which the sender
chooses, and of the position of the recipient; a broker that remembers the id drops the event and says yes.

* `scan_spec` — what the first phase admits;
* `publishAll_spec` — what the second one sends to the broker;
* `Relayed` — every copy that was handed over has its event in the stream; a transaction keeps this
  (`step_relayed`) unless one of its ids is remembered from an event of another body, tenant or recipient;
* `smtp_relays_scanned` — so nothing is relayed unscanned in a run without such transactions.

The packages `net/mail`, `mime` and `dkim` are parameters. The part of a MIME message is given with the parts that
`multipart.Reader` finds below it.
-/

namespace Sn360Es.Ingestion

open Lib Lib.GoStrings Lib.Lts Lib.Dedup

/-! ### Parsing -/

/-- A part of a message, as `multipart.Reader` gives it. -/
inductive MimePart where
  | mk (contentType transferEncoding body : String) (parts : List MimePart)

/-- The result of `mail.ReadMessage`: a header has its first value. -/
structure MailMessage where
  header : HeaderMap
  body : String
  parts : List MimePart := []

/-- The result of `mime.ParseMediaType`. -/
structure MediaType where
  mediaType : String
  boundary : String := ""
  failed : Bool := false
  deriving DecidableEq, Repr

/-- What the gateway uses of the packages that read mail. -/
structure MailLib where
  readMessage : Bytes → Except String MailMessage
  decodeHeader : String → Option String
  parseAddress : String → Option String
  parseAddressList : String → Option (List String)
  parseDate : String → Option ℤ
  parseMediaType : String → MediaType
  /-- What `io.ReadAll` gets from a decoder. -/
  base64 : String → String
  quotedPrintable : String → String
  /-- `dkim.VerifyWithOptions`: the error of each signature. -/
  dkimVerify : Bytes → Except String (List (Option String))

structure ParsedMessage where
  headers : HeaderMap
  sender : String
  cc : List String
  subject : String
  text : String
  html : String
  dateHdr : ℤ

inductive DeliveryDecision where
  | accept
  | defer
  | reject
  deriving DecidableEq, Repr

structure SMTPError where
  code : ℕ
  enhancedCode : ℕ × ℕ × ℕ
  message : String
  deriving DecidableEq, Repr

structure SMTPGateway where
  mail : MailLib
  site : EventSite
  domain : String := "sn360-es"
  maxMessageBytes : ℕ := 25 * 2 ^ 20
  tenantResolver : Option (String → Option String) := none
  decider : Option (EvaluateRequest → DeliveryDecision × String) := none
  /-- A deliverer is wired. -/
  relays : Bool := true

namespace SMTPGateway

variable (g : SMTPGateway)

/-- `decodeTransferEncoding`. -/
def decodeTransferEncoding (body encoding : String) : String :=
  let encoding := g.site.normalizer.toLower (trimSpace encoding)
  if encoding = "base64" then g.mail.base64 body
  else if encoding = "quoted-printable" then g.mail.quotedPrintable body
  else body

def isMultipart (mediaType : String) : Bool := "multipart/".toList <+: mediaType.toList

mutual

/-- `extractBodies`, for a transfer encoding. -/
def extractBodies (encoding : String) : MimePart → String × String
  | .mk contentType _ body parts =>
    let mt := g.mail.parseMediaType contentType
    if mt.failed ∨ ¬ isMultipart mt.mediaType then
      let data := g.decodeTransferEncoding body encoding
      if g.site.normalizer.equalFold mt.mediaType "text/html" then ("", data) else (data, "")
    else if mt.boundary = "" then (body, "")
    else extractParts parts

/-- The loop over the parts; what is neither text nor multipart is an attachment. -/
def extractParts : List MimePart → String × String
  | [] => ("", "")
  | .mk contentType encoding body parts :: rest =>
    let mediaType := (g.mail.parseMediaType contentType).mediaType
    let found :=
      if isMultipart mediaType then extractBodies "" (.mk contentType encoding body parts)
      else if g.site.normalizer.equalFold mediaType "text/plain" then (g.decodeTransferEncoding body encoding, "")
      else if g.site.normalizer.equalFold mediaType "text/html" then ("", g.decodeTransferEncoding body encoding)
      else ("", "")
    let others := extractParts rest
    (found.1 ++ others.1, found.2 ++ others.2)

end

/-- `parseAddress`. -/
def parseAddress (raw : String) : String :=
  let raw := trimSpace raw
  if raw = "" then "" else (g.mail.parseAddress raw).getD raw

/-- `parseAddressList`. -/
def parseAddressList (raw : String) : List String :=
  let raw := trimSpace raw
  if raw = "" then [] else (g.mail.parseAddressList raw).getD []

/-- `parseMessage`. -/
def parseMessage (raw : Bytes) : Except String ParsedMessage :=
  match g.mail.readMessage raw with
  | .error err => .error err
  | .ok msg =>
    let get := fun key => (msg.header key).getD ""
    let bodies := g.extractBodies (get "Content-Transfer-Encoding")
      (.mk (get "Content-Type") (get "Content-Transfer-Encoding") msg.body msg.parts)
    .ok
      { headers := msg.header
        sender := g.parseAddress (get "From")
        cc := g.parseAddressList (get "Cc")
        subject := (g.mail.decodeHeader (get "Subject")).getD (get "Subject")
        text := bodies.1
        html := bodies.2
        dateHdr := (g.mail.parseDate (get "Date")).getD 0 }

/-- `verifyDKIM`. -/
def verifyDKIM (raw : Bytes) : String :=
  match g.mail.dkimVerify raw with
  | .error _ => "none"
  | .ok verifs => if verifs = [] then "none" else if none ∈ verifs then "pass" else "fail"

/-- `headersWithAuthResults`. -/
def headersWithAuthResults (headers : HeaderMap) (dkimResult : String) : HeaderMap :=
  HeaderMap.set (fun k => if g.site.normalizer.equalFold k "Authentication-Results" then none else headers k)
    "Authentication-Results" (g.domain ++ "; dkim=" ++ dkimResult)

/-- `messageID`. -/
def messageID (walk : Walk) (headers : HeaderMap) (raw : Bytes) : String :=
  let id := trimSpace (g.site.normalizer.headerLookup walk headers "Message-ID")
  if id ≠ "" then trim id ['<', '>'] else "smtp-" ++ Hex.encode (g.site.normalizer.sha256 raw)

/-- `resolveTenant`. -/
def resolveTenant (domain : String) : Option String :=
  if domain = "" then none
  else
    match g.tenantResolver with
    | some resolver => resolver domain
    | none => some domain

/-- `decide`. -/
def decideDelivery (req : EvaluateRequest) : DeliveryDecision × String :=
  match g.decider with
  | none => (.accept, "")
  | some decider => decider req

/-- `decisionError`. -/
def decisionError (decision : DeliveryDecision) (reason : String) : Option SMTPError :=
  let reason := if reason = "" then "Message rejected by policy" else reason
  match decision with
  | .defer => some ⟨451, (4, 7, 1), reason⟩
  | .reject => some ⟨550, (5, 7, 1), reason⟩
  | .accept => none

end SMTPGateway

/-! ### One transaction -/

structure SmtpSession where
  remoteAddr : String := ""
  tls : Bool := false
  mailCalled : Bool := true
  mailFrom : String := ""
  rcptTo : List String
  deriving DecidableEq, Repr

structure SMTPEnvelope where
  mailFrom : String
  rcptTo : List String
  remoteAddr : String
  tls : Bool
  deriving DecidableEq, Repr

structure AcceptedRecipient where
  req : EvaluateRequest
  rcpt : String
  deriving DecidableEq, Repr

/-- How `Publish` ends: the broker has answered, or it has not although it took the event, or it was not reached. -/
inductive PublishOutcome where
  | acked
  | lostAck
  | unreached
  deriving DecidableEq, Repr

/-- A `DATA` command, with what the gateway reads and is answered meanwhile. -/
structure Transaction where
  session : SmtpSession
  body : Except String Bytes
  walk : Walk := fun _ => []
  now : ℤ := 0
  fresh : ℕ → Events.Fresh := fun _ => ⟨"", ""⟩
  outcome : ℕ → PublishOutcome := fun _ => .acked
  deliver : Except String Unit := .ok ()

/-- An event of the stream and the request that it was made from. -/
structure StreamEvent where
  message : Events.Message
  request : EvaluateRequest

/-- The id that the broker remembers an event by. -/
def StreamEvent.id (e : StreamEvent) : Option String := brokerID e.message

namespace SMTPGateway

variable (g : SMTPGateway)

/-- The `RawEmail` of a recipient; its id is made unique by the position. -/
def toRawEmail (tx : Transaction) (raw : Bytes) (parsed : ParsedMessage) (i : ℕ) (rcpt tenant : String) : RawEmail :=
  { providerMessageID := g.messageID tx.walk parsed.headers raw ++ "-" ++ toString i
    tenantID := tenant
    mailbox := rcpt
    sender := if parsed.sender = "" then tx.session.mailFrom else parsed.sender
    recipients := [rcpt]
    cc := parsed.cc
    subject := parsed.subject
    body := parsed.text
    htmlBody := parsed.html
    headers := g.headersWithAuthResults parsed.headers (g.verifyDKIM raw)
    receivedAt := if parsed.dateHdr = 0 then tx.now else parsed.dateHdr }

/-- The first phase of `Data`, from a position on: a recipient without a tenant or that cannot be normalised is
left out, and one that the decider does not accept ends it. `none` is a reply without an error. -/
def acceptRecipients (tx : Transaction) (raw : Bytes) (parsed : ParsedMessage) :
    ℕ → List String → Except (Option SMTPError) (List AcceptedRecipient)
  | _, [] => .ok []
  | i, rcpt :: rest =>
    match g.resolveTenant (g.site.normalizer.extractDomain rcpt) with
    | none => acceptRecipients tx raw parsed (i + 1) rest
    | some tenant =>
      match g.site.normalizer.normalize tx.walk (g.toRawEmail tx raw parsed i rcpt tenant) with
      | .error _ => acceptRecipients tx raw parsed (i + 1) rest
      | .ok req =>
        let decision := g.decideDelivery req
        if decision.1 = .accept then (acceptRecipients tx raw parsed (i + 1) rest).map (⟨req, rcpt⟩ :: ·)
        else .error (decisionError decision.1 decision.2)

/-- `Data` up to its second phase. -/
def scan (tx : Transaction) : Except (Option SMTPError) (Bytes × List AcceptedRecipient) :=
  if ¬ tx.session.mailCalled ∨ tx.session.rcptTo = [] then
    .error (some ⟨503, (5, 5, 1), "Bad sequence: MAIL FROM and RCPT TO required before DATA"⟩)
  else
    match tx.body with
    | .error _ => .error (some ⟨451, (4, 3, 0), "Failed to read message"⟩)
    | .ok body =>
      -- a limited reader stops one byte after the limit
      let raw := body.take (g.maxMessageBytes + 1)
      if g.maxMessageBytes < raw.length then .error (some ⟨552, (5, 3, 4), "Message too large"⟩)
      else
        match g.parseMessage raw with
        | .error _ => .error (some ⟨451, (4, 3, 0), "Cannot process message"⟩)
        | .ok parsed =>
          match g.acceptRecipients tx raw parsed 0 tx.session.rcptTo with
          | .error err => .error err
          | .ok accepted =>
            if accepted = [] then .error (some ⟨550, (5, 1, 1), "No deliverable recipients"⟩)
            else .ok (raw, accepted)

/-- `publish`, up to the call of the broker. -/
def publish (now : ℤ) (fresh : Events.Fresh) (req : EvaluateRequest) : Option Events.Message := do
  let payload ← (g.site.marshalRequest now req).toOption
  (g.site.publisher.publish g.site.subject payload { EventSite.publishOptions req with messageID := req.messageID }
    fresh).toOption

/-- The second phase of `Data`, from a position on; the flag says that every event was published. -/
def publishAll (tx : Transaction) : ℕ → Store StreamEvent → List AcceptedRecipient → Store StreamEvent × Bool
  | _, b, [] => (b, true)
  | i, b, a :: rest =>
    match g.publish tx.now (tx.fresh i) a.req with
    | none => (b, false)
    | some m =>
      match tx.outcome i with
      | .acked => publishAll tx (i + 1) (b.receive StreamEvent.id ⟨m, a.req⟩) rest
      | .lostAck => (b.receive StreamEvent.id ⟨m, a.req⟩, false)
      | .unreached => (b, false)

/-- `Data`: the broker after it, what it hands to the deliverer, and its reply. -/
def data (b : Store StreamEvent) (tx : Transaction) :
    Store StreamEvent × Option (SMTPEnvelope × Bytes) × Option SMTPError :=
  match g.scan tx with
  | .error err => (b, none, err)
  | .ok (raw, accepted) =>
    let published := g.publishAll tx 0 b accepted
    if published.2 = false then (published.1, none, some ⟨451, (4, 3, 0), "Temporary processing failure"⟩)
    else if g.relays = false then (published.1, none, none)
    else
      let env : SMTPEnvelope := ⟨tx.session.mailFrom, accepted.map (·.rcpt), tx.session.remoteAddr, tx.session.tls⟩
      (published.1, some (env, raw),
        match tx.deliver with
        | .error _ => some ⟨451, (4, 3, 0), "Downstream delivery temporarily unavailable"⟩
        | .ok () => none)

/-- The recipients that the first phase admits. -/
def admitted (tx : Transaction) : List AcceptedRecipient :=
  match g.scan tx with
  | .error _ => []
  | .ok (_, accepted) => accepted

/-- The text of a message that its events carry. -/
def scannedBody (raw : Bytes) : Option String :=
  (g.parseMessage raw).toOption.map fun parsed =>
    g.site.normalizer.bodyText { body := parsed.text, htmlBody := parsed.html }

end SMTPGateway

/-! ### What the phases do -/

/-- The position can be read off the id of an event. -/
lemma id_injective {base : String} {i j : ℕ} (h : base ++ "-" ++ toString i = base ++ "-" ++ toString j) : i = j := by
  have hlist := congrArg String.toList h
  simp only [String.toList_append, List.append_cancel_left_eq] at hlist
  have hdigits : Nat.toDigits 10 i = Nat.toDigits 10 j := by
    rw [← Nat.toList_repr, ← Nat.toList_repr]
    exact hlist
  rw [← Nat.ofDigitChars_toDigits (b := 10) (n := i) (by omega) (by omega), hdigits]
  exact Nat.ofDigitChars_toDigits (by omega) (by omega)

lemma normalize_ok {n : DefaultNormalizer} {walk : Walk} {raw : RawEmail} {req : EvaluateRequest}
    (h : n.normalize walk raw = .ok req) : raw.providerMessageID ≠ "" ∧ req.messageID = raw.providerMessageID ∧
      req.tenantID = raw.tenantID ∧
      req.recipient = (if raw.mailbox = "" then raw.recipients.headD "" else raw.mailbox) ∧
      req.body = n.bodyText raw := by
  unfold DefaultNormalizer.normalize at h
  split at h
  · cases h
  · next hne =>
    obtain rfl := Except.ok.inj h
    exact ⟨hne, rfl, rfl, rfl, rfl⟩

/-- Only the two bodies of a message count for its text. -/
lemma bodyText_congr {n : DefaultNormalizer} {raw raw' : RawEmail} (hbody : raw.body = raw'.body)
    (hhtml : raw.htmlBody = raw'.htmlBody) : n.bodyText raw = n.bodyText raw' := by
  unfold DefaultNormalizer.bodyText
  rw [hbody, hhtml]

section Phases

variable {g : SMTPGateway} {tx : Transaction}

/-- A recipient that the first phase admits, and its request. -/
structure Admitted (g : SMTPGateway) (raw : Bytes) (a : AcceptedRecipient) : Prop where
  named : a.req.messageID ≠ ""
  recipient : a.req.recipient = a.rcpt
  tenant : g.resolveTenant (g.site.normalizer.extractDomain a.rcpt) = some a.req.tenantID
  body : g.scannedBody raw = some a.req.body

lemma admitted_of_normalize {raw : Bytes} {parsed : ParsedMessage} (hparsed : g.parseMessage raw = .ok parsed)
    {i : ℕ} {rcpt tenant : String} (htenant : g.resolveTenant (g.site.normalizer.extractDomain rcpt) = some tenant)
    {req : EvaluateRequest}
    (h : g.site.normalizer.normalize tx.walk (g.toRawEmail tx raw parsed i rcpt tenant) = .ok req) :
    Admitted g raw ⟨req, rcpt⟩ ∧
      req.messageID = g.messageID tx.walk parsed.headers raw ++ "-" ++ toString i := by
  obtain ⟨hne, hid, htid, hrcpt, hbody⟩ := normalize_ok h
  refine ⟨⟨by rw [hid]; exact hne, ?_, by rw [htid]; exact htenant, ?_⟩, hid⟩
  · rw [hrcpt]
    exact ite_id rcpt
  · have htext : g.site.normalizer.bodyText (g.toRawEmail tx raw parsed i rcpt tenant) =
        g.site.normalizer.bodyText { body := parsed.text, htmlBody := parsed.html } := bodyText_congr rfl rfl
    rw [SMTPGateway.scannedBody, hparsed, hbody, htext]
    rfl

/-- A recipient is passed over, or decided on. -/
lemma acceptRecipients_cons (g : SMTPGateway) (tx : Transaction) (raw : Bytes) (parsed : ParsedMessage) (i : ℕ)
    (rcpt : String) (rest : List String) :
    g.acceptRecipients tx raw parsed i (rcpt :: rest) = g.acceptRecipients tx raw parsed (i + 1) rest ∨
    ∃ tenant req, g.resolveTenant (g.site.normalizer.extractDomain rcpt) = some tenant ∧
      g.site.normalizer.normalize tx.walk (g.toRawEmail tx raw parsed i rcpt tenant) = .ok req ∧
      g.acceptRecipients tx raw parsed i (rcpt :: rest) =
        if (g.decideDelivery req).1 = .accept then
          (g.acceptRecipients tx raw parsed (i + 1) rest).map (⟨req, rcpt⟩ :: ·)
        else .error (SMTPGateway.decisionError (g.decideDelivery req).1 (g.decideDelivery req).2) := by
  dsimp only [SMTPGateway.acceptRecipients]
  split
  · exact Or.inl rfl
  · next tenant htenant =>
    split
    · exact Or.inl rfl
    · next req hreq => exact Or.inr ⟨tenant, req, htenant, hreq, rfl⟩

lemma acceptRecipients_spec {raw : Bytes} {parsed : ParsedMessage} (hparsed : g.parseMessage raw = .ok parsed) (i : ℕ)
    {rcpts : List String} {accepted : List AcceptedRecipient}
    (h : g.acceptRecipients tx raw parsed i rcpts = .ok accepted) :
    (∀ a ∈ accepted, Admitted g raw a ∧
      ∃ j ≥ i, a.req.messageID = g.messageID tx.walk parsed.headers raw ++ "-" ++ toString j) ∧
    (accepted.map (·.req.messageID)).Nodup := by
  induction rcpts generalizing i accepted with
  | nil =>
    obtain rfl := Except.ok.inj h
    simp
  | cons rcpt rest ih =>
    -- the rest starts one position later
    have hskip : g.acceptRecipients tx raw parsed (i + 1) rest = .ok accepted → (∀ a ∈ accepted, Admitted g raw a ∧
        ∃ j ≥ i, a.req.messageID = g.messageID tx.walk parsed.headers raw ++ "-" ++ toString j) ∧
        (accepted.map (·.req.messageID)).Nodup := by
      intro hrest
      obtain ⟨hall, hnodup⟩ := ih (i + 1) hrest
      refine ⟨?_, hnodup⟩
      intro a ha
      obtain ⟨hadm, j, hj, hid⟩ := hall a ha
      exact ⟨hadm, j, by omega, hid⟩
    rcases acceptRecipients_cons g tx raw parsed i rcpt rest with heq | ⟨tenant, req, htenant, hreq, heq⟩
    · exact hskip (heq ▸ h)
    · rw [heq] at h
      split_ifs at h
      cases hrest : g.acceptRecipients tx raw parsed (i + 1) rest with
      | error err => rw [hrest] at h; cases h
      | ok others =>
        rw [hrest] at h
        obtain rfl := Except.ok.inj h
        obtain ⟨hadm, hid⟩ := admitted_of_normalize hparsed htenant hreq
        obtain ⟨hall, hnodup⟩ := ih (i + 1) hrest
        refine ⟨?_, ?_⟩
        · intro a ha
          rcases List.mem_cons.mp ha with rfl | hmem
          · exact ⟨hadm, i, le_refl i, hid⟩
          · obtain ⟨hadm', j, hj, hidj⟩ := hall a hmem
            exact ⟨hadm', j, by omega, hidj⟩
        · refine List.nodup_cons.mpr ⟨?_, hnodup⟩
          intro hmem
          obtain ⟨a, ha, hsame⟩ := List.mem_map.mp hmem
          obtain ⟨-, j, hj, hidj⟩ := hall a ha
          have heq : i = j := id_injective (hid.symm.trans (hsame.symm.trans hidj))
          omega

/-- **The first phase.** -/
lemma scan_spec {raw : Bytes} {accepted : List AcceptedRecipient} (h : g.scan tx = .ok (raw, accepted)) :
    (∀ a ∈ accepted, Admitted g raw a) ∧ (accepted.map (·.req.messageID)).Nodup := by
  unfold SMTPGateway.scan at h
  split at h
  · cases h
  split at h
  · cases h
  dsimp only at h
  split at h
  · cases h
  split at h
  · cases h
  · next parsed hparsed =>
    split at h
    · cases h
    · next acc hadmit =>
      split at h
      · cases h
      · obtain ⟨rfl, rfl⟩ := Prod.mk.inj (Except.ok.inj h)
        obtain ⟨hall, hnodup⟩ := acceptRecipients_spec hparsed 0 hadmit
        exact ⟨fun a ha => (hall a ha).1, hnodup⟩

lemma publish_spec {now : ℤ} {fresh : Events.Fresh} {req : EvaluateRequest} {m : Events.Message}
    (hne : req.messageID ≠ "") (h : g.publish now fresh req = some m) :
    m.subject = g.site.subject ∧ brokerID m = some req.messageID := by
  simp only [SMTPGateway.publish, Option.bind_eq_bind, Option.bind_eq_some_iff] at h
  obtain ⟨payload, -, hpub⟩ := h
  have hid := publish_brokerID hpub
  rw [if_neg hne] at hid
  refine ⟨?_, hid⟩
  cases hok : g.site.publisher.publish g.site.subject payload
      { EventSite.publishOptions req with messageID := req.messageID } fresh with
  | error err => rw [hok] at hpub; cases hpub
  | ok m' =>
    rw [hok] at hpub
    obtain rfl := Option.some.inj hpub
    obtain ⟨-, d, -, rfl⟩ := Events.Publisher.publish_ok_iff.mp hok
    rfl

/-- **The second phase** sends events of the requests to the broker, and all of them if it succeeds. -/
lemma publishAll_spec (g : SMTPGateway) (tx : Transaction) (i : ℕ) (b : Store StreamEvent)
    {accepted : List AcceptedRecipient}
    (hnamed : ∀ a ∈ accepted, a.req.messageID ≠ "") :
    ∃ es, (g.publishAll tx i b accepted).1 = b.receiveAll StreamEvent.id es ∧
      (∀ e ∈ es, e.message.subject = g.site.subject ∧ e.id = some e.request.messageID) ∧
      ((g.publishAll tx i b accepted).2 = true → es.map (·.request) = accepted.map (·.req)) := by
  induction accepted generalizing i b with
  | nil => exact ⟨[], rfl, by simp, fun _ => rfl⟩
  | cons a rest ih =>
    have hfail : ∃ es, b = b.receiveAll StreamEvent.id es ∧
        (∀ e ∈ es, e.message.subject = g.site.subject ∧ e.id = some e.request.messageID) ∧
        (false = true → es.map (·.request) = (a :: rest).map (·.req)) := ⟨[], rfl, by simp, nofun⟩
    rw [SMTPGateway.publishAll]
    cases hm : g.publish tx.now (tx.fresh i) a.req with
    | none => exact hfail
    | some m =>
      have hevent := publish_spec (hnamed a List.mem_cons_self) hm
      cases tx.outcome i with
      | acked =>
        obtain ⟨es, hes, hall, hrequests⟩ := ih (i + 1) (b.receive StreamEvent.id ⟨m, a.req⟩)
          fun a' ha' => hnamed a' (List.mem_cons_of_mem _ ha')
        refine ⟨⟨m, a.req⟩ :: es, hes, ?_, ?_⟩
        · intro e he
          rcases List.mem_cons.mp he with rfl | hmem
          · exact hevent
          · exact hall e hmem
        · intro hok
          rw [List.map_cons, List.map_cons, hrequests hok]
      | lostAck =>
        refine ⟨[⟨m, a.req⟩], rfl, ?_, nofun⟩
        intro e he
        obtain rfl := List.mem_singleton.mp he
        exact hevent
      | unreached => exact hfail

end Phases

/-! ### Nothing is relayed unscanned -/

/-- The broker, and what was handed to the deliverer. -/
structure GatewayState where
  broker : Store StreamEvent := {}
  handed : List (SMTPEnvelope × Bytes) := []

inductive GatewayEvent where
  | transaction (tx : Transaction)
  /-- The window moves on: the broker remembers only some of the events. -/
  | forget (keep : StreamEvent → Bool)

def gatewayStep (g : SMTPGateway) (s : GatewayState) : GatewayEvent → Option GatewayState
  | .transaction tx =>
    let result := g.data s.broker tx
    some { broker := result.1, handed := s.handed ++ result.2.1.toList }
  | .forget keep => some { s with broker := s.broker.forget keep }

/-- Requests of one body, tenant and recipient. -/
def SameScan (r r' : EvaluateRequest) : Prop :=
  r.body = r'.body ∧ r.tenantID = r'.tenantID ∧ r.recipient = r'.recipient

instance (r r' : EvaluateRequest) : Decidable (SameScan r r') := inferInstanceAs (Decidable (_ ∧ _ ∧ _))

/-- The event is a scan of a copy: it carries the body, the tenant and the recipient. -/
def StreamEvent.Scans (g : SMTPGateway) (e : StreamEvent) (raw : Bytes) (rcpt : String) : Prop :=
  e.message.subject = g.site.subject ∧ g.scannedBody raw = some e.request.body ∧
    g.resolveTenant (g.site.normalizer.extractDomain rcpt) = some e.request.tenantID ∧ e.request.recipient = rcpt

/-- Every copy that was handed over has its event in the stream. -/
def GatewayState.AllScanned (g : SMTPGateway) (s : GatewayState) : Prop :=
  ∀ c ∈ s.handed, ∀ rcpt ∈ c.1.rcptTo, ∃ e ∈ s.broker.stored, e.Scans g c.2 rcpt

/-- No id of a transaction that may be relayed is remembered from an event of another body, tenant or recipient. -/
def FreshIDs (g : SMTPGateway) (s : GatewayState) : GatewayEvent → Prop
  | .forget _ => True
  | .transaction tx => g.relays = true → ∀ a ∈ g.admitted tx, ∀ w ∈ s.broker.window,
      w.id = some a.req.messageID → SameScan w.request a.req

instance (g : SMTPGateway) (s : GatewayState) : ∀ e, Decidable (FreshIDs g s e)
  | .forget _ => inferInstanceAs (Decidable True)
  | .transaction tx => inferInstanceAs (Decidable (g.relays = true → ∀ a ∈ g.admitted tx, ∀ w ∈ s.broker.window,
      w.id = some a.req.messageID → SameScan w.request a.req))

/-- **The invariant.** -/
structure Relayed (g : SMTPGateway) (s : GatewayState) : Prop where
  sound : s.broker.Sound
  subjects : ∀ e ∈ s.broker.stored, e.message.subject = g.site.subject
  scanned : s.AllScanned g

section Steps

variable {g : SMTPGateway} {s : GatewayState}

/-- A transaction is refused, or its second phase runs and it hands over only what was published. -/
lemma data_spec (b : Store StreamEvent) (tx : Transaction) :
    ((g.data b tx).1 = b ∧ (g.data b tx).2.1 = none) ∨
    ∃ raw accepted, g.scan tx = .ok (raw, accepted) ∧ (g.data b tx).1 = (g.publishAll tx 0 b accepted).1 ∧
      ∀ c ∈ (g.data b tx).2.1, g.relays = true ∧ (g.publishAll tx 0 b accepted).2 = true ∧ c.2 = raw ∧
        c.1.rcptTo = accepted.map (·.rcpt) := by
  unfold SMTPGateway.data
  split
  · exact .inl ⟨rfl, rfl⟩
  · next raw accepted hscan =>
    refine .inr ⟨raw, accepted, hscan, ?_⟩
    dsimp only
    split_ifs with hpub hrelay
    · exact ⟨rfl, nofun⟩
    · exact ⟨rfl, nofun⟩
    · refine ⟨rfl, ?_⟩
      intro c hc
      obtain rfl := Option.some.inj hc
      exact ⟨by simpa using hrelay, by simpa using hpub, rfl, rfl⟩

/-- The events that a transaction leaves in the stream are events of the gateway. -/
lemma published_subjects {b : Store StreamEvent} (hb : ∀ e ∈ b.stored, e.message.subject = g.site.subject)
    {tx : Transaction} {accepted : List AcceptedRecipient} (hnamed : ∀ a ∈ accepted, a.req.messageID ≠ "") :
    ∀ e ∈ (g.publishAll tx 0 b accepted).1.stored, e.message.subject = g.site.subject := by
  obtain ⟨es, hes, hevents, -⟩ := publishAll_spec g tx 0 b hnamed
  intro e he
  rw [hes] at he
  rcases Store.stored_receiveAll he with hold | hnew
  · exact hb e hold
  · exact (hevents e hnew).1

/-- The copies of a transaction have their events, if its ids are fresh. -/
lemma published_scanned {b : Store StreamEvent} (hb : b.Sound)
    (hsubjects : ∀ e ∈ b.stored, e.message.subject = g.site.subject) {tx : Transaction} {raw : Bytes}
    {accepted : List AcceptedRecipient} (hscan : g.scan tx = .ok (raw, accepted))
    (hfresh : ∀ a ∈ accepted, ∀ w ∈ b.window, w.id = some a.req.messageID → SameScan w.request a.req)
    (hpub : (g.publishAll tx 0 b accepted).2 = true) :
    ∀ a ∈ accepted, ∃ e ∈ (g.publishAll tx 0 b accepted).1.stored, e.Scans g raw a.rcpt := by
  obtain ⟨hadmitted, hnodup⟩ := scan_spec hscan
  have hnamed : ∀ a ∈ accepted, a.req.messageID ≠ "" := fun a ha => (hadmitted a ha).named
  obtain ⟨es, hes, hevents, hrequests⟩ := publishAll_spec g tx 0 b hnamed
  have hreq := hrequests hpub
  have hkeys : (es.map StreamEvent.id).Nodup := by
    have hids : es.map StreamEvent.id = (accepted.map (·.req.messageID)).map some :=
      calc es.map StreamEvent.id
        _ = es.map (fun e => some e.request.messageID) := List.map_congr_left fun e he => (hevents e he).2
        _ = (es.map (·.request)).map (fun r => some r.messageID) := by rw [List.map_map]; rfl
        _ = (accepted.map (·.req)).map (fun r => some r.messageID) := by rw [hreq]
        _ = (accepted.map (·.req.messageID)).map some := by rw [List.map_map, List.map_map]; rfl
    rw [hids]
    exact hnodup.map (Option.some_injective _)
  have hsafe : ∀ e ∈ es, ∀ w ∈ b.window, w.id = e.id → SameScan w.request e.request := by
    intro e he w hw hid
    obtain ⟨a, ha, hae⟩ := List.mem_map.mp (hreq ▸ List.mem_map_of_mem he)
    rw [← hae]
    exact hfresh a ha w hw (by rw [hid, (hevents e he).2, hae])
  have hcover := Store.receiveAll_covers (R := fun e e' => SameScan e.request e'.request) (fun e => ⟨rfl, rfl, rfl⟩)
    hb hkeys hsafe
  intro a ha
  obtain ⟨e, he, hea⟩ := List.mem_map.mp (hreq.symm ▸ List.mem_map_of_mem ha)
  obtain ⟨x, hx, hbody, htenant, hrcpt⟩ := hcover e he
  rw [← hes] at hx
  have hadm := hadmitted a ha
  refine ⟨x, hx, published_subjects hsubjects hnamed x hx, ?_, ?_, ?_⟩
  · rw [hadm.body, hbody, hea]
  · rw [hadm.tenant, htenant, hea]
  · rw [hrcpt, hea]
    exact hadm.recipient

lemma step_relayed (g : SMTPGateway) (s : GatewayState) (e : GatewayEvent) (s' : GatewayState) (h : Relayed g s)
    (hfresh : FreshIDs g s e) (hs : gatewayStep g s e = some s') : Relayed g s' := by
  cases e with
  | forget keep =>
    obtain rfl := Option.some.inj hs
    exact ⟨Store.forget_sound h.sound keep, h.subjects, h.scanned⟩
  | transaction tx =>
    obtain rfl := Option.some.inj hs
    rcases data_spec (g := g) s.broker tx with ⟨hbroker, hnone⟩ | ⟨raw, accepted, hscan, hbroker, hhanded⟩
    · refine ⟨?_, ?_, ?_⟩
      · rw [hbroker]
        exact h.sound
      · rw [hbroker]
        exact h.subjects
      · unfold GatewayState.AllScanned
        rw [hbroker, hnone, Option.toList_none, List.append_nil]
        exact h.scanned
    · have hnamed : ∀ a ∈ accepted, a.req.messageID ≠ "" := fun a ha => ((scan_spec hscan).1 a ha).named
      obtain ⟨es, hes, -, -⟩ := publishAll_spec g tx 0 s.broker hnamed
      refine ⟨?_, ?_, ?_⟩
      · rw [hbroker, hes]
        exact Store.receiveAll_sound h.sound
      · rw [hbroker]
        exact published_subjects h.subjects hnamed
      · intro c hc rcpt hrcpt
        rcases List.mem_append.mp hc with hold | hnew
        · obtain ⟨e, he, hscans⟩ := h.scanned c hold rcpt hrcpt
          refine ⟨e, ?_, hscans⟩
          rw [hbroker, hes]
          exact Store.mem_stored_receiveAll he
        · obtain ⟨hrelay, hpub, hraw, hto⟩ := hhanded c (Option.mem_toList.mp hnew)
          rw [hto] at hrcpt
          obtain ⟨a, ha, rfl⟩ := List.mem_map.mp hrcpt
          have hids : ∀ a ∈ accepted, ∀ w ∈ s.broker.window, w.id = some a.req.messageID →
              SameScan w.request a.req := by
            have hadmitted : g.admitted tx = accepted := by rw [SMTPGateway.admitted, hscan]
            rw [← hadmitted]
            exact hfresh hrelay
          obtain ⟨e, he, hscans⟩ := published_scanned h.sound h.subjects hscan hids hpub a ha
          refine ⟨e, ?_, ?_⟩
          · rw [hbroker]
            exact he
          · rw [hraw]
            exact hscans

end Steps

/-- **Nothing is relayed unscanned** in a run whose transactions have fresh ids. -/
theorem smtp_relays_scanned (g : SMTPGateway) {es : List GatewayEvent} {s : GatewayState}
    (hfresh : Meets (gatewayStep g) (FreshIDs g) {} es) (hrun : run (gatewayStep g) {} es = some s) :
    s.AllScanned g := by
  have hinit : Relayed g {} := ⟨fun _ hw => absurd hw List.not_mem_nil, fun _ he => absurd he List.not_mem_nil,
    fun _ hc => absurd hc List.not_mem_nil⟩
  exact (run_induct (step_relayed g) hinit hfresh hrun).scanned

section Samples

/-- A message with a text and nothing else. -/
def mailOf (text : String) : Bytes := bytesOf ("Message-ID: <1@x.y>\r\n\r\n" ++ text)

/-- The packages, on two messages with one `Message-ID`. -/
def twoMails : MailLib where
  readMessage raw :=
    let header : HeaderMap := HeaderMap.ofList [("Message-Id", "<1@x.y>")]
    if raw = mailOf "hello" then .ok { header, body := "hello" }
    else if raw = mailOf "pay me" then .ok { header, body := "pay me" }
    else .error "EOF"
  decodeHeader s := some s
  parseAddress _ := none
  parseAddressList _ := none
  parseDate _ := none
  parseMediaType _ := { mediaType := "", failed := true }
  base64 s := s
  quotedPrintable s := s
  dkimVerify _ := .ok []

def twoMailGateway : SMTPGateway where
  mail := twoMails
  site := sampleSite

/-- One of the messages for a recipient; `deliver` is the answer of the deliverer. -/
def mailTo (rcpt text : String) (deliver : Except String Unit) : GatewayEvent :=
  .transaction
    { session := { mailFrom := "x@x.y", rcptTo := [rcpt] }
      body := .ok (mailOf text)
      walk := fun _ => ["Message-Id"]
      now := GoTime.unixEpoch + 1700000000 * GoTime.second
      fresh := fun _ => sampleFresh
      deliver := deliver }

/-- A message that could not be delivered and is sent again: its id is remembered from the same message. -/
def sentAgain : List GatewayEvent := [mailTo "u@a.b" "hello" (.error "timeout"), mailTo "u@a.b" "hello" (.ok ())]

/-- Two messages for two tenants. -/
def sharedID : List GatewayEvent := [mailTo "u@a.b" "hello" (.ok ()), mailTo "v@c.d" "pay me" (.ok ())]

theorem sentAgain_scanned : ∃ s, run (gatewayStep twoMailGateway) {} sentAgain = some s ∧ s.handed.length = 2 ∧
    s.broker.stored.length = 1 ∧ s.AllScanned twoMailGateway := by
  have hrun : (run (gatewayStep twoMailGateway) {} sentAgain).map
      (fun s => (s.handed.length, s.broker.stored.length)) = some (2, 1) := by decide +kernel
  obtain ⟨s, hs, hlengths⟩ := Option.map_eq_some_iff.mp hrun
  obtain ⟨hhanded, hstored⟩ := Prod.mk.inj hlengths
  exact ⟨s, hs, hhanded, hstored, smtp_relays_scanned twoMailGateway (by decide +kernel) hs⟩

/-- The second message is handed over for `v@c.d`, and the stream has an event for `u@a.b` only. -/
theorem sharedID_relayed_unscanned : ∃ s, run (gatewayStep twoMailGateway) {} sharedID = some s ∧
    ¬ s.AllScanned twoMailGateway := by
  have hrun : (run (gatewayStep twoMailGateway) {} sharedID).map
      (fun s => (s.handed.map (·.1.rcptTo), s.broker.stored.map (·.request.recipient))) =
      some ([["u@a.b"], ["v@c.d"]], ["u@a.b"]) := by decide +kernel
  obtain ⟨s, hs, hfields⟩ := Option.map_eq_some_iff.mp hrun
  obtain ⟨hhanded, hstored⟩ := Prod.mk.inj hfields
  refine ⟨s, hs, ?_⟩
  intro hall
  have hmem : ["v@c.d"] ∈ s.handed.map (·.1.rcptTo) := by
    rw [hhanded]
    exact List.mem_cons_of_mem _ List.mem_cons_self
  obtain ⟨c, hc, hto⟩ := List.mem_map.mp hmem
  obtain ⟨e, he, -, -, -, hrcpt⟩ := hall c hc "v@c.d" (by rw [hto]; exact List.mem_cons_self)
  have hevent := List.mem_map_of_mem (f := (·.request.recipient)) he
  rw [hstored, hrcpt] at hevent
  revert hevent
  decide

end Samples

end Sn360Es.Ingestion
