import Sn360Es.Ingestion.GmailMailbox
import Sn360Es.Ingestion.SmtpGateway

/-!
# The reply of the SMTP gateway and what it has done

* `Agrees` — what the reply of `Data` says of the events and of the relayed copy; it holds of every transaction
  (`data_agrees`);
* `eventIDs` — the ids of the recipients; they are read off the `Message-ID` header, and a look-up walks the map of the
  headers in any order;
* `smtp_reply_agrees_iff` — so the ids of a message that is sent again are the same exactly if every header whose name
  is `message-id` in lower case gives the same id.
-/

namespace Sn360Es.Ingestion

open Lib Lib.GoStrings Lib.Dedup

/-! ### Events and ids -/

/-- The reply of a rejection or a deferral by the decider. -/
def SMTPError.isDecision (reply : SMTPError) : Bool := reply.enhancedCode = (4, 7, 1) || reply.enhancedCode = (5, 7, 1)

namespace SMTPGateway

variable (g : SMTPGateway)

/-- The events whose `Publish` returned without an error, from a position on. -/
def publishedFrom (tx : Transaction) : ℕ → List AcceptedRecipient → List StreamEvent
  | _, [] => []
  | i, a :: rest =>
    match g.publish tx.now (tx.fresh i) a.req with
    | none => []
    | some m => if tx.outcome i = .acked then ⟨m, a.req⟩ :: publishedFrom tx (i + 1) rest else []

def published (tx : Transaction) : List StreamEvent := g.publishedFrom tx 0 (g.admitted tx)

/-- `publish` fails for the recipient at a position. -/
def PublishFails (tx : Transaction) (i : ℕ) (a : AcceptedRecipient) : Prop :=
  g.publish tx.now (tx.fresh i) a.req = none ∨ tx.outcome i ≠ .acked

/-- The id that a value of the header `Message-ID` gives. -/
def idOf (raw : Bytes) (value : String) : String :=
  let id := trimSpace value
  if id ≠ "" then trim id ['<', '>'] else "smtp-" ++ Hex.encode (g.site.normalizer.sha256 raw)

/-- The ids of the recipients, in their order; there are none for a message that is not read. -/
def eventIDs (tx : Transaction) : List String :=
  match tx.body with
  | .error _ => []
  | .ok body =>
    let raw := body.take (g.maxMessageBytes + 1)
    if g.maxMessageBytes < raw.length then []
    else
      match g.parseMessage raw with
      | .error _ => []
      | .ok parsed => (List.range tx.session.rcptTo.length).map fun i =>
          g.messageID tx.walk parsed.headers raw ++ "-" ++ toString i

end SMTPGateway

/-- The event was published for a recipient and its tenant, and the decider has accepted it. -/
structure StreamEvent.Accepts (g : SMTPGateway) (e : StreamEvent) (rcpt : String) : Prop where
  recipient : e.request.recipient = rcpt
  tenant : g.resolveTenant (g.site.normalizer.extractDomain rcpt) = some e.request.tenantID
  decided : (g.decideDelivery e.request).1 = .accept

/-- **The reply and the pipeline agree.** -/
structure Agrees (g : SMTPGateway) (b : Store StreamEvent) (tx : Transaction) : Prop where
  /-- After a rejection or a deferral nothing was published or relayed. -/
  refused : ∀ reply ∈ (g.data b tx).2.2, reply.isDecision = true →
    (g.data b tx).1 = b ∧ g.published tx = [] ∧ (g.data b tx).2.1 = none
  /-- If a publish fails nothing is relayed. -/
  failed : ∀ (i : ℕ) a, (g.admitted tx)[i]? = some a → g.PublishFails tx i a → (g.data b tx).2.1 = none
  /-- Without an error the copy goes to the recipients of the events. -/
  relayed : (g.data b tx).2.2 = none → g.relays = true → ∃ c ∈ (g.data b tx).2.1,
    c.1.rcptTo = (g.published tx).map (·.request.recipient) ∧
      ∀ rcpt, rcpt ∈ c.1.rcptTo ↔ ∃ e ∈ g.published tx, e.Accepts g rcpt
  distinct : ((g.published tx).map StreamEvent.id).Nodup
  /-- An event has the id of its recipient. -/
  named : ∀ e ∈ g.published tx, ∃ i : ℕ, tx.session.rcptTo[i]? = some e.request.recipient ∧ (g.eventIDs tx)[i]? = e.id

/-- The message is sent to the recipients. -/
structure Submits (g : SMTPGateway) (tx : Transaction) (raw : Bytes) (rcpts : List String) : Prop where
  body : tx.body = .ok raw
  recipients : tx.session.rcptTo = rcpts
  walk : ∀ parsed, g.parseMessage raw = .ok parsed → tx.walk.Covers parsed.headers

/-- Every header that is `Message-ID` in lower case gives the same id. -/
def OneID (g : SMTPGateway) (raw : Bytes) (rcpts : List String) : Prop :=
  rcpts ≠ [] → raw.length ≤ g.maxMessageBytes → ∀ parsed, g.parseMessage raw = .ok parsed →
    parsed.headers "Message-ID" = none → ∀ k v k' v', parsed.headers k = some v → parsed.headers k' = some v' →
      g.site.normalizer.toLower k = g.site.normalizer.toLower "Message-ID" →
      g.site.normalizer.toLower k' = g.site.normalizer.toLower "Message-ID" → g.idOf raw v = g.idOf raw v'

/-! ### The first phase -/

section Phases

variable {g : SMTPGateway} {tx : Transaction} {b : Store StreamEvent}

/-- An admitted recipient has a position, which is in its id, and was accepted. -/
lemma acceptRecipients_position {raw : Bytes} {parsed : ParsedMessage} (i : ℕ) {rcpts : List String}
    {accepted : List AcceptedRecipient} (h : g.acceptRecipients tx raw parsed i rcpts = .ok accepted) :
    ∀ a ∈ accepted, (g.decideDelivery a.req).1 = .accept ∧ ∃ j : ℕ, rcpts[j]? = some a.rcpt ∧
      a.req.messageID = g.messageID tx.walk parsed.headers raw ++ "-" ++ toString (i + j) := by
  induction rcpts generalizing i accepted with
  | nil =>
    obtain rfl := Except.ok.inj h
    simp
  | cons rcpt rest ih =>
    have hlater : ∀ {others : List AcceptedRecipient}, g.acceptRecipients tx raw parsed (i + 1) rest = .ok others →
        ∀ a ∈ others, (g.decideDelivery a.req).1 = .accept ∧ ∃ j : ℕ, (rcpt :: rest)[j]? = some a.rcpt ∧
          a.req.messageID = g.messageID tx.walk parsed.headers raw ++ "-" ++ toString (i + j) := by
      intro others hrest a ha
      obtain ⟨hdecided, j, hj, hid⟩ := ih (i + 1) hrest a ha
      refine ⟨hdecided, j + 1, hj, ?_⟩
      rw [hid, Nat.add_assoc, Nat.add_comm 1 j]
    rcases acceptRecipients_cons g tx raw parsed i rcpt rest with heq | ⟨tenant, req, -, hreq, heq⟩
    · exact hlater (heq ▸ h)
    · rw [heq] at h
      split_ifs at h with haccept
      cases hrest : g.acceptRecipients tx raw parsed (i + 1) rest with
      | error err => rw [hrest] at h; cases h
      | ok others =>
        rw [hrest] at h
        obtain rfl := Except.ok.inj h
        intro a ha
        rcases List.mem_cons.mp ha with rfl | hmem
        · exact ⟨haccept, 0, rfl, (normalize_ok hreq).2.1⟩
        · exact hlater hrest a hmem

/-- The first phase ends with an error if it does not admit. -/
lemma acceptRecipients_error {raw : Bytes} {parsed : ParsedMessage} (i : ℕ) {rcpts : List String}
    {err : Option SMTPError} (h : g.acceptRecipients tx raw parsed i rcpts = .error err) : err ≠ none := by
  induction rcpts generalizing i with
  | nil => cases h
  | cons rcpt rest ih =>
    rcases acceptRecipients_cons g tx raw parsed i rcpt rest with heq | ⟨tenant, req, -, -, heq⟩
    · exact ih (i + 1) (heq ▸ h)
    · rw [heq] at h
      split_ifs at h with haccept
      · cases hrest : g.acceptRecipients tx raw parsed (i + 1) rest with
        | error err' =>
          rw [hrest] at h
          obtain rfl := Except.error.inj h
          exact ih (i + 1) hrest
        | ok others => rw [hrest] at h; cases h
      · obtain rfl := Except.error.inj h
        unfold SMTPGateway.decisionError
        cases hd : (g.decideDelivery req).1 with
        | accept => exact absurd hd haccept
        | defer => exact Option.some_ne_none _
        | reject => exact Option.some_ne_none _

lemma scan_error {err : Option SMTPError} (h : g.scan tx = .error err) : err ≠ none := by
  unfold SMTPGateway.scan at h
  split at h
  · obtain rfl := Except.error.inj h
    exact Option.some_ne_none _
  split at h
  · obtain rfl := Except.error.inj h
    exact Option.some_ne_none _
  dsimp only at h
  split at h
  · obtain rfl := Except.error.inj h
    exact Option.some_ne_none _
  split at h
  · obtain rfl := Except.error.inj h
    exact Option.some_ne_none _
  split at h
  · next herror =>
    obtain rfl := Except.error.inj h
    exact acceptRecipients_error 0 herror
  · split at h
    · obtain rfl := Except.error.inj h
      exact Option.some_ne_none _
    · cases h

/-- What the first phase has read, if it admits. -/
lemma scan_ok {raw : Bytes} {accepted : List AcceptedRecipient} (h : g.scan tx = .ok (raw, accepted)) :
    ∃ body parsed, tx.body = .ok body ∧ raw = body.take (g.maxMessageBytes + 1) ∧ raw.length ≤ g.maxMessageBytes ∧
      g.parseMessage raw = .ok parsed ∧ g.acceptRecipients tx raw parsed 0 tx.session.rcptTo = .ok accepted := by
  unfold SMTPGateway.scan at h
  split at h
  · cases h
  split at h
  · cases h
  · next body hbody =>
    dsimp only at h
    split at h
    · cases h
    · next hsize =>
      split at h
      · cases h
      · next parsed hparsed =>
        split at h
        · cases h
        · next acc hadmit =>
          split at h
          · cases h
          · obtain ⟨rfl, rfl⟩ := Prod.mk.inj (Except.ok.inj h)
            exact ⟨body, parsed, hbody, rfl, not_lt.mp hsize, hparsed, hadmit⟩

lemma admitted_eq {raw : Bytes} {accepted : List AcceptedRecipient} (h : g.scan tx = .ok (raw, accepted)) :
    g.admitted tx = accepted := by
  rw [SMTPGateway.admitted, h]

/-- **The first phase**, recipient by recipient. -/
lemma admitted_spec {a : AcceptedRecipient} (ha : a ∈ g.admitted tx) : a.req.messageID ≠ "" ∧
    a.req.recipient = a.rcpt ∧ g.resolveTenant (g.site.normalizer.extractDomain a.rcpt) = some a.req.tenantID ∧
    (g.decideDelivery a.req).1 = .accept ∧
    ∃ i : ℕ, tx.session.rcptTo[i]? = some a.rcpt ∧ (g.eventIDs tx)[i]? = some a.req.messageID := by
  cases hscan : g.scan tx with
  | error err =>
    rw [SMTPGateway.admitted, hscan] at ha
    cases ha
  | ok r =>
    obtain ⟨raw, accepted⟩ := r
    rw [admitted_eq hscan] at ha
    have hadm := (scan_spec hscan).1 a ha
    obtain ⟨body, parsed, hbody, rfl, hsize, hparsed, hadmit⟩ := scan_ok hscan
    obtain ⟨hdecided, i, hi, hid⟩ := acceptRecipients_position 0 hadmit a ha
    refine ⟨hadm.named, hadm.recipient, hadm.tenant, hdecided, i, hi, ?_⟩
    obtain ⟨hlt, -⟩ := List.getElem?_eq_some_iff.mp hi
    rw [Nat.zero_add] at hid
    simp only [SMTPGateway.eventIDs, hbody, if_neg (not_lt.mpr hsize), hparsed, List.getElem?_map,
      List.getElem?_range hlt, Option.map_some, hid]

/-! ### The second phase -/

/-- The events are those of the first recipients. -/
lemma prefix_publishedFrom (g : SMTPGateway) (tx : Transaction) (i : ℕ) (accepted : List AcceptedRecipient) :
    (g.publishedFrom tx i accepted).map (·.request) <+: accepted.map (·.req) := by
  induction accepted generalizing i with
  | nil => exact List.prefix_refl _
  | cons a rest ih =>
    rw [SMTPGateway.publishedFrom]
    cases g.publish tx.now (tx.fresh i) a.req with
    | none => exact List.nil_prefix
    | some m =>
      dsimp only
      split_ifs
      · exact (List.prefix_cons_inj a.req).mpr (ih (i + 1))
      · exact List.nil_prefix

lemma publishedFrom_id {i : ℕ} {accepted : List AcceptedRecipient} (hnamed : ∀ a ∈ accepted, a.req.messageID ≠ "") :
    ∀ e ∈ g.publishedFrom tx i accepted, e.id = some e.request.messageID := by
  induction accepted generalizing i with
  | nil => exact fun e he => absurd he List.not_mem_nil
  | cons a rest ih =>
    rw [SMTPGateway.publishedFrom]
    cases hm : g.publish tx.now (tx.fresh i) a.req with
    | none => exact fun e he => absurd he List.not_mem_nil
    | some m =>
      dsimp only
      split_ifs
      · intro e he
        rcases List.mem_cons.mp he with rfl | hmem
        · exact (publish_spec (hnamed a List.mem_cons_self) hm).2
        · exact ih (fun a' ha' => hnamed a' (List.mem_cons_of_mem _ ha')) e hmem
      · exact fun e he => absurd he List.not_mem_nil

/-- If the second phase succeeds every recipient has its event. -/
lemma publishedFrom_all {i : ℕ} {accepted : List AcceptedRecipient} (h : (g.publishAll tx i b accepted).2 = true) :
    (g.publishedFrom tx i accepted).map (·.request) = accepted.map (·.req) := by
  induction accepted generalizing i b with
  | nil => rfl
  | cons a rest ih =>
    rw [SMTPGateway.publishAll] at h
    rw [SMTPGateway.publishedFrom]
    cases hm : g.publish tx.now (tx.fresh i) a.req with
    | none => rw [hm] at h; cases h
    | some m =>
      rw [hm] at h
      cases ho : tx.outcome i with
      | acked =>
        rw [ho] at h
        simp only [if_true, List.map_cons, ih h]
      | lostAck => rw [ho] at h; cases h
      | unreached => rw [ho] at h; cases h

/-- It does not succeed if a publish fails. -/
lemma publishAll_fails {i j : ℕ} {accepted : List AcceptedRecipient} {a : AcceptedRecipient}
    (ha : accepted[j]? = some a) (hfails : g.PublishFails tx (i + j) a) : (g.publishAll tx i b accepted).2 = false := by
  induction accepted generalizing i j b with
  | nil => cases ha
  | cons a' rest ih =>
    rw [SMTPGateway.publishAll]
    cases hm : g.publish tx.now (tx.fresh i) a'.req with
    | none => rfl
    | some m =>
      cases ho : tx.outcome i with
      | lostAck => rfl
      | unreached => rfl
      | acked =>
        cases j with
        | zero =>
          obtain rfl := Option.some.inj ha
          rcases hfails with hnone | hout
          · exact absurd (hm.symm.trans hnone) (Option.some_ne_none m)
          · exact absurd ho hout
        | succ j =>
          refine ih (j := j) ha ?_
          rwa [Nat.add_assoc, Nat.add_comm 1 j]

/-! ### The reply -/

/-- The events of a transaction have the ids and the recipients of those that were admitted. -/
lemma published_admitted {e : StreamEvent} (he : e ∈ g.published tx) :
    ∃ a ∈ g.admitted tx, a.req = e.request ∧ e.id = some a.req.messageID := by
  have hid := publishedFrom_id (fun a ha => (admitted_spec ha).1) e he
  have hmem := (prefix_publishedFrom g tx 0 (g.admitted tx)).subset (List.mem_map_of_mem he)
  obtain ⟨a, ha, hreq⟩ := List.mem_map.mp hmem
  exact ⟨a, ha, hreq, by rw [hid, hreq]⟩

lemma published_accepts {e : StreamEvent} (he : e ∈ g.published tx) : e.Accepts g e.request.recipient := by
  obtain ⟨a, ha, hreq, -⟩ := published_admitted he
  obtain ⟨-, hrcpt, htenant, hdecided, -⟩ := admitted_spec ha
  rw [← hrcpt, hreq] at htenant
  rw [hreq] at hdecided
  exact ⟨rfl, htenant, hdecided⟩

lemma published_nodup (g : SMTPGateway) (tx : Transaction) : ((g.published tx).map StreamEvent.id).Nodup := by
  have hids : (g.published tx).map StreamEvent.id =
      ((g.published tx).map (·.request)).map fun r => some r.messageID := by
    rw [List.map_map]
    exact List.map_congr_left fun e he => publishedFrom_id (fun a ha => (admitted_spec ha).1) e he
  have hadmitted : ((g.admitted tx).map (·.req.messageID)).Nodup := by
    unfold SMTPGateway.admitted
    split
    · exact List.nodup_nil
    · next hscan => exact (scan_spec hscan).2
  have hsub := ((prefix_publishedFrom g tx 0 (g.admitted tx)).sublist).map fun r : EvaluateRequest => some r.messageID
  rw [hids]
  refine List.Nodup.sublist hsub ?_
  have hcomp : ((g.admitted tx).map (·.req)).map (fun r => some r.messageID) =
      ((g.admitted tx).map (·.req.messageID)).map some := by
    rw [List.map_map, List.map_map]
    rfl
  rw [hcomp]
  exact hadmitted.map (Option.some_injective _)

/-- **Every transaction agrees with its reply.** -/
lemma data_agrees (g : SMTPGateway) (b : Store StreamEvent) (tx : Transaction) : Agrees g b tx where
  refused := by
    intro reply hreply hdecision
    cases hscan : g.scan tx with
    | error err =>
      have hnone : g.published tx = [] := by
        rw [SMTPGateway.published, SMTPGateway.admitted, hscan]
        rfl
      refine ⟨?_, hnone, ?_⟩
      · rw [SMTPGateway.data, hscan]
      · rw [SMTPGateway.data, hscan]
    | ok r =>
      -- the later replies have other codes
      obtain ⟨raw, accepted⟩ := r
      rw [SMTPGateway.data, hscan] at hreply
      dsimp only at hreply
      split_ifs at hreply
      · obtain rfl := Option.some.inj hreply
        exact absurd hdecision (by decide)
      · cases hreply
      · cases hdeliver : tx.deliver with
        | error err =>
          rw [hdeliver] at hreply
          obtain rfl := Option.some.inj hreply
          exact absurd hdecision (by decide)
        | ok u =>
          rw [hdeliver] at hreply
          cases hreply
  failed := by
    intro i a ha hfails
    rcases data_spec (g := g) b tx with ⟨-, hnone⟩ | ⟨raw, accepted, hscan, -, hhanded⟩
    · exact hnone
    · rw [admitted_eq hscan] at ha
      have hfalse : (g.publishAll tx 0 b accepted).2 = false := publishAll_fails ha (by rwa [Nat.zero_add])
      refine Option.eq_none_iff_forall_not_mem.mpr fun c hc => ?_
      exact absurd ((hhanded c hc).2.1) (by rw [hfalse]; exact Bool.false_ne_true)
  relayed := by
    intro hreply hrelays
    cases hscan : g.scan tx with
    | error err =>
      rw [SMTPGateway.data, hscan] at hreply
      exact absurd hreply (scan_error hscan)
    | ok r =>
      obtain ⟨raw, accepted⟩ := r
      have hpub : (g.publishAll tx 0 b accepted).2 = true := by
        rw [SMTPGateway.data, hscan] at hreply
        dsimp only at hreply
        by_contra hfalse
        rw [if_pos (Bool.eq_false_of_not_eq_true hfalse)] at hreply
        cases hreply
      have hrequests : (g.published tx).map (·.request) = accepted.map (·.req) := by
        rw [SMTPGateway.published, admitted_eq hscan]
        exact publishedFrom_all hpub
      have hrcpts : accepted.map (·.rcpt) = (g.published tx).map (·.request.recipient) :=
        calc accepted.map (·.rcpt)
          _ = (accepted.map (·.req)).map (·.recipient) := by
            rw [List.map_map]
            exact List.map_congr_left fun a ha => ((scan_spec hscan).1 a ha).recipient.symm
          _ = ((g.published tx).map (·.request)).map (·.recipient) := by rw [hrequests]
          _ = (g.published tx).map (·.request.recipient) := by rw [List.map_map]; rfl
      have hhanded : ∃ c ∈ (g.data b tx).2.1, c.1.rcptTo = accepted.map (·.rcpt) := by
        rw [SMTPGateway.data, hscan]
        dsimp only
        rw [if_neg (by simp [hpub]), if_neg (by simp [hrelays])]
        exact ⟨_, rfl, rfl⟩
      obtain ⟨c, hc, hto⟩ := hhanded
      refine ⟨c, hc, hto.trans hrcpts, fun rcpt => ?_⟩
      rw [hto, hrcpts, List.mem_map]
      constructor
      · rintro ⟨e, he, rfl⟩
        exact ⟨e, he, published_accepts he⟩
      · rintro ⟨e, he, haccepts⟩
        exact ⟨e, he, haccepts.recipient⟩
  distinct := published_nodup g tx
  named := by
    intro e he
    obtain ⟨a, ha, hreq, hid⟩ := published_admitted he
    obtain ⟨-, hrcpt, -, -, i, hi, hevent⟩ := admitted_spec ha
    refine ⟨i, ?_, hevent.trans hid.symm⟩
    rw [hi, ← hreq, hrcpt]

end Phases

/-! ### The ids of a message that is sent again -/

section Ids

variable {g : SMTPGateway} {raw : Bytes} {rcpts : List String}

/-- What a look-up without an exact name finds: the value of one of the names, or nothing if there is none. -/
lemma headerLookup_cases {n : DefaultNormalizer} {walk : Walk} {h : HeaderMap} {key : String} (hw : walk.Covers h)
    (hkey : h key = none) :
    (∃ k v, h k = some v ∧ n.toLower k = n.toLower key ∧ n.headerLookup walk h key = v) ∨
      (∀ k v, h k = some v → n.toLower k ≠ n.toLower key) ∧ n.headerLookup walk h key = "" := by
  unfold DefaultNormalizer.headerLookup
  rw [hkey]
  cases hfind : (walk key).find? fun k => n.toLower k = n.toLower key with
  | some k =>
    obtain ⟨v, hv⟩ := Option.isSome_iff_exists.mp ((hw key k).mp (List.mem_of_find?_eq_some hfind))
    exact .inl ⟨k, v, hv, by simpa using List.find?_some hfind, by simp [hv]⟩
  | none =>
    refine .inr ⟨fun k v hv hname => ?_, rfl⟩
    have hmem : k ∈ walk key := (hw key k).mpr (by rw [hv]; rfl)
    exact absurd hname (by simpa using List.find?_eq_none.mp hfind k hmem)

lemma parseMessage_headers {parsed : ParsedMessage} (h : g.parseMessage raw = .ok parsed) :
    ∃ msg, g.mail.readMessage raw = .ok msg ∧ parsed.headers = msg.header := by
  unfold SMTPGateway.parseMessage at h
  cases hread : g.mail.readMessage raw with
  | error err =>
    rw [hread] at h
    cases h
  | ok msg =>
    rw [hread] at h
    exact ⟨msg, rfl, by rw [← Except.ok.inj h]⟩

/-- The ids of a message that was read. -/
lemma eventIDs_eq {tx : Transaction} (hs : Submits g tx raw rcpts) (hsize : raw.length ≤ g.maxMessageBytes)
    {parsed : ParsedMessage} (hparsed : g.parseMessage raw = .ok parsed) : g.eventIDs tx =
      (List.range rcpts.length).map fun i =>
        g.idOf raw (g.site.normalizer.headerLookup tx.walk parsed.headers "Message-ID") ++ "-" ++ toString i := by
  have htake : raw.take (g.maxMessageBytes + 1) = raw := List.take_of_length_le (by omega)
  simp only [SMTPGateway.eventIDs, hs.body, htake, if_neg (not_lt.mpr hsize), hparsed, hs.recipients]
  rfl

/-- A message that is not read has no ids. -/
lemma eventIDs_nil {tx : Transaction} (hs : Submits g tx raw rcpts)
    (hunread : g.maxMessageBytes < raw.length ∨ ∀ parsed, g.parseMessage raw ≠ .ok parsed) : g.eventIDs tx = [] := by
  by_cases hsize : g.maxMessageBytes < raw.length
  · have hlong : g.maxMessageBytes < (raw.take (g.maxMessageBytes + 1)).length := by
      rw [List.length_take]
      omega
    simp only [SMTPGateway.eventIDs, hs.body, if_pos hlong]
  · have htake : raw.take (g.maxMessageBytes + 1) = raw := List.take_of_length_le (by omega)
    simp only [SMTPGateway.eventIDs, hs.body, htake, if_neg hsize]
    cases hparsed : g.parseMessage raw with
    | error err => rfl
    | ok parsed => exact absurd hparsed (hunread.resolve_left hsize parsed)

/-- With one id, every walk reads the same. -/
lemma OneID.eventIDs_eq (h : OneID g raw rcpts) {tx tx' : Transaction} (hs : Submits g tx raw rcpts)
    (hs' : Submits g tx' raw rcpts) : g.eventIDs tx = g.eventIDs tx' := by
  by_cases hsize : g.maxMessageBytes < raw.length
  · rw [eventIDs_nil hs (.inl hsize), eventIDs_nil hs' (.inl hsize)]
  cases hparsed : g.parseMessage raw with
  | error err =>
    have hunread : ∀ parsed, g.parseMessage raw ≠ .ok parsed := by
      intro parsed hok
      cases hparsed.symm.trans hok
    rw [eventIDs_nil hs (.inr hunread), eventIDs_nil hs' (.inr hunread)]
  | ok parsed =>
    rw [Ingestion.eventIDs_eq hs (not_lt.mp hsize) hparsed, Ingestion.eventIDs_eq hs' (not_lt.mp hsize) hparsed]
    rcases eq_or_ne rcpts [] with rfl | hne
    · simp only [List.length_nil, List.range_zero, List.map_nil]
    have hone := h hne (not_lt.mp hsize) parsed hparsed
    have hid : g.idOf raw (g.site.normalizer.headerLookup tx.walk parsed.headers "Message-ID") =
        g.idOf raw (g.site.normalizer.headerLookup tx'.walk parsed.headers "Message-ID") := by
      cases hexact : parsed.headers "Message-ID" with
      | some v => simp only [DefaultNormalizer.headerLookup, hexact]
      | none =>
        rcases headerLookup_cases (n := g.site.normalizer) (hs.walk parsed hparsed) hexact with
          ⟨k, v, hk, hname, hv⟩ | ⟨hnone, hv⟩ <;>
        rcases headerLookup_cases (n := g.site.normalizer) (hs'.walk parsed hparsed) hexact with
          ⟨k', v', hk', hname', hv'⟩ | ⟨hnone', hv'⟩
        · rw [hv, hv']
          exact hone hexact k v k' v' hk hk' hname hname'
        · exact absurd hname (hnone' k v hk)
        · exact absurd hname' (hnone k' v' hk')
        · rw [hv, hv']
    rw [hid]

/-- A submission with a walk. -/
def submission (raw : Bytes) (rcpts : List String) (walk : Walk) : Transaction :=
  { session := { rcptTo := rcpts }, body := .ok raw, walk }

/-- If every walk reads the same there is one id. -/
lemma oneID_of_eventIDs (hmap : ∀ raw msg, g.mail.readMessage raw = .ok msg → ∃ hs, msg.header = HeaderMap.ofList hs)
    (h : ∀ tx tx', Submits g tx raw rcpts → Submits g tx' raw rcpts → g.eventIDs tx = g.eventIDs tx') :
    OneID g raw rcpts := by
  intro hne hsize parsed hparsed hexact k v k' v' hk hk' hname hname'
  obtain ⟨msg, hread, hheader⟩ := parseMessage_headers hparsed
  obtain ⟨hs, hmsg⟩ := hmap raw msg hread
  have hhs : parsed.headers = HeaderMap.ofList hs := hheader.trans hmsg
  -- a walk that meets a given one of the names first
  have hwalk : ∀ k v, parsed.headers k = some v →
      g.site.normalizer.toLower k = g.site.normalizer.toLower "Message-ID" →
      ∃ walk, Submits g (submission raw rcpts walk) raw rcpts ∧
        g.site.normalizer.headerLookup walk parsed.headers "Message-ID" = v := by
    intro k v hk hname
    have hwin : CanWin g.site.normalizer "Message-ID" hs (k, v) := by
      refine ⟨hname, ofList_eq_some (by rw [← hhs]; exact hk), fun hmem => ?_⟩
      have hsome := ofList_isSome.mpr hmem
      rw [← hhs, hexact] at hsome
      cases hsome
    obtain ⟨walk, hcovers, hread⟩ := canWin_headerLookup hwin
    refine ⟨walk, ⟨rfl, rfl, fun parsed' hparsed' => ?_⟩, by rw [hhs]; exact hread⟩
    obtain rfl := Except.ok.inj (hparsed.symm.trans hparsed')
    rw [hhs]
    exact hcovers
  obtain ⟨w, hsub, hv⟩ := hwalk k v hk hname
  obtain ⟨w', hsub', hv'⟩ := hwalk k' v' hk' hname'
  have hids := h _ _ hsub hsub'
  rw [eventIDs_eq hsub hsize hparsed, eventIDs_eq hsub' hsize hparsed] at hids
  have hfirst := congrArg List.head? hids
  obtain ⟨n, hn⟩ : ∃ n, rcpts.length = n + 1 := Nat.exists_eq_succ_of_ne_zero (by simpa using hne)
  simp only [hn, List.range_succ_eq_map, List.map_cons, List.head?_cons, Option.some.injEq] at hfirst
  have hlist := congrArg String.toList hfirst
  simp only [String.toList_append, List.append_cancel_right_eq] at hlist
  have hid := String.toList_injective hlist
  simp only [submission] at hid
  rwa [hv, hv'] at hid

end Ids

/-- **The reply and the pipeline agree, and a message that is sent again keeps its ids**, exactly if all its
`Message-ID` headers give one id. -/
theorem smtp_reply_agrees_iff (g : SMTPGateway)
    (hmap : ∀ raw msg, g.mail.readMessage raw = .ok msg → ∃ hs, msg.header = HeaderMap.ofList hs) (raw : Bytes)
    (rcpts : List String) :
    ((∀ b tx, Submits g tx raw rcpts → Agrees g b tx) ∧
      ∀ tx tx', Submits g tx raw rcpts → Submits g tx' raw rcpts → g.eventIDs tx = g.eventIDs tx') ↔
    OneID g raw rcpts := by
  constructor
  · rintro ⟨-, hids⟩
    exact oneID_of_eventIDs hmap hids
  · intro hone
    exact ⟨fun b tx _ => data_agrees g b tx, fun tx tx' => hone.eventIDs_eq⟩

section Samples

lemma twoMails_headers (raw : Bytes) (msg : MailMessage) (h : twoMails.readMessage raw = .ok msg) :
    msg.header = HeaderMap.ofList [("Message-Id", "<1@x.y>")] := by
  unfold twoMails at h
  dsimp only at h
  split_ifs at h
  · rw [← Except.ok.inj h]
  · rw [← Except.ok.inj h]

/-- A message with one `Message-ID`. -/
theorem smtp_reply_agrees_hello :
    (∀ b tx, Submits twoMailGateway tx (mailOf "hello") ["u@a.b"] → Agrees twoMailGateway b tx) ∧
      ∀ tx tx', Submits twoMailGateway tx (mailOf "hello") ["u@a.b"] →
        Submits twoMailGateway tx' (mailOf "hello") ["u@a.b"] →
          twoMailGateway.eventIDs tx = twoMailGateway.eventIDs tx' := by
  refine (smtp_reply_agrees_iff twoMailGateway (fun raw msg h => ⟨_, twoMails_headers raw msg h⟩) _ _).mpr ?_
  intro _ _ parsed hparsed _ k v k' v' hk hk' _ _
  obtain ⟨msg, hread, hheader⟩ := parseMessage_headers hparsed
  have hvalue : ∀ {k v : String}, parsed.headers k = some v → v = "<1@x.y>" := by
    intro k v hk
    rw [hheader, twoMails_headers _ msg hread] at hk
    obtain ⟨hmem, -⟩ := lastWith_mem (ofList_eq_some hk)
    exact (Prod.mk.inj (List.mem_singleton.mp hmem)).2
  rw [hvalue hk, hvalue hk']

/-- `strings.ToLower` on ASCII letters and on U+0130. -/
def dottedLower (s : String) : String :=
  String.ofList (s.toList.map fun c => if c.val = 0x130 then 'i' else c.toLower)

def dottedHeaders : List (String × String) := [("Message-Id", "<1@x.y>"), ("Message-İD", "<2@x.y>")]

def dottedMail : Bytes := bytesOf "Message-ID: <1@x.y>\r\nMessage-İD: <2@x.y>\r\n\r\nhello"

def dottedGateway : SMTPGateway where
  mail :=
    { twoMails with
      readMessage := fun raw =>
        if raw = dottedMail then .ok { header := HeaderMap.ofList dottedHeaders, body := "hello" } else .error "EOF" }
  site := { sampleSite with normalizer := { asciiNormalizer with toLower := dottedLower } }

/-- The two orders of the map. -/
def dottedSubmission (names : List String) : Transaction :=
  { submission dottedMail ["u@a.b"] fun _ => names with
    now := GoTime.unixEpoch + 1700000000 * GoTime.second
    fresh := fun _ => sampleFresh }

lemma submits_dotted {names : List String} (hnames : ∀ k, k ∈ names ↔ k ∈ dottedHeaders.map Prod.fst) :
    Submits dottedGateway (dottedSubmission names) dottedMail ["u@a.b"] := by
  refine ⟨rfl, rfl, fun parsed hparsed => ?_⟩
  obtain ⟨msg, hread, hheader⟩ := parseMessage_headers hparsed
  have hmsg : msg.header = HeaderMap.ofList dottedHeaders := by
    unfold dottedGateway at hread
    dsimp only at hread
    split_ifs at hread
    rw [← Except.ok.inj hread]
  rw [hheader, hmsg]
  intro _ k
  rw [ofList_isSome]
  exact hnames k

/-- The same bytes to the same recipient, published under two ids. -/
theorem dotted_message_id_changes : ∃ tx tx', Submits dottedGateway tx dottedMail ["u@a.b"] ∧
    Submits dottedGateway tx' dottedMail ["u@a.b"] ∧
    (dottedGateway.published tx).map StreamEvent.id = [some "1@x.y-0"] ∧
    (dottedGateway.published tx').map StreamEvent.id = [some "2@x.y-0"] ∧
    dottedGateway.eventIDs tx ≠ dottedGateway.eventIDs tx' := by
  refine ⟨dottedSubmission ["Message-Id", "Message-İD"], dottedSubmission ["Message-İD", "Message-Id"],
    submits_dotted fun k => Iff.rfl, submits_dotted fun k => ?_, ?_, ?_, ?_⟩
  · simp [dottedHeaders, or_comm]
  · decide +kernel
  · decide +kernel
  · decide +kernel

end Samples

end Sn360Es.Ingestion
