import Mathlib.Data.List.Nodup
import Sn360Es.Ingestion.Normalizer
import Sn360Es.Lib.Lts

/-!
# Push ingestion of Gmail (`internal/service/ingestion/push_gmail.go`)

A Pub/Sub notification carries a history id of the mailbox. `HandleNotification` asks for what was added after
that id, and keeps no id of its own.

* `handleNotification_returns` — the messages that one call returns;
* `run_returns` — over a run of arrivals and notifications, a message is returned exactly by those notifications
  after it that carry an earlier history id;
* `gmail_push_delivers_iff` — so every message is delivered exactly when each one that a notification follows is
  followed by one that announces an earlier state of the mailbox.

`encoding/json` and `encoding/base64` are parameters, and so are the answers of the Gmail API.
-/

namespace Sn360Es.Ingestion

open Lib Lib.GoStrings Lib.Lts

/-! ### The receiver -/

structure GmailNotificationData where
  emailAddress : String
  historyID : ℕ
  deriving DecidableEq, Repr

/-- The response that `fetchMessage` decodes. -/
structure GmailMetadata where
  id : String
  snippet : String := ""
  headers : List (String × String) := []
  internalDate : String := ""
  deriving DecidableEq, Repr

/-- What the Gmail API answers during a call: `users.watch` for a topic (the history id and the expiration), the
ids of the added messages in each entry of the history of a mailbox after an id, and a message. -/
structure GmailAPI where
  watch : String → Except String (String × String)
  history : String → ℕ → Except String (List (List String))
  message : String → String → Except String GmailMetadata

structure GmailPushReceiver where
  topicName : String
  toLower : String → String
  /-- The `data` of a `gmailPubSubMessage`. -/
  unmarshalPubSub : Bytes → Except String String
  decodeString : String → Except String Bytes
  unmarshalData : Bytes → Except String GmailNotificationData

namespace GmailPushReceiver

variable (g : GmailPushReceiver)

/-- A time that is given in milliseconds, else the zero time. -/
def scanUnixMilli (s : String) : ℤ :=
  if s = "" then 0
  else
    match GoTime.scanInt64 s with
    | some ms => GoTime.ofUnixMilli ms
    | none => 0

/-- `Subscribe`: the history id at that moment and when the watch expires. -/
def subscribe (api : GmailAPI) (now : ℤ) : Except String (String × ℤ) :=
  if g.topicName = "" then .error "gmail push: topic_name is required"
  else
    match api.watch g.topicName with
    | .error err => .error ("gmail push: watch: " ++ err)
    | .ok (historyID, expiration) =>
      let expiresAt := scanUnixMilli expiration
      .ok (historyID, if expiresAt = 0 then now + 7 * 24 * 3600 * GoTime.second else expiresAt)

/-- `Renew`. -/
def renew (api : GmailAPI) (now : ℤ) : Except String ℤ := (g.subscribe api now).map Prod.snd

/-- `splitAddresses` of this package. -/
def splitAddresses (s : String) : List String := ((split s ',').map trimSpace).filter (· ≠ "")

/-- One round of the loop over the headers. -/
def applyHeader (raw : RawEmail) (h : String × String) : RawEmail :=
  let name := g.toLower h.1
  let raw := { raw with headers := raw.headers.set name h.2 }
  if name = "from" then { raw with sender := h.2 }
  else if name = "to" then { raw with recipients := splitAddresses h.2 }
  else if name = "cc" then { raw with cc := splitAddresses h.2 }
  else if name = "subject" then { raw with subject := h.2 }
  else raw

/-- The `RawEmail` of `fetchMessage`. -/
def toRawEmail (now : ℤ) (email : String) (m : GmailMetadata) : RawEmail :=
  let raw := m.headers.foldl g.applyHeader { providerMessageID := m.id, mailbox := email }
  let receivedAt := scanUnixMilli m.internalDate
  { raw with body := m.snippet, receivedAt := if receivedAt = 0 then now else receivedAt }

/-- `fetchMessage`. -/
def fetchMessage (api : GmailAPI) (now : ℤ) (email messageID : String) : Except String RawEmail :=
  (api.message email messageID).map (g.toRawEmail now email)

/-- `fetchRecentMessages`: a message without an id, or that cannot be fetched, is skipped. -/
def fetchRecentMessages (api : GmailAPI) (now : ℤ) (email : String) (historyID : ℕ) :
    Except String (List RawEmail) :=
  match api.history email historyID with
  | .error err => .error err
  | .ok history =>
    .ok (history.flatten.filterMap fun id => if id = "" then none else (g.fetchMessage api now email id).toOption)

/-- The first part of `HandleNotification`. -/
def decode (payload : Bytes) : Except String GmailNotificationData :=
  match g.unmarshalPubSub payload with
  | .error err => .error ("gmail push: unmarshal pubsub: " ++ err)
  | .ok data =>
    match g.decodeString data with
    | .error err => .error ("gmail push: decode data: " ++ err)
    | .ok bytes =>
      match g.unmarshalData bytes with
      | .error err => .error ("gmail push: unmarshal notification: " ++ err)
      | .ok notif => .ok notif

/-- `HandleNotification`. -/
def handleNotification (api : GmailAPI) (now : ℤ) (tenantID : String) (payload : Bytes) :
    Except String (List RawEmail) :=
  match g.decode payload with
  | .error err => .error err
  | .ok notif =>
    if notif.emailAddress = "" then .ok []
    else
      match g.fetchRecentMessages api now notif.emailAddress notif.historyID with
      | .error err => .error ("gmail push: fetch recent: " ++ err)
      | .ok emails => .ok (emails.map fun raw => if raw.tenantID = "" then { raw with tenantID } else raw)

lemma foldl_applyHeader_id (hs : List (String × String)) (raw : RawEmail) :
    (hs.foldl g.applyHeader raw).providerMessageID = raw.providerMessageID := by
  induction hs generalizing raw with
  | nil => rfl
  | cons h hs ih =>
    rw [List.foldl_cons, ih]
    unfold applyHeader
    dsimp only
    split_ifs <;> rfl

lemma toRawEmail_id (now : ℤ) (email : String) (m : GmailMetadata) :
    (g.toRawEmail now email m).providerMessageID = m.id := g.foldl_applyHeader_id _ _

variable {g}

lemma fetchMessage_toOption (api : GmailAPI) (now : ℤ) (email id : String) :
    (g.fetchMessage api now email id).toOption = (api.message email id).toOption.map (g.toRawEmail now email) := by
  unfold fetchMessage
  cases api.message email id <;> rfl

/-- **One notification.** It returns the messages of the history that can be fetched. -/
theorem handleNotification_returns {api : GmailAPI} (now : ℤ) (tenantID : String) {payload : Bytes}
    {notif : GmailNotificationData} {history : List (List String)} (hdecode : g.decode payload = .ok notif)
    (haddress : notif.emailAddress ≠ "") (hhistory : api.history notif.emailAddress notif.historyID = .ok history)
    (hserved : ∀ id ∈ history.flatten, ∀ m ∈ (api.message notif.emailAddress id).toOption, m.id = id) :
    ∃ raws, g.handleNotification api now tenantID payload = .ok raws ∧
      ∀ id, (∃ raw ∈ raws, raw.providerMessageID = id) ↔
        id ∈ history.flatten ∧ id ≠ "" ∧ (api.message notif.emailAddress id).toOption.isSome := by
  have htagged : ∀ raw : RawEmail, (if raw.tenantID = "" then { raw with tenantID } else raw).providerMessageID =
      raw.providerMessageID := fun raw => by split_ifs <;> rfl
  unfold handleNotification fetchRecentMessages
  simp only [hdecode, haddress, if_false, hhistory]
  refine ⟨_, rfl, ?_⟩
  intro id
  constructor
  · rintro ⟨tagged, htag, rfl⟩
    obtain ⟨raw, hraw, rfl⟩ := List.mem_map.mp htag
    obtain ⟨id, hid, hfetch⟩ := List.mem_filterMap.mp hraw
    rw [htagged]
    split_ifs at hfetch with hempty
    rw [fetchMessage_toOption] at hfetch
    obtain ⟨m, hm, rfl⟩ := Option.map_eq_some_iff.mp hfetch
    rw [toRawEmail_id, hserved id hid m hm]
    exact ⟨hid, hempty, Option.isSome_of_mem hm⟩
  · rintro ⟨hid, hempty, hsome⟩
    obtain ⟨m, hm⟩ := Option.isSome_iff_exists.mp hsome
    have hraw : g.toRawEmail now notif.emailAddress m ∈ history.flatten.filterMap fun id =>
        if id = "" then none else (g.fetchMessage api now notif.emailAddress id).toOption := by
      refine List.mem_filterMap.mpr ⟨id, hid, ?_⟩
      rw [if_neg hempty, fetchMessage_toOption, hm]
      rfl
    refine ⟨_, List.mem_map_of_mem hraw, ?_⟩
    rw [htagged, toRawEmail_id]
    exact hserved id hid m hm

end GmailPushReceiver

/-! ### A mailbox -/

/-- A message and the history id of the mailbox when it arrived. -/
structure GmailArrival where
  id : String
  historyID : ℕ
  deriving DecidableEq, Repr

/-- The messages of a mailbox, and those that `HandleNotification` has returned. -/
structure GmailPushState where
  arrivals : List GmailArrival := []
  returned : List RawEmail := []

inductive GmailPushEvent where
  /-- `Subscribe` or `Renew`: the receiver keeps nothing of the answer. -/
  | subscribe (api : GmailAPI) (now : ℤ)
  | arrive (a : GmailArrival)
  /-- A notification is delivered. -/
  | notify (payload : Bytes) (api : GmailAPI) (now : ℤ)

section Mailbox

variable (g : GmailPushReceiver) (address tenantID : String)

/-- A notification carries the history id of an arrival; the history has exactly the later arrivals, and the
message that was asked for is returned if one is. -/
def announces (arrivals : List GmailArrival) (payload : Bytes) (api : GmailAPI) : Bool :=
  match g.decode payload with
  | .error _ => false
  | .ok notif =>
    match api.history address notif.historyID with
    | .error _ => false
    | .ok history =>
      notif.emailAddress = address ∧ (∃ a ∈ arrivals, a.historyID = notif.historyID) ∧
        (∀ id ∈ history.flatten, ∃ a ∈ arrivals, notif.historyID < a.historyID ∧ a.id = id) ∧
        (∀ a ∈ arrivals, notif.historyID < a.historyID → a.id ∈ history.flatten) ∧
        ∀ id ∈ history.flatten, ∀ m ∈ (api.message address id).toOption, m.id = id

/-- Ids of messages are not used twice, and history ids do not go down. -/
def gmailPushStep (s : GmailPushState) : GmailPushEvent → Option GmailPushState
  | .subscribe _ _ => some s
  | .arrive a =>
    if a.id ≠ "" ∧ ∀ b ∈ s.arrivals, b.id ≠ a.id ∧ b.historyID ≤ a.historyID then
      some { s with arrivals := s.arrivals ++ [a] }
    else none
  | .notify payload api now =>
    if announces g address s.arrivals payload api then
      match g.handleNotification api now tenantID payload with
      | .error _ => some s
      | .ok raws => some { s with returned := s.returned ++ raws }
    else none

/-- `Subscribe` has worked. -/
def GmailPushEvent.subscribes : GmailPushEvent → Bool
  | .subscribe api now => (g.subscribe api now).toOption.isSome
  | _ => false

def GmailPushEvent.isNotify : GmailPushEvent → Bool
  | .notify _ _ _ => true
  | _ => false

/-- A notification that carries an earlier history id than an arrival, while the message can be fetched. -/
def GmailPushEvent.announcesBefore (a : GmailArrival) : GmailPushEvent → Bool
  | .notify payload api _ =>
    match g.decode payload with
    | .ok notif => notif.historyID < a.historyID ∧ (api.message address a.id).toOption.isSome
    | .error _ => false
  | _ => false

/-- In a run `a` arrives after `Subscribe` and before a notification; `post` are the events after it. -/
def Due (es : List GmailPushEvent) (a : GmailArrival) (post : List GmailPushEvent) : Prop :=
  ∃ pre, es = pre ++ .arrive a :: post ∧ (∃ e ∈ pre, e.subscribes g) ∧ ∃ e ∈ post, e.isNotify

/-- A message was returned. -/
def GmailPushState.Returned (s : GmailPushState) (id : String) : Prop := ∃ raw ∈ s.returned, raw.providerMessageID = id

variable {g address tenantID} (haddress : address ≠ "")

/-- What is returned has arrived, and every message has its own id. -/
structure Tracked (s : GmailPushState) : Prop where
  named : ∀ a ∈ s.arrivals, a.id ≠ ""
  ids : (s.arrivals.map (·.id)).Nodup
  returned : ∀ id, s.Returned id → ∃ a ∈ s.arrivals, a.id = id

lemma step_arrivals {s s' : GmailPushState} {e : GmailPushEvent}
    (hs : gmailPushStep g address tenantID s e = some s') : s'.arrivals = s.arrivals ∨
      ∃ a, s'.arrivals = s.arrivals ++ [a] ∧ a.id ≠ "" ∧ ∀ b ∈ s.arrivals, b.id ≠ a.id := by
  cases e with
  | subscribe api now =>
    obtain rfl := Option.some.inj hs
    exact .inl rfl
  | arrive a =>
    simp only [gmailPushStep] at hs
    split_ifs at hs with hguard
    obtain rfl := Option.some.inj hs
    exact .inr ⟨a, rfl, hguard.1, fun b hb => (hguard.2 b hb).1⟩
  | notify payload api now =>
    simp only [gmailPushStep] at hs
    split_ifs at hs
    split at hs
    all_goals
      obtain rfl := Option.some.inj hs
      exact .inl rfl

include haddress

/-- **One step** returns the arrivals that its notification announces late. -/
lemma step_returned {s s' : GmailPushState} {e : GmailPushEvent} (hnamed : ∀ a ∈ s.arrivals, a.id ≠ "")
    (hs : gmailPushStep g address tenantID s e = some s') (id : String) :
    s'.Returned id ↔ s.Returned id ∨ ∃ a ∈ s.arrivals, a.id = id ∧ e.announcesBefore g address a := by
  cases e with
  | subscribe api now =>
    obtain rfl := Option.some.inj hs
    simp [GmailPushEvent.announcesBefore]
  | arrive a =>
    simp only [gmailPushStep] at hs
    split_ifs at hs
    obtain rfl := Option.some.inj hs
    simp [GmailPushEvent.announcesBefore, GmailPushState.Returned]
  | notify payload api now =>
    simp only [gmailPushStep] at hs
    split_ifs at hs with hann
    unfold announces at hann
    split at hann
    · cases hann
    · next notif hdecode =>
      split at hann
      · cases hann
      · next history hhistory =>
        rw [decide_eq_true_eq] at hann
        obtain ⟨rfl, -, hold, hnew, hserved⟩ := hann
        obtain ⟨raws, hraws, hids⟩ :=
          GmailPushReceiver.handleNotification_returns now tenantID hdecode haddress hhistory hserved
        rw [hraws] at hs
        obtain rfl := Option.some.inj hs
        have happend : (GmailPushState.mk s.arrivals (s.returned ++ raws)).Returned id ↔
            s.Returned id ∨ ∃ raw ∈ raws, raw.providerMessageID = id := by
          simp only [GmailPushState.Returned, List.mem_append, or_and_right, exists_or]
        rw [happend, hids id]
        refine or_congr Iff.rfl ?_
        simp only [GmailPushEvent.announcesBefore, hdecode, decide_eq_true_eq]
        constructor
        · rintro ⟨hid, -, hsome⟩
          obtain ⟨a, ha, hlt, rfl⟩ := hold id hid
          exact ⟨a, ha, rfl, hlt, hsome⟩
        · rintro ⟨a, ha, rfl, hlt, hsome⟩
          exact ⟨hnew a ha hlt, hnamed a ha, hsome⟩

lemma step_tracked {s s' : GmailPushState} {e : GmailPushEvent} (h : Tracked s)
    (hs : gmailPushStep g address tenantID s e = some s') : Tracked s' := by
  have hreturned := step_returned haddress h.named hs
  have hstep : s'.arrivals = s.arrivals ∨
      ∃ a, s'.arrivals = s.arrivals ++ [a] ∧ a.id ≠ "" ∧ ∀ b ∈ s.arrivals, b.id ≠ a.id := step_arrivals hs
  have hmem : ∀ id, s'.Returned id → ∃ a ∈ s.arrivals, a.id = id := by
    intro id hid
    rcases (hreturned id).mp hid with hold | ⟨a, ha, hida, -⟩
    · exact h.returned id hold
    · exact ⟨a, ha, hida⟩
  rcases hstep with harr | ⟨a, harr, hne, hfresh⟩
  · refine ⟨?_, ?_, ?_⟩
    all_goals rw [harr]
    · exact h.named
    · exact h.ids
    · exact hmem
  · refine ⟨?_, ?_, ?_⟩
    all_goals rw [harr]
    · intro b hb
      rcases List.mem_append.mp hb with hb | hb
      · exact h.named b hb
      · obtain rfl := List.mem_singleton.mp hb
        exact hne
    · rw [List.map_append, List.map_singleton, ← List.concat_eq_append]
      refine List.Nodup.concat ?_ h.ids
      intro hid
      obtain ⟨b, hb, hbid⟩ := List.mem_map.mp hid
      exact hfresh b hb hbid
    · intro id hid
      obtain ⟨b, hb, hbid⟩ := hmem id hid
      exact ⟨b, List.mem_append_left _ hb, hbid⟩

/-- **A run** returns a message once a notification announces it late. -/
lemma run_returned {es : List GmailPushEvent} {s s' : GmailPushState} {a : GmailArrival} (h : Tracked s)
    (ha : a ∈ s.arrivals) (hrun : run (gmailPushStep g address tenantID) s es = some s') :
    s'.Returned a.id ↔ s.Returned a.id ∨ ∃ e ∈ es, e.announcesBefore g address a := by
  induction es generalizing s with
  | nil =>
    obtain rfl := Option.some.inj hrun
    simp
  | cons e es ih =>
    obtain ⟨t, hst, hts⟩ := run_cons_some.mp hrun
    have hat : a ∈ t.arrivals := by
      rcases step_arrivals hst with harr | ⟨b, harr, -⟩
      · rw [harr]
        exact ha
      · rw [harr]
        exact List.mem_append_left _ ha
    -- of the arrivals only this one has its id
    have hone : (∃ b ∈ s.arrivals, b.id = a.id ∧ e.announcesBefore g address b) ↔ e.announcesBefore g address a := by
      constructor
      · rintro ⟨b, hb, hid, hbefore⟩
        obtain rfl := List.inj_on_of_nodup_map h.ids hb ha hid
        exact hbefore
      · intro hbefore
        exact ⟨a, ha, rfl, hbefore⟩
    rw [ih (step_tracked haddress h hst) hat hts, step_returned haddress h.named hst, hone, or_assoc,
      List.exists_mem_cons_iff]

lemma run_tracked {es : List GmailPushEvent} {s s' : GmailPushState} (h : Tracked s)
    (hrun : run (gmailPushStep g address tenantID) s es = some s') : Tracked s' :=
  reach_induct (fun _ _ _ hs hst => step_tracked haddress hs hst) h ⟨es, hrun⟩

/-- An arrival is returned exactly by the later notifications that announce it late. -/
lemma arrival_returned {pre post : List GmailPushEvent} {s : GmailPushState} {a : GmailArrival}
    (hrun : run (gmailPushStep g address tenantID) {} (pre ++ .arrive a :: post) = some s) :
    s.Returned a.id ↔ ∃ e ∈ post, e.announcesBefore g address a := by
  rw [run_append, Option.bind_eq_some_iff] at hrun
  obtain ⟨t, hpre, hrest⟩ := hrun
  obtain ⟨t', harrive, hpost⟩ := run_cons_some.mp hrest
  have hinit : Tracked {} := ⟨by simp, by simp, by simp [GmailPushState.Returned]⟩
  have ht := run_tracked haddress hinit hpre
  have ht' := step_tracked haddress ht harrive
  simp only [gmailPushStep] at harrive
  split_ifs at harrive with hguard
  obtain rfl := Option.some.inj harrive
  have hnot : ¬ t.Returned a.id := by
    intro hret
    obtain ⟨b, hb, hid⟩ := ht.returned _ hret
    exact (hguard.2 b hb).1 hid
  rw [run_returned haddress ht' (List.mem_append_right _ List.mem_cons_self) hpost]
  exact or_iff_right hnot

end Mailbox

/-- **When push delivers every message.** Every message that arrives after `Subscribe` and before a notification
is returned, exactly when each of them is followed by a notification that announces it late. -/
theorem gmail_push_delivers_iff (g : GmailPushReceiver) (address tenantID : String) (haddress : address ≠ "")
    (es : List GmailPushEvent) (s : GmailPushState)
    (hrun : run (gmailPushStep g address tenantID) {} es = some s) :
    (∀ a post, Due g es a post → s.Returned a.id) ↔
      ∀ a post, Due g es a post → ∃ e ∈ post, e.announcesBefore g address a := by
  have hiff : ∀ a post, Due g es a post → (s.Returned a.id ↔ ∃ e ∈ post, e.announcesBefore g address a) := by
    rintro a post ⟨pre, rfl, -⟩
    exact arrival_returned haddress hrun
  constructor
  · intro h a post hdue
    exact (hiff a post hdue).mp (h a post hdue)
  · intro h a post hdue
    exact (hiff a post hdue).mpr (h a post hdue)

section Samples

/-- The `data` of a notification for `u@a.b` with the history id 5 or 10. -/
def noticeData (late : Bool) : String :=
  if late then "eyJlbWFpbEFkZHJlc3MiOiJ1QGEuYiIsImhpc3RvcnlJZCI6NX0="
  else "eyJlbWFpbEFkZHJlc3MiOiJ1QGEuYiIsImhpc3RvcnlJZCI6MTB9"

def noticePayload (late : Bool) : Bytes :=
  bytesOf ("\x7b\"message\":\x7b\"data\":\"" ++ noticeData late ++ "\"\x7d\x7d")

/-- A receiver that can read these two notifications. -/
def noticeReceiver : GmailPushReceiver where
  topicName := "projects/p/topics/t"
  toLower := asciiNormalizer.toLower
  unmarshalPubSub payload :=
    if payload = noticePayload true then .ok (noticeData true)
    else if payload = noticePayload false then .ok (noticeData false)
    else .error "unexpected end of JSON input"
  decodeString data :=
    if data = noticeData true then .ok (bytesOf "\x7b\"emailAddress\":\"u@a.b\",\"historyId\":5\x7d")
    else if data = noticeData false then .ok (bytesOf "\x7b\"emailAddress\":\"u@a.b\",\"historyId\":10\x7d")
    else .error "illegal base64 data at input byte 0"
  unmarshalData bytes :=
    if bytes = bytesOf "\x7b\"emailAddress\":\"u@a.b\",\"historyId\":5\x7d" then .ok ⟨"u@a.b", 5⟩
    else if bytes = bytesOf "\x7b\"emailAddress\":\"u@a.b\",\"historyId\":10\x7d" then .ok ⟨"u@a.b", 10⟩
    else .error "unexpected end of JSON input"

/-- A mailbox with the messages `m0` and `m1`, of the history ids 5 and 10. -/
def twoMessages : GmailAPI where
  watch _ := .ok ("5", "1700604800000")
  history _ start := .ok (if start < 5 then [["m0"], ["m1"]] else if start < 10 then [["m1"]] else [])
  message _ id := .ok { id := id, internalDate := "1700000000000" }

/-- A message arrives before `Subscribe` and one after it; then a notification of the first or the second comes. -/
def twoArrivals (late : Bool) : List GmailPushEvent :=
  [.arrive ⟨"m0", 5⟩, .subscribe twoMessages 0, .arrive ⟨"m1", 10⟩, .notify (noticePayload late) twoMessages 0]

lemma due_twoArrivals {late : Bool} {a : GmailArrival} {post : List GmailPushEvent}
    (h : Due noticeReceiver (twoArrivals late) a post) :
    a = ⟨"m1", 10⟩ ∧ post = [.notify (noticePayload late) twoMessages 0] := by
  obtain ⟨pre, heq, ⟨e, he, hsub⟩, -⟩ := h
  unfold twoArrivals at heq
  rcases pre with _ | ⟨e0, _ | ⟨e1, _ | ⟨e2, _ | ⟨e3, pre⟩⟩⟩⟩
  · cases he
  · simp at heq
  · simp only [List.cons_append, List.nil_append, List.cons.injEq, GmailPushEvent.arrive.injEq] at heq
    exact ⟨heq.2.2.1.symm, heq.2.2.2.symm⟩
  · simp at heq
  · simp at heq

/-- The notification of the first message comes after the second one, and returns it. -/
theorem twoArrivals_late_delivered :
    ∃ s, run (gmailPushStep noticeReceiver "u@a.b" "t") {} (twoArrivals true) = some s ∧
      ∀ a post, Due noticeReceiver (twoArrivals true) a post → s.Returned a.id := by
  have hsome : (run (gmailPushStep noticeReceiver "u@a.b" "t") {} (twoArrivals true)).isSome := by decide +kernel
  obtain ⟨s, hs⟩ := Option.isSome_iff_exists.mp hsome
  refine ⟨s, hs, (gmail_push_delivers_iff noticeReceiver "u@a.b" "t" (by decide) _ s hs).mpr ?_⟩
  intro a post hdue
  obtain ⟨rfl, rfl⟩ := due_twoArrivals hdue
  exact ⟨_, List.mem_cons_self, by decide +kernel⟩

/-- The notification of the second message asks for what came after it: nothing is returned. -/
theorem twoArrivals_prompt_lost :
    ∃ s, run (gmailPushStep noticeReceiver "u@a.b" "t") {} (twoArrivals false) = some s ∧ s.returned.length = 0 ∧
      ∃ a post, Due noticeReceiver (twoArrivals false) a post ∧ ¬ s.Returned a.id := by
  have hrun : (run (gmailPushStep noticeReceiver "u@a.b" "t") {} (twoArrivals false)).map (·.returned.length) =
      some 0 := by decide +kernel
  obtain ⟨s, hs, hlength⟩ := Option.map_eq_some_iff.mp hrun
  refine ⟨s, hs, hlength, ⟨"m1", 10⟩, [.notify (noticePayload false) twoMessages 0], ?_, ?_⟩
  · exact ⟨[.arrive ⟨"m0", 5⟩, .subscribe twoMessages 0], rfl, ⟨_, List.mem_cons_of_mem _ List.mem_cons_self,
      by decide +kernel⟩, ⟨_, List.mem_cons_self, rfl⟩⟩
  · rintro ⟨raw, hraw, -⟩
    rw [List.length_eq_zero_iff.mp hlength] at hraw
    cases hraw

end Samples

end Sn360Es.Ingestion
