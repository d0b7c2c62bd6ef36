import Sn360Es.Sinks.Dispatcher

/-!
# Webhooks that are tried again (`cmd/sn360-es/consumers_webhook_dlq.go`)

An envelope of the queue is delivered up to five times. Each delivery looks the sink up and posts the body again; the
fifth one only writes the audit row. A lookup that fails asks for another delivery, also when there is none left, and
the row is lost if its reason is not valid UTF-8.

* `exitOf`, `firstExit` — how a delivery and the first attempt end, read off their inputs;
* `handle_spec`, `dispatch_spec` — and what they do then;
* `deliver_posts` — the deliveries post four times at most;
* `webhook_audited_iff` — which runs end without a success and without a row.
-/

namespace Sn360Es.Sinks

open Lib

/-- `webhookDLQMaxDeliver`. -/
def webhookDLQMaxDeliver : ℕ := 5

/-- `webhookDLQBackoffs`, in seconds. -/
def webhookDLQBackoffs : List ℕ := [1, 5, 30, 300, 3600]

/-- `backoffFor`. -/
def backoffFor (deliveryAttempt : ℕ) : ℕ :=
  webhookDLQBackoffs.getD (min (max deliveryAttempt 1 - 1) (webhookDLQBackoffs.length - 1)) 0

/-- What `GetByID` says. -/
inductive Lookup where
  | found (sink : WebhookSink)
  | notFound
  /-- Any other error. -/
  | failed
  deriving DecidableEq, Repr

/-- What the outside does during a delivery; the new signature is `none` if it is the old one or cannot be made. -/
structure Delivery where
  lookup : Lookup
  resigned : Option String := none
  reply : Reply
  deriving DecidableEq, Repr

inductive Settled where
  | ack
  | nak (delay : ℕ)
  deriving DecidableEq, Repr

/-- The entry of `appendDLQAudit`. -/
def dlqAudit (env : DLQEnvelope) (reason : Bytes) : AuditEntry where
  tenantID := env.tenantID
  sinkID := env.sinkID
  sinkName := env.sinkName
  dedupID := env.sinkID ++ "|" ++ env.eventID ++ "|attempt=" ++ toString env.attempt
  reason := boundReason (bytesOf "dlq " ++ reason)

/-- The request of a later attempt. -/
def retryRequest (env : DLQEnvelope) (sink : WebhookSink) (n : ℕ) (d : Delivery) : Request where
  sinkID := sink.id
  tenantID := sink.tenantID
  sinkName := sink.name
  url := sink.url
  format := env.format
  body := env.body
  signature := d.resigned.getD env.signature
  eventID := env.eventID
  attempt := n + 1

/-- The reason of the last delivery. -/
def finalReason (env : DLQEnvelope) : Bytes := bytesOf "final fail after max attempts: " ++ env.lastCause

section Retry

variable (quote : Bytes → Bytes) (maxBody : ℕ)

/-- `handleWebhookDLQ`, for the `n`-th delivery of an envelope. -/
def handleWebhookDLQ (env : DLQEnvelope) (n : ℕ) (d : Delivery) : Effects × Settled :=
  -- the check of `ParseDLQEnvelope`
  if env.sinkID = "" ∨ env.tenantID = "" then ({}, .ack)
  else
    match d.lookup with
    | .notFound => ({ audits := [dlqAudit env (bytesOf "sink missing or deleted")] }, .ack)
    | .failed => ({}, .nak (backoffFor 1))
    | .found sink =>
      if sink.enabled = false then ({ audits := [dlqAudit env (bytesOf "sink disabled")] }, .ack)
      else if webhookDLQMaxDeliver ≤ n then ({ audits := [dlqAudit env (finalReason env)] }, .ack)
      else
        let (result, posted) := publish quote maxBody (retryRequest env sink n d) d.reply
        match result.outcome with
        | .success => ({ posts := posted.toNat, succeeded := true }, .ack)
        | .permanentFailure =>
          ({ posts := posted.toNat, audits := [dlqAudit env (bytesOf "permanent: " ++ result.cause)] }, .ack)
        | .retriable | .unknown => ({ posts := posted.toNat }, .nak (backoffFor n))

/-- The deliveries of an envelope, from the `n`-th on. -/
def deliver (env : DLQEnvelope) : ℕ → List Delivery → List (Effects × Settled)
  | _, [] => []
  | n, d :: ds => handleWebhookDLQ quote maxBody env n d :: deliver env (n + 1) ds

/-! ### The audit table -/

/-- `AppendAudit`: a reason that is not valid UTF-8 is refused, and a row that is there stays. -/
def appendAudit (rows : List AuditEntry) (e : AuditEntry) : List AuditEntry :=
  if Utf8.valid e.reason = false then rows
  else if rows.any fun row => row.tenantID = e.tenantID && row.dedupID = e.dedupID then rows
  else rows ++ [e]

/-- The row belongs to an event at a sink. -/
def AuditEntry.Of (row : AuditEntry) (sink : WebhookSink) (eventID : String) : Prop :=
  row.tenantID = sink.tenantID ∧ row.sinkID = sink.id ∧
    (sink.id ++ "|" ++ eventID ++ "|attempt=").toList <+: row.dedupID.toList

/-! ### A run -/

/-- An event at a sink: the first attempt, and the deliveries of the envelope, if there is one. -/
structure WebhookRun where
  sink : WebhookSink
  event : Event
  first : SinkEnv
  deliveries : List Delivery

/-- The envelope as it is read: JSON replaces the bytes that are no UTF-8. -/
def received (env : DLQEnvelope) : DLQEnvelope := { env with lastCause := Utf8.throughJson env.lastCause }

namespace WebhookRun

variable (r : WebhookRun)

def dispatched : Effects := dispatchOne quote maxBody r.sink r.event r.first

def envelope : Option DLQEnvelope := (r.dispatched quote maxBody).queued.head?.map fun q => received q.envelope

def delivered : List (Effects × Settled) :=
  match r.envelope quote maxBody with
  | none => []
  | some env => deliver quote maxBody env 1 r.deliveries

/-- The requests that the endpoint may have received. -/
def posts : ℕ := (r.dispatched quote maxBody).posts + ((r.delivered quote maxBody).map fun x => x.1.posts).sum

def succeeded : Bool := (r.dispatched quote maxBody).succeeded || (r.delivered quote maxBody).any fun x => x.1.succeeded

def rows : List AuditEntry :=
  ((r.dispatched quote maxBody).audits ++ (r.delivered quote maxBody).flatMap fun x => x.1.audits).foldl appendAudit []

/-- No delivery remains: there is no envelope, it was acknowledged, or the deliveries are used up. -/
def Over : Prop :=
  r.envelope quote maxBody = none ∨ webhookDLQMaxDeliver ≤ r.deliveries.length ∨
    ((r.delivered quote maxBody).getLast?.map fun x => x.2) = some .ack

def Audited : Prop := ∃ row ∈ r.rows quote maxBody, row.Of r.sink r.event.eventID

end WebhookRun

/-! ### How an attempt ends -/

inductive Exit where
  | passed
  /-- Given up, with a row. -/
  | recorded
  /-- Given up, with a reason that the table refuses. -/
  | unreadable
  /-- To be tried again. -/
  | again
  deriving DecidableEq, Repr

/-- Given up for a reason. -/
def givenUp (reason : Bytes) : Exit := if Utf8.valid reason then .recorded else .unreadable

/-- The end of the `n`-th delivery. -/
def exitOf (env : DLQEnvelope) (n : ℕ) (d : Delivery) : Exit :=
  match d.lookup with
  | .failed => .again
  | .notFound => .recorded
  | .found sink =>
    if sink.enabled = false then .recorded
    else if webhookDLQMaxDeliver ≤ n then givenUp (dlqAudit env (finalReason env)).reason
    else
      let result := (publish quote maxBody (retryRequest env sink n d) d.reply).1
      match result.outcome with
      | .success => .passed
      | .permanentFailure => givenUp (dlqAudit env (bytesOf "permanent: " ++ result.cause)).reason
      | .retriable | .unknown => .again

/-- The end of an attempt that goes to the queue. -/
def queueExit (sink : WebhookSink) (eventID : String) (status : ℕ) (env : SinkEnv) : Exit :=
  match env.marshalErr with
  | some err =>
    givenUp (dispatchFailedAudit sink eventID "dlq_marshal" (bytesOf "marshal dlq envelope: " ++ err) status 1).reason
  | none =>
    match env.publishErr with
    | some err =>
      givenUp (dispatchFailedAudit sink eventID "dlq_publish" (bytesOf "dlq publish failed: " ++ err) status 1).reason
    | none => .again

/-- The end of the first attempt. -/
def firstExit (sink : WebhookSink) (event : Event) (env : SinkEnv) : Exit :=
  match env.signed with
  | .error err =>
    givenUp (dispatchFailedAudit sink event.eventID "format_sign" (bytesOf "format/sign error: " ++ err) 0 0).reason
  | .ok (body, signature) =>
    let result := (publish quote maxBody (firstRequest sink event.eventID body signature) env.reply).1
    match result.outcome with
    | .success => .passed
    | .permanentFailure =>
      givenUp (dispatchFailedAudit sink event.eventID "http_permanent" result.cause result.httpStatus 1).reason
    | .retriable | .unknown => queueExit sink event.eventID result.httpStatus env

def exitsFrom (env : DLQEnvelope) : ℕ → List Delivery → List Exit
  | _, [] => []
  | n, d :: ds => exitOf quote maxBody env n d :: exitsFrom env (n + 1) ds

/-- What is done for an event at a sink agrees with the way it ends. -/
structure Agrees (sink : WebhookSink) (eventID : String) (x : Effects × Settled) (exit : Exit) : Prop where
  posts : x.1.posts ≤ 1
  passed : x.1.succeeded = true ↔ exit = .passed
  recorded : (∃ e ∈ x.1.audits, Utf8.valid e.reason = true) ↔ exit = .recorded
  again : x.2 = .ack ↔ exit ≠ .again
  audits : ∀ e ∈ x.1.audits, e.Of sink eventID

/-- The ends of the attempts of a run. -/
def WebhookRun.exits (r : WebhookRun) : List Exit :=
  firstExit quote maxBody r.sink r.event r.first ::
    match r.envelope quote maxBody with
    | none => []
    | some env => exitsFrom quote maxBody env 1 r.deliveries

/-- No attempt passes or is recorded, and there are five deliveries, or the last attempt is given up. -/
def WebhookRun.Lost (r : WebhookRun) : Prop :=
  (∀ x ∈ r.exits quote maxBody, x = .again ∨ x = .unreadable) ∧
    (webhookDLQMaxDeliver ≤ r.deliveries.length ∨ (r.exits quote maxBody).getLast? = some .unreadable)

end Retry

lemma givenUp_cases (reason : Bytes) :
    (Utf8.valid reason = true ∧ givenUp reason = .recorded) ∨
      (Utf8.valid reason = false ∧ givenUp reason = .unreadable) := by
  unfold givenUp
  cases Utf8.valid reason with
  | true => exact Or.inl ⟨rfl, rfl⟩
  | false => exact Or.inr ⟨rfl, rfl⟩

/-- An attempt that writes one entry and is over. -/
lemma agrees_of_audit {sink : WebhookSink} {eventID : String} {posts : ℕ} (hposts : posts ≤ 1) {e : AuditEntry}
    (he : e.Of sink eventID) : Agrees sink eventID ({ posts := posts, audits := [e] }, .ack) (givenUp e.reason) := by
  rcases givenUp_cases e.reason with ⟨hvalid, hexit⟩ | ⟨hvalid, hexit⟩
  · rw [hexit]
    exact ⟨hposts, by simp, by simp [hvalid], by simp, by simpa using he⟩
  · rw [hexit]
    exact ⟨hposts, by simp, by simp [hvalid], by simp, by simpa using he⟩

section Spec

variable {quote : Bytes → Bytes} {maxBody : ℕ} {sink : WebhookSink} {eventID : String}

lemma dlqAudit_of {env : DLQEnvelope} (hsink : env.sinkID = sink.id) (htenant : env.tenantID = sink.tenantID)
    (hevent : env.eventID = eventID) (reason : Bytes) : (dlqAudit env reason).Of sink eventID := by
  refine ⟨htenant, hsink, ?_⟩
  have hdedup : (dlqAudit env reason).dedupID.toList =
      (sink.id ++ "|" ++ eventID ++ "|attempt=").toList ++ (toString env.attempt).toList := by
    rw [← String.toList_append, ← hsink, ← hevent]
    rfl
  rw [hdedup]
  exact List.prefix_append _ _

/-- **What a delivery does.** -/
lemma handle_spec {env : DLQEnvelope} (hsink : env.sinkID = sink.id) (htenant : env.tenantID = sink.tenantID)
    (hevent : env.eventID = eventID) (hid : sink.id ≠ "") (hne : sink.tenantID ≠ "") (n : ℕ) (d : Delivery) :
    Agrees sink eventID (handleWebhookDLQ quote maxBody env n d) (exitOf quote maxBody env n d) := by
  have hof := dlqAudit_of hsink htenant hevent
  have hparsed : ¬(env.sinkID = "" ∨ env.tenantID = "") := by
    rw [hsink, htenant]
    exact not_or.mpr ⟨hid, hne⟩
  rw [handleWebhookDLQ, if_neg hparsed, exitOf]
  cases d.lookup with
  | failed => exact ⟨Nat.zero_le _, by simp, by simp, by simp, by simp⟩
  | notFound =>
    have hvalid : givenUp (boundReason (bytesOf "dlq " ++ bytesOf "sink missing or deleted")) = .recorded := by
      decide +kernel
    rw [← hvalid]
    exact agrees_of_audit (Nat.zero_le _) (hof _)
  | found live =>
    simp only
    by_cases henabled : live.enabled = false
    · have hvalid : givenUp (boundReason (bytesOf "dlq " ++ bytesOf "sink disabled")) = .recorded := by
        decide +kernel
      rw [if_pos henabled, if_pos henabled, ← hvalid]
      exact agrees_of_audit (Nat.zero_le _) (hof _)
    · rw [if_neg henabled, if_neg henabled]
      by_cases hfinal : webhookDLQMaxDeliver ≤ n
      · rw [if_pos hfinal, if_pos hfinal]
        exact agrees_of_audit (Nat.zero_le _) (hof _)
      · rw [if_neg hfinal, if_neg hfinal]
        have hposted : (publish quote maxBody (retryRequest env live n d) d.reply).2.toNat ≤ 1 := Bool.toNat_le _
        cases (publish quote maxBody (retryRequest env live n d) d.reply).1.outcome with
        | success => exact ⟨hposted, by simp, by simp, by simp, by simp⟩
        | permanentFailure => exact agrees_of_audit hposted (hof _)
        | retriable => exact ⟨hposted, by simp, by simp, by simp, by simp⟩
        | unknown => exact ⟨hposted, by simp, by simp, by simp, by simp⟩

lemma dispatchFailedAudit_of (sink : WebhookSink) (eventID stage : String) (cause : Bytes) (status attempt : ℕ) :
    (dispatchFailedAudit sink eventID stage cause status attempt).Of sink eventID := by
  refine ⟨rfl, rfl, ?_⟩
  have hdedup : (dispatchFailedAudit sink eventID stage cause status attempt).dedupID.toList =
      (sink.id ++ "|" ++ eventID ++ "|attempt=").toList ++ (toString attempt ++ "|stage=" ++ stage).toList := by
    simp only [dispatchFailedAudit, String.toList_append, List.append_assoc]
  rw [hdedup]
  exact List.prefix_append _ _

/-- The first attempt is over unless it leaves an envelope. -/
def settledOf (x : Effects) : Settled := if x.queued = [] then .ack else .nak 0

lemma route_spec (sink : WebhookSink) {req : Request} (hreq : req.attempt = 1) (result : PublishResult) (env : SinkEnv)
    {posts : ℕ} (hposts : posts ≤ 1) :
    Agrees sink req.eventID ({ routeToDLQ sink req result env with posts := posts },
      settledOf (routeToDLQ sink req result env)) (queueExit sink req.eventID result.httpStatus env) := by
  unfold routeToDLQ queueExit
  rw [hreq]
  cases env.marshalErr with
  | some err => exact agrees_of_audit hposts (dispatchFailedAudit_of _ _ _ _ _ _)
  | none =>
    cases env.publishErr with
    | some err => exact agrees_of_audit hposts (dispatchFailedAudit_of _ _ _ _ _ _)
    | none => exact ⟨hposts, by simp, by simp, by simp [settledOf], by simp⟩

/-- **What the first attempt does.** -/
lemma dispatch_spec (sink : WebhookSink) (event : Event) (env : SinkEnv) :
    Agrees sink event.eventID (dispatchOne quote maxBody sink event env,
      settledOf (dispatchOne quote maxBody sink event env)) (firstExit quote maxBody sink event env) := by
  unfold dispatchOne firstExit
  cases env.signed with
  | error err => exact agrees_of_audit (Nat.zero_le _) (dispatchFailedAudit_of _ _ _ _ _ _)
  | ok x =>
    obtain ⟨body, signature⟩ := x
    have hposted : (publish quote maxBody (firstRequest sink event.eventID body signature) env.reply).2.toNat ≤ 1 :=
      Bool.toNat_le _
    have hattempt : (firstRequest sink event.eventID body signature).attempt = 1 := rfl
    have hroute := route_spec sink hattempt
      (publish quote maxBody (firstRequest sink event.eventID body signature) env.reply).1 env hposted
    simp only
    cases (publish quote maxBody (firstRequest sink event.eventID body signature) env.reply).1.outcome with
    | success => exact ⟨hposted, by simp, by simp, by simp [settledOf], by simp⟩
    | permanentFailure => exact agrees_of_audit hposted (dispatchFailedAudit_of _ _ _ _ _ _)
    | retriable => exact hroute
    | unknown => exact hroute

/-- The deliveries end as their exits say. -/
lemma deliver_spec {env : DLQEnvelope} (hsink : env.sinkID = sink.id) (htenant : env.tenantID = sink.tenantID)
    (hevent : env.eventID = eventID) (hid : sink.id ≠ "") (hne : sink.tenantID ≠ "") (n : ℕ) (ds : List Delivery) :
    List.Forall₂ (Agrees sink eventID) (deliver quote maxBody env n ds) (exitsFrom quote maxBody env n ds) := by
  induction ds generalizing n with
  | nil => exact .nil
  | cons d ds ih => exact .cons (handle_spec hsink htenant hevent hid hne n d) (ih (n + 1))

lemma posts_handle_le (env : DLQEnvelope) (n : ℕ) (d : Delivery) :
    (handleWebhookDLQ quote maxBody env n d).1.posts ≤ if webhookDLQMaxDeliver ≤ n then 0 else 1 := by
  unfold handleWebhookDLQ
  split
  · exact Nat.zero_le _
  · split
    · exact Nat.zero_le _
    · exact Nat.zero_le _
    · next live _ =>
      split
      · exact Nat.zero_le _
      · split
        · exact Nat.zero_le _
        · have hposted : (publish quote maxBody (retryRequest env live n d) d.reply).2.toNat ≤ 1 := Bool.toNat_le _
          simp only
          split <;> exact hposted

/-- **The deliveries post four times at most**: the fifth one does not post. -/
lemma deliver_posts (env : DLQEnvelope) (n : ℕ) (ds : List Delivery) :
    ((deliver quote maxBody env n ds).map fun x => x.1.posts).sum ≤ webhookDLQMaxDeliver - n := by
  induction ds generalizing n with
  | nil => exact Nat.zero_le _
  | cons d ds ih =>
    have hone : (handleWebhookDLQ quote maxBody env n d).1.posts ≤ if webhookDLQMaxDeliver ≤ n then 0 else 1 :=
      posts_handle_le env n d
    have hrest := ih (n + 1)
    rw [deliver, List.map_cons, List.sum_cons]
    split_ifs at hone <;> omega

end Spec

/-! ### The whole run -/

lemma appendAudit_ne_nil (rows : List AuditEntry) (e : AuditEntry) :
    appendAudit rows e ≠ [] ↔ rows ≠ [] ∨ Utf8.valid e.reason = true := by
  unfold appendAudit
  split_ifs with hvalid hdup
  · simp [hvalid]
  · have hne : rows ≠ [] := by
      rintro rfl
      cases hdup
    exact iff_of_true hne (Or.inl hne)
  · simp [Bool.eq_true_of_not_eq_false hvalid]

/-- There is a row exactly if an entry is readable. -/
lemma foldl_appendAudit_ne_nil (es rows : List AuditEntry) :
    es.foldl appendAudit rows ≠ [] ↔ rows ≠ [] ∨ ∃ e ∈ es, Utf8.valid e.reason = true := by
  induction es generalizing rows with
  | nil => simp
  | cons e es ih =>
    rw [List.foldl_cons, ih, appendAudit_ne_nil, or_assoc]
    simp

lemma mem_foldl_appendAudit {es rows : List AuditEntry} {row : AuditEntry} (h : row ∈ es.foldl appendAudit rows) :
    row ∈ rows ∨ row ∈ es := by
  induction es generalizing rows with
  | nil => exact Or.inl h
  | cons e es ih =>
    rcases ih h with hrow | hrow
    · unfold appendAudit at hrow
      split_ifs at hrow
      · exact Or.inl hrow
      · exact Or.inl hrow
      · rcases List.mem_append.mp hrow with hrow | hrow
        · exact Or.inl hrow
        · exact Or.inr (List.mem_singleton.mp hrow ▸ List.mem_cons_self)
    · exact Or.inr (List.mem_cons_of_mem _ hrow)

section Forall

variable {sink : WebhookSink} {eventID : String} {xs : List (Effects × Settled)} {exits : List Exit}

lemma any_succeeded (h : List.Forall₂ (Agrees sink eventID) xs exits) :
    (xs.any fun x => x.1.succeeded) = true ↔ .passed ∈ exits := by
  induction h with
  | nil => simp
  | cons hx _ ih => rw [List.any_cons, Bool.or_eq_true, ih, hx.passed, List.mem_cons, eq_comm]

lemma exists_readable (h : List.Forall₂ (Agrees sink eventID) xs exits) :
    (∃ e ∈ xs.flatMap fun x => x.1.audits, Utf8.valid e.reason = true) ↔ .recorded ∈ exits := by
  induction h with
  | nil => simp
  | cons hx _ ih =>
    rw [List.mem_cons, eq_comm, ← hx.recorded, ← ih]
    simp only [List.flatMap_cons, List.mem_append, or_and_right, exists_or]

lemma audits_of (h : List.Forall₂ (Agrees sink eventID) xs exits) :
    ∀ e ∈ xs.flatMap fun x => x.1.audits, e.Of sink eventID := by
  induction h with
  | nil => simp
  | cons hx _ ih =>
    intro e he
    rcases List.mem_append.mp he with he | he
    · exact hx.audits e he
    · exact ih e he

lemma last_acked (h : List.Forall₂ (Agrees sink eventID) xs exits) :
    (xs.getLast?.map fun x => x.2) = some .ack ↔ ∃ exit, exits.getLast? = some exit ∧ exit ≠ .again := by
  induction h with
  | nil => simp
  | cons hx hxs ih =>
    cases hxs with
    | nil => simp [hx.again]
    | cons hy hys => simpa [List.getLast?_cons_cons] using ih

end Forall

section Run

variable {quote : Bytes → Bytes} {maxBody : ℕ} {r : WebhookRun}

/-- The attempts of a run. -/
def WebhookRun.attempts (quote : Bytes → Bytes) (maxBody : ℕ) (r : WebhookRun) : List (Effects × Settled) :=
  (r.dispatched quote maxBody, settledOf (r.dispatched quote maxBody)) :: r.delivered quote maxBody

lemma received_envelope {env : DLQEnvelope} (henv : r.envelope quote maxBody = some env) :
    (r.dispatched quote maxBody).queued ≠ [] ∧ env.sinkID = r.sink.id ∧ env.tenantID = r.sink.tenantID ∧
      env.eventID = r.event.eventID := by
  obtain ⟨q, hq, rfl⟩ := Option.map_eq_some_iff.mp henv
  have hmem : q ∈ (r.dispatched quote maxBody).queued := List.mem_of_mem_head? hq
  exact ⟨List.ne_nil_of_mem hmem, (queued_dispatchOne hmem).2.1⟩

/-- **Every attempt of a run ends as its exit says.** -/
lemma attempts_spec (hid : r.sink.id ≠ "") (htenant : r.sink.tenantID ≠ "") :
    List.Forall₂ (Agrees r.sink r.event.eventID) (r.attempts quote maxBody) (r.exits quote maxBody) := by
  refine .cons (dispatch_spec r.sink r.event r.first) ?_
  unfold WebhookRun.delivered
  cases henv : r.envelope quote maxBody with
  | none => exact .nil
  | some env =>
    obtain ⟨-, hsink, hten, hevent⟩ := received_envelope henv
    exact deliver_spec hsink hten hevent hid htenant 1 r.deliveries

/-- The last attempt is acknowledged, or the deliveries are used up. -/
lemma over_iff : r.Over quote maxBody ↔ webhookDLQMaxDeliver ≤ r.deliveries.length ∨
    ((r.attempts quote maxBody).getLast?.map fun x => x.2) = some .ack := by
  unfold WebhookRun.Over WebhookRun.attempts WebhookRun.delivered
  cases henv : r.envelope quote maxBody with
  | none =>
    have hqueued : (r.dispatched quote maxBody).queued = [] := by
      rw [WebhookRun.envelope, Option.map_eq_none_iff, List.head?_eq_none_iff] at henv
      exact henv
    simp [settledOf, hqueued]
  | some env =>
    have hqueued := (received_envelope henv).1
    cases hds : r.deliveries with
    | nil => simp [deliver, settledOf, hqueued]
    | cons d ds => simp [deliver, List.getLast?_cons_cons]

lemma audited_iff (hid : r.sink.id ≠ "") (htenant : r.sink.tenantID ≠ "") :
    r.Audited quote maxBody ↔ .recorded ∈ r.exits quote maxBody := by
  have hspec : List.Forall₂ (Agrees r.sink r.event.eventID) (r.attempts quote maxBody) (r.exits quote maxBody) :=
    attempts_spec hid htenant
  have hrows : r.rows quote maxBody =
      ((r.attempts quote maxBody).flatMap fun x => x.1.audits).foldl appendAudit [] := rfl
  rw [← exists_readable hspec, WebhookRun.Audited, hrows]
  constructor
  · rintro ⟨row, hrow, -⟩
    have hne := (foldl_appendAudit_ne_nil _ _).mp (List.ne_nil_of_mem hrow)
    exact hne.resolve_left fun h => h rfl
  · intro h
    obtain ⟨row, hrow⟩ := List.exists_mem_of_ne_nil _ ((foldl_appendAudit_ne_nil _ []).mpr (Or.inr h))
    have hmem := (mem_foldl_appendAudit hrow).resolve_left (List.not_mem_nil)
    exact ⟨row, hrow, audits_of hspec row hmem⟩

lemma posts_le : r.posts quote maxBody ≤ 5 := by
  have hfirst : (r.dispatched quote maxBody).posts ≤ 1 := (dispatch_spec r.sink r.event r.first).posts
  have hlater : ((r.delivered quote maxBody).map fun x => x.1.posts).sum ≤ webhookDLQMaxDeliver - 1 := by
    unfold WebhookRun.delivered
    cases r.envelope quote maxBody with
    | none => exact Nat.zero_le _
    | some env => exact deliver_posts env 1 r.deliveries
  exact Nat.add_le_add hfirst hlater

/-- The endpoint sees five requests at most, and an event that is given up has a row, except in the runs that lose
it. -/
theorem webhook_audited_iff (hid : r.sink.id ≠ "") (htenant : r.sink.tenantID ≠ "") :
    r.posts quote maxBody ≤ 5 ∧
      ((r.Over quote maxBody → r.succeeded quote maxBody = false → r.Audited quote maxBody) ↔
        ¬r.Lost quote maxBody) := by
  have hspec : List.Forall₂ (Agrees r.sink r.event.eventID) (r.attempts quote maxBody) (r.exits quote maxBody) :=
    attempts_spec hid htenant
  have hsucceeded : r.succeeded quote maxBody = true ↔ .passed ∈ r.exits quote maxBody := any_succeeded hspec
  refine ⟨posts_le, ?_⟩
  rw [audited_iff hid htenant, over_iff, last_acked hspec, ← Bool.not_eq_true, hsucceeded]
  constructor
  · rintro h ⟨hall, hover⟩
    have hnone : ∀ x, x = Exit.passed ∨ x = .recorded → x ∉ r.exits quote maxBody := by
      rintro x hx hmem
      rcases hx with rfl | rfl <;> simpa using hall _ hmem
    refine hnone .recorded (Or.inr rfl) (h ?_ (hnone .passed (Or.inl rfl)))
    exact hover.imp id fun hlast => ⟨.unreadable, hlast, by decide⟩
  · intro h hover hpassed
    by_contra hrecorded
    refine h ⟨fun x hx => ?_, hover.imp id ?_⟩
    · cases x with
      | passed => exact absurd hx hpassed
      | recorded => exact absurd hx hrecorded
      | unreadable => exact Or.inr rfl
      | again => exact Or.inl rfl
    · rintro ⟨x, hlast, hne⟩
      have hx := List.mem_of_getLast? hlast
      cases x with
      | passed => exact absurd hx hpassed
      | recorded => exact absurd hx hrecorded
      | unreadable => exact hlast
      | again => exact absurd rfl hne

end Run

/-- An event at a sink whose endpoint answers the first request. -/
def answered (status : ℕ) (body : Bytes) (deliveries : List Delivery) : WebhookRun where
  sink := flakySink.1
  event := eventOf verdictResult "u1" 0
  first := { flakySink.2 with reply := .response status [] body }
  deliveries := deliveries

/-- A refusal with a short text. -/
def forbidden : WebhookRun := answered 403 (bytesOf "forbidden") []

theorem webhook_forbidden_audited : forbidden.posts id 512 ≤ 5 ∧ forbidden.Audited id 512 := by
  have hspec : forbidden.posts id 512 ≤ 5 ∧
      ((forbidden.Over id 512 → forbidden.succeeded id 512 = false → forbidden.Audited id 512) ↔
        ¬forbidden.Lost id 512) := webhook_audited_iff (by decide) (by decide)
  refine ⟨hspec.1, hspec.2.mpr (fun h => ?_) (Or.inl (by decide +kernel)) (by decide +kernel)⟩
  exact absurd (h.1 .recorded (by decide +kernel)) (by decide)

/-- A refusal whose excerpt is cut inside of a character. -/
def cutInside : WebhookRun := answered 403 (List.replicate 199 0x61 ++ bytesOf "é") []

/-- The endpoint is down, and the lookup of the sink fails at the fifth delivery. -/
def lastLookupFails : WebhookRun :=
  answered 503 []
    (List.replicate 4 { lookup := .found flakySink.1, reply := .response 503 [] [] } ++
      [{ lookup := .failed, reply := .timeout }])

theorem webhook_lost_unaudited :
    (cutInside.Over id 512 ∧ cutInside.succeeded id 512 = false ∧ ¬cutInside.Audited id 512) ∧
      lastLookupFails.Over id 512 ∧ lastLookupFails.succeeded id 512 = false ∧ ¬lastLookupFails.Audited id 512 := by
  have hcut : cutInside.rows id 512 = [] := by decide +kernel
  have hlast : lastLookupFails.rows id 512 = [] := by decide +kernel
  refine ⟨⟨Or.inl (by decide +kernel), by decide +kernel, ?_⟩, Or.inr (Or.inl (by decide)), by decide +kernel, ?_⟩
  · rintro ⟨row, hrow, -⟩
    rw [hcut] at hrow
    cases hrow
  · rintro ⟨row, hrow, -⟩
    rw [hlast] at hrow
    cases hrow

end Sn360Es.Sinks
