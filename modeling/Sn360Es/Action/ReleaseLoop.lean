import Sn360Es.Action.Release
import Sn360Es.Lib.JsonFields

/-!
# The subject of the releases (`cmd/sn360-es/consumers_action.go`, `consumers.go`)

`handleQuarantineRelease` takes release requests from the subject on which `Release` publishes its outcomes. A
bus without duplicate suppression delivers both to it.

* `decodeRequest_outcome` — the outcome of a release reads as a request for the same release;
* `release_announces` — every call that returns no error publishes such an outcome;
* `release_feeds_itself` — so no set of requests gets exactly one call per request.

Schemas play no part, as none is registered for the subject; neither does the bridge to the platform.
-/

namespace Sn360Es.Action

open Lib Lib.Json

/-! ### Payloads -/

/-- What an outcome adds to the request. -/
def outcomeMembers (timeText : ℤ → String) (reason : Option ReleaseReason) (restored : Bool)
    (original newTier : Option Tier) (explanations : List String) (occurredAt : ℤ) : List Member :=
  [("reason", .str ((reason.map ReleaseReason.name).getD "")), ("restored", .bool restored)] ++
    omitEmpty "original_tier" (tierText original) ++ omitEmpty "new_tier" (tierText newTier) ++
    (if explanations = [] then [] else [("explanations", .strs explanations)]) ++
    [("occurred_at", .str (timeText occurredAt))]

/-- The members that name the release, in front of those of the outcome. -/
def releaseMembers (tenantID pseudonymizedMessage requestedBy correlationID : String) (outcome : List Member) :
    List Member :=
  [("tenant_id", .str tenantID), ("pseudonymized_message_id", .str pseudonymizedMessage)] ++
    (omitEmpty "requested_by" requestedBy ++ (omitEmpty "correlation_id" correlationID ++ outcome))

/-- The payload of an event; the text of a time is a parameter. -/
def ActionEvent.members (timeText : ℤ → String) : ActionEvent → List Member
  | .quarantineApplied tenantID pseudonymizedMessage provider tier primary quarantineAt =>
    [("tenant_id", .str tenantID), ("pseudonymized_message_id", .str pseudonymizedMessage),
      ("provider", .str provider.name), ("tier", .str (tierText tier)),
      ("primary", .str ((primary.map Category.code).getD "")), ("quarantined_at", .str (timeText quarantineAt))]
  | .release tenantID pseudonymizedMessage requestedBy correlationID reason restored original newTier
      explanations occurredAt =>
    releaseMembers tenantID pseudonymizedMessage requestedBy correlationID
      (outcomeMembers timeText reason restored original newTier explanations occurredAt)

/-- A payload of the bus; `none` if it is no JSON object. -/
abbrev Payload := Option (List Member)

/-- `quarantineReleaseEnvelope`, and the request that `handleQuarantineRelease` makes of it. Payloads that do not
decode or that lack an id are dropped. -/
def decodeRequest (payload : Payload) : Option ReleaseRequest := do
  let ms ← payload
  let tenantID ← stringField "tenant_id" ms
  let pseudonymizedMessage ← stringField "pseudonymized_message_id" ms
  let requestedBy ← stringField "requested_by" ms
  let restoredBody ← stringField "restored_body" ms
  let correlationID ← stringField "correlation_id" ms
  if tenantID = "" ∨ pseudonymizedMessage = "" then none
  else some { tenantID, pseudonymizedMessage, requestedBy, restoredBody, correlationID }

/-- The request that an outcome of `req` reads as. -/
def ReleaseRequest.again (req : ReleaseRequest) : ReleaseRequest := { req with restoredBody := "" }

/-- The fields of a request. -/
def requestFields : List String :=
  ["tenant_id", "pseudonymized_message_id", "requested_by", "restored_body", "correlation_id"]

/-- No member that an outcome adds is read as a field of a request. -/
lemma outcomeMembers_ne {name : String} (h : name ∈ requestFields) (timeText : ℤ → String)
    (reason : Option ReleaseReason) (restored : Bool) (original newTier : Option Tier)
    (explanations : List String) (occurredAt : ℤ) :
    ∀ m ∈ outcomeMembers timeText reason restored original newTier explanations occurredAt,
      foldName m.1 ≠ foldName name := by
  have hne : ∀ name ∈ requestFields, foldName "reason" ≠ foldName name ∧ foldName "restored" ≠ foldName name ∧
      foldName "original_tier" ≠ foldName name ∧ foldName "new_tier" ≠ foldName name ∧
      foldName "explanations" ≠ foldName name ∧ foldName "occurred_at" ≠ foldName name := by decide
  obtain ⟨h1, h2, h3, h4, h5, h6⟩ := hne name h
  unfold outcomeMembers
  simp only [List.forall_mem_append, List.forall_mem_cons, List.not_mem_nil, IsEmpty.forall_iff, implies_true,
    and_true]
  refine ⟨⟨⟨⟨⟨h1, h2⟩, omitEmpty_ne h3⟩, omitEmpty_ne h4⟩, ?_⟩, h6⟩
  split
  · simp
  · simpa using h5

section Decode

variable {req : ReleaseRequest} {outcome : List Member}

lemma ids_ne {name : String} (h1 : foldName "tenant_id" ≠ foldName name)
    (h2 : foldName "pseudonymized_message_id" ≠ foldName name) (tenantID pseudonymizedMessage : String) :
    ∀ m ∈ [("tenant_id", Value.str tenantID), ("pseudonymized_message_id", Value.str pseudonymizedMessage)],
      foldName m.1 ≠ foldName name := by
  simpa using ⟨h1, h2⟩

/-- Whatever stands behind the members that name a release, a request for it is read from them. -/
lemma decodeRequest_releaseMembers (ht : req.tenantID ≠ "") (hm : req.pseudonymizedMessage ≠ "")
    (hout : ∀ name ∈ requestFields, ∀ m ∈ outcome, foldName m.1 ≠ foldName name) :
    decodeRequest (some (releaseMembers req.tenantID req.pseudonymizedMessage req.requestedBy req.correlationID
      outcome)) = some req.again := by
  have hopt : ∀ name ∈ requestFields, foldName "requested_by" ≠ foldName name →
      foldName "correlation_id" ≠ foldName name →
      ∀ m ∈ omitEmpty "requested_by" req.requestedBy ++ (omitEmpty "correlation_id" req.correlationID ++ outcome),
        foldName m.1 ≠ foldName name := by
    intro name hname hr hc
    rw [List.forall_mem_append, List.forall_mem_append]
    exact ⟨omitEmpty_ne hr, omitEmpty_ne hc, hout name hname⟩
  have htenant : stringField "tenant_id" (releaseMembers req.tenantID req.pseudonymizedMessage req.requestedBy
      req.correlationID outcome) = some req.tenantID := by
    have hne : foldName "pseudonymized_message_id" ≠ foldName "tenant_id" := by decide
    refine stringField_of_one [] (by simp) ?_
    exact List.forall_mem_cons.mpr ⟨hne, hopt _ (by decide) (by decide) (by decide)⟩
  have hmsg : stringField "pseudonymized_message_id" (releaseMembers req.tenantID req.pseudonymizedMessage
      req.requestedBy req.correlationID outcome) = some req.pseudonymizedMessage := by
    have hne : foldName "tenant_id" ≠ foldName "pseudonymized_message_id" := by decide
    refine stringField_of_one [("tenant_id", .str req.tenantID)] ?_ ?_
    · simpa using hne
    · exact hopt _ (by decide) (by decide) (by decide)
  have hby : stringField "requested_by" (releaseMembers req.tenantID req.pseudonymizedMessage req.requestedBy
      req.correlationID outcome) = some req.requestedBy := by
    refine stringField_omitEmpty (ids_ne (by decide) (by decide) _ _) ?_
    exact List.forall_mem_append.mpr ⟨omitEmpty_ne (by decide), hout _ (by decide)⟩
  have hcorr : stringField "correlation_id" (releaseMembers req.tenantID req.pseudonymizedMessage
      req.requestedBy req.correlationID outcome) = some req.correlationID := by
    rw [releaseMembers, ← List.append_assoc]
    refine stringField_omitEmpty ?_ (hout _ (by decide))
    exact List.forall_mem_append.mpr ⟨ids_ne (by decide) (by decide) _ _, omitEmpty_ne (by decide)⟩
  have hbody : stringField "restored_body" (releaseMembers req.tenantID req.pseudonymizedMessage
      req.requestedBy req.correlationID outcome) = some "" :=
    stringField_absent (List.forall_mem_append.mpr
      ⟨ids_ne (by decide) (by decide) _ _, hopt _ (by decide) (by decide) (by decide)⟩)
  simp [decodeRequest, htenant, hmsg, hby, hcorr, hbody, ht, hm, ReleaseRequest.again]

end Decode

/-- The event of an outcome. -/
def outcomeEvent (req : ReleaseRequest) (o : ReleaseOutcome) : ActionEvent :=
  .release req.tenantID req.pseudonymizedMessage req.requestedBy req.correlationID o.reason o.restored o.original
    o.verdict.tier o.explanations o.occurredAt

/-- The outcome of a release reads as a request for the same release. -/
lemma decodeRequest_outcome (timeText : ℤ → String) {req : ReleaseRequest} (ht : req.tenantID ≠ "")
    (hm : req.pseudonymizedMessage ≠ "") (o : ReleaseOutcome) :
    decodeRequest (some ((outcomeEvent req o).members timeText)) = some req.again :=
  decodeRequest_releaseMembers ht hm fun _ h => outcomeMembers_ne h _ _ _ _ _ _ _

/-! ### The bus -/

/-- The effect of an operation on the store and on what was published. -/
def busExec : (o : Op) → Environment → Store × List (String × ActionEvent) →
    o.Ans × Store × List (String × ActionEvent)
  | .publish subject event _, e, (st, sent) =>
    (e.publishError, st, if e.publishError = none then sent ++ [(subject, event)] else sent)
  | o, e, (st, sent) => ((exec o e st).1, (exec o e st).2, sent)

/-- A message of the subject: where it comes from (the number of an external request, or none for an outcome of
`Release`), and how often it was delivered. -/
structure BusMessage where
  payload : Payload
  source : Option ℕ
  delivered : ℕ := 0
  deriving DecidableEq, Repr

/-- The subject and its consumer; every call of `Release` is noted with the source of its message. -/
structure ReleaseBus where
  store : Store
  queue : List BusMessage
  calls : List (Option ℕ) := []

/-- One delivery: whether the tenant can be bound, and what the world answers to the handler. -/
structure Delivery where
  bindError : Option String := none
  env : ℕ → Environment

def releaseSubject : String := "es.action.quarantine.release"

/-- `WithMaxDeliver(3)`. -/
def releaseMaxDeliver : ℕ := 3

section Bus

variable (s : ReleaseService) (timeText : ℤ → String)

/-- The queue after a delivery: an error asks for the message again, as long as deliveries are left. -/
def settle (queue : List BusMessage) (i : ℕ) (m : BusMessage) (failed : Bool) : List BusMessage :=
  if failed ∧ m.delivered + 1 < releaseMaxDeliver then queue.set i { m with delivered := m.delivered + 1 }
  else queue.eraseIdx i

/-- `handleQuarantineRelease`, behind `tenantBoundMessageHandler`, on the message at a position of the queue. -/
def deliverAndHandle (b : ReleaseBus) : ℕ × Delivery → Option ReleaseBus
  | (i, d) => do
    let m ← b.queue[i]?
    if d.bindError.isSome then some { b with queue := settle b.queue i m true }
    else
      match decodeRequest m.payload with
      | none => some { b with queue := settle b.queue i m false }
      | some req =>
        let r := (s.release req).eval busExec d.env (b.store, [])
        let outcomes := (r.2.1.2.filter (·.1 = releaseSubject)).map fun e =>
          { payload := some (e.2.members timeText), source := none : BusMessage }
        some
          { store := r.2.1.1
            queue := settle b.queue i m r.1.2.isSome ++ outcomes
            calls := b.calls ++ [m.source] }

/-- The bus with the external requests. -/
def submitted (st : Store) (requests : List Payload) : ReleaseBus :=
  { store := st, queue := requests.mapIdx fun i payload => { payload, source := some i } }

end Bus

/-- **Once per request.** No outcome is executed as a request, no request more than once, and when nothing is
left to deliver, every request was. -/
structure ReleaseBus.OncePerRequest (b : ReleaseBus) (n : ℕ) : Prop where
  noOutcome : none ∉ b.calls
  once : ∀ i < n, b.calls.count (some i) ≤ 1
  all : b.queue = [] → ∀ i < n, b.calls.count (some i) = 1

/-! ### Every release announces itself -/

/-- What a call of `Release` publishes when it returns no error. -/
def Announces (s : ReleaseService) (req : ReleaseRequest) (p : ActionM (ReleaseOutcome × Option ReleaseError)) :
    Prop :=
  ∀ env : ℕ → Environment, (∀ n, (env n).publishError = none) → ∀ b, (p.eval busExec env b).1.2 = none →
    ∃ o, (s.subject, outcomeEvent req o) ∈ (p.eval busExec env b).2.1.2

section Announces

variable {s : ReleaseService} {req : ReleaseRequest}

lemma announces_bind {α : Type} {p : ActionM α} {f : α → ActionM (ReleaseOutcome × Option ReleaseError)}
    (h : ∀ a, Announces s req (f a)) : Announces s req (p >>= f) := by
  intro env henv b herr
  obtain ⟨k, hk⟩ := Prog.eval_rest busExec p env b
  rw [Prog.eval_bind] at herr ⊢
  refine h _ _ ?_ _ herr
  intro n
  rw [hk]
  exact henv (n + k)

lemma announces_error (o : ReleaseOutcome) (err : ReleaseError) :
    Announces s req (pure (o, some err)) := by
  intro env _ b herr
  cases herr

lemma announces_finish (hs : s.publishes = true) (o : ReleaseOutcome) : Announces s req (s.finish req o) := by
  intro env henv b _
  refine ⟨o, ?_⟩
  have heval : ((s.finish req o).eval busExec env b).2.1.2 = b.2 ++ [(s.subject, outcomeEvent req o)] := by
    simp only [ReleaseService.finish, ReleaseService.publishOutcome, hs, if_true]
    exact if_pos (henv 0)
  rw [heval]
  exact List.mem_append_right _ List.mem_cons_self

lemma announces_restoreClaimed (hs : s.publishes = true) (o : ReleaseOutcome) (record : QuarantineRecord) :
    Announces s req (s.restoreClaimed req o record) := by
  unfold ReleaseService.restoreClaimed
  dsimp only
  split
  · exact announces_bind fun _ => announces_error _ _
  · refine announces_bind fun r => ?_
    split
    · exact announces_bind fun _ => announces_error _ _
    · exact announces_finish hs _

lemma announces_claimAndRestore (hs : s.publishes = true) (o : ReleaseOutcome) :
    Announces s req (s.claimAndRestore req o) := by
  unfold ReleaseService.claimAndRestore
  refine announces_bind fun r => ?_
  split
  · exact announces_error _ _
  · exact announces_finish hs _
  · exact announces_restoreClaimed hs _ _

lemma announces_reevaluateFound (hs : s.publishes = true) (record : QuarantineRecord) :
    Announces s req (s.reevaluateFound req record) := by
  unfold ReleaseService.reevaluateFound
  refine announces_bind fun r => ?_
  split
  · exact announces_error _ _
  · refine announces_bind fun occurredAt => ?_
    dsimp only
    split
    · exact announces_finish hs _
    · exact announces_claimAndRestore hs _

/-- **Every release announces itself.** A call that returns no error has published an outcome. -/
theorem release_announces (hs : s.publishes = true) (req : ReleaseRequest) :
    Announces s req (s.release req) := by
  unfold ReleaseService.release
  split
  · exact announces_error _ _
  · refine announces_bind fun r => ?_
    split
    · exact announces_error _ _
    · exact announces_bind fun _ => announces_finish hs _
    · exact announces_reevaluateFound hs _

end Announces

/-! ### The loop -/

/-- The tenant is bound and outcomes reach the bus. -/
structure Delivery.Wired (d : Delivery) : Prop where
  bound : d.bindError = none
  published : ∀ n, (d.env n).publishError = none

section Loop

variable {s : ReleaseService} {b : ReleaseBus} {d : Delivery} {m : BusMessage}

lemma decodeRequest_ids {payload : Payload} {req : ReleaseRequest} (h : decodeRequest payload = some req) :
    req.tenantID ≠ "" ∧ req.pseudonymizedMessage ≠ "" := by
  simp only [decodeRequest, Option.bind_eq_bind, Option.bind_eq_some_iff] at h
  obtain ⟨ms, -, tenantID, -, msg, -, by', -, body, -, corr, -, h⟩ := h
  split at h
  · cases h
  · next hne =>
    obtain rfl := Option.some.inj h
    exact not_or.mp hne

/-- A delivery of a request executes it. -/
lemma deliverAndHandle_request (s : ReleaseService) (timeText : ℤ → String) {i : ℕ} {req : ReleaseRequest}
    (hd : d.Wired) (hi : b.queue[i]? = some m)
    (hreq : decodeRequest m.payload = some req) :
    ∃ b', deliverAndHandle s timeText b (i, d) = some b' ∧ b'.calls = b.calls ++ [m.source] ∧
      b'.queue = settle b.queue i m ((s.release req).eval busExec d.env (b.store, [])).1.2.isSome ++
        (((s.release req).eval busExec d.env (b.store, [])).2.1.2.filter (·.1 = releaseSubject)).map
          fun e => { payload := some (e.2.members timeText), source := none } := by
  have hbound : d.bindError.isSome = false := by
    rw [hd.bound]
    rfl
  simp [deliverAndHandle, hi, hbound, hreq]

/-- **After its first delivery** either an outcome that reads as a request is in the queue, or the request itself
is, to be delivered once more. -/
lemma deliverAndHandle_again (timeText : ℤ → String) {i : ℕ} {req : ReleaseRequest}
    (hs : s.publishes = true) (hsub : s.subject = releaseSubject) (hd : d.Wired) (hi : b.queue[i]? = some m)
    (hreq : decodeRequest m.payload = some req) (hfirst : m.delivered = 0) :
    ∃ (b' : ReleaseBus) (j : ℕ) (m' : BusMessage), deliverAndHandle s timeText b (i, d) = some b' ∧
      b'.calls = b.calls ++ [m.source] ∧ b'.queue[j]? = some m' ∧ (decodeRequest m'.payload).isSome ∧
      (m'.source = none ∨ m'.source = m.source) := by
  obtain ⟨b', hb, hcalls, hqueue⟩ := deliverAndHandle_request s timeText hd hi hreq
  obtain ⟨ht, hp⟩ := decodeRequest_ids hreq
  cases herr : ((s.release req).eval busExec d.env (b.store, [])).1.2 with
  | none =>
    obtain ⟨o, ho⟩ := release_announces hs req d.env hd.published (b.store, []) herr
    have hmem : (⟨some ((outcomeEvent req o).members timeText), none, 0⟩ : BusMessage) ∈ b'.queue := by
      rw [hqueue]
      refine List.mem_append_right _ (List.mem_map.mpr ⟨(s.subject, outcomeEvent req o), ?_, rfl⟩)
      exact List.mem_filter.mpr ⟨ho, by simpa using hsub⟩
    obtain ⟨j, hj⟩ := List.mem_iff_getElem?.mp hmem
    refine ⟨b', j, _, hb, hcalls, hj, ?_, .inl rfl⟩
    rw [decodeRequest_outcome timeText ht hp o]
    rfl
  | some err =>
    have hlt : i < b.queue.length := (List.getElem?_eq_some_iff.mp hi).1
    refine ⟨b', i, { m with delivered := m.delivered + 1 }, hb, hcalls, ?_, by simp [hreq], .inr rfl⟩
    rw [hqueue, herr, settle, if_pos ⟨rfl, by rw [hfirst]; decide⟩,
      List.getElem?_append_left (by rwa [List.length_set]), List.getElem?_set_self hlt]

end Loop

/-- **Release feeds itself.** With the production wiring, whatever the store holds and the world answers, as
long as outcomes reach the bus: two deliveries suffice for a second call that no external request asked for. -/
theorem release_feeds_itself (q : QuarantineService) (timeText : ℤ → String) (st : Store)
    (requests : List Payload) (hreq : ∃ payload ∈ requests, (decodeRequest payload).isSome) (d d' : Delivery)
    (hd : d.Wired) (hd' : d'.Wired) :
    ∃ i j b, Lts.run (deliverAndHandle (newReleaseService q true "" none) timeText) (submitted st requests)
        [(i, d), (j, d')] = some b ∧ ¬ b.OncePerRequest requests.length := by
  obtain ⟨payload, hmem, hsome⟩ := hreq
  obtain ⟨req, hreq⟩ := Option.isSome_iff_exists.mp hsome
  obtain ⟨i, hi⟩ := List.mem_iff_getElem?.mp hmem
  have hlt : i < requests.length := (List.getElem?_eq_some_iff.mp hi).1
  have hqueue : (submitted st requests).queue[i]? = some ⟨payload, some i, 0⟩ := by
    simp [submitted, hi]
  obtain ⟨b₁, j, m, hb₁, hcalls₁, hj, hm, hsource⟩ :=
    deliverAndHandle_again timeText (s := newReleaseService q true "" none) rfl rfl hd hqueue hreq rfl
  obtain ⟨req', hreq'⟩ := Option.isSome_iff_exists.mp hm
  obtain ⟨b₂, hb₂, hcalls₂, -⟩ :=
    deliverAndHandle_request (newReleaseService q true "" none) timeText hd' hj hreq'
  refine ⟨i, j, b₂, ?_, ?_⟩
  · rw [Lts.run_cons, hb₁, Option.bind_some, Lts.run_cons, hb₂]
    rfl
  · intro honce
    have hcalls : b₂.calls = [some i, m.source] := by rw [hcalls₂, hcalls₁]; rfl
    rcases hsource with hnone | hsame
    · exact honce.noOutcome (by simp [hcalls, hnone])
    · have htwo := honce.once i hlt
      simp [hcalls, hsame] at htwo

section Samples

/-- A service without providers. -/
def bareQuarantine : QuarantineService :=
  { providers := fun _ => false, marshal := recordJson, unmarshal := fun _ => .error "unexpected end of JSON input" }

/-- A request for a message that is not in quarantine. -/
def unknownRelease : Payload := some [("tenant_id", .str "t"), ("pseudonymized_message_id", .str "p")]

/-- A delivery in which nothing fails. -/
def calmDelivery : Delivery := { env := fun _ => { encrypt := fun _ bs => .ok bs, decrypt := fun _ bs => .ok bs } }

theorem unknownRelease_feeds_itself :
    ∃ i j b, Lts.run (deliverAndHandle (newReleaseService bareQuarantine true "" none) fun _ => "")
        (submitted (fun _ => none) [unknownRelease]) [(i, calmDelivery), (j, calmDelivery)] = some b ∧
      ¬ b.OncePerRequest 1 :=
  release_feeds_itself bareQuarantine (fun _ => "") (fun _ => none) [unknownRelease]
    ⟨unknownRelease, List.mem_cons_self, by decide⟩ calmDelivery calmDelivery ⟨rfl, fun _ => rfl⟩
    ⟨rfl, fun _ => rfl⟩

/-- The outcome of the first call is the request of the second. -/
theorem unknownRelease_called_twice :
    ∃ b, Lts.run (deliverAndHandle (newReleaseService bareQuarantine true "" none) fun _ => "")
        (submitted (fun _ => none) [unknownRelease]) [(0, calmDelivery), (0, calmDelivery)] = some b ∧
      b.calls = [some 0, none] ∧ ¬ b.OncePerRequest 1 := by
  refine ⟨_, rfl, rfl, ?_⟩
  intro honce
  exact honce.noOutcome (List.mem_cons_of_mem _ List.mem_cons_self)

end Samples

end Sn360Es.Action
