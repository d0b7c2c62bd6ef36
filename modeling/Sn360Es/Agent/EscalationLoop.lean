import Sn360Es.Agent.Escalation
import Sn360Es.Lib.Lts

/-!
# The subjects of the escalations (`cmd/sn360-es/consumers.go`)

`handleEscalation` is subscribed to the subjects on which `Escalate` and `ResolveEscalation` publish their tickets. The
broker drops a message whose id it remembers, but every ticket has an id of its own.

* `deliver_create` — a ticket that is opened asks for one more;
* `escalation_endless` — so an incident that is accepted opens tickets as long as messages are delivered;
* `Still`, `deliver_still` — nothing is published as long as nothing is accepted;
* `escalation_settles_iff` — these are the only sets of envelopes that come to rest as they should.
-/

namespace Sn360Es.Agent

open Lib

/-! ### The bus -/

/-- A message of the stream: the number of the submitted message it goes back to, whether the service has published it,
and how often it was delivered. -/
structure Queued where
  msg : EscalationMessage
  root : ℕ
  echo : Bool := false
  delivered : ℕ := 0

/-- The stream and its consumer. Every ticket that was saved is noted with the number it goes back to, and every call
of the service with its message. -/
structure EscalationBus where
  store : TicketStore
  queue : List Queued
  /-- The message ids of the duplicate window. -/
  remembered : List String := []
  opened : List ℕ := []
  calls : List (ℕ × Bool) := []

/-- One delivery: what the world answers to the handlers, and the message ids that have left the window. -/
structure EscalationDelivery where
  env : EscalationEnv := {}
  bindError : Option String := none
  dlqError : Option String := none
  expired : List String := []

def escalationSubjects : String := "es.action.escalation.>"

/-- `WithMaxDeliver(3)`. -/
def escalationMaxDeliver : ℕ := 3

/-- The queue after a delivery: an error asks for the message again, as long as deliveries are left. -/
def settleQueued (queue : List Queued) (i : ℕ) (q : Queued) (failed : Bool) : List Queued :=
  if failed ∧ q.delivered + 1 < escalationMaxDeliver then queue.set i { q with delivered := q.delivered + 1 }
  else queue.eraseIdx i

section Bus

variable (timeText : ℤ → String)

/-- The ids that are still remembered. -/
def EscalationBus.window (b : EscalationBus) (d : EscalationDelivery) : List String :=
  b.remembered.filter (· ∉ d.expired)

/-- What the consumer gets of a ticket that is published. -/
def echoes (window : List String) (root : ℕ) (ev : TicketEvent) : List Queued :=
  if ev.ticket.ticketID ∈ window ∨ ¬ Events.subjectMatches escalationSubjects ev.subject then []
  else [{ msg := ev.message timeText, root, echo := true }]

/-- The bus after a call of the service. -/
def EscalationBus.called (b : EscalationBus) (i : ℕ) (q : Queued) (d : EscalationDelivery) (c : EscalationCall) :
    EscalationBus :=
  let r := c.run d.env b.store
  { store := r.store
    queue := settleQueued b.queue i q r.err.isSome ++ (r.event.map (echoes timeText (b.window d) q.root)).getD []
    remembered := b.window d ++ (r.event.map fun ev => ev.ticket.ticketID).toList
    opened := if r.saved then b.opened ++ [q.root] else b.opened
    calls := b.calls ++ [(q.root, q.echo)] }

/-- `validatedTenantBoundHandler(a.handleEscalation)` on the message at a position of the queue. -/
def deliverEscalation (b : EscalationBus) : ℕ × EscalationDelivery → Option EscalationBus
  | (i, d) => (b.queue[i]?).map fun q =>
    let settled (failed : Bool) : EscalationBus :=
      { b with queue := settleQueued b.queue i q failed, remembered := b.window d }
    let unbound := q.msg.tenantHeader ≠ "" ∧ d.bindError.isSome
    match routed q.msg with
    | .mismatch => settled d.dlqError.isSome
    | .dropped => settled unbound
    | .call c => if unbound then settled true else b.called timeText i q d c

/-- The bus with the submitted messages; those on other subjects do not reach the consumer. -/
def submittedTo (st : TicketStore) (seen : List String) (ms : List EscalationMessage) : EscalationBus :=
  { store := st, remembered := seen
    queue := (ms.mapIdx fun root msg => { msg, root : Queued }).filter fun q =>
      Events.subjectMatches escalationSubjects q.msg.subject }

end Bus

/-! ### What is asked for -/

/-- The service will act on the call: a valid reason, or a valid outcome for a ticket that is pending. -/
def EscalationCall.Accepted (st : TicketStore) : EscalationCall → Prop
  | create _ incident => validReason incident.reason = true
  | resolve tenantID ticketID _ outcome _ =>
    validOutcome outcome = true ∧ ∃ t, st.find tenantID ticketID = some t ∧ t.outcome = ""

/-- A message of the consumer that the service will act on. -/
def EscalationMessage.Accepted (st : TicketStore) (m : EscalationMessage) : Prop :=
  Events.subjectMatches escalationSubjects m.subject = true ∧ ∃ c, routed m = .call c ∧ c.Accepted st

/-- The message submits an incident. -/
def EscalationMessage.IsIncident (m : EscalationMessage) : Prop :=
  Events.subjectMatches escalationSubjects m.subject = true ∧
    ∃ tenantID incident, routed m = .call (.create tenantID incident) ∧ validReason incident.reason = true

/-- **As it should be**: no ticket that was published is executed, no message opens a second ticket, and when nothing is
left to deliver, every incident has one. -/
structure EscalationBus.Quiet (b : EscalationBus) (ms : List EscalationMessage) : Prop where
  noEcho : ∀ c ∈ b.calls, c.2 = false
  once : ∀ root, b.opened.count root ≤ 1
  all : b.queue = [] → ∀ root m, ms[root]? = some m → m.IsIncident → b.opened.count root = 1

/-- Nothing fails, and no id that is given out is remembered. -/
structure EscalationBus.Calm (b : EscalationBus) (d : EscalationDelivery) : Prop where
  bound : d.bindError = none
  lettered : d.dlqError = none
  stored : d.env.storeError = none
  published : d.env.publishError = none
  fresh : ∃ id, newTicketID d.env = .ok id ∧ id ∉ b.window d

/-- The runs that `C` allows have bounded lengths, and are as they should be. -/
def Settles (timeText : ℤ → String) (C : EscalationBus → ℕ × EscalationDelivery → Prop) (st : TicketStore)
    (seen : List String) (ms : List EscalationMessage) : Prop :=
  ∃ bound, ∀ ds b, Lts.Meets (deliverEscalation timeText) C (submittedTo st seen ms) ds →
    Lts.run (deliverEscalation timeText) (submittedTo st seen ms) ds = some b → ds.length ≤ bound ∧ b.Quiet ms

/-! ### A ticket asks for one more -/

section Echo

variable (timeText : ℤ → String) {b : EscalationBus} {d : EscalationDelivery} {i : ℕ} {q : Queued}

lemma routed_create_tenant {m : EscalationMessage} {tenantID : String} {incident : EscalationIncident}
    (h : routed m = .call (.create tenantID incident)) : tenantID ≠ "" := by
  unfold routed at h
  split_ifs at h
  · split at h
    · cases h
    · split_ifs at h with htenant
      cases h
      exact htenant
  · split at h
    · cases h
    · split_ifs at h
      cases h

lemma routed_resolve_ids {m : EscalationMessage} {tenantID ticketID resolverHash outcome notes : String}
    (h : routed m = .call (.resolve tenantID ticketID resolverHash outcome notes)) : tenantID ≠ "" ∧ ticketID ≠ "" := by
  unfold routed at h
  split_ifs at h
  · split at h
    · cases h
    · split_ifs at h
      cases h
  · split at h
    · cases h
    · split_ifs at h with hticket htenant
      cases h
      exact ⟨htenant, hticket⟩

/-- A message that reaches the service is handled by it. -/
lemma deliver_call {c : EscalationCall} (hi : b.queue[i]? = some q) (hc : routed q.msg = .call c)
    (hbound : d.bindError = none) :
    deliverEscalation timeText b (i, d) = some (b.called timeText i q d c) := by
  simp [deliverEscalation, hi, hc, hbound]

lemma escalate_calm {e : EscalationEnv} {tenantID id : String} {incident : EscalationIncident} {st : TicketStore}
    (htenant : tenantID ≠ "") (hreason : validReason incident.reason = true) (hid : newTicketID e = .ok id)
    (hstored : e.storeError = none) (hpublished : e.publishError = none) :
    escalate e tenantID incident st =
      { store := st.put (openedTicket tenantID incident id e.now), saved := true
        event := some ⟨subjectEscalationCreated, openedTicket tenantID incident id e.now⟩ } := by
  simp [escalate, htenant, hreason, hid, hstored, hpublished]

lemma resolveEscalation_calm {e : EscalationEnv} {tenantID ticketID outcome : String} {t : EscalationTicket}
    {st : TicketStore} (resolverHash notes : String) (htenant : tenantID ≠ "") (hticket : ticketID ≠ "")
    (houtcome : validOutcome outcome = true) (hfind : st.find tenantID ticketID = some t) (hpending : t.outcome = "")
    (hstored : e.storeError = none) (hpublished : e.publishError = none) :
    resolveEscalation e tenantID ticketID resolverHash outcome notes st =
      { store := st.put (resolvedTicket t resolverHash outcome notes e.now)
        event := some ⟨subjectEscalationResolved, resolvedTicket t resolverHash outcome notes e.now⟩ } := by
  simp [resolveEscalation, htenant, hticket, houtcome, hfind, hpending, hstored, hpublished]

/-- The consumer gets what the service publishes. -/
lemma called_echo {c : EscalationCall} {ev : TicketEvent} (hev : (c.run d.env b.store).event = some ev)
    (hid : ev.ticket.ticketID ∉ b.window d)
    (hsubject : Events.subjectMatches escalationSubjects ev.subject = true) :
    { msg := ev.message timeText, root := q.root, echo := true } ∈ (b.called timeText i q d c).queue := by
  have hecho : echoes timeText (b.window d) q.root ev =
      [{ msg := ev.message timeText, root := q.root, echo := true }] := by simp [echoes, hid, hsubject]
  apply List.mem_append_right
  rw [hev, Option.map_some, Option.getD_some, hecho]
  exact List.mem_cons_self

/-- **A ticket asks for one more.** An incident that is handled opens a ticket, and the message that tells of it is an
incident for the consumer. -/
lemma deliver_create {tenantID : String} {incident : EscalationIncident} (hd : b.Calm d)
    (hi : b.queue[i]? = some q) (hc : routed q.msg = .call (.create tenantID incident))
    (hreason : validReason incident.reason = true) :
    ∃ b' q' incident', deliverEscalation timeText b (i, d) = some b' ∧ b'.opened = b.opened ++ [q.root] ∧
      (∀ id, newTicketID d.env = .ok id → b'.store = b.store.put (openedTicket tenantID incident id d.env.now)) ∧
      q' ∈ b'.queue ∧ q'.root = q.root ∧ routed q'.msg = .call (.create tenantID incident') ∧
      validReason incident'.reason = true := by
  obtain ⟨id, hid, hfresh⟩ := hd.fresh
  have htenant := routed_create_tenant hc
  have hrun : (EscalationCall.create tenantID incident).run d.env b.store = _ :=
    escalate_calm htenant hreason hid hd.stored hd.published
  set t := openedTicket tenantID incident id d.env.now with ht
  have hevent : ((EscalationCall.create tenantID incident).run d.env b.store).event =
      some ⟨subjectEscalationCreated, t⟩ := by rw [hrun]
  have hecho := called_echo timeText (i := i) (q := q) hevent hfresh
    (show Events.subjectMatches escalationSubjects subjectEscalationCreated = true by decide)
  refine ⟨_, _, t.incident, deliver_call timeText hi hc hd.bound, ?_, ?_, hecho, rfl,
    routed_created timeText t htenant, hreason⟩
  · simp [EscalationBus.called, hrun]
  · intro id' hid'
    obtain rfl : id = id' := Except.ok.inj (hid.symm.trans hid')
    simp only [EscalationBus.called, hrun, ht]

/-- A ticket that is resolved asks for its resolution. -/
lemma deliver_resolve {tenantID ticketID resolverHash outcome notes : String} (hd : b.Calm d)
    (hi : b.queue[i]? = some q) (hc : routed q.msg = .call (.resolve tenantID ticketID resolverHash outcome notes))
    (haccepted : (EscalationCall.resolve tenantID ticketID resolverHash outcome notes).Accepted b.store)
    (hwindow : ticketID ∉ b.window d) :
    ∃ b' q' c, deliverEscalation timeText b (i, d) = some b' ∧ q' ∈ b'.queue ∧ q'.echo = true ∧
      routed q'.msg = .call c := by
  obtain ⟨houtcome, t, hfind, hpending⟩ := haccepted
  obtain ⟨htenant, hticket⟩ := routed_resolve_ids hc
  obtain ⟨rfl, rfl⟩ := b.store.keyed hfind
  have hrun : (EscalationCall.resolve t.tenantID t.ticketID resolverHash outcome notes).run d.env b.store = _ :=
    resolveEscalation_calm resolverHash notes htenant hticket houtcome hfind hpending hd.stored hd.published
  set t' := resolvedTicket t resolverHash outcome notes d.env.now with ht
  have hevent : ((EscalationCall.resolve t.tenantID t.ticketID resolverHash outcome notes).run d.env b.store).event =
      some ⟨subjectEscalationResolved, t'⟩ := by rw [hrun]
  have hecho := called_echo timeText (i := i) (q := q) hevent hwindow
    (show Events.subjectMatches escalationSubjects subjectEscalationResolved = true by decide)
  exact ⟨_, _, _, deliver_call timeText hi hc hd.bound, hecho, rfl, routed_resolved timeText t' htenant hticket⟩

end Echo

/-! ### Without end -/

section Endless

variable (timeText : ℤ → String)

/-- A draw of twelve bytes for each ticket. -/
def ticketEntropy (k : ℕ) : Bytes := (List.range 12).map fun i => UInt8.ofNat (k / 256 ^ i)

/-- The id of the `k`-th ticket. -/
def drawnID (k : ℕ) : String := "esc_" ++ Hex.encode (ticketEntropy k)

/-- The ids are distinct as long as twelve bytes are enough. -/
lemma drawnID_inj {k l : ℕ} (hk : k < 256 ^ 12) (hl : l < 256 ^ 12) (h : drawnID k = drawnID l) : k = l := by
  have hhex : Hex.encode (ticketEntropy k) = Hex.encode (ticketEntropy l) := by
    simpa [drawnID, String.ext_iff] using h
  have hbyte : ∀ i < 12, k / 256 ^ i % 256 = l / 256 ^ i % 256 := by
    intro i hi
    have hdraw := List.map_inj_left.mp (Hex.encode_injective hhex) i (List.mem_range.mpr hi)
    simpa using congrArg UInt8.toNat hdraw
  have hmod : ∀ n ≤ 12, k % 256 ^ n = l % 256 ^ n := by
    intro n hn
    induction n with
    | zero => simp [Nat.mod_one]
    | succ n ih => rw [Nat.mod_pow_succ, Nat.mod_pow_succ, ih (by omega), hbyte n (by omega)]
  have hall := hmod 12 le_rfl
  rwa [Nat.mod_eq_of_lt hk, Nat.mod_eq_of_lt hl] at hall

/-- A delivery in which nothing fails, after everything has left the duplicate window. -/
def EscalationBus.calmDelivery (b : EscalationBus) : EscalationDelivery :=
  { env := { entropy := .ok (ticketEntropy b.opened.length) }, expired := b.remembered }

lemma window_calmDelivery (b : EscalationBus) : b.window b.calmDelivery = [] := by
  refine List.filter_eq_nil_iff.mpr fun id hid hkept => ?_
  exact of_decide_eq_true hkept hid

lemma calm_calmDelivery (b : EscalationBus) : b.Calm b.calmDelivery where
  bound := rfl
  lettered := rfl
  stored := rfl
  published := rfl
  fresh := ⟨_, rfl, by rw [window_calmDelivery]; exact List.not_mem_nil⟩

/-- The ids under which the tenant has a ticket. -/
def TicketStore.ids (st : TicketStore) (tenantID : String) : Set String := {id | (st.find tenantID id).isSome}

lemma ids_put (st : TicketStore) (t : EscalationTicket) :
    (st.put t).ids t.tenantID = insert t.ticketID (st.ids t.tenantID) := by
  ext id
  simp only [TicketStore.ids, TicketStore.put, Set.mem_ofPred_eq, Set.mem_insert_iff, true_and]
  by_cases hid : id = t.ticketID <;> simp [hid]

/-- **Without end.** As long as an incident is in the queue, any number of deliveries opens as many tickets, each under
the id that was drawn for it. -/
theorem escalation_endless (tenantID : String) (root n : ℕ) :
    ∀ (b : EscalationBus) (q : Queued) (incident : EscalationIncident), q ∈ b.queue → q.root = root →
      routed q.msg = .call (.create tenantID incident) → validReason incident.reason = true →
      ∃ ds b', ds.length = n ∧ Lts.Meets (deliverEscalation timeText) (fun b x => b.Calm x.2) b ds ∧
        Lts.run (deliverEscalation timeText) b ds = some b' ∧ b'.opened = b.opened ++ List.replicate n root ∧
        b.store.ids tenantID ⊆ b'.store.ids tenantID ∧
        ∀ k < n, drawnID (b.opened.length + k) ∈ b'.store.ids tenantID := by
  induction n with
  | zero =>
    intro b q incident _ _ _ _
    exact ⟨[], b, rfl, trivial, rfl, by simp, subset_rfl, fun k hk => by omega⟩
  | succ n ih =>
    intro b q incident hq hroot hc hreason
    obtain ⟨i, hi⟩ := List.mem_iff_getElem?.mp hq
    have hd := calm_calmDelivery b
    obtain ⟨b₁, q', incident', hb₁, hopened, hstore, hq', hroot', hc', hreason'⟩ :=
      deliver_create timeText hd hi hc hreason
    obtain ⟨ds, b', hlen, hmeets, hrun, hrest, hkept, hdrawn⟩ :=
      ih b₁ q' incident' hq' (hroot'.trans hroot) hc' hreason'
    have hids : b₁.store.ids tenantID = insert (drawnID b.opened.length) (b.store.ids tenantID) := by
      rw [hstore _ rfl]
      exact ids_put b.store _
    have hlater : b₁.opened.length = b.opened.length + 1 := by simp [hopened]
    refine ⟨(i, b.calmDelivery) :: ds, b', by simp [hlen], ⟨hd, ?_⟩, ?_, ?_, ?_, ?_⟩
    · intro s hs
      obtain rfl := Option.some.inj (hb₁.symm.trans hs)
      exact hmeets
    · rw [Lts.run_cons, hb₁]
      exact hrun
    · rw [hrest, hopened, hroot, List.replicate_succ, List.append_assoc]
      rfl
    · exact (hids ▸ Set.subset_insert _ _).trans hkept
    · intro k hk
      cases k with
      | zero => exact hkept (hids ▸ Set.mem_insert _ _)
      | succ k =>
        have hnext := hdrawn k (by omega)
        rwa [hlater, Nat.add_assoc, Nat.add_comm 1 k] at hnext

end Endless

/-! ### Nothing is accepted -/

section Refused

variable {timeText : ℤ → String} {st : TicketStore}

/-- A call that is not accepted changes and publishes nothing. -/
lemma run_refused {c : EscalationCall} (h : ¬ c.Accepted st) (e : EscalationEnv) :
    (c.run e st).store = st ∧ (c.run e st).saved = false ∧ (c.run e st).event = none := by
  cases c with
  | create tenantID incident =>
    have hreason : ¬ validReason incident.reason = true := h
    by_cases htenant : tenantID = ""
    · simp [EscalationCall.run, escalate, htenant]
    · simp [EscalationCall.run, escalate, htenant, hreason]
  | resolve tenantID ticketID resolverHash outcome notes =>
    simp only [EscalationCall.run, resolveEscalation]
    split_ifs with htenant hticket houtcome
    · exact ⟨rfl, rfl, rfl⟩
    · exact ⟨rfl, rfl, rfl⟩
    · split
      · exact ⟨rfl, rfl, rfl⟩
      · exact ⟨rfl, rfl, rfl⟩
      · next t _ hfind =>
        have hresolved : t.outcome ≠ "" := fun hpending => h ⟨houtcome, t, hfind, hpending⟩
        rw [if_pos hresolved]
        exact ⟨rfl, rfl, rfl⟩
    · exact ⟨rfl, rfl, rfl⟩

/-- A message that is still to be delivered, and that nobody acts on. -/
structure Queued.Idle (st : TicketStore) (q : Queued) : Prop where
  refused : ∀ c, routed q.msg = .call c → ¬ c.Accepted st
  external : q.echo = false
  left : q.delivered < escalationMaxDeliver

/-- **Nothing has happened yet**, and nothing will. -/
structure EscalationBus.Still (st : TicketStore) (b : EscalationBus) : Prop where
  store : b.store = st
  idle : ∀ q ∈ b.queue, q.Idle st
  opened : b.opened = []
  calls : ∀ c ∈ b.calls, c.2 = false

/-- The deliveries that are left. -/
def deliveriesLeft (queue : List Queued) : ℕ := (queue.map fun q => escalationMaxDeliver - q.delivered).sum

lemma settleQueued_idle {queue : List Queued} {i : ℕ} {q : Queued} (hi : queue[i]? = some q)
    (h : ∀ q ∈ queue, q.Idle st) (failed : Bool) : ∀ q' ∈ settleQueued queue i q failed, q'.Idle st := by
  intro q' hq'
  unfold settleQueued at hq'
  split at hq'
  · next hagain =>
    rcases List.mem_or_eq_of_mem_set hq' with hmem | rfl
    · exact h q' hmem
    · have hidle := h q (List.mem_of_getElem? hi)
      exact ⟨hidle.refused, hidle.external, hagain.2⟩
  · exact h q' (List.mem_of_mem_eraseIdx hq')

/-- Every delivery uses one up. -/
lemma settleQueued_lt {queue : List Queued} {i : ℕ} {q : Queued} (hi : queue[i]? = some q)
    (hleft : q.delivered < escalationMaxDeliver) (failed : Bool) :
    deliveriesLeft (settleQueued queue i q failed) < deliveriesLeft queue := by
  have hset : deliveriesLeft (queue.set i { q with delivered := q.delivered + 1 }) < deliveriesLeft queue ∧
      deliveriesLeft (queue.eraseIdx i) < deliveriesLeft queue := by
    unfold escalationMaxDeliver at hleft
    induction queue generalizing i with
    | nil => cases hi
    | cons q₀ queue ih =>
      cases i with
      | zero =>
        obtain rfl := Option.some.inj hi
        simp only [deliveriesLeft, escalationMaxDeliver, List.set_cons_zero, List.eraseIdx_cons_zero, List.map_cons,
          List.sum_cons]
        omega
      | succ i =>
        have hrest := ih (i := i) (by simpa using hi)
        simp only [deliveriesLeft, List.set_cons_succ, List.eraseIdx_cons_succ, List.map_cons,
          List.sum_cons] at hrest ⊢
        omega
  unfold settleQueued
  split
  · exact hset.1
  · exact hset.2

/-- **One step.** A delivery of a message nobody acts on only uses itself up. -/
lemma deliver_still (b : EscalationBus) (x : ℕ × EscalationDelivery) (b' : EscalationBus) (hb : b.Still st)
    (hstep : deliverEscalation timeText b x = some b') :
    b'.Still st ∧ deliveriesLeft b'.queue < deliveriesLeft b.queue := by
  obtain ⟨i, d⟩ := x
  obtain ⟨q, hi, rfl⟩ := Option.map_eq_some_iff.mp hstep
  have hidle := hb.idle q (List.mem_of_getElem? hi)
  have hsettled : ∀ failed : Bool,
      EscalationBus.Still st { b with queue := settleQueued b.queue i q failed, remembered := b.window d } ∧
        deliveriesLeft (settleQueued b.queue i q failed) < deliveriesLeft b.queue := fun failed =>
    ⟨⟨hb.store, settleQueued_idle hi hb.idle failed, hb.opened, hb.calls⟩, settleQueued_lt hi hidle.left failed⟩
  dsimp only
  split
  · exact hsettled _
  · exact hsettled _
  · next c hc =>
    split
    · exact hsettled true
    · obtain ⟨hstore, hsaved, hevent⟩ := run_refused (hb.store ▸ hidle.refused c hc : ¬ c.Accepted b.store) d.env
      have hqueue : (b.called timeText i q d c).queue = settleQueued b.queue i q (c.run d.env b.store).err.isSome := by
        simp [EscalationBus.called, hevent]
      refine ⟨⟨hstore.trans hb.store, ?_, ?_, ?_⟩, ?_⟩
      · rw [hqueue]
        exact settleQueued_idle hi hb.idle _
      · simp [EscalationBus.called, hsaved, hb.opened]
      · simp only [EscalationBus.called, List.forall_mem_append, List.forall_mem_singleton]
        exact ⟨hb.calls, hidle.external⟩
      · rw [hqueue]
        exact settleQueued_lt hi hidle.left _

end Refused

/-! ### When it comes to rest -/

section Settles

variable (timeText : ℤ → String) (st : TicketStore) (seen : List String) (ms : List EscalationMessage)

variable {st ms} in
lemma still_submittedTo (h : ∀ m ∈ ms, ¬ m.Accepted st) : (submittedTo st seen ms).Still st where
  store := rfl
  opened := rfl
  calls _ hc := by cases hc
  idle q hq := by
    obtain ⟨hmem, hsubject⟩ := List.mem_filter.mp hq
    obtain ⟨root, hroot, rfl⟩ := List.mem_mapIdx.mp hmem
    exact ⟨fun c hc haccepted => h _ (List.getElem_mem hroot) ⟨hsubject, c, hc, haccepted⟩, rfl,
      show 0 < escalationMaxDeliver by decide⟩

variable {st ms} in
/-- Where nothing is accepted, every run is short and quiet, whatever fails. -/
lemma settles_of_refused (h : ∀ m ∈ ms, ¬ m.Accepted st) (C : EscalationBus → ℕ × EscalationDelivery → Prop) :
    Settles timeText C st seen ms := by
  have hkeep : ∀ b x b', EscalationBus.Still st b → deliverEscalation timeText b x = some b' →
      EscalationBus.Still st b' := fun b x b' hb hstep => (deliver_still b x b' hb hstep).1
  have hstart := still_submittedTo seen h
  refine ⟨deliveriesLeft (submittedTo st seen ms).queue, fun ds b _ hrun => ⟨?_, ?_⟩⟩
  · exact Lts.run_length_le hkeep (fun b x b' hb hstep => (deliver_still b x b' hb hstep).2) hstart hrun
  · have hb := Lts.reach_induct hkeep hstart ⟨ds, hrun⟩
    refine ⟨hb.calls, fun root => by simp [hb.opened], fun _ root m hm hincident => ?_⟩
    obtain ⟨hsubject, tenantID, incident, hc, hreason⟩ := hincident
    exact (h m (List.mem_of_getElem? hm) ⟨hsubject, _, hc, hreason⟩).elim

variable {ms} in
lemma mem_submittedTo {m : EscalationMessage} (hm : m ∈ ms)
    (hsubject : Events.subjectMatches escalationSubjects m.subject = true) :
    ∃ root, { msg := m, root : Queued } ∈ (submittedTo st seen ms).queue := by
  obtain ⟨root, hroot, rfl⟩ := List.mem_iff_getElem.mp hm
  exact ⟨root, List.mem_filter.mpr ⟨List.mem_mapIdx.mpr ⟨root, hroot, rfl⟩, hsubject⟩⟩

variable {st ms} in
/-- An incident that is accepted keeps the bus busy for ever. -/
lemma not_settles_create {m : EscalationMessage} {tenantID : String} {incident : EscalationIncident} (hm : m ∈ ms)
    (hsubject : Events.subjectMatches escalationSubjects m.subject = true)
    (hc : routed m = .call (.create tenantID incident)) (hreason : validReason incident.reason = true) :
    ¬ Settles timeText (fun b x => b.Calm x.2) st seen ms := by
  rintro ⟨bound, hbound⟩
  obtain ⟨root, hq⟩ := mem_submittedTo st seen hm hsubject
  obtain ⟨ds, b, hlen, hmeets, hrun, -⟩ :=
    escalation_endless timeText tenantID root (bound + 1) _ _ incident hq rfl hc hreason
  have hshort := (hbound ds b hmeets hrun).1
  omega

variable {st ms} in
/-- The ticket of a resolution that is accepted is executed as a request for it. -/
lemma not_settles_resolve {m : EscalationMessage} {tenantID ticketID resolverHash outcome notes : String} (hm : m ∈ ms)
    (hsubject : Events.subjectMatches escalationSubjects m.subject = true)
    (hc : routed m = .call (.resolve tenantID ticketID resolverHash outcome notes))
    (haccepted : (EscalationCall.resolve tenantID ticketID resolverHash outcome notes).Accepted st) :
    ¬ Settles timeText (fun b x => b.Calm x.2) st seen ms := by
  rintro ⟨bound, hbound⟩
  obtain ⟨root, hq⟩ := mem_submittedTo st seen hm hsubject
  obtain ⟨i, hi⟩ := List.mem_iff_getElem?.mp hq
  have hcalm := calm_calmDelivery (submittedTo st seen ms)
  obtain ⟨b₁, q, c, hb₁, hq₁, hecho, hc₁⟩ := deliver_resolve timeText hcalm hi hc haccepted
    (by rw [window_calmDelivery]; exact List.not_mem_nil)
  obtain ⟨j, hj⟩ := List.mem_iff_getElem?.mp hq₁
  have hcalm₁ := calm_calmDelivery b₁
  have hb₂ := deliver_call timeText hj hc₁ hcalm₁.bound
  have hmeets : Lts.Meets (deliverEscalation timeText) (fun b x => b.Calm x.2) (submittedTo st seen ms)
      [(i, (submittedTo st seen ms).calmDelivery), (j, b₁.calmDelivery)] := by
    refine ⟨hcalm, fun b hb => ?_⟩
    obtain rfl := Option.some.inj (hb₁.symm.trans hb)
    exact ⟨hcalm₁, fun _ _ => trivial⟩
  have hrun : Lts.run (deliverEscalation timeText) (submittedTo st seen ms)
      [(i, (submittedTo st seen ms).calmDelivery), (j, b₁.calmDelivery)] =
        some (b₁.called timeText j q b₁.calmDelivery c) := by
    rw [Lts.run_cons, hb₁, Option.bind_some, Lts.run_cons, hb₂]
    rfl
  have hquiet := (hbound _ _ hmeets hrun).2.noEcho (q.root, q.echo) (by simp [EscalationBus.called])
  rw [hecho] at hquiet
  cases hquiet

variable {st ms} in
/-- Nothing that is accepted comes to rest as it should, even if nothing fails. -/
lemma not_settles_of_accepted {m : EscalationMessage} (hm : m ∈ ms) (haccepted : m.Accepted st) :
    ¬ Settles timeText (fun b x => b.Calm x.2) st seen ms := by
  obtain ⟨hsubject, c, hc, haccepted⟩ := haccepted
  cases c with
  | create tenantID incident => exact not_settles_create timeText seen hm hsubject hc haccepted
  | resolve tenantID ticketID resolverHash outcome notes =>
    exact not_settles_resolve timeText seen hm hsubject hc haccepted

/-- **When escalation does not feed itself.** Whatever was stored and remembered before, and whether deliveries may
fail or not: the runs come to rest as they should exactly when no submitted message is accepted. -/
theorem escalation_settles_iff :
    (Settles timeText (fun _ _ => True) st seen ms ↔ ∀ m ∈ ms, ¬ m.Accepted st) ∧
      (Settles timeText (fun b x => b.Calm x.2) st seen ms ↔ ∀ m ∈ ms, ¬ m.Accepted st) := by
  have hcalm : Settles timeText (fun b x => b.Calm x.2) st seen ms → ∀ m ∈ ms, ¬ m.Accepted st :=
    fun h m hm haccepted => not_settles_of_accepted timeText seen hm haccepted h
  refine ⟨⟨fun h => hcalm ?_, fun h => settles_of_refused timeText seen h _⟩,
    ⟨hcalm, fun h => settles_of_refused timeText seen h _⟩⟩
  obtain ⟨bound, hbound⟩ := h
  refine ⟨bound, fun ds b _ hrun => hbound ds b ?_ hrun⟩
  exact Lts.meets_of_forall (C := fun _ => True) _ fun _ _ => trivial

end Settles

section Samples

/-- A request to open a ticket, as an operator sends it. -/
def opsAlert : EscalationMessage :=
  { subject := subjectEscalationCreated, tenantHeader := "acme"
    payload := some (.obj [("tenant_id", .str "acme"), ("incident", .obj [("reason", .str "ops_alert")])]) }

lemma routed_opsAlert : routed opsAlert = .call (.create "acme" { reason := "ops_alert" }) := rfl

/-- One request, two deliveries in which nothing fails, two tickets. -/
theorem opsAlert_feeds_itself :
    (∃ ds b, ds.length = 2 ∧
      Lts.Meets (deliverEscalation fun _ => "") (fun b x => b.Calm x.2) (submittedTo .empty [] [opsAlert]) ds ∧
      Lts.run (deliverEscalation fun _ => "") (submittedTo .empty [] [opsAlert]) ds = some b ∧
      b.opened = [0, 0] ∧ (∃ id ∈ b.store.ids "acme", ∃ id' ∈ b.store.ids "acme", id ≠ id') ∧ ¬ b.Quiet [opsAlert]) ∧
    ¬ Settles (fun _ => "") (fun b x => b.Calm x.2) .empty [] [opsAlert] := by
  have hsubject : Events.subjectMatches escalationSubjects opsAlert.subject = true := by decide
  refine ⟨?_, not_settles_create (fun _ => "") [] List.mem_cons_self hsubject routed_opsAlert (by decide)⟩
  obtain ⟨ds, b, hlen, hmeets, hrun, hopened, -, hdrawn⟩ :=
    escalation_endless (fun _ => "") "acme" 0 2 (submittedTo .empty [] [opsAlert]) ⟨opsAlert, 0, false, 0⟩
      { reason := "ops_alert" } (List.mem_filter.mpr ⟨List.mem_cons_self, hsubject⟩) rfl routed_opsAlert (by decide)
  refine ⟨ds, b, hlen, hmeets, hrun, hopened, ⟨_, hdrawn 0 (by omega), _, hdrawn 1 (by omega), fun hsame => ?_⟩,
    fun hquiet => ?_⟩
  · exact absurd (drawnID_inj (by decide) (by decide) hsame) (by decide)
  have honce := hquiet.once 0
  rw [hopened] at honce
  exact absurd honce (by decide)

end Samples

end Sn360Es.Agent
