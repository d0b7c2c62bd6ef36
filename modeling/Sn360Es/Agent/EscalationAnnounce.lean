import Sn360Es.Agent.EscalationLoop
import Sn360Es.Lib.Dedup
import Sn360Es.Lib.Lts

/-!
# The announcement of a resolution (`internal/service/agent/escalation.go`, `pkg/events/nats/streams.go`)

`Escalate` and `ResolveEscalation` publish a ticket under its own id, on one stream: `ES_ACTION` answers success to a
message whose id it has stored within its window, and discards it. The store is written before the publish, and a call
that is repeated after a failed publish finds the ticket resolved already.

* `resolveEscalation_cases` — what a call does to the store, and what it publishes;
* `Announced` — of every ticket that is resolved for good, an event is stored;
* `Told.step` — it stays so as long as the call that resolves a ticket publishes past the window;
* `resolutions_announced`, `resolution_unannounced` — over every run of calls.
-/

namespace Sn360Es.Agent

open Lib Lib.Dedup

/-! ### The service and the stream -/

/-- A message of the stream and when it came in. -/
structure Announcement where
  event : TicketEvent
  time : ℤ

/-- `Nats-Msg-Id`. -/
def Announcement.messageID (a : Announcement) : String := a.event.ticket.ticketID

structure EscalationWorld where
  store : TicketStore
  stream : Store Announcement := {}
  /-- The caller that resolves the ticket has stopped: a call has succeeded, or has reported it resolved already. -/
  stopped : String → String → Bool := fun _ _ => false

/-- A call of the service. Its publish comes to the stream at `time`, if it does: one that fails may have `reached` it.
-/
structure ServiceCall where
  call : EscalationCall
  env : EscalationEnv := {}
  time : ℤ := 0
  reached : Bool := false

def ServiceCall.Reaches (x : ServiceCall) : Prop := x.env.publishError = none ∨ x.reached = true

instance (x : ServiceCall) : Decidable x.Reaches := inferInstanceAs (Decidable (_ ∨ _))

/-- What the call publishes, or tries to. -/
def ServiceCall.publishes (x : ServiceCall) (st : TicketStore) : Option TicketEvent :=
  (x.call.run { x.env with publishError := none } st).event

/-- `errors.Is(err, ErrAlreadyResolved)`. -/
def isAlreadyResolved (err : String) : Bool := "escalation: already resolved".toList <+: err.toList

/-- The caller that repeats a call stops. -/
def stops (err : Option String) : Bool := err.all isAlreadyResolved

section Calls

variable (window : ℤ)

/-- What the stream remembers at a time. -/
def EscalationWorld.remembered (w : EscalationWorld) (time : ℤ) : Store Announcement :=
  w.stream.forget fun a => time - a.time < window

/-- The stream after a call. -/
def EscalationWorld.receive (w : EscalationWorld) (x : ServiceCall) : Store Announcement :=
  match x.publishes w.store with
  | some ev =>
    if x.Reaches then (w.remembered window x.time).receive Announcement.messageID ⟨ev, x.time⟩ else w.stream
  | none => w.stream

def serviceStep (w : EscalationWorld) (x : ServiceCall) : Option EscalationWorld :=
  let r := x.call.run x.env w.store
  some
    { store := r.store
      stream := w.receive window x
      stopped := fun tenantID ticketID =>
        w.stopped tenantID ticketID ||
          match x.call with
          | .create _ _ => false
          | .resolve tenantID' ticketID' _ _ _ => tenantID = tenantID' && ticketID = ticketID' && stops r.err }

/-- An event `resolved` of the ticket is stored. -/
def EscalationWorld.Tells (w : EscalationWorld) (t : EscalationTicket) : Prop :=
  ∃ a ∈ w.stream.stored, a.event.subject = subjectEscalationResolved ∧ a.event.ticket = t

/-- **Every resolution is announced**, once the outcome is final and the caller has stopped. -/
def Announced (w : EscalationWorld) : Prop :=
  ∀ tenantID ticketID t, w.store.find tenantID ticketID = some t → t.outcome ≠ "" →
    w.stopped tenantID ticketID = true → w.Tells t

/-- The condition on a call that resolves a ticket: its publish reaches the stream, and no message of that id was stored
within the window. -/
def PublishesPast (w : EscalationWorld) (x : ServiceCall) : Prop :=
  match x.call with
  | .create _ _ => True
  | .resolve _ ticketID _ _ _ => x.call.Accepted w.store → x.env.storeError = none →
      x.Reaches ∧ ∀ a ∈ (w.remembered window x.time).window, a.messageID ≠ ticketID

end Calls

/-! ### One call -/

section Step

variable {window : ℤ} {w w' : EscalationWorld} {x : ServiceCall}

/-- The invariant: every resolution is announced, whether or not the caller has stopped. -/
def Told (w : EscalationWorld) : Prop :=
  ∀ tenantID ticketID t, w.store.find tenantID ticketID = some t → t.outcome ≠ "" → w.Tells t

lemma Told.announced (h : Told w) : Announced w := fun tenantID ticketID t ht houtcome _ =>
  h tenantID ticketID t ht houtcome

/-- What was stored stays stored. -/
lemma mem_stored_receive {a : Announcement} (ha : a ∈ w.stream.stored) : a ∈ (w.receive window x).stored := by
  unfold EscalationWorld.receive
  split
  · split_ifs
    · exact Store.mem_stored_receive ha
    · exact ha
  · exact ha

lemma Told.kept (h : Told w) {st : TicketStore} {stopped : String → String → Bool}
    (hst : ∀ tenantID ticketID t, st.find tenantID ticketID = some t → t.outcome ≠ "" →
      w.store.find tenantID ticketID = some t ∨
        EscalationWorld.Tells { store := st, stream := w.receive window x, stopped } t) :
    Told { store := st, stream := w.receive window x, stopped } := by
  intro tenantID ticketID t ht houtcome
  rcases hst tenantID ticketID t ht houtcome with hold | hnew
  · obtain ⟨a, ha, hsubject, hticket⟩ := h tenantID ticketID t hold houtcome
    exact ⟨a, mem_stored_receive ha, hsubject, hticket⟩
  · exact hnew

/-- A ticket in the store after another one was put there. -/
lemma find_put {st : TicketStore} {t t' : EscalationTicket} {tenantID ticketID : String}
    (h : (st.put t').find tenantID ticketID = some t) : t = t' ∨ st.find tenantID ticketID = some t := by
  simp only [TicketStore.put] at h
  split_ifs at h
  · exact .inl (Option.some.inj h).symm
  · exact .inr h

/-- `Escalate` leaves the store alone or puts a pending ticket there. -/
lemma escalate_store (e : EscalationEnv) (tenantID : String) (incident : EscalationIncident) (st : TicketStore) :
    (escalate e tenantID incident st).store = st ∨
      ∃ t, t.outcome = "" ∧ (escalate e tenantID incident st).store = st.put t := by
  unfold escalate
  split_ifs
  · exact .inl rfl
  swap
  · exact .inl rfl
  · cases newTicketID e with
    | error err => exact .inl rfl
    | ok id =>
      cases e.storeError with
      | some err => exact .inl rfl
      | none =>
        cases e.publishError with
        | some err => exact .inr ⟨_, rfl, rfl⟩
        | none => exact .inr ⟨_, rfl, rfl⟩

/-- **What `ResolveEscalation` does**: nothing to the store, or it resolves a pending ticket and publishes it. -/
lemma resolveEscalation_cases (e : EscalationEnv) (tenantID ticketID resolverHash outcome notes : String)
    (st : TicketStore) : (resolveEscalation e tenantID ticketID resolverHash outcome notes st).store = st ∨
      ((EscalationCall.resolve tenantID ticketID resolverHash outcome notes).Accepted st ∧ e.storeError = none ∧
        ∃ t, t.ticketID = ticketID ∧
          (resolveEscalation e tenantID ticketID resolverHash outcome notes st).store = st.put t ∧
          (resolveEscalation { e with publishError := none } tenantID ticketID resolverHash outcome notes st).event =
            some ⟨subjectEscalationResolved, t⟩) := by
  unfold resolveEscalation
  split_ifs with htenant hticket houtcome
  · exact .inl rfl
  · exact .inl rfl
  swap
  · exact .inl rfl
  cases hstore : e.storeError with
  | some err => exact .inl rfl
  | none =>
    cases hfind : st.find tenantID ticketID with
    | none => exact .inl rfl
    | some t =>
      by_cases hfinal : t.outcome ≠ ""
      · left
        simp only [if_pos hfinal]
      · have hpending : t.outcome = "" := not_not.mp hfinal
        have hid := (st.keyed hfind).2
        simp only [if_neg hfinal]
        refine .inr ⟨⟨houtcome, t, hfind, hpending⟩, trivial, resolvedTicket t resolverHash outcome notes e.now, hid,
          ?_, rfl⟩
        cases e.publishError <;> rfl

/-- **One call.** -/
lemma Told.step (h : Told w) (hC : PublishesPast window w x) (hstep : serviceStep window w x = some w') : Told w' := by
  obtain rfl := Option.some.inj hstep
  refine h.kept fun tenantID ticketID t ht houtcome => ?_
  cases hcall : x.call with
  | create tenant incident =>
    rw [hcall] at ht
    rcases escalate_store x.env tenant incident w.store with hsame | ⟨t', hpending, hput⟩
    · left
      rw [← hsame]
      exact ht
    · rw [EscalationCall.run, hput] at ht
      rcases find_put ht with rfl | hold
      · exact absurd hpending houtcome
      · exact .inl hold
  | resolve tenant id resolverHash outcome notes =>
    rw [hcall] at ht
    rcases resolveEscalation_cases x.env tenant id resolverHash outcome notes w.store with
      hsame | ⟨haccepted, hstore, t', hid, hput, hevent⟩
    · left
      rw [← hsame]
      exact ht
    rw [EscalationCall.run, hput] at ht
    rcases find_put ht with rfl | hold
    swap
    · exact .inl hold
    right
    -- this call has resolved the ticket, and its publish passes the window
    unfold PublishesPast at hC
    rw [hcall] at hC
    obtain ⟨hreaches, hpast⟩ := hC haccepted hstore
    have hpublishes : x.publishes w.store = some ⟨subjectEscalationResolved, t⟩ := by
      rw [ServiceCall.publishes, hcall]
      exact hevent
    have hnew : ¬ ∃ a ∈ (w.remembered window x.time).window, a.messageID =
        Announcement.messageID ⟨⟨subjectEscalationResolved, t⟩, x.time⟩ := by
      rintro ⟨a, ha, hsame⟩
      exact hpast a ha (hsame.trans hid)
    refine ⟨⟨⟨subjectEscalationResolved, t⟩, x.time⟩, ?_, rfl, rfl⟩
    show _ ∈ (w.receive window x).stored
    unfold EscalationWorld.receive
    rw [hpublishes]
    simp only [if_pos hreaches]
    unfold Store.receive
    rw [if_neg hnew]
    exact List.mem_append_right _ List.mem_cons_self

end Step

/-- **Every resolution is announced** in a run in which each call that resolves a ticket publishes it past the window of
the stream. -/
theorem resolutions_announced (window : ℤ) (stream : Store Announcement) (xs : List ServiceCall)
    (h : Lts.Meets (serviceStep window) (PublishesPast window) { store := .empty, stream } xs) :
    Lts.Throughout (serviceStep window) Announced { store := .empty, stream } xs := by
  have hstart : Told { store := .empty, stream } := by
    intro tenantID ticketID t ht
    cases ht
  exact Lts.throughout_of_meets (fun _ _ _ hw hC hstep => hw.step hC hstep) (fun _ hw => hw.announced) hstart h

/-! ### A resolution that nobody hears of -/

namespace Sample

/-- The id of the ticket. -/
def ticketID : String := "esc_010101010101010101010101"

def opens : ServiceCall where
  call := .create "acme" { reason := "user_requested" }
  env := { entropy := .ok (List.replicate 12 0x01) }

/-- The ticket is resolved at a time. -/
def resolves (time : ℤ) (publishError : Option String) : ServiceCall where
  call := .resolve "acme" ticketID "analyst" "false_positive" ""
  env := { now := time, publishError }
  time

/-- The subjects that are stored for a ticket that is resolved for good, and whether its caller has stopped. -/
def outcome (xs : List ServiceCall) : Option (List String × Bool × Bool) :=
  (Lts.run (serviceStep 120) { store := .empty } xs).map fun w =>
    (w.stream.stored.map (·.event.subject), w.stopped "acme" ticketID,
      (w.store.find "acme" ticketID).any fun t => t.outcome ≠ "")

lemma not_announced {xs : List ServiceCall} (h : outcome xs = some ([subjectEscalationCreated], true, true)) :
    ¬ Lts.Throughout (serviceStep 120) Announced { store := .empty } xs := by
  obtain ⟨w, hrun, h⟩ := Option.map_eq_some_iff.mp h
  simp only [Prod.mk.injEq, Option.any_eq_true, decide_eq_true_eq] at h
  obtain ⟨hsubjects, hstopped, t, ht, hfinal⟩ := h
  intro hall
  obtain ⟨a, ha, hsubject, -⟩ := hall.last hrun "acme" ticketID t ht hfinal hstopped
  have hmem : a.event.subject ∈ w.stream.stored.map (·.event.subject) := List.mem_map_of_mem ha
  rw [hsubjects, List.mem_singleton, hsubject] at hmem
  exact absurd hmem (by decide)

end Sample

/-- Resolved ten minutes later. -/
theorem resolution_announced : Lts.Throughout (serviceStep 120) Announced { store := .empty }
    [Sample.opens, Sample.resolves 600 none] := by
  refine resolutions_announced 120 {} _ ⟨trivial, fun w hw => ⟨fun _ _ => ⟨.inl rfl, ?_⟩, fun _ _ => trivial⟩⟩
  obtain rfl := Option.some.inj hw
  intro a ha
  have hnone : ((serviceStep 120 { store := .empty } Sample.opens).map fun w => (w.remembered 120 600).window.length) =
      some 0 := by decide
  have hmem : a ∈ ([] : List Announcement) := by
    rw [← List.length_eq_zero_iff.mp (Option.some.inj hnone)]
    exact ha
  cases hmem

/-- **Resolved a minute after it was opened, or with a publish that fails once**: the caller has stopped, the outcome is
final, and the stream has only the event of the creation. -/
theorem resolution_unannounced :
    ¬ Lts.Throughout (serviceStep 120) Announced { store := .empty } [Sample.opens, Sample.resolves 60 none] ∧
    ¬ Lts.Throughout (serviceStep 120) Announced { store := .empty }
      [Sample.opens, Sample.resolves 600 (some "timeout"), Sample.resolves 601 none] :=
  ⟨Sample.not_announced (by decide +kernel), Sample.not_announced (by decide +kernel)⟩

end Sn360Es.Agent
