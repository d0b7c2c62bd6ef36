import Sn360Es.Events.DeadLetter
import Sn360Es.Lib.Lts

/-!
# The consumer (`pkg/events/nats/consumer.go`)

A stream and one durable consumer of it. The broker counts deliveries, and redelivers as long as the message is
not settled and deliveries are left; `dispatch` runs the handler and settles; `Close` may come at any moment, and
a next session may follow it. Two deliveries of one message can overlap, since the broker does not wait for a
handler that takes longer than `AckWait`.

* `Tracked` — a message without a delivery left has succeeded, was stored as a dead letter, or is on its last
  delivery; one step keeps it (`step_tracked`) unless that step is one of those that `Retains` leaves out;
* `consumer_never_loses` — so no message is lost in a run without such steps.

Backoff times, traces and lag metrics are left out.
-/

namespace Sn360Es.Events

open Lib.Lts

/-! ### One message -/

structure Consumer where
  opts : SubscribeOptions
  dlqProducer : Option Publisher

/-- `c.opts.MaxDeliver > 0 && int(delivery) >= c.opts.MaxDeliver`. The broker gets the same bound, and none if it
is not positive. -/
def Consumer.isLast (c : Consumer) (delivery : ℕ) : Bool :=
  0 < c.opts.maxDeliver && c.opts.maxDeliver ≤ delivery

/-- A delivery that `dispatch` is working on. The cause is the error of its handler, while the dead letter is
being written. -/
structure Delivery where
  number : ℕ
  cause : Option String := none
  deriving DecidableEq, Repr

/-- A message of the stream. -/
structure Pending where
  msg : Message
  delivered : ℕ := 0
  /-- Acknowledged or terminated at the broker. -/
  settled : Bool := false
  dispatching : List Delivery := []
  /-- A handler run that returned no error and did not ask for the message again. -/
  succeeded : Bool := false
  deadLetters : List Message := []

/-- What a handler does about its message itself, by `Ack` or `Nak`. -/
inductive Explicit where
  | none
  | ack
  | nak
  deriving DecidableEq, Repr

/-- How a handler run ends. -/
structure HandlerReturn where
  explicit : Explicit := .none
  err : Option String := Option.none
  deriving DecidableEq, Repr

/-- What becomes of a message that is published to the dead letters. -/
inductive BrokerReply where
  | stored
  /-- Stored, but the publisher sees an error. -/
  | storedUnseen
  /-- Acknowledged, and dropped for its message id. -/
  | duplicate
  | refused
  deriving DecidableEq, Repr

def BrokerReply.stores (r : BrokerReply) : Bool := r = .stored || r = .storedUnseen

/-- `PublishToDLQ` returns without an error. -/
def BrokerReply.succeeds (r : BrokerReply) : Bool := r = .stored || r = .duplicate

namespace Pending

variable (c : Consumer) (x : Pending)

/-- One more delivery. A closed consumer returns at once and leaves the message alone. -/
def deliver (closed : Bool) : Option Pending :=
  if x.settled || c.isLast x.delivered then none
  else
    some
      { x with
        delivered := x.delivered + 1
        dispatching := if closed then x.dispatching else x.dispatching ++ [⟨x.delivered + 1, none⟩] }

/-- `dispatch` returns. -/
def leave (n : ℕ) : Pending := { x with dispatching := x.dispatching.filter (·.number ≠ n) }

/-- `dispatch` after the handler, up to the call of `routeToDLQ`; `reached` says whether the acknowledgement
reaches the broker. -/
def handled (n : ℕ) (r : HandlerReturn) (reached : Bool) : Option Pending :=
  if ⟨n, none⟩ ∉ x.dispatching then none
  else
    match r.err with
    | none =>
      some
        { x.leave n with
          settled := x.settled || (r.explicit ≠ .nak && reached)
          succeeded := x.succeeded || r.explicit ≠ .nak }
    | some cause =>
      let x' := { x.leave n with settled := x.settled || (r.explicit = .ack && reached) }
      some (if c.isLast n then { x' with dispatching := x'.dispatching ++ [⟨n, some cause⟩] } else x')

/-- `routeToDLQ` and the return from `dispatch`. A consumer that is closed has cancelled the context of the
publish, which then fails. -/
def deadLetter (closed : Bool) (n : ℕ) (cause : String) (reply : BrokerReply) (fresh : Fresh) (reached : Bool) :
    Option Pending :=
  if ⟨n, some cause⟩ ∉ x.dispatching then none
  else
    match c.dlqProducer with
    | none => some { x.leave n with settled := x.settled || reached }
    | some p =>
      match routeToDLQ p c.opts x.msg n cause fresh with
      | .error _ => some (x.leave n)
      | .ok d =>
        if closed && reply ≠ .refused then none
        else
          some
            { x.leave n with
              deadLetters := if reply.stores then x.deadLetters ++ [d] else x.deadLetters
              settled := x.settled || (reply.succeeds && reached) }

end Pending

/-! ### The stream and its consumer -/

structure ConsumerState where
  closed : Bool := false
  /-- The next sequence number of the stream. -/
  next : ℕ := 0
  msgs : ℕ → Option Pending := fun _ => none

inductive Event where
  | publish (m : Message)
  | deliver (seq : ℕ)
  | handled (seq n : ℕ) (r : HandlerReturn) (reached : Bool)
  | deadLetter (seq n : ℕ) (cause : String) (reply : BrokerReply) (fresh : Fresh) (reached : Bool)
  | close
  /-- A next session takes over, after `Close` has waited for the handlers. -/
  | restart

/-- A step of one message of the stream. -/
def ConsumerState.update (s : ConsumerState) (seq : ℕ) (f : Pending → Option Pending) : Option ConsumerState :=
  (s.msgs seq).bind fun x => (f x).map fun x' => { s with msgs := Function.update s.msgs seq (some x') }

def consumerStep (c : Consumer) (s : ConsumerState) : Event → Option ConsumerState
  | .publish m =>
    some { s with next := s.next + 1, msgs := Function.update s.msgs s.next (some { msg := m }) }
  | .deliver seq => s.update seq fun x => x.deliver c s.closed
  | .handled seq n r reached => s.update seq fun x => x.handled c n r reached
  | .deadLetter seq n cause reply fresh reached =>
    s.update seq fun x => x.deadLetter c s.closed n cause reply fresh reached
  | .close => some { s with closed := true }
  | .restart =>
    if s.closed ∧ ∀ seq < s.next, (s.msgs seq).all fun x => x.dispatching.isEmpty then
      some { s with closed := false }
    else none

/-! ### No message is lost -/

/-- The message has succeeded, was stored as a dead letter, or has a delivery left, which may be one that is
under way. -/
def Pending.Kept (c : Consumer) (x : Pending) : Prop :=
  x.succeeded = true ∨ x.deadLetters ≠ [] ∨ x.dispatching ≠ [] ∨
    x.settled = false ∧ c.isLast x.delivered = false

/-- The steps that lose nothing: no last delivery is handed to a closed consumer, no handler acknowledges a
message it then fails on or asks for one again after its last delivery, and every dead letter is stored. -/
def Retains (c : Consumer) (s : ConsumerState) : Event → Prop
  | .deliver seq => ∀ x ∈ s.msgs seq, s.closed = true → c.isLast (x.delivered + 1) = false
  | .handled _ n r _ =>
    (r.explicit = .ack → r.err ≠ none → c.isLast n = true) ∧
    (r.explicit = .nak → r.err = none → c.isLast n = false)
  | .deadLetter seq n cause reply fresh _ =>
    ∀ x ∈ s.msgs seq, ∃ p ∈ c.dlqProducer, reply.stores = true ∧
      (routeToDLQ p c.opts x.msg n cause fresh).isOk = true
  | _ => True

/-- A message that the broker will not deliver again has succeeded, was stored as a dead letter, or is on its
last delivery. -/
def Pending.Tracked (c : Consumer) (x : Pending) : Prop :=
  x.settled = true ∨ c.isLast x.delivered = true →
    x.succeeded = true ∨ x.deadLetters ≠ [] ∨ ∃ d ∈ x.dispatching, c.isLast d.number = true

section Tracked

variable {c : Consumer} {x x' : Pending}

lemma Pending.Tracked.kept (h : x.Tracked c) : x.Kept c := by
  by_cases hspent : x.settled = true ∨ c.isLast x.delivered = true
  · rcases h hspent with hs | hd | ⟨d, hd, -⟩
    · exact .inl hs
    · exact .inr (.inl hd)
    · exact .inr (.inr (.inl (List.ne_nil_of_mem hd)))
  · simp only [not_or, Bool.not_eq_true] at hspent
    exact .inr (.inr (.inr hspent))

lemma deliver_tracked {closed : Bool} (hx : x.deliver c closed = some x')
    (hlast : closed = true → c.isLast (x.delivered + 1) = false) : x'.Tracked c := by
  unfold Pending.deliver at hx
  split at hx
  · cases hx
  · next hfree =>
    obtain rfl := Option.some.inj hx
    simp only [Bool.or_eq_true, not_or, Bool.not_eq_true] at hfree
    intro hspent
    simp only [hfree.1, Bool.false_eq_true, false_or] at hspent
    cases closed with
    | true => rw [hlast rfl] at hspent; cases hspent
    | false => exact .inr (.inr ⟨_, List.mem_append_right _ List.mem_cons_self, hspent⟩)

/-- Leaving a delivery that is not the last keeps the last one. -/
lemma last_of_leave {n : ℕ} (hn : c.isLast n = false)
    (h : ∃ d ∈ x.dispatching, c.isLast d.number = true) :
    ∃ d ∈ (x.leave n).dispatching, c.isLast d.number = true := by
  obtain ⟨d, hd, hlast⟩ := h
  have hne : d.number ≠ n := by
    rintro rfl
    rw [hn] at hlast
    cases hlast
  exact ⟨d, List.mem_filter.mpr ⟨hd, by simpa using hne⟩, hlast⟩

lemma handled_tracked {n : ℕ} {r : HandlerReturn} {reached : Bool} (h : x.Tracked c)
    (hx : x.handled c n r reached = some x')
    (hack : r.explicit = .ack → r.err ≠ none → c.isLast n = true)
    (hnak : r.explicit = .nak → r.err = none → c.isLast n = false) : x'.Tracked c := by
  unfold Pending.handled at hx
  split at hx
  · cases hx
  cases herr : r.err with
  | none =>
    simp only [herr, Option.some.injEq] at hx
    subst hx
    intro hspent
    by_cases hexp : r.explicit = .nak
    · -- the handler wants the message again: nothing was settled by this run
      simp only [hexp, ne_eq, not_true_eq_false, decide_false, Bool.false_and, Bool.or_false] at hspent ⊢
      rcases h hspent with hs | hd | hlast
      · exact .inl hs
      · exact .inr (.inl hd)
      · exact .inr (.inr (last_of_leave (hnak hexp herr) hlast))
    · left
      simp [hexp]
  | some cause =>
    simp only [herr, Option.some.injEq] at hx
    subst hx
    cases hn : c.isLast n with
    | true =>
      intro _
      exact .inr (.inr ⟨⟨n, some cause⟩, by simp, hn⟩)
    | false =>
      have hexp : r.explicit ≠ .ack := by
        intro he
        rw [hack he (by simp [herr])] at hn
        cases hn
      intro hspent
      simp only [hexp, decide_false, Bool.false_and, Bool.or_false, Bool.false_eq_true, if_false] at hspent ⊢
      rcases h hspent with hs | hd | hlast
      · exact .inl hs
      · exact .inr (.inl hd)
      · exact .inr (.inr (last_of_leave hn hlast))

lemma deadLetter_tracked {closed reached : Bool} {n : ℕ} {cause : String} {reply : BrokerReply} {fresh : Fresh}
    (hx : x.deadLetter c closed n cause reply fresh reached = some x')
    (hstored : ∃ p ∈ c.dlqProducer, reply.stores = true ∧
      (routeToDLQ p c.opts x.msg n cause fresh).isOk = true) : x'.Tracked c := by
  obtain ⟨p, hp, hreply, hroute⟩ := hstored
  unfold Pending.deadLetter at hx
  simp only [Option.mem_def.mp hp] at hx
  cases hd : routeToDLQ p c.opts x.msg n cause fresh with
  | error err => rw [hd] at hroute; cases hroute
  | ok d =>
    simp only [hd, hreply, if_true] at hx
    split at hx
    · cases hx
    split at hx
    · cases hx
    obtain rfl := Option.some.inj hx
    intro _
    exact .inr (.inl (by simp))

end Tracked

/-- Every message of the stream is tracked. -/
def AllTracked (c : Consumer) (s : ConsumerState) : Prop := ∀ seq, ∀ x ∈ s.msgs seq, x.Tracked c

lemma tracked_set {c : Consumer} {m : ℕ → Option Pending} {seq : ℕ} {x : Pending}
    (h : ∀ k, ∀ y ∈ m k, y.Tracked c) (hx : x.Tracked c) :
    ∀ k, ∀ y ∈ Function.update m seq (some x) k, y.Tracked c := by
  intro k y hy
  by_cases hk : k = seq
  · subst hk
    rw [Function.update_self, Option.mem_def, Option.some.injEq] at hy
    exact hy ▸ hx
  · rw [Function.update_of_ne hk] at hy
    exact h k y hy

lemma update_tracked {c : Consumer} {s s' : ConsumerState} {seq : ℕ} {f : Pending → Option Pending}
    (h : AllTracked c s) (hs : s.update seq f = some s')
    (hf : ∀ x ∈ s.msgs seq, ∀ x', x.Tracked c → f x = some x' → x'.Tracked c) : AllTracked c s' := by
  unfold ConsumerState.update at hs
  obtain ⟨x, hx, hs⟩ := Option.bind_eq_some_iff.mp hs
  obtain ⟨x', hx', rfl⟩ := Option.map_eq_some_iff.mp hs
  exact tracked_set h (hf x hx x' (h seq x hx) hx')

lemma step_tracked (c : Consumer) (s : ConsumerState) (e : Event) (s' : ConsumerState) (h : AllTracked c s)
    (hr : Retains c s e) (hs : consumerStep c s e = some s') : AllTracked c s' := by
  cases e with
  | publish m =>
    obtain rfl := Option.some.inj hs
    refine tracked_set h ?_
    intro hspent
    simp [Consumer.isLast] at hspent
    omega
  | deliver seq => exact update_tracked h hs fun x hx x' _ hx' => deliver_tracked hx' (hr x hx)
  | handled seq n r reached =>
    exact update_tracked h hs fun x _ x' ht hx' => handled_tracked ht hx' hr.1 hr.2
  | deadLetter seq n cause reply fresh reached =>
    exact update_tracked h hs fun x hx x' _ hx' => deadLetter_tracked hx' (hr x hx)
  | close =>
    obtain rfl := Option.some.inj hs
    exact h
  | restart =>
    simp only [consumerStep] at hs
    split at hs
    · obtain rfl := Option.some.inj hs
      exact h
    · cases hs

/-- **No message is lost** in a run whose steps all retain. -/
theorem consumer_never_loses (c : Consumer) {es : List Event} {s : ConsumerState}
    (hr : Meets (consumerStep c) (Retains c) {} es) (hs : run (consumerStep c) {} es = some s) :
    ∀ seq, ∀ x ∈ s.msgs seq, x.Kept c := by
  have hinit : AllTracked c {} := by
    intro k x hx
    cases hx
  intro seq x hx
  exact (run_induct (step_tracked c) hinit hr hs seq x hx).kept

section Samples

/-- One delivery, and dead letters without schemas. -/
def onceConsumer : Consumer := { opts := { maxDeliver := 1 }, dlqProducer := some barePublisher }

/-- A message whose handler fails, and what the broker makes of its dead letter. -/
def failedOnce (reply : BrokerReply) : List Event :=
  [.publish (sentRequest fun _ => none), .deliver 0, .handled 0 1 { err := some "boom" } true,
    .deadLetter 0 1 "boom" reply ⟨"u-2", "t-2"⟩ true]

theorem failedOnce_stored_kept : ∃ s, run (consumerStep onceConsumer) {} (failedOnce .stored) = some s ∧
    ∀ seq, ∀ x ∈ s.msgs seq, x.Kept onceConsumer := by
  have hrun : (run (consumerStep onceConsumer) {} (failedOnce .stored)).isSome = true := rfl
  obtain ⟨s, hs⟩ := Option.isSome_iff_exists.mp hrun
  refine ⟨s, hs, consumer_never_loses onceConsumer ?_ hs⟩
  refine ⟨trivial, fun s₁ h₁ => ⟨?_, fun s₂ h₂ => ⟨⟨nofun, nofun⟩, fun s₃ h₃ => ⟨?_, fun _ _ => trivial⟩⟩⟩⟩
  · obtain rfl := Option.some.inj h₁
    intro x _ h
    cases h
  · obtain rfl := Option.some.inj h₁
    obtain rfl := Option.some.inj h₂
    obtain rfl := Option.some.inj h₃
    intro x hx
    obtain rfl := Option.some.inj hx
    exact ⟨barePublisher, rfl, rfl, rfl⟩

/-- A dead letter that the broker refuses is asked for again, but no delivery is left. -/
theorem failedOnce_refused_lost :
    ∃ s x, run (consumerStep onceConsumer) {} (failedOnce .refused) = some s ∧ s.msgs 0 = some x ∧
      ¬ x.Kept onceConsumer := by
  refine ⟨_, _, rfl, rfl, ?_⟩
  rintro (h | h | h | h)
  · cases h
  · exact h rfl
  · exact h rfl
  · cases h.2

end Samples

end Sn360Es.Events
