import Sn360Es.Events.Consumer
import Sn360Es.Events.TenantLimiter

/-!
# Throttled messages (`pkg/events/rate_limiter.go`, `pkg/events/nats/consumer.go`)

`RateLimitedEventService.Subscribe` wraps a handler: a message of a tenant that is over its limit is asked for again,
and the wrapper returns no error. The broker counts that delivery like any other, and `dispatch` does not see it as a
failure, so a message that is throttled on its last delivery is neither handled nor a dead letter.

* `throttledStep` — a consumer of the wrapped handler, with the limiter in its state;
* `Spared` — no last delivery is throttled, unless its `Nak` fails and the dead letter is stored;
* `throttledStep_running` — a step that is spared keeps the messages tracked whose handler would succeed;
* `throttled_never_lost` — so each of them is handled or a dead letter once its deliveries are over.
-/

namespace Sn360Es.Events

open Lib.Lts

/-! ### The wrapped handler -/

namespace RateLimitedEventService

def tenantOf (m : Message) : String := (m.headers headerTenantID).getD ""

/-- The message is throttled at a time. -/
def throttles (s : RateLimitedEventService) (m : Message) (now : ℤ) : Bool :=
  tenantOf m ≠ "" && !(s.allow (tenantOf m) now).1

/-- The handler that `Subscribe` hands on, for a run of the inner one that would return `r`; `nak` is the error of
`msg.Nak`. -/
def wrapped (s : RateLimitedEventService) (m : Message) (now : ℤ) (nak : Option String) (r : HandlerReturn) :
    HandlerReturn × RateLimitedEventService :=
  if tenantOf m = "" then (r, s)
  else if (s.allow (tenantOf m) now).1 then (r, (s.allow (tenantOf m) now).2)
  else ({ explicit := .nak, err := nak }, (s.allow (tenantOf m) now).2)

lemma wrapped_eq (s : RateLimitedEventService) (m : Message) (now : ℤ) (nak : Option String) (r : HandlerReturn) :
    (s.wrapped m now nak r).1 = if s.throttles m now then { explicit := .nak, err := nak } else r := by
  unfold wrapped throttles
  by_cases htenant : tenantOf m = ""
  · simp [htenant]
  · cases hallow : (s.allow (tenantOf m) now).1 <;> simp [htenant]

end RateLimitedEventService

/-- The handler succeeds, and does not ask for the message again. -/
def HandlerReturn.Succeeds (r : HandlerReturn) : Prop := r.err = none ∧ r.explicit ≠ .nak

instance (r : HandlerReturn) : Decidable r.Succeeds := inferInstanceAs (Decidable (_ ∧ _))

/-! ### The stream, its consumer and the limiter -/

structure ThrottledState where
  consumer : ConsumerState := {}
  limiter : RateLimitedEventService

inductive ThrottledEvent where
  | publish (m : Message)
  | deliver (seq : ℕ)
  /-- The wrapped handler runs on a delivery. -/
  | handle (seq n : ℕ) (now : ℤ) (nak : Option String) (reached : Bool)
  | deadLetter (seq n : ℕ) (cause : String) (reply : BrokerReply) (fresh : Fresh) (reached : Bool)

section Throttled

variable (c : Consumer) (handler : ℕ → ℕ → HandlerReturn)

/-- A step of a running consumer. The inner handler returns `handler seq n` for the delivery `n` of a message. -/
def throttledStep (s : ThrottledState) : ThrottledEvent → Option ThrottledState
  | .publish m => (consumerStep c s.consumer (.publish m)).map fun t => { s with consumer := t }
  | .deliver seq => (consumerStep c s.consumer (.deliver seq)).map fun t => { s with consumer := t }
  | .handle seq n now nak reached =>
    (s.consumer.msgs seq).bind fun x =>
      (consumerStep c s.consumer
        (.handled seq n (s.limiter.wrapped x.msg now nak (handler seq n)).1 reached)).map fun t =>
          ⟨t, (s.limiter.wrapped x.msg now nak (handler seq n)).2⟩
  | .deadLetter seq n cause reply fresh reached =>
    (consumerStep c s.consumer (.deadLetter seq n cause reply fresh reached)).map fun t => { s with consumer := t }

/-- The handler of a message would succeed on every delivery. -/
def WouldSucceed (seq : ℕ) : Prop := ∀ n, (handler seq n).Succeeds

/-- The steps that lose no message whose handler would succeed: such a message is throttled on its last delivery only
if the `Nak` fails, and then it is stored as a dead letter. -/
def Spared (s : ThrottledState) : ThrottledEvent → Prop
  | .handle seq n now nak _ => WouldSucceed handler seq → c.isLast n = true →
      ∀ x ∈ s.consumer.msgs seq, s.limiter.throttles x.msg now = true → nak ≠ none
  | .deadLetter seq n cause reply fresh _ => WouldSucceed handler seq →
      ∀ x ∈ s.consumer.msgs seq, ∃ p ∈ c.dlqProducer, reply.stores = true ∧
        (routeToDLQ p c.opts x.msg n cause fresh).isOk = true
  | _ => True

/-- What is so for a message of the stream: the broker has delivered it no more often than it may, and it is tracked if
its handler would succeed. -/
structure Pending.Counted (seq : ℕ) (x : Pending) : Prop where
  bound : 0 < c.opts.maxDeliver → (x.delivered : ℤ) ≤ c.opts.maxDeliver
  tracked : WouldSucceed handler seq → x.Tracked c

/-- **The invariant** of a running consumer. -/
structure Running (s : ThrottledState) : Prop where
  notClosed : s.consumer.closed = false
  counted : ∀ seq, ∀ x ∈ s.consumer.msgs seq, x.Counted c handler seq

end Throttled

/-! ### No message is lost -/

section Steps

variable {c : Consumer} {handler : ℕ → ℕ → HandlerReturn} {s s' : ThrottledState}

/-- One message of the stream changes. -/
lemma forall_mem_update {P : ℕ → Pending → Prop} {m : ℕ → Option Pending} {seq : ℕ} {x : Pending}
    (h : ∀ k, ∀ y ∈ m k, P k y) (hx : P seq x) : ∀ k, ∀ y ∈ Function.update m seq (some x) k, P k y := by
  intro k y hy
  by_cases hk : k = seq
  · subst hk
    rw [Function.update_self, Option.mem_def, Option.some.injEq] at hy
    exact hy ▸ hx
  · rw [Function.update_of_ne hk] at hy
    exact h k y hy

lemma Running.update (h : Running c handler s) {seq : ℕ} {f : Pending → Option Pending} {t : ConsumerState}
    {l : RateLimitedEventService} (ht : s.consumer.update seq f = some t)
    (hf : ∀ x ∈ s.consumer.msgs seq, ∀ x', f x = some x' → x.Counted c handler seq → x'.Counted c handler seq) :
    Running c handler ⟨t, l⟩ := by
  unfold ConsumerState.update at ht
  obtain ⟨x, hx, ht⟩ := Option.bind_eq_some_iff.mp ht
  obtain ⟨x', hx', rfl⟩ := Option.map_eq_some_iff.mp ht
  exact ⟨h.notClosed, forall_mem_update h.counted (hf x hx x' hx' (h.counted seq x hx))⟩

lemma deliver_bound {x x' : Pending} {closed : Bool} (hx : x.deliver c closed = some x')
    (hpos : 0 < c.opts.maxDeliver) : (x'.delivered : ℤ) ≤ c.opts.maxDeliver := by
  unfold Pending.deliver at hx
  split at hx
  · cases hx
  · next hspent =>
    obtain rfl := Option.some.inj hx
    simp only [Bool.or_eq_true, not_or, Consumer.isLast, Bool.and_eq_true, decide_eq_true_eq, not_and, not_le] at hspent
    have hleft := hspent.2 hpos
    push_cast
    omega

lemma handled_delivered {x x' : Pending} {n : ℕ} {r : HandlerReturn} {reached : Bool}
    (hx : x.handled c n r reached = some x') : x'.delivered = x.delivered := by
  unfold Pending.handled at hx
  split at hx
  · cases hx
  · split at hx
    · obtain rfl := Option.some.inj hx
      rfl
    · obtain rfl := Option.some.inj hx
      dsimp only
      split_ifs <;> rfl

lemma deadLetter_delivered {x x' : Pending} {closed reached : Bool} {n : ℕ} {cause : String} {reply : BrokerReply}
    {fresh : Fresh} (hx : x.deadLetter c closed n cause reply fresh reached = some x') :
    x'.delivered = x.delivered := by
  unfold Pending.deadLetter at hx
  split at hx
  · cases hx
  split at hx
  · obtain rfl := Option.some.inj hx
    rfl
  · split at hx
    · obtain rfl := Option.some.inj hx
      rfl
    · split at hx
      · cases hx
      · obtain rfl := Option.some.inj hx
        rfl

/-- A run of the wrapped handler keeps a message tracked that it does not throttle on its last delivery. -/
lemma wrapped_tracked {x x' : Pending} {seq n : ℕ} {now : ℤ} {nak : Option String} {reached : Bool}
    {l : RateLimitedEventService} (hgood : WouldSucceed handler seq)
    (hspared : c.isLast n = true → l.throttles x.msg now = true → nak ≠ none)
    (hx : x.handled c n (l.wrapped x.msg now nak (handler seq n)).1 reached = some x') (h : x.Tracked c) :
    x'.Tracked c := by
  rw [l.wrapped_eq] at hx
  refine handled_tracked h hx ?_ ?_
  · split_ifs with hthrottled
    · intro hack
      cases hack
    · intro _ herr
      exact absurd (hgood n).1 herr
  · split_ifs with hthrottled
    · intro _ hnak
      refine Bool.eq_false_of_not_eq_true fun hlast => ?_
      exact hspared hlast hthrottled hnak
    · intro hnak
      exact absurd hnak (hgood n).2

lemma counted_new (seq : ℕ) (m : Message) : Pending.Counted c handler seq { msg := m } := by
  refine ⟨fun hpos => by exact_mod_cast hpos.le, fun _ hspent => ?_⟩
  simp [Consumer.isLast] at hspent
  omega

/-- **Every step that is spared** keeps the invariant. -/
lemma throttledStep_running (s : ThrottledState) (e : ThrottledEvent) (s' : ThrottledState) (h : Running c handler s)
    (hspared : Spared c handler s e) (hs : throttledStep c handler s e = some s') : Running c handler s' := by
  cases e with
  | publish m =>
    obtain rfl := Option.some.inj hs
    exact ⟨h.notClosed, forall_mem_update h.counted (counted_new _ m)⟩
  | deliver seq =>
    obtain ⟨t, ht, rfl⟩ := Option.map_eq_some_iff.mp hs
    refine h.update ht fun x _ x' hx' _ => ⟨deliver_bound hx', fun _ => deliver_tracked hx' fun hclosed => ?_⟩
    rw [h.notClosed] at hclosed
    cases hclosed
  | handle seq n now nak reached =>
    obtain ⟨x, hx, hs⟩ := Option.bind_eq_some_iff.mp hs
    obtain ⟨t, ht, rfl⟩ := Option.map_eq_some_iff.mp hs
    refine h.update ht fun y hy y' hy' hcounted => ⟨handled_delivered hy' ▸ hcounted.bound, fun hgood => ?_⟩
    obtain rfl : x = y := Option.some.inj (hx.symm.trans hy)
    exact wrapped_tracked hgood (fun hlast => hspared hgood hlast x hx) hy' (hcounted.tracked hgood)
  | deadLetter seq n cause reply fresh reached =>
    obtain ⟨t, ht, rfl⟩ := Option.map_eq_some_iff.mp hs
    refine h.update ht fun y hy y' hy' hcounted => ⟨deadLetter_delivered hy' ▸ hcounted.bound, fun hgood => ?_⟩
    exact deadLetter_tracked hy' (hspared hgood y hy)

end Steps

/-- The deliveries of a message are over: the broker has none left, and `dispatch` works on none. -/
def Pending.Over (c : Consumer) (x : Pending) : Prop :=
  (x.settled = true ∨ c.isLast x.delivered = true) ∧ x.dispatching = []

/-- **No message is lost to the limiter** in a run whose steps are all spared: it is delivered at most `MaxDeliver`
times, and when that is over it was handled or is a dead letter. -/
theorem throttled_never_lost (c : Consumer) (handler : ℕ → ℕ → HandlerReturn) (cfg : RateLimitConfig) (start : ℤ)
    {es : List ThrottledEvent} {s : ThrottledState}
    (hspared : Meets (throttledStep c handler) (Spared c handler)
      { limiter := newRateLimitedEventService cfg start } es)
    (hrun : run (throttledStep c handler) { limiter := newRateLimitedEventService cfg start } es = some s) :
    ∀ seq, ∀ x ∈ s.consumer.msgs seq, WouldSucceed handler seq →
      (0 < c.opts.maxDeliver → (x.delivered : ℤ) ≤ c.opts.maxDeliver) ∧
      (x.Over c → x.succeeded = true ∨ x.deadLetters ≠ []) := by
  have hstart : Running c handler { limiter := newRateLimitedEventService cfg start } := ⟨rfl, nofun⟩
  have hend := run_induct throttledStep_running hstart hspared hrun
  intro seq x hx hgood
  obtain ⟨hbound, htracked⟩ := hend.counted seq x hx
  refine ⟨hbound, fun ⟨hspent, hidle⟩ => ?_⟩
  rcases htracked hgood hspent with hdone | hdead | ⟨d, hd, -⟩
  · exact .inl hdone
  · exact .inr hdead
  · rw [hidle] at hd
    cases hd

section Samples

def tenantRequest : Message := sentRequest fun k => if k = headerTenantID then some "contoso" else none

/-- Five deliveries, and dead letters without schemas. -/
def fiveConsumer : Consumer := { opts := { maxDeliver := 5 }, dlqProducer := some barePublisher }

/-- The state of a limit of one message a second. -/
def oneASecond : ThrottledState := { limiter := newRateLimitedEventService ⟨1, 1, 0, 0⟩ 0 }

/-- A second message comes, takes the token, and the first one is throttled. -/
def throttledRound (k : ℕ) : List ThrottledEvent :=
  [.publish tenantRequest, .deliver (k + 1), .handle (k + 1) 1 (k * 10 ^ 9) none true, .deliver 0,
    .handle 0 (k + 1) (k * 10 ^ 9) none true]

/-- An event that works on no last delivery. -/
def ThrottledEvent.early (c : Consumer) : ThrottledEvent → Bool
  | .handle _ n _ _ _ => !c.isLast n
  | .deadLetter .. => false
  | _ => true

lemma meets_spared {c : Consumer} {handler : ℕ → ℕ → HandlerReturn} {es : List ThrottledEvent} (s : ThrottledState)
    (h : ∀ e ∈ es, e.early c = true) : Meets (throttledStep c handler) (Spared c handler) s es := by
  refine Meets.imp (I := fun _ => True) (fun _ _ _ _ _ _ => trivial) ?_ trivial (meets_of_forall s h)
  intro s e _ hearly
  cases e with
  | publish m => trivial
  | deliver seq => trivial
  | handle seq n now nak reached =>
    intro _ hlast
    simp [ThrottledEvent.early, hlast] at hearly
  | deadLetter seq n cause reply fresh reached => cases hearly

/-- A message that is throttled once, and handled a second later. -/
theorem throttled_once_handled : ∃ s x, run (throttledStep fiveConsumer fun _ _ => {}) oneASecond
      (.publish tenantRequest :: throttledRound 0 ++ [.deliver 0, .handle 0 2 (10 ^ 9) none true]) = some s ∧
    s.consumer.msgs 0 = some x ∧ x.Over fiveConsumer ∧ (x.succeeded = true ∨ x.deadLetters ≠ []) := by
  have hrun : (run (throttledStep fiveConsumer fun _ _ => {}) oneASecond
      (.publish tenantRequest :: throttledRound 0 ++ [.deliver 0, .handle 0 2 (10 ^ 9) none true])).any
      (fun s => (s.consumer.msgs 0).any fun x => x.settled && x.dispatching.isEmpty) = true := by decide +kernel
  obtain ⟨s, hs, hrun⟩ := (Option.any_eq_true _ _).mp hrun
  obtain ⟨x, hx, hover⟩ := (Option.any_eq_true _ _).mp hrun
  simp only [Bool.and_eq_true, List.isEmpty_iff] at hover
  have hover' : x.Over fiveConsumer := ⟨.inl hover.1, hover.2⟩
  have hnever := throttled_never_lost fiveConsumer (fun _ _ => {}) ⟨1, 1, 0, 0⟩ 0
    (meets_spared oneASecond (by decide)) hs 0 x hx (fun _ => ⟨rfl, nofun⟩)
  exact ⟨s, x, hs, hx, hover', hnever.2 hover'⟩

/-- Five seconds in which the tenant stays over its limit: the first message is lost. -/
theorem throttled_five_times_lost : ∃ s x, run (throttledStep fiveConsumer fun _ _ => {}) oneASecond
      (.publish tenantRequest :: (List.range 5).flatMap throttledRound) = some s ∧ s.consumer.msgs 0 = some x ∧
    x.Over fiveConsumer ∧ x.succeeded = false ∧ x.deadLetters = [] := by
  have hrun : (run (throttledStep fiveConsumer fun _ _ => {}) oneASecond
      (.publish tenantRequest :: (List.range 5).flatMap throttledRound)).any
      (fun s => (s.consumer.msgs 0).any fun x =>
        fiveConsumer.isLast x.delivered && x.dispatching.isEmpty && !x.succeeded && x.deadLetters.isEmpty) = true := by
    decide +kernel
  obtain ⟨s, hs, hrun⟩ := (Option.any_eq_true _ _).mp hrun
  obtain ⟨x, hx, hlost⟩ := (Option.any_eq_true _ _).mp hrun
  simp only [Bool.and_eq_true, List.isEmpty_iff, Bool.not_eq_true'] at hlost
  obtain ⟨⟨⟨hlast, hidle⟩, hfailed⟩, hdead⟩ := hlost
  exact ⟨s, x, hs, hx, ⟨.inr hlast, hidle⟩, hfailed, hdead⟩

end Samples

end Sn360Es.Events
