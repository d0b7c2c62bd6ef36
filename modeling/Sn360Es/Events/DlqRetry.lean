import Sn360Es.Events.Consumer

/-!
# Retries of dead letters (`internal/service/dlq_processor.go`)

`DLQProcessor.retry` publishes a dead letter on its origin again, with the number of the attempt in the header
`delivery-count`. A consumer that fails on the copy writes its own number of deliveries into this header, so the
processor always reads `MaxDeliver`.

* `cycleStep` — a message on its way between its consumer and the processor; its handler always fails, and the
  decision is always to retry;
* `Counted` — a dead letter has the header of the consumer; every step keeps it (`step_counted`);
* `dropped_at_once`, `retried_without_end` — a message that every publisher takes is dropped in its first round, or
  published again as often as one likes;
* `dlq_retry_never_exact` — so it is never dropped after `MaxRetryAttempts` retries.
-/

namespace Sn360Es.Events

open Lib Lib.GoStrings Lib.Lts

/-! ### The processor -/

/-- The value that `strconv.Atoi` returns, with an error or without one: a number out of range is cut, and what is no
number is zero. -/
def atoiValue (s : String) : ℤ :=
  match s.toList with
  | '-' :: ds => max (-(((digits ds).getD 0 : ℕ) : ℤ)) (-9223372036854775808)
  | '+' :: ds => min (((digits ds).getD 0 : ℕ) : ℤ) 9223372036854775807
  | ds => min (((digits ds).getD 0 : ℕ) : ℤ) 9223372036854775807

structure DLQProcessor where
  republisher : Option Publisher
  maxRetryAttempts : ℤ := 3

/-- `NewDLQProcessor`, as far as retries go. -/
def newDLQProcessor (republisher : Option Publisher) (maxRetryAttempts : ℤ) : DLQProcessor where
  republisher
  maxRetryAttempts := if maxRetryAttempts ≤ 0 then 3 else maxRetryAttempts

/-- How `retry` ends. -/
inductive RetryResult where
  | failed
  /-- There is no origin to publish on. -/
  | logged
  /-- The attempts are exhausted. -/
  | dropped
  | retried (m : Message)

/-- The headers that `retry` gives to `Publish`: the new ones first, then those of the dead letter. -/
def retryHeaders (h : Headers) (attempt : ℤ) (reason : String) : Headers := fun k =>
  if k = headerDeliveryCount then some (toString attempt)
  else if k ∈ [headerMessageID, headerError, headerOriginSubject] then none
  else (h k).or (if k = "Retry-Reason" then some reason else none)

/-- `retry`. -/
def DLQProcessor.retry (q : DLQProcessor) (msg : Message) (reason : String) (fresh : Fresh) : RetryResult :=
  match q.republisher with
  | none => .failed
  | some p =>
    let origin := (msg.headers headerOriginSubject).getD ""
    if origin = "" then .logged
    else
      let attempt := atoiValue ((msg.headers headerDeliveryCount).getD "")
      if q.maxRetryAttempts ≤ attempt then .dropped
      else
        match p.publish origin msg.data { headers := retryHeaders msg.headers (attempt + 1) reason } fresh with
        | .error _ => .failed
        | .ok m => .retried m

/-! ### The cycle -/

/-- Where the message is. -/
inductive CycleStage where
  /-- In its stream, after some failed deliveries. -/
  | origin (m : Message) (delivered : ℕ)
  | dead (d : Message)
  | dropped

structure CycleState where
  stage : CycleStage
  /-- How often it was published again. -/
  republished : ℕ := 0

inductive CycleEvent where
  /-- A delivery whose handler fails. -/
  | fail (cause : String) (fresh : Fresh)
  /-- The processor handles the dead letter, with the decision to retry. -/
  | process (reason : String) (fresh : Fresh)

/-- The dead letter with the subject that the message has failed on as its origin. -/
def recorded (m d : Message) : Message := { d with headers := d.headers.set headerOriginSubject m.subject }

/-- A step of the message. Nothing happens if a publish is refused. -/
def cycleStep (c : Consumer) (q : DLQProcessor) (s : CycleState) : CycleEvent → Option CycleState
  | .fail cause fresh =>
    match s.stage with
    | .origin m delivered =>
      if c.isLast (delivered + 1) then
        match c.dlqProducer with
        | none => none
        | some p =>
          match routeToDLQ p c.opts m (delivered + 1) cause fresh with
          | .error _ => none
          | .ok d => some { s with stage := .dead (recorded m d) }
      else some { s with stage := .origin m (delivered + 1) }
    | _ => none
  | .process reason fresh =>
    match s.stage with
    | .dead d =>
      match q.retry d reason fresh with
      | .retried m => some ⟨.origin m 0, s.republished + 1⟩
      | .dropped => some { s with stage := .dropped }
      | _ => none
    | _ => none

/-- The message is dropped in the end, after exactly `MaxRetryAttempts` retries. -/
def ExactRetries (c : Consumer) (q : DLQProcessor) (m : Message) : Prop :=
  (∃ es s, run (cycleStep c q) ⟨.origin m 0, 0⟩ es = some s ∧ s.stage = .dropped) ∧
    ∀ es s, run (cycleStep c q) ⟨.origin m 0, 0⟩ es = some s → s.stage = .dropped →
      (s.republished : ℤ) = q.maxRetryAttempts

/-! ### The header of a dead letter -/

lemma digits_toString (n : ℕ) : digits (toString n).toList = some n := by
  have hlist : (toString n).toList = Nat.toDigits 10 n := Nat.toList_repr
  have hdigit : ∀ c ∈ Nat.toDigits 10 n, c.isDigit = true := fun c hc =>
    Nat.isDigit_of_mem_toDigits (by omega) (by omega) hc
  rw [hlist, digits, if_pos ⟨Nat.toDigits_ne_nil, List.all_eq_true.mpr hdigit⟩]
  exact congrArg some (Nat.ofDigitChars_toDigits (b := 10) (n := n) (by omega) (by omega))

lemma atoiValue_toString (n : ℕ) : atoiValue (toString n) = min (n : ℤ) 9223372036854775807 := by
  have hdigits := digits_toString n
  have hlist : (toString n).toList = Nat.toDigits 10 n := Nat.toList_repr
  unfold atoiValue
  split
  · next ds h =>
    have hminus : '-' ∈ Nat.toDigits 10 n := by rw [← hlist, h]; exact List.mem_cons_self
    exact absurd (Nat.isDigit_of_mem_toDigits (by omega) (by omega) hminus) (by decide)
  · next ds h =>
    have hplus : '+' ∈ Nat.toDigits 10 n := by rw [← hlist, h]; exact List.mem_cons_self
    exact absurd (Nat.isDigit_of_mem_toDigits (by omega) (by omega) hplus) (by decide)
  · rw [hdigits]
    rfl

/-- The count of an outgoing message is what its options say. -/
lemma headersFor_count (p : Publisher) (data : Bytes) (opts : PublishOptions) (fresh : Fresh) {v : String}
    (hopts : opts.headers headerDeliveryCount = some v) :
    p.headersFor data opts fresh headerDeliveryCount = some v := by
  have hne : headerDeliveryCount ≠ msgIDHeader := by decide
  unfold Publisher.headersFor
  simp only [Headers.set, Function.update_of_ne hne, hopts, Option.some_or]

/-- A dead letter has the number of deliveries of its consumer. -/
lemma routeToDLQ_count {p : Publisher} {o : SubscribeOptions} {m d : Message} {delivery : ℕ} {cause : String}
    {fresh : Fresh} (h : routeToDLQ p o m delivery cause fresh = .ok d) :
    (recorded m d).headers headerDeliveryCount = some (toString delivery) := by
  obtain ⟨-, data, -, rfl⟩ := Publisher.publish_ok_iff.mp h
  have horigin : headerDeliveryCount ≠ headerOriginSubject := by decide
  have herror : headerDeliveryCount ≠ headerError := by decide
  have hopts : Publisher.dlqHeaders (o.target m.subject) m.headers delivery (some cause) headerDeliveryCount =
      some (toString delivery) := by
    simp [Publisher.dlqHeaders, Headers.set, Function.update_of_ne herror]
  simp only [recorded, Headers.set, Function.update_of_ne horigin]
  exact headersFor_count p data _ fresh hopts

/-! ### Every step -/

/-- The attempt that the processor reads in every round. -/
def Consumer.readAttempt (c : Consumer) : ℤ := min c.opts.maxDeliver 9223372036854775807

/-- **The invariant.** A message is dropped only if that attempt exhausts the retries, and published again only if it
does not. -/
structure Counted (c : Consumer) (q : DLQProcessor) (s : CycleState) : Prop where
  origin : ∀ m delivered, s.stage = .origin m delivered → c.isLast delivered = false
  dead : ∀ d, s.stage = .dead d →
    ∃ n : ℕ, d.headers headerDeliveryCount = some (toString n) ∧ (n : ℤ) = c.opts.maxDeliver
  dropped : s.stage = .dropped → q.maxRetryAttempts ≤ c.readAttempt
  republished : 0 < s.republished → c.readAttempt < q.maxRetryAttempts

section Steps

variable {c : Consumer} {q : DLQProcessor} {s s' : CycleState}

/-- The first delivery that is the last one. -/
lemma isLast_succ {delivered : ℕ} (hbefore : c.isLast delivered = false) (hlast : c.isLast (delivered + 1) = true) :
    ((delivered + 1 : ℕ) : ℤ) = c.opts.maxDeliver := by
  simp only [Consumer.isLast, Bool.and_eq_false_iff, Bool.and_eq_true, decide_eq_true_eq, decide_eq_false_iff_not]
    at hbefore hlast
  push_cast at hlast ⊢
  omega

lemma Counted.attempt (h : Counted c q s) {d : Message} (hstage : s.stage = .dead d) :
    atoiValue ((d.headers headerDeliveryCount).getD "") = c.readAttempt := by
  obtain ⟨n, hcount, hn⟩ := h.dead d hstage
  rw [hcount, Option.getD_some, atoiValue_toString, hn]
  rfl

lemma isLast_zero (c : Consumer) : c.isLast 0 = false := by
  simp only [Consumer.isLast, Bool.and_eq_false_iff, decide_eq_false_iff_not]
  push_cast
  omega

lemma counted_start (c : Consumer) (q : DLQProcessor) (m : Message) : Counted c q ⟨.origin m 0, 0⟩ := by
  refine ⟨?_, nofun, nofun, fun h => absurd h (Nat.lt_irrefl 0)⟩
  intro m' delivered hstage
  obtain ⟨-, rfl⟩ := CycleStage.origin.inj hstage
  exact isLast_zero c

lemma step_counted {e : CycleEvent} (h : Counted c q s) (hs : cycleStep c q s e = some s') : Counted c q s' := by
  cases e with
  | fail cause fresh =>
    unfold cycleStep at hs
    dsimp only at hs
    split at hs
    · next m delivered hstage =>
      split_ifs at hs with hlast
      · split at hs
        · cases hs
        · split at hs
          · cases hs
          · next d hroute =>
            obtain rfl := Option.some.inj hs
            refine ⟨nofun, ?_, nofun, h.republished⟩
            intro d' hd'
            obtain rfl := CycleStage.dead.inj hd'
            exact ⟨delivered + 1, routeToDLQ_count hroute, isLast_succ (h.origin m delivered hstage) hlast⟩
      · obtain rfl := Option.some.inj hs
        refine ⟨?_, nofun, nofun, h.republished⟩
        intro m' delivered' hstage'
        obtain ⟨-, rfl⟩ := CycleStage.origin.inj hstage'
        exact Bool.eq_false_of_not_eq_true hlast
    · cases hs
  | process reason fresh =>
    unfold cycleStep at hs
    dsimp only at hs
    split at hs
    · next d hstage =>
      have hattempt := h.attempt hstage
      unfold DLQProcessor.retry at hs
      split at hs
      · next m hretried =>
        split at hretried
        · cases hretried
        · dsimp only at hretried
          rw [hattempt] at hretried
          split_ifs at hretried with horigin hmax
          obtain rfl := Option.some.inj hs
          refine ⟨?_, nofun, nofun, fun _ => not_le.mp hmax⟩
          intro m' delivered' hstage'
          obtain ⟨-, rfl⟩ := CycleStage.origin.inj hstage'
          exact isLast_zero c
      · next hdropped =>
        split at hdropped
        · cases hdropped
        · dsimp only at hdropped
          rw [hattempt] at hdropped
          split_ifs at hdropped with horigin hmax
          · obtain rfl := Option.some.inj hs
            exact ⟨nofun, nofun, fun _ => hmax, h.republished⟩
          · split at hdropped <;> cases hdropped
      · cases hs
    · cases hs

end Steps

/-! ### The two limits -/

section Rounds

variable {c : Consumer} {q : DLQProcessor} {p p' : Publisher}

lemma publish_unchecked (hp : p.validator = none) {subject : String} (hsubject : subject ≠ "") (data : Bytes)
    (opts : PublishOptions) (fresh : Fresh) :
    ∃ m, p.publish subject data opts fresh = .ok m ∧ m.subject = subject := by
  refine ⟨⟨subject, data, p.headersFor data opts fresh⟩, Publisher.publish_ok_iff.mpr ⟨hsubject, data, ?_, rfl⟩, rfl⟩
  rw [Publisher.prepare, hp]

lemma target_ne_empty (o : SubscribeOptions) (subject : String) : o.target subject ≠ "" := by
  unfold SubscribeOptions.target defaultDLQSubject
  split_ifs with hcustom hdomain
  · decide
  · intro h
    have hlength := congrArg String.length h
    rw [String.length_append] at hlength
    simp at hlength
  · exact hcustom

section Dead

variable (hc : c.dlqProducer = some p) (hp : p.validator = none) (hdeliver : 1 ≤ c.opts.maxDeliver)

include hc hp hdeliver

/-- The deliveries of a message end in a dead letter. -/
lemma run_dead (m : Message) (r : ℕ) {delivered : ℕ} (hd : c.isLast delivered = false) :
    ∃ es d, run (cycleStep c q) ⟨.origin m delivered, r⟩ es = some ⟨.dead (recorded m d), r⟩ := by
  induction hleft : (c.opts.maxDeliver - delivered).toNat generalizing delivered with
  | zero =>
    simp only [Consumer.isLast, Bool.and_eq_false_iff, decide_eq_false_iff_not] at hd
    omega
  | succ n ih =>
    by_cases hlast : c.isLast (delivered + 1) = true
    · obtain ⟨d, hroute, -⟩ := publish_unchecked hp (target_ne_empty c.opts m.subject) m.data _ ⟨"", ""⟩
      have hdead : routeToDLQ p c.opts m (delivered + 1) "" ⟨"", ""⟩ = .ok d := hroute
      refine ⟨[.fail "" ⟨"", ""⟩], d, ?_⟩
      simp only [run_cons, cycleStep, hlast, if_true, hc, hdead, Option.bind_some, run_nil]
    · obtain ⟨es, d, hrun⟩ := ih (Bool.eq_false_of_not_eq_true hlast) (by push_cast; omega)
      refine ⟨.fail "" ⟨"", ""⟩ :: es, d, ?_⟩
      simp only [run_cons, cycleStep, hlast]
      exact hrun

end Dead

/-- The processor drops a dead letter or publishes it on its origin. -/
lemma process_dead (hq : q.republisher = some p') (hp' : p'.validator = none) {m d : Message} (hm : m.subject ≠ "")
    {r : ℕ} (h : Counted c q ⟨.dead (recorded m d), r⟩) : ∃ m', m'.subject = m.subject ∧
      cycleStep c q ⟨.dead (recorded m d), r⟩ (.process "" ⟨"", ""⟩) =
        some (if q.maxRetryAttempts ≤ c.readAttempt then ⟨.dropped, r⟩ else ⟨.origin m' 0, r + 1⟩) := by
  have horigin : ((recorded m d).headers headerOriginSubject).getD "" = m.subject := by
    simp [recorded, Headers.set]
  obtain ⟨m', hpublish, hsubject⟩ := publish_unchecked hp' hm (recorded m d).data
    { headers := retryHeaders (recorded m d).headers (c.readAttempt + 1) "" } ⟨"", ""⟩
  refine ⟨m', hsubject, ?_⟩
  by_cases hmax : q.maxRetryAttempts ≤ c.readAttempt
  · simp only [cycleStep, DLQProcessor.retry, hq, horigin, if_neg hm, h.attempt rfl, if_pos hmax]
  · simp only [cycleStep, DLQProcessor.retry, hq, horigin, if_neg hm, h.attempt rfl, if_neg hmax, hpublish]

variable (hc : c.dlqProducer = some p) (hp : p.validator = none) (hq : q.republisher = some p')
  (hp' : p'.validator = none) (hdeliver : 1 ≤ c.opts.maxDeliver)

include hc hp hq hp' hdeliver

/-- **One round**, from the first delivery to the answer of the processor. -/
lemma run_round {m : Message} (hm : m.subject ≠ "") {r : ℕ} (h : Counted c q ⟨.origin m 0, r⟩) :
    ∃ es m', m'.subject = m.subject ∧ run (cycleStep c q) ⟨.origin m 0, r⟩ es =
      some (if q.maxRetryAttempts ≤ c.readAttempt then ⟨.dropped, r⟩ else ⟨.origin m' 0, r + 1⟩) := by
  obtain ⟨es, d, hrun⟩ := run_dead (q := q) hc hp hdeliver m r (isLast_zero c)
  have hcounted := reach_induct (fun s e s' hI hs => step_counted (e := e) hI hs) h ⟨es, hrun⟩
  obtain ⟨m', hsubject, hstep⟩ := process_dead hq hp' hm hcounted
  refine ⟨es ++ [.process "" ⟨"", ""⟩], m', hsubject, ?_⟩
  rw [run_append, hrun, Option.bind_some, run_cons, hstep]
  rfl

/-- **Dropped at once**, if the deliveries exhaust the retries. -/
theorem dropped_at_once {m : Message} (hm : m.subject ≠ "") (hmax : q.maxRetryAttempts ≤ c.readAttempt) :
    ∃ es, run (cycleStep c q) ⟨.origin m 0, 0⟩ es = some ⟨.dropped, 0⟩ := by
  obtain ⟨es, m', -, hrun⟩ := run_round hc hp hq hp' hdeliver hm (counted_start c q m)
  rw [if_pos hmax] at hrun
  exact ⟨es, hrun⟩

/-- **Retried without end**, if they do not. -/
theorem retried_without_end {m : Message} (hm : m.subject ≠ "") (hmax : c.readAttempt < q.maxRetryAttempts) (n : ℕ) :
    ∃ es m', m'.subject = m.subject ∧ run (cycleStep c q) ⟨.origin m 0, 0⟩ es = some ⟨.origin m' 0, n⟩ := by
  induction n with
  | zero => exact ⟨[], m, rfl, rfl⟩
  | succ n ih =>
    obtain ⟨es, m', hsubject, hrun⟩ := ih
    have hcounted := reach_induct (fun s e s' hI hs => step_counted (e := e) hI hs) (counted_start c q m) ⟨es, hrun⟩
    obtain ⟨es', m'', hsubject', hrun'⟩ := run_round hc hp hq hp' hdeliver (by rwa [hsubject]) hcounted
    rw [if_neg (not_le.mpr hmax)] at hrun'
    refine ⟨es ++ es', m'', hsubject'.trans hsubject, ?_⟩
    rw [run_append, hrun, Option.bind_some, hrun']

end Rounds

/-- **Never exact.** The message is dropped without a retry, or retried without end. -/
theorem dlq_retry_never_exact (c : Consumer) (q : DLQProcessor) (m : Message) (hmax : 1 ≤ q.maxRetryAttempts) :
    ¬ ExactRetries c q m := by
  rintro ⟨⟨es, s, hrun, hdropped⟩, hall⟩
  have hcount := hall es s hrun hdropped
  have h := reach_induct (fun s e s' hI hs => step_counted (e := e) hI hs) (counted_start c q m) ⟨es, hrun⟩
  have hdrop := h.dropped hdropped
  have hretried := h.republished (by omega)
  omega

section Samples

def plainPublisher : Publisher := { json := { peekVersion := fun _ => "", members := fun _ => .ok [] } }

/-- The limits that a consumer and the processor have by default. -/
def defaultConsumer : Consumer := { opts := {}, dlqProducer := some plainPublisher }

def defaultProcessor : DLQProcessor := newDLQProcessor (some plainPublisher) 0

def failingMessage : Message := ⟨"es.evaluate.request", [], fun _ => none⟩

theorem dlq_retry_never_exact_default :
    1 ≤ defaultProcessor.maxRetryAttempts ∧ ¬ ExactRetries defaultConsumer defaultProcessor failingMessage :=
  ⟨by decide, dlq_retry_never_exact _ _ _ (by decide)⟩

/-- After five deliveries the header has a five, and the processor, which retries three times, drops the message. -/
theorem default_limits_drop : ¬ ExactRetries defaultConsumer defaultProcessor failingMessage := by
  rintro ⟨-, hall⟩
  obtain ⟨es, hrun⟩ := dropped_at_once (c := defaultConsumer) (q := defaultProcessor) rfl rfl rfl rfl (by decide)
    (m := failingMessage) (by decide) (by decide)
  exact absurd (hall es _ hrun rfl) (by decide)

end Samples

end Sn360Es.Events
