import Mathlib.Data.List.Basic
import Sn360Es.Events.Publisher

/-!
# Dead letters and their replay (`pkg/events/nats/consumer.go`, `pkg/events/nats/dlq.go`)

A message whose handler failed on its last delivery goes to a dead-letter subject, with the subject it came from
in a header. `Replay` reads the dead-letter stream once and publishes every message on the subject that this
header names.

* `replay_terminates` — over any stream, `Replay` without a limit ends;
* `replay_sent` — what it has published then: one message per dead letter that names an origin;
* `replay_restores_iff` — when these are the messages that failed, on their own subjects.
-/

namespace Sn360Es.Events

open Lib

/-! ### Routing -/

/-- `SubscribeOptions`, as far as dead letters go. -/
structure SubscribeOptions where
  maxDeliver : ℤ := 5
  dlqSubject : String := ""
  deriving DecidableEq, Repr

/-- `domainSegment`: the second segment of a subject below `es`. -/
def domainSegment (subject : String) : String :=
  if "es.".toList <+: subject.toList then String.ofList ((subject.toList.drop 3).takeWhile (· ≠ '.'))
  else ""

/-- `defaultDLQSubject`. -/
def defaultDLQSubject (subject : String) : String :=
  if domainSegment subject = "" then "es.dlq.other" else "es.dlq." ++ domainSegment subject

def SubscribeOptions.target (o : SubscribeOptions) (subject : String) : String :=
  if o.dlqSubject = "" then defaultDLQSubject subject else o.dlqSubject

/-- The publish of `routeToDLQ`. -/
def routeToDLQ (p : Publisher) (o : SubscribeOptions) (m : Message) (delivery : ℕ) (cause : String)
    (fresh : Fresh) : Except PublishError Message :=
  p.publishToDLQ (o.target m.subject) m.data m.headers delivery (some cause) fresh

/-- `splitTokens`. -/
def splitTokens (s : String) : List String :=
  if s = "" then [] else (s.toList.splitOn '.').map String.ofList

/-- The loop of `subjectMatches`. -/
def matchTokens : List String → List String → Bool
  | [], ss => ss.isEmpty
  | p :: ps, ss =>
    if p = ">" then !ss.isEmpty
    else
      match ss with
      | [] => false
      | s :: ss => (p = "*" || p = s) && matchTokens ps ss

/-- `subjectMatches`. -/
def subjectMatches (pattern subject : String) : Bool :=
  pattern = subject || matchTokens (splitTokens pattern) (splitTokens subject)

/-- The subjects of the stream `ES_DLQ`. -/
def isDLQ (subject : String) : Bool := subjectMatches "es.dlq.>" subject

example : defaultDLQSubject "es.evaluate.request" = "es.dlq.evaluate" ∧ isDLQ "es.dlq.evaluate" ∧
    isDLQ "es.evaluate.request" = false := by decide

/-! ### Replaying -/

/-- A message of the stream, with the time it was stored. -/
structure Stored where
  msg : Message
  timestamp : ℤ

structure ReplayOptions where
  limit : ℤ := 0
  maxAge : ℤ := 0
  subject : String := ""
  dryRun : Bool := false
  deriving DecidableEq, Repr

/-- A replay in progress: the stream, the position of the ordered consumer in what it selects, and what was
published. -/
structure ReplayState where
  stream : List Stored
  next : ℕ := 0
  sent : List Message := []
  inspected : ℕ := 0
  replayed : ℕ := 0
  skipped : ℕ := 0
  errors : List PublishError := []

/-- The headers of the replayed copy. -/
def replayHeaders (h : Headers) : Headers :=
  Headers.set
    (fun k => if k ∈ [headerMessageID, headerError, headerDeliveryCount, headerOriginSubject] then none else h k)
    "Replay-Source" "dlq"

section Replay

variable (p : Publisher) (opts : ReplayOptions) (now : ℤ) (fresh : ℕ → Fresh)

/-- `replayOne`. A copy that is published on a subject of the dead-letter stream is appended to the stream that
is being read. -/
def replayOne (st : ReplayState) (jm : Stored) : ReplayState :=
  let st := { st with inspected := st.inspected + 1 }
  let origin := (jm.msg.headers headerOriginSubject).getD ""
  if origin = "" then { st with skipped := st.skipped + 1 }
  else if 0 < opts.maxAge ∧ jm.timestamp < now - opts.maxAge then { st with skipped := st.skipped + 1 }
  else if opts.dryRun then st
  else
    match p.publish origin jm.msg.data { headers := replayHeaders jm.msg.headers } (fresh st.sent.length) with
    | .error err => { st with errors := st.errors ++ [err] }
    | .ok m =>
      { st with
        sent := st.sent ++ [m]
        replayed := st.replayed + 1
        stream := if isDLQ m.subject then st.stream ++ [⟨m, now⟩] else st.stream }

/-- What the ordered consumer selects. -/
def selected (stream : List Stored) : List Stored :=
  if opts.subject = "" then stream else stream.filter fun jm => subjectMatches opts.subject jm.msg.subject

/-- The loop of `Replay`, a batch of at most 50 at a time. -/
def replayLoop : ℕ → ReplayState → Option ReplayState
  | 0, _ => none
  | fuel + 1, st =>
    if 0 < opts.limit ∧ opts.limit ≤ st.replayed then some st
    else
      let batch := ((selected opts st.stream).drop st.next).take 50
      if batch.isEmpty then some st
      else
        replayLoop fuel (batch.foldl (replayOne p opts now fresh) { st with next := st.next + batch.length })

/-- `Replay`, on at most `fuel` fetches. -/
def replay (fuel : ℕ) (stream : List Stored) : Option ReplayState :=
  replayLoop p opts now fresh fuel { stream }

end Replay

/-! ### What a replay publishes -/

section Outcome

variable {p : Publisher} {now : ℤ} {fresh : ℕ → Fresh}

/-- The subject and the payload of a message. -/
def Message.key (m : Message) : String × Bytes := (m.subject, m.data)

/-- What `replayOne` publishes for a message of the stream. -/
def outcome (p : Publisher) (jm : Stored) : Option (String × Bytes) :=
  let origin := (jm.msg.headers headerOriginSubject).getD ""
  if origin = "" then none else (p.prepare origin jm.msg.data).toOption.map fun data => (origin, data)

/-- `st'` is `st` after `items` were replayed: their outcomes were published, and the stream has grown by
messages without an outcome, at most one per outcome. -/
structure Advances (p : Publisher) (items : List Stored) (st st' : ReplayState) : Prop where
  sent : st'.sent.map Message.key = st.sent.map Message.key ++ items.filterMap (outcome p)
  next : st'.next = st.next
  stream : ∃ extra, st'.stream = st.stream ++ extra ∧ extra.filterMap (outcome p) = [] ∧
    extra.length ≤ (items.filterMap (outcome p)).length

lemma Advances.trans {items items' : List Stored} {st st' st'' : ReplayState} (h : Advances p items st st')
    (h' : Advances p items' st' st'') : Advances p (items ++ items') st st'' := by
  obtain ⟨extra, hs, hn, hl⟩ := h.stream
  obtain ⟨extra', hs', hn', hl'⟩ := h'.stream
  refine ⟨?_, h'.next.trans h.next, extra ++ extra', ?_, ?_, ?_⟩
  · rw [h'.sent, h.sent, List.filterMap_append, List.append_assoc]
  · rw [hs', hs, List.append_assoc]
  · rw [List.filterMap_append, hn, hn']
    rfl
  · rw [List.filterMap_append, List.length_append, List.length_append]
    omega

/-- A replayed copy names no origin, so it is skipped when it is read again. -/
lemma outcome_copy {subject : String} {data : Bytes} {h : Headers} {f : Fresh} {m : Message} {t : ℤ}
    (hm : p.publish subject data { headers := replayHeaders h } f = .ok m) : outcome p ⟨m, t⟩ = none := by
  obtain ⟨-, d, -, rfl⟩ := Publisher.publish_ok_iff.mp hm
  have horigin : p.headersFor d { headers := replayHeaders h } f headerOriginSubject = none := by
    have hne : headerOriginSubject ≠ "Replay-Source" := by decide
    rw [Publisher.headersFor_origin]
    simp [replayHeaders, Headers.set, Function.update_of_ne hne]
  simp [outcome, horigin]

lemma replayOne_advances (st : ReplayState) (jm : Stored) :
    Advances p [jm] st (replayOne p {} now fresh st jm) := by
  have hsame : ∀ st' : ReplayState, outcome p jm = none → st'.sent = st.sent → st'.next = st.next →
      st'.stream = st.stream → Advances p [jm] st st' := by
    intro st' hout h1 h2 h3
    refine ⟨?_, h2, [], ?_, rfl, Nat.zero_le _⟩
    · simp [hout, h1]
    · rw [h3, List.append_nil]
  unfold replayOne
  by_cases horigin : (jm.msg.headers headerOriginSubject).getD "" = ""
  · simp only [horigin, if_true]
    exact hsame _ (by simp [outcome, horigin]) rfl rfl rfl
  simp only [horigin, if_false, lt_irrefl, false_and, Bool.false_eq_true]
  split
  · next err herr =>
    refine hsame _ ?_ rfl rfl rfl
    have hprep : (p.prepare ((jm.msg.headers headerOriginSubject).getD "") jm.msg.data).toOption = none := by
      cases hd : p.prepare ((jm.msg.headers headerOriginSubject).getD "") jm.msg.data with
      | error e => rfl
      | ok d => simp [Publisher.publish, horigin, hd] at herr
    simp [outcome, horigin, hprep]
  · next m hm =>
    obtain ⟨-, d, hd, hmd⟩ := Publisher.publish_ok_iff.mp hm
    have hout : outcome p jm = some m.key := by
      simp [outcome, horigin, hd, Except.toOption, ← hmd, Message.key]
    refine ⟨by simp [hout], rfl, ?_⟩
    by_cases hdlq : isDLQ m.subject = true
    · exact ⟨[⟨m, now⟩], by simp [hdlq], by simp [outcome_copy hm], by simp [hout]⟩
    · exact ⟨[], by simp [hdlq], rfl, Nat.zero_le _⟩

lemma foldl_advances (items : List Stored) (st : ReplayState) :
    Advances p items st (items.foldl (replayOne p {} now fresh) st) := by
  induction items generalizing st with
  | nil => exact ⟨by simp, rfl, [], by simp, rfl, Nat.zero_le _⟩
  | cons jm items ih => exact (replayOne_advances st jm).trans (ih _)

/-- The next batch of the loop. -/
def nextBatch (st : ReplayState) : List Stored := (st.stream.drop st.next).take 50

/-- The state after that batch. -/
def afterBatch (p : Publisher) (now : ℤ) (fresh : ℕ → Fresh) (st : ReplayState) : ReplayState :=
  (nextBatch st).foldl (replayOne p {} now fresh) { st with next := st.next + (nextBatch st).length }

lemma replayLoop_succ (fuel : ℕ) (st : ReplayState) : replayLoop p {} now fresh (fuel + 1) st =
    if (nextBatch st).isEmpty then some st else replayLoop p {} now fresh fuel (afterBatch p now fresh st) := by
  simp [replayLoop, selected, nextBatch, afterBatch]

/-- The stream is the one that `Replay` found, grown by copies, and what was read of it has been published. -/
structure Replayed (p : Publisher) (found : List Stored) (st : ReplayState) : Prop where
  stream : ∃ copies, st.stream = found ++ copies ∧ copies.filterMap (outcome p) = []
  next : st.next ≤ st.stream.length
  sent : st.sent.map Message.key = (st.stream.take st.next).filterMap (outcome p)

lemma afterBatch_advances (p : Publisher) (now : ℤ) (fresh : ℕ → Fresh) (st : ReplayState) :
    Advances p (nextBatch st) { st with next := st.next + (nextBatch st).length } (afterBatch p now fresh st) :=
  foldl_advances _ _

lemma nextBatch_le {found : List Stored} {st : ReplayState} (h : Replayed p found st) :
    st.next + (nextBatch st).length ≤ st.stream.length := by
  have hle := h.next
  simp only [nextBatch, List.length_take, List.length_drop]
  omega

lemma afterBatch_replayed {found : List Stored} {st : ReplayState} (h : Replayed p found st) :
    Replayed p found (afterBatch p now fresh st) := by
  obtain ⟨copies, hs, hn⟩ := h.stream
  have hadv := afterBatch_advances p now fresh st
  obtain ⟨extra, hs', hn', -⟩ := hadv.stream
  have hnext := nextBatch_le h
  have hread : (afterBatch p now fresh st).stream.take (afterBatch p now fresh st).next =
      st.stream.take st.next ++ nextBatch st := by
    rw [hadv.next, hs', List.take_append_of_le_length hnext, List.take_add]
    congr 1
    simp [nextBatch]
  refine ⟨⟨copies ++ extra, ?_, ?_⟩, ?_, ?_⟩
  · rw [hs', hs, List.append_assoc]
  · rw [List.filterMap_append, hn, hn']
    rfl
  · rw [hadv.next, hs', List.length_append]
    exact hnext.trans (Nat.le_add_right _ _)
  · rw [hread, List.filterMap_append, hadv.sent, ← h.sent]

/-- The work that is left: the messages still to be read, and those of them that will be published, each of
which may put one more message into the stream. -/
def remaining (p : Publisher) (st : ReplayState) : ℕ :=
  (st.stream.drop st.next).length + ((st.stream.drop st.next).filterMap (outcome p)).length

lemma remaining_afterBatch (now : ℤ) (fresh : ℕ → Fresh) {found : List Stored} {st : ReplayState}
    (h : Replayed p found st) (hne : nextBatch st ≠ []) : remaining p (afterBatch p now fresh st) < remaining p st := by
  have hadv := afterBatch_advances p now fresh st
  obtain ⟨extra, hs, hn, hlen⟩ := hadv.stream
  have hnext := nextBatch_le h
  -- the unread part loses the batch and gains the copies
  have hsplit : st.stream.drop st.next =
      nextBatch st ++ st.stream.drop (st.next + (nextBatch st).length) := by
    have htake : nextBatch st = (st.stream.drop st.next).take (nextBatch st).length := by
      simp [nextBatch]
    conv_lhs => rw [← List.take_append_drop (nextBatch st).length (st.stream.drop st.next)]
    rw [← htake, List.drop_drop]
  have hrest : (afterBatch p now fresh st).stream.drop (afterBatch p now fresh st).next =
      st.stream.drop (st.next + (nextBatch st).length) ++ extra := by
    rw [hadv.next, hs, List.drop_append_of_le_length hnext]
  have hpos : 0 < (nextBatch st).length := List.length_pos_iff.mpr hne
  unfold remaining
  rw [hrest, hsplit, List.filterMap_append, List.filterMap_append, hn]
  simp only [List.length_append, List.length_nil]
  omega

lemma replayLoop_isSome {found : List Stored} (fuel : ℕ) {st : ReplayState} (h : Replayed p found st)
    (hfuel : remaining p st < fuel) : (replayLoop p {} now fresh fuel st).isSome := by
  induction fuel generalizing st with
  | zero => omega
  | succ fuel ih =>
    rw [replayLoop_succ]
    split
    · rfl
    · next hne =>
      have hdecr := remaining_afterBatch now fresh h (by simpa using hne)
      exact ih (afterBatch_replayed h) (by omega)

/-- **Termination.** `Replay` without a limit comes to an end, also when copies land in the stream it reads. -/
theorem replay_terminates (p : Publisher) (now : ℤ) (fresh : ℕ → Fresh) (stream : List Stored) :
    ∃ fuel st, replay p {} now fresh fuel stream = some st := by
  have h : Replayed p stream { stream } := ⟨⟨[], by simp, rfl⟩, Nat.zero_le _, rfl⟩
  exact ⟨_, Option.isSome_iff_exists.mp (replayLoop_isSome _ h (Nat.lt_succ_self _))⟩

lemma replayLoop_sent {found : List Stored} {fuel : ℕ} {st st' : ReplayState} (h : Replayed p found st)
    (hrun : replayLoop p {} now fresh fuel st = some st') :
    st'.sent.map Message.key = found.filterMap (outcome p) := by
  induction fuel generalizing st with
  | zero => cases hrun
  | succ fuel ih =>
    rw [replayLoop_succ] at hrun
    split at hrun
    · next hempty =>
      obtain rfl := Option.some.inj hrun
      obtain ⟨copies, hs, hn⟩ := h.stream
      have hall : st.stream.length ≤ st.next := by
        have hnil : nextBatch st = [] := by simpa using hempty
        simpa [nextBatch] using hnil
      rw [h.sent, List.take_of_length_le hall, hs, List.filterMap_append, hn, List.append_nil]
    · exact ih (afterBatch_replayed h) hrun

/-- **What is published.** One message for every dead letter that names an origin which takes it. -/
theorem replay_sent {stream : List Stored} {fuel : ℕ} {st : ReplayState}
    (h : replay p {} now fresh fuel stream = some st) :
    st.sent.map Message.key = stream.filterMap (outcome p) :=
  replayLoop_sent ⟨⟨[], by simp, rfl⟩, Nat.zero_le _, rfl⟩ h

end Outcome

/-! ### The round trip -/

/-- A message that is published and fails until its consumer routes it to the dead letters. -/
structure Failure where
  subject : String
  data : Bytes
  opts : PublishOptions := {}
  sub : SubscribeOptions := {}
  delivery : ℕ
  cause : String
  published : Fresh
  routed : Fresh
  storedAt : ℤ

/-- The message goes out as `m`, and its dead letter is `d`. -/
structure Failure.Routes (p : Publisher) (x : Failure) (m d : Message) : Prop where
  publish : p.publish x.subject x.data x.opts x.published = .ok m
  route : routeToDLQ p x.sub m x.delivery x.cause x.routed = .ok d

/-- The subject that the dead letter names as its origin: the one its publisher gave, else the dead-letter
subject itself. -/
def Failure.origin (x : Failure) : String :=
  let given := (x.opts.headers headerOriginSubject).getD ""
  if given = "" then x.sub.target x.subject else given

/-- The dead letter names the subject of the message, and publishing the payload there again, after it was
published to the dead letters, leaves it as it is. -/
structure Failure.Restorable (p : Publisher) (x : Failure) (payload : Bytes) : Prop where
  origin : x.origin = x.subject
  subject : isDLQ x.subject = false
  payload : (p.prepare (x.sub.target x.subject) payload).bind (p.prepare x.subject) = .ok payload

section RoundTrip

variable {p : Publisher} {x : Failure} {m d : Message}

lemma Failure.Routes.origin (h : x.Routes p m d) :
    d.headers headerOriginSubject = some x.origin ∧ x.origin ≠ "" := by
  obtain ⟨-, payload, -, hm⟩ := Publisher.publish_ok_iff.mp h.publish
  obtain ⟨htarget, data, -, hd⟩ := Publisher.publish_ok_iff.mp h.route
  have hgiven : m.headers headerOriginSubject = x.opts.headers headerOriginSubject := by
    rw [← hm]
    exact Publisher.headersFor_origin _ _ _ _
  have hsubject : m.subject = x.subject := by rw [← hm]
  constructor
  · rw [← hd]
    simp only [Publisher.headersFor_origin]
    have h1 : headerOriginSubject ≠ headerError := by decide
    have h2 : headerOriginSubject ≠ headerDeliveryCount := by decide
    simp only [Publisher.dlqHeaders, Headers.set, Function.update_of_ne h1, Function.update_of_ne h2,
      Function.update_self, hgiven, hsubject]
    rfl
  · unfold Failure.origin
    dsimp only
    split
    · rw [← hsubject]
      exact htarget
    · next hne => exact hne

lemma Failure.Routes.outcome_eq (h : x.Routes p m d) (t : ℤ) :
    outcome p ⟨d, t⟩ =
      ((p.prepare (x.sub.target x.subject) m.data).bind (p.prepare x.origin)).toOption.map (x.origin, ·) := by
  obtain ⟨horigin, hne⟩ := h.origin
  obtain ⟨-, payload, -, hm⟩ := Publisher.publish_ok_iff.mp h.publish
  obtain ⟨-, data, hdata, hd⟩ := Publisher.publish_ok_iff.mp h.route
  have hsubject : m.subject = x.subject := by rw [← hm]
  have hsame : d.data = data := by rw [← hd]
  rw [hsubject] at hdata
  simp [outcome, horigin, hne, hsame, hdata, Except.bind]

lemma Failure.Routes.outcome_iff (h : x.Routes p m d) (hdlq : isDLQ x.subject = false) (t : ℤ) :
    outcome p ⟨d, t⟩ = some (x.subject, m.data) ↔ x.Restorable p m.data := by
  rw [h.outcome_eq, Option.map_eq_some_iff]
  constructor
  · rintro ⟨data, hdata, heq⟩
    obtain ⟨horigin, rfl⟩ := Prod.mk.inj heq
    rw [horigin] at hdata
    refine ⟨horigin, hdlq, ?_⟩
    cases hb : (p.prepare (x.sub.target x.subject) m.data).bind (p.prepare x.subject) with
    | error err => rw [hb] at hdata; cases hdata
    | ok out => rw [hb] at hdata; exact congrArg Except.ok (Option.some.inj hdata)
  · intro hr
    refine ⟨m.data, ?_, ?_⟩
    · rw [hr.origin, hr.payload]
      rfl
    · rw [hr.origin]

end RoundTrip

lemma filterMap_eq_map_iff {α β : Type*} {f : α → Option β} {g : α → β} (xs : List α) :
    xs.filterMap f = xs.map g ↔ ∀ x ∈ xs, f x = some (g x) := by
  constructor
  · intro h
    induction xs with
    | nil => simp
    | cons x xs ih =>
      rw [List.map_cons] at h
      cases hx : f x with
      | none =>
        rw [List.filterMap_cons_none hx] at h
        have hlen := List.length_filterMap_le f xs
        rw [h, List.length_cons, List.length_map] at hlen
        omega
      | some y =>
        rw [List.filterMap_cons_some hx, List.cons.injEq] at h
        intro x' hx'
        rcases List.mem_cons.mp hx' with rfl | hmem
        · rw [hx, h.1]
        · exact ih h.2 x' hmem
  · intro h
    rw [List.filterMap_congr h]
    simp

/-- **The round trip.** Replaying the dead letters publishes every message that failed on its own subject, with
its own payload and never on a dead-letter subject, exactly when each of them is restorable. -/
theorem replay_restores_iff (p : Publisher) (xs : List Failure) (m d : Failure → Message)
    (hroutes : ∀ x ∈ xs, x.Routes p (m x) (d x)) (now : ℤ) (fresh : ℕ → Fresh) :
    (∃ fuel st, replay p {} now fresh fuel (xs.map fun x => ⟨d x, x.storedAt⟩) = some st ∧
      st.sent.map Message.key = xs.map (fun x => (x.subject, (m x).data)) ∧
      ∀ c ∈ st.sent, isDLQ c.subject = false) ↔
    ∀ x ∈ xs, x.Restorable p (m x).data := by
  have hkey : ∀ x ∈ xs, isDLQ x.subject = false →
      (outcome p ⟨d x, x.storedAt⟩ = some (x.subject, (m x).data) ↔ x.Restorable p (m x).data) :=
    fun x hx hdlq => (hroutes x hx).outcome_iff hdlq x.storedAt
  constructor
  · rintro ⟨fuel, st, hrun, hsent, hdlq⟩
    -- every subject that was published on is one of the subjects of the messages
    have hsubject : ∀ x ∈ xs, isDLQ x.subject = false := by
      intro x hx
      have hmem : (x.subject, (m x).data) ∈ st.sent.map Message.key := by
        rw [hsent]
        exact List.mem_map_of_mem hx
      obtain ⟨c, hc, heq⟩ := List.mem_map.mp hmem
      rw [← (Prod.mk.inj heq).1]
      exact hdlq c hc
    have houtcome := replay_sent hrun
    rw [hsent, List.filterMap_map] at houtcome
    intro x hx
    exact (hkey x hx (hsubject x hx)).mp ((filterMap_eq_map_iff xs).mp houtcome.symm x hx)
  · intro h
    obtain ⟨fuel, st, hrun⟩ := replay_terminates p now fresh (xs.map fun x => ⟨d x, x.storedAt⟩)
    have hsent : st.sent.map Message.key = xs.map (fun x => (x.subject, (m x).data)) := by
      rw [replay_sent hrun, List.filterMap_map]
      exact (filterMap_eq_map_iff xs).mpr fun x hx => (hkey x hx (h x hx).subject).mpr (h x hx)
    refine ⟨fuel, st, hrun, hsent, ?_⟩
    intro c hc
    have hmem : c.key ∈ xs.map (fun x => (x.subject, (m x).data)) := hsent ▸ List.mem_map_of_mem hc
    obtain ⟨x, hx, heq⟩ := List.mem_map.mp hmem
    have hc' : c.subject = x.subject := congrArg Prod.fst heq.symm
    rw [hc']
    exact (h x hx).subject

section Samples

/-- A publisher without schemas. -/
def barePublisher : Publisher :=
  { json := { peekVersion := fun _ => "", members := fun _ => .ok [] } }

/-- A request that failed five times; `headers` are the ones its publisher gave. -/
def failedRequest (headers : Headers) : Failure :=
  { subject := "es.evaluate.request"
    data := bytesOf "\x7b\x7d"
    opts := { messageID := "m-1", headers }
    delivery := 5
    cause := "boom"
    published := ⟨"u-1", "t-1"⟩
    routed := ⟨"u-2", "t-2"⟩
    storedAt := 0 }

/-- The request as it goes out. -/
def sentRequest (headers : Headers) : Message :=
  { subject := "es.evaluate.request"
    data := bytesOf "\x7b\x7d"
    headers := barePublisher.headersFor (bytesOf "\x7b\x7d") { messageID := "m-1", headers } ⟨"u-1", "t-1"⟩ }

/-- Its dead letter. -/
def deadRequest (headers : Headers) : Message :=
  { subject := "es.dlq.evaluate"
    data := bytesOf "\x7b\x7d"
    headers := barePublisher.headersFor (bytesOf "\x7b\x7d")
      { messageID := "dlq-m-1"
        headers := Publisher.dlqHeaders "es.dlq.evaluate" (sentRequest headers).headers 5 (some "boom") }
      ⟨"u-2", "t-2"⟩ }

/-- The headers of a publisher that names the subject itself. -/
def originGiven : Headers := Headers.set (fun _ => none) headerOriginSubject "es.evaluate.request"

theorem replay_restores_originGiven :
    ∃ fuel st,
      replay barePublisher {} 0 (fun _ => ⟨"u-3", "t-3"⟩) fuel [⟨deadRequest originGiven, 0⟩] = some st ∧
      st.sent.map Message.key = [("es.evaluate.request", bytesOf "\x7b\x7d")] ∧
      ∀ c ∈ st.sent, isDLQ c.subject = false := by
  refine (replay_restores_iff barePublisher [failedRequest originGiven] (fun _ => sentRequest originGiven)
    (fun _ => deadRequest originGiven) ?_ 0 _).mpr ?_
  · intro x hx
    obtain rfl := List.mem_singleton.mp hx
    exact ⟨rfl, rfl⟩
  · intro x hx
    obtain rfl := List.mem_singleton.mp hx
    exact ⟨rfl, by decide, rfl⟩

/-- Without that header the dead letter names its own subject, and the copy goes there. -/
theorem replay_republishes_dead_letter :
    (failedRequest fun _ => none).Routes barePublisher (sentRequest fun _ => none)
      (deadRequest fun _ => none) ∧
    ∀ now fresh, ¬ ∃ fuel st,
      replay barePublisher {} now fresh fuel [⟨deadRequest fun _ => none, 0⟩] = some st ∧
      st.sent.map Message.key = [("es.evaluate.request", bytesOf "\x7b\x7d")] ∧
      ∀ c ∈ st.sent, isDLQ c.subject = false := by
  refine ⟨⟨rfl, rfl⟩, ?_⟩
  rintro now fresh ⟨fuel, st, hrun, hsent, -⟩
  have hout := replay_sent hrun
  rw [hsent] at hout
  revert hout
  decide

end Samples

end Sn360Es.Events
