import Sn360Es.Events.DeadLetter
import Sn360Es.Lib.Lts
import Sn360Es.Lib.StreamGroup

/-!
# The Redis Streams bus (`pkg/events/redis/service.go`)

A subject is a stream; the processes that subscribe with one durable name share a consumer group on it. Each
runs two loops: `runRead` takes new entries, `runClaim` takes over entries that nobody has acknowledged for
`PendingMinIdle`. Both hand their batch to `handle`, one message after the other, and `handle` settles: it
acknowledges what succeeded, and moves what failed too often to the dead letters.

A step is one call to Redis, one act of a handler, the death of a process, or the passing of time. A call may
fail without having been carried out, and also after it.

* `Intact`, `LoopOk` — what the servers hold and what a loop knows; `step_inv`, every step keeps it;
* `redis_never_loses` — an entry of the newest `MaxStreamLength` is unread, pending, or settled, in every
  interleaving;
* `dead_letters_are_due` — a dead letter is a copy of an entry that was delivered `MaxDeliver` times or more.

An entry id stands for the place of the entry in the stream. `Publish`'s retries are more `publish` steps; trace
context and logs are left out.
-/

namespace Sn360Es.Events.Redis

open Lib Lib.Lts Lib.StreamGroup

/-! ### Entries -/

/-- The fields of an entry. A Go string is a sequence of bytes. -/
abbrev Fields := String → Option Bytes

def Fields.set (f : Fields) (key : String) (value : Bytes) : Fields := Function.update f key (some value)

def Fields.setNonempty (f : Fields) (key value : String) : Fields :=
  if value = "" then f else f.set key (bytesOf value)

def dataField : String := "data"

/-- Set by `handle` on its copy of the fields. -/
def originField : String := "__origin_subject"

/-- The values that `Publish` adds; the headers of the options come last. -/
def publishValues (source : String) (data : Bytes) (o : PublishOptions) (enqueuedAt : String) : Fields :=
  let f : Fields := fun _ => none
  let f := (f.set dataField data).set headerEnqueuedAt (bytesOf enqueuedAt)
  let f := f.setNonempty headerMessageID o.messageID
  let f := f.setNonempty headerCorrelationID o.correlationID
  let f := f.setNonempty headerTenantID o.tenantID
  let f := f.setNonempty headerEventType o.eventType
  let f := f.setNonempty headerSource source
  fun k => ((o.headers k).map bytesOf).or (f k)

/-- `message.Data`. -/
def dataOf (f : Fields) : Bytes := (f dataField).getD []

/-- The values that `publishToDLQ` adds for the fields of `handle`. -/
def deadLetterValues (f : Fields) (delivery : ℕ) (cause : String) : Fields :=
  let h := f.set headerDeliveryCount (bytesOf (toString delivery))
  let h := h.set headerError (bytesOf cause)
  let h := h.set headerOriginSubject ((f originField).getD [])
  h.set dataField (dataOf f)

/-- `defaultDLQSubject`. -/
def defaultDLQSubject (subject : String) : String :=
  if "es.".toList <+: subject.toList then
    let rest := subject.toList.drop 3
    if '.' ∈ rest then "es.dlq." ++ String.ofList (rest.takeWhile (· ≠ '.'))
    else if rest = [] then "es.dlq.other"
    else "es.dlq." ++ String.ofList rest
  else "es.dlq.other"

/-! ### The subscription -/

/-- A subscription, with what `Config` gives it. Times are in milliseconds; an `opts.MaxDeliver` that is not
positive means no dead letters. -/
structure Subscription where
  subject : String
  opts : SubscribeOptions := {}
  batchSize : ℤ := 10
  pendingMinIdle : ℕ := 30000
  maxStreamLength : ℕ := 100000

namespace Subscription

variable (c : Subscription)

/-- The `COUNT` of `XREADGROUP`. -/
def readCount : ℕ := if c.batchSize ≤ 0 then 10 else c.batchSize.toNat

/-- The `COUNT` of `XAUTOCLAIM`. A negative one is not sent, and Redis takes 100. -/
def claimCount : ℕ := if c.batchSize = 0 then 10 else if c.batchSize < 0 then 100 else c.batchSize.toNat

/-- `orDefault(PendingMinIdle, 30*time.Second)`, which is also the period of the ticker of `runClaim`. -/
def minIdle : ℕ := if c.pendingMinIdle = 0 then 30000 else c.pendingMinIdle

/-- The tick after one that is received at `now`. The channel of a ticker holds one tick, and the others are dropped. -/
def nextTick (tick now : ℕ) : ℕ := tick + c.minIdle * ((now - tick) / c.minIdle + 1)

def dlq : String := if c.opts.dlqSubject = "" then defaultDLQSubject c.subject else c.opts.dlqSubject

/-- The fields that `handle` works on. -/
def fieldsOf (values : Fields) : Fields := values.set originField (bytesOf c.subject)

/-- `s.opts.MaxDeliver > 0 && delivery >= int64(s.opts.MaxDeliver)`. -/
def isLast (delivery : ℕ) : Bool := 0 < c.opts.maxDeliver && c.opts.maxDeliver ≤ delivery

end Subscription

section Letters

variable {c : Subscription} {values : Fields} {delivery : ℕ} {cause : String}

lemma dataOf_deadLetterValues :
    dataOf (deadLetterValues (c.fieldsOf values) delivery cause) = dataOf values := by
  have hne : dataField ≠ originField := by decide
  simp [deadLetterValues, dataOf, Fields.set, Subscription.fieldsOf, Function.update_of_ne hne]

lemma deadLetterValues_origin :
    deadLetterValues (c.fieldsOf values) delivery cause headerOriginSubject = some (bytesOf c.subject) := by
  have hne : headerOriginSubject ≠ dataField := by decide
  simp [deadLetterValues, Fields.set, Subscription.fieldsOf, Function.update_of_ne hne]

lemma deadLetterValues_error :
    deadLetterValues (c.fieldsOf values) delivery cause headerError = some (bytesOf cause) := by
  have hne : headerError ≠ dataField := by decide
  have hne' : headerError ≠ headerOriginSubject := by decide
  simp [deadLetterValues, Fields.set, Function.update_of_ne hne, Function.update_of_ne hne']

lemma deadLetterValues_count : deadLetterValues (c.fieldsOf values) delivery cause headerDeliveryCount =
    some (bytesOf (toString delivery)) := by
  have hne : headerDeliveryCount ≠ dataField := by decide
  have hne' : headerDeliveryCount ≠ headerOriginSubject := by decide
  have hne'' : headerDeliveryCount ≠ headerError := by decide
  simp only [deadLetterValues, Fields.set, Function.update_of_ne hne, Function.update_of_ne hne',
    Function.update_of_ne hne'', Function.update_self]

lemma deadLetterValues_other {k : String}
    (hk : k ∉ [dataField, originField, headerDeliveryCount, headerError, headerOriginSubject]) :
    deadLetterValues (c.fieldsOf values) delivery cause k = values k := by
  simp only [List.mem_cons, List.not_mem_nil, or_false, not_or] at hk
  obtain ⟨h₁, h₂, h₃, h₄, h₅⟩ := hk
  simp only [deadLetterValues, Subscription.fieldsOf, Fields.set, Function.update_of_ne h₁, Function.update_of_ne h₂,
    Function.update_of_ne h₃, Function.update_of_ne h₄, Function.update_of_ne h₅]

end Letters

/-! ### The state -/

structure XMessage where
  id : ℕ
  values : Fields

/-- How far `handle` has come with a message. -/
inductive Stage where
  /-- The handler runs; `terminal` says whether it has called `Ack` or `Nak`. -/
  | handler (terminal : Bool)
  /-- The handler has failed, and `deliveryCount` is asked. -/
  | counting (cause : String)
  | deadLetter (delivery : ℕ) (cause : String)
  | ack
  deriving DecidableEq, Repr

/-- A loop of a subscription: the messages it still has to handle, of which the first is at `stage`. -/
structure Loop where
  batch : List XMessage := []
  stage : Stage := .handler false

def Loop.next (l : Loop) : Loop := { batch := l.batch.tail }

inductive Which where
  | read
  | claim
  deriving DecidableEq, Repr

/-- `tick` is the time of the first tick that `runClaim` has not received yet. -/
structure Process where
  reader : Loop := {}
  claimer : Loop := {}
  cursor : ℕ := 0
  tick : ℕ

namespace Process

def loop (x : Process) : Which → Loop
  | .read => x.reader
  | .claim => x.claimer

def setLoop (x : Process) (w : Which) (l : Loop) : Process :=
  match w with
  | .read => { x with reader := l }
  | .claim => { x with claimer := l }

end Process

/-- A dead letter that was stored: the entry, the count and the error it was written with. -/
structure Letter where
  id : ℕ
  delivery : ℕ
  cause : String
  deriving DecidableEq, Repr

structure State where
  now : ℕ := 0
  streams : String → Stream Fields := fun _ => {}
  group : Option Group := none
  procs : ℕ → Option Process := fun _ => none
  /-- The last entry when the group was created; it begins after that. -/
  start : ℕ := 0
  /-- What was handed out so far, as often as it was. -/
  delivered : List ℕ := []
  /-- What a handler acknowledged: it called `Ack`, or returned no error and had not called `Nak`. -/
  done : List ℕ := []
  letters : List Letter := []

/-- What the caller sees of a call to Redis. -/
inductive Reply where
  | ok
  /-- Carried out, but the caller sees an error. -/
  | unseen
  | refused
  deriving DecidableEq, Repr

def Reply.executed (r : Reply) : Bool := r ≠ .refused

/-- What happens next in `handle`. -/
inductive Act where
  /-- The handler calls `Ack`. -/
  | handlerAck (reply : Reply)
  | handlerNak
  | handlerReturn (err : Option String)
  | count (seen : Bool)
  | deadLetter (reply : Reply) (trimTo : ℕ)
  | ack (reply : Reply)

inductive Label where
  | publish (subject : String) (values : Fields) (trimTo : ℕ)
  | subscribe (p : ℕ) (seen : Bool)
  | read (p : ℕ) (seen : Bool)
  | claim (p : ℕ) (seen : Bool)
  | handle (p : ℕ) (w : Which) (a : Act)
  | crash (p : ℕ)
  | elapse (d : ℕ)

/-! ### Steps -/

namespace State

variable (c : Subscription) (s : State)

def stream : Stream Fields := s.streams c.subject

/-- `XADD`. -/
def add (subject : String) (values : Fields) (trimTo : ℕ) : Option State :=
  ((s.streams subject).add c.maxStreamLength trimTo values).map fun st =>
    { s with streams := Function.update s.streams subject st }

/-- `XACK`. -/
def xack (reply : Reply) (id : ℕ) : State :=
  if reply.executed then { s with group := s.group.map (·.ack id) } else s

/-- `deliveryCount`: an entry that is not pending counts as delivered once. -/
def deliveryCount (id : ℕ) : ℕ := ((s.group.bind (·.retryCount id)).getD 1)

/-- The messages that go to the client. -/
def messages (ids : List ℕ) : List XMessage := ids.filterMap fun id => ((s.stream c).get? id).map (⟨id, ·⟩)

/-- What `XREADGROUP` and `XAUTOCLAIM` do: the group changes, and `ids` are handed out. -/
def hand (g : Group) (ids : List ℕ) : State := { s with group := some g, delivered := s.delivered ++ ids }

def setProc (p : ℕ) (x : Option Process) : State := { s with procs := Function.update s.procs p x }

end State

/-- A step of `handle` on the message `m`, with the loop that runs it. -/
def handleStep (c : Subscription) (s : State) (l : Loop) (m : XMessage) : Act → Option (State × Loop)
  | .handlerAck reply =>
    match l.stage with
    | .handler _ =>
      some (({ s with done := m.id :: s.done }).xack reply m.id, { l with stage := .handler true })
    | _ => none
  | .handlerNak =>
    match l.stage with
    | .handler _ => some (s, { l with stage := .handler true })
    | _ => none
  | .handlerReturn err =>
    match l.stage, err with
    | .handler true, none => some (s, l.next)
    | .handler false, none => some ({ s with done := m.id :: s.done }, { l with stage := .ack })
    | .handler _, some cause => some (s, { l with stage := .counting cause })
    | _, _ => none
  | .count seen =>
    match l.stage with
    | .counting cause =>
      let delivery := if seen then s.deliveryCount m.id else 0
      if c.isLast delivery then some (s, { l with stage := .deadLetter delivery cause }) else some (s, l.next)
    | _ => none
  | .deadLetter reply trimTo =>
    match l.stage with
    | .deadLetter delivery cause =>
      if reply.executed then
        (s.add c c.dlq (deadLetterValues (c.fieldsOf m.values) delivery cause) trimTo).map fun s =>
          ({ s with letters := ⟨m.id, delivery, cause⟩ :: s.letters },
            if reply = .ok then { l with stage := .ack } else l.next)
      else some (s, l.next)
    | _ => none
  | .ack reply =>
    match l.stage with
    | .ack => some (s.xack reply m.id, l.next)
    | _ => none

/-- `ensureGroup`: the group begins at the end of the stream, unless it exists. -/
def ensureGroup (c : Subscription) (s : State) : State :=
  match s.group with
  | some _ => s
  | none => { s with group := some { lastDelivered := (s.stream c).lastId }, start := (s.stream c).lastId }

def step (c : Subscription) (s : State) : Label → Option State
  | .publish subject values trimTo => s.add c subject values trimTo
  | .subscribe p seen =>
    if s.procs p = none then
      some (if seen then (ensureGroup c s).setProc p (some { tick := s.now + c.minIdle }) else ensureGroup c s)
    else none
  | .read p seen =>
    match s.procs p, s.group with
    | some x, some g =>
      if x.reader.batch.isEmpty then
        let r := g.read (s.stream c) s.now c.readCount
        some ((s.hand r.1 r.2).setProc p (some { x with reader := { batch := if seen then s.messages c r.2 else [] } }))
      else none
    | _, _ => none
  | .claim p seen =>
    match s.procs p, s.group with
    | some x, some g =>
      if x.claimer.batch.isEmpty ∧ x.tick ≤ s.now then
        let r := g.autoClaim (s.stream c) s.now c.minIdle x.cursor c.claimCount
        some ((s.hand r.1 r.2.claimed).setProc p (some { x with
          claimer := { batch := if seen then s.messages c r.2.claimed else [] }
          cursor := if seen then r.2.cursor else x.cursor
          tick := c.nextTick x.tick s.now }))
      else none
    | _, _ => none
  | .handle p w a =>
    (s.procs p).bind fun x =>
      match (x.loop w).batch with
      | [] => none
      | m :: _ => (handleStep c s (x.loop w) m a).map fun r => r.1.setProc p (some (x.setLoop w r.2))
  | .crash p => some (s.setProc p none)
  | .elapse d => some { s with now := s.now + d }

/-! ### What holds in every state -/

/-- A handler has acknowledged the entry, or it was stored as a dead letter. -/
def Settled (s : State) (id : ℕ) : Prop := id ∈ s.done ∨ ∃ d ∈ s.letters, d.id = id

/-- The dead letter was written after as many deliveries as it says and as the subscription asks for, and it is a
copy of the entry. -/
structure Due (c : Subscription) (s : State) (d : Letter) : Prop where
  last : c.isLast d.delivery = true
  count : d.delivery ≤ s.delivered.count d.id
  copy : ∃ values, (s.stream c).log[d.id - 1]? = some values ∧
    deadLetterValues (c.fieldsOf values) d.delivery d.cause ∈ (s.streams c.dlq).log

/-- What the servers hold. -/
structure Intact (c : Subscription) (s : State) : Prop where
  long : ∀ subject, (s.streams subject).Long c.maxStreamLength
  ok : ∀ g ∈ s.group, g.Ok (s.stream c).lastId
  kept : ∀ g ∈ s.group, ∀ id, s.start < id → (s.stream c).trimmed < id → id ≤ (s.stream c).lastId →
    g.lastDelivered < id ∨ id ∈ g.ids ∨ Settled s id
  counts : ∀ g ∈ s.group, ∀ cl ∈ g.pending, cl.count = s.delivered.count cl.id
  handed : ∀ g ∈ s.group, ∀ id ∈ s.delivered, id ≤ g.lastDelivered
  fresh : s.group = none → s.delivered = []
  due : ∀ d ∈ s.letters, Due c s d

/-- What a loop knows about the message it is at. -/
def StageOk (c : Subscription) (s : State) (id : ℕ) : Stage → Prop
  | .handler _ => True
  | .counting _ => True
  | .deadLetter delivery _ => c.isLast delivery = true ∧ delivery ≤ s.delivered.count id
  | .ack => Settled s id

/-- The messages of a loop are entries that were handed out. -/
structure LoopOk (c : Subscription) (s : State) (l : Loop) : Prop where
  entry : ∀ m ∈ l.batch, m.id ∈ s.delivered ∧ (s.stream c).log[m.id - 1]? = some m.values
  stage : ∀ m ∈ l.batch.head?, StageOk c s m.id l.stage

/-- What is never taken back. -/
structure Later (s s' : State) : Prop where
  log : ∀ (subject : String) (i : ℕ) (v : Fields), (s.streams subject).log[i]? = some v →
    (s'.streams subject).log[i]? = some v
  delivered : ∀ id, s.delivered.count id ≤ s'.delivered.count id
  done : s.done ⊆ s'.done
  letters : s.letters ⊆ s'.letters

section Later

variable {c : Subscription} {s s' : State} {id : ℕ}

lemma Later.refl : Later s s := ⟨fun _ _ _ h => h, fun _ => le_rfl, List.Subset.refl _, List.Subset.refl _⟩

lemma Later.trans {t : State} (h : Later s t) (h' : Later t s') : Later s s' where
  log := fun subject i v hv => h'.log subject i v (h.log subject i v hv)
  delivered := fun id => (h.delivered id).trans (h'.delivered id)
  done := List.Subset.trans h.done h'.done
  letters := List.Subset.trans h.letters h'.letters

lemma Settled.later (h : Settled s id) (hl : Later s s') : Settled s' id := by
  rcases h with h | ⟨d, hd, hid⟩
  · exact .inl (hl.done h)
  · exact .inr ⟨d, hl.letters hd, hid⟩

lemma Later.mem_delivered (hl : Later s s') (h : id ∈ s.delivered) : id ∈ s'.delivered :=
  List.count_pos_iff.mp ((List.count_pos_iff.mpr h).trans_le (hl.delivered id))

lemma Later.mem_log (hl : Later s s') {subject : String} {v : Fields} (h : v ∈ (s.streams subject).log) :
    v ∈ (s'.streams subject).log := by
  obtain ⟨i, hi⟩ := List.mem_iff_getElem?.mp h
  exact List.mem_iff_getElem?.mpr ⟨i, hl.log subject i v hi⟩

lemma Due.later {d : Letter} (h : Due c s d) (hl : Later s s') : Due c s' d where
  last := h.last
  count := h.count.trans (hl.delivered d.id)
  copy := by
    obtain ⟨values, hv, hm⟩ := h.copy
    exact ⟨values, hl.log _ _ _ hv, hl.mem_log hm⟩

lemma StageOk.later {st : Stage} (h : StageOk c s id st) (hl : Later s s') : StageOk c s' id st := by
  cases st with
  | handler t => trivial
  | counting cause => trivial
  | deadLetter delivery cause => exact ⟨h.1, h.2.trans (hl.delivered id)⟩
  | ack => exact Settled.later h hl

lemma LoopOk.later {l : Loop} (h : LoopOk c s l) (hl : Later s s') : LoopOk c s' l where
  entry := fun m hm => ⟨hl.mem_delivered (h.entry m hm).1, hl.log _ _ _ (h.entry m hm).2⟩
  stage := fun m hm => (h.stage m hm).later hl

lemma LoopOk.next {l : Loop} (h : LoopOk c s l) : LoopOk c s l.next where
  entry := fun m hm => h.entry m (List.mem_of_mem_tail hm)
  stage := fun _ _ => trivial

lemma LoopOk.at {l : Loop} {m : XMessage} {rest : List XMessage} {st : Stage} (h : LoopOk c s l)
    (hb : l.batch = m :: rest) (hst : StageOk c s m.id st) : LoopOk c s { l with stage := st } where
  entry := h.entry
  stage := by
    intro m' hm'
    rw [hb, List.head?_cons, Option.mem_some_iff] at hm'
    exact hm' ▸ hst

end Later

/-! ### Steps of the servers -/

section Servers

variable {c : Subscription} {s s' : State} {subject : String} {values : Fields} {trimTo id : ℕ}

lemma add_fields (h : s.add c subject values trimTo = some s') :
    s'.group = s.group ∧ s'.start = s.start ∧ s'.delivered = s.delivered ∧ s'.done = s.done ∧
      s'.letters = s.letters ∧ s'.procs = s.procs := by
  unfold State.add at h
  obtain ⟨st, -, rfl⟩ := Option.map_eq_some_iff.mp h
  exact ⟨rfl, rfl, rfl, rfl, rfl, rfl⟩

/-- `XADD` changes one stream. -/
lemma add_streams (h : s.add c subject values trimTo = some s') (other : String) :
    other = subject ∧ (s.streams other).add c.maxStreamLength trimTo values = some (s'.streams other) ∨
      s'.streams other = s.streams other := by
  unfold State.add at h
  obtain ⟨st, hst, rfl⟩ := Option.map_eq_some_iff.mp h
  by_cases ho : other = subject
  · subst ho
    exact .inl ⟨rfl, by simp only [hst, Function.update_self]⟩
  · exact .inr (Function.update_of_ne ho _ _)

lemma mem_add (h : s.add c subject values trimTo = some s') : values ∈ (s'.streams subject).log := by
  unfold State.add at h
  obtain ⟨st, hst, rfl⟩ := Option.map_eq_some_iff.mp h
  simp only [Function.update_self]
  rw [Stream.add_log hst]
  exact List.mem_append_right _ List.mem_cons_self

lemma later_add (h : s.add c subject values trimTo = some s') : Later s s' := by
  obtain ⟨-, -, hdel, hdone, hlet, -⟩ := add_fields h
  refine ⟨fun other i v hv => ?_, fun _ => hdel ▸ le_rfl, hdone ▸ List.Subset.refl _, hlet ▸ List.Subset.refl _⟩
  rcases add_streams h other with ⟨-, ho⟩ | ho
  · exact Stream.add_getElem? ho hv
  · rw [ho]
    exact hv

/-- The steps that only record more keep what the servers hold. -/
lemma Intact.of_later (h : Intact c s) (hl : Later s s') (hst : s'.streams = s.streams) (hg : s'.group = s.group)
    (hs : s'.start = s.start) (hd : s'.delivered = s.delivered) (hdue : ∀ d ∈ s'.letters, Due c s' d) :
    Intact c s' where
  long := hst ▸ h.long
  ok := by
    unfold State.stream
    rw [hg, hst]
    exact h.ok
  kept := by
    unfold State.stream
    rw [hg, hs, hst]
    intro g hgm id h₁ h₂ h₃
    exact (h.kept g hgm id h₁ h₂ h₃).imp_right (Or.imp_right (Settled.later · hl))
  counts := by
    rw [hg, hd]
    exact h.counts
  handed := by
    rw [hg, hd]
    exact h.handed
  fresh := by
    rw [hg, hd]
    exact h.fresh
  due := hdue

lemma Intact.add (h : Intact c s) (hs : s.add c subject values trimTo = some s') : Intact c s' := by
  have hlater := later_add hs
  obtain ⟨hg, hstart, hdel, hdone, hlet, -⟩ := add_fields hs
  have hstream := add_streams hs c.subject
  refine ⟨fun other => ?_, ?_, ?_, ?_, ?_, ?_, ?_⟩
  · rcases add_streams hs other with ⟨-, ho⟩ | ho
    · exact (h.long other).add ho
    · rw [ho]
      exact h.long other
  · intro g hgm
    have hok := h.ok g (hg ▸ hgm)
    refine ⟨hok.sorted, hok.pos, hok.handed, hok.below.trans ?_⟩
    rcases hstream with ⟨-, ho⟩ | ho
    · exact (Stream.add_lastId ho).ge.trans' (Nat.le_succ _)
    · exact (congrArg Stream.lastId ho).ge
  · intro g hgm id hid ht hl
    rw [hg] at hgm
    rw [hstart] at hid
    unfold State.stream at ht hl
    rcases hstream with ⟨-, ho⟩ | ho
    · -- a new entry comes after everything that was handed out
      have hlast := Stream.add_lastId ho
      have htrim := Stream.add_trimmed_le ho
      have hbelow := (h.ok g hgm).below
      unfold State.stream at hbelow
      by_cases hnew : id = (s.streams c.subject).lastId + 1
      · left
        omega
      · have := h.kept g hgm id hid (htrim.trans_lt ht) (show id ≤ (s.streams c.subject).lastId by omega)
        exact this.imp_right (Or.imp_right (Settled.later · hlater))
    · rw [ho] at ht hl
      exact (h.kept g hgm id hid ht hl).imp_right (Or.imp_right (Settled.later · hlater))
  · rw [hg, hdel]
    exact h.counts
  · rw [hg, hdel]
    exact h.handed
  · rw [hg, hdel]
    exact h.fresh
  · rw [hlet]
    exact fun d hd => (h.due d hd).later hlater

lemma later_xack {reply : Reply} : Later s (s.xack reply id) := by
  unfold State.xack
  split
  · exact ⟨fun _ _ _ h => h, fun _ => le_rfl, List.Subset.refl _, List.Subset.refl _⟩
  · exact Later.refl

/-- An acknowledgement of what is settled takes it out of the pending list, and nothing else. -/
lemma Intact.xack {reply : Reply} (h : Intact c s) (hset : Settled s id) : Intact c (s.xack reply id) := by
  unfold State.xack
  split
  · refine ⟨h.long, ?_, ?_, ?_, ?_, fun hn => h.fresh (Option.map_eq_none_iff.mp hn),
      fun d hd => (h.due d hd).later ⟨fun _ _ _ h => h, fun _ => le_rfl, List.Subset.refl _, List.Subset.refl _⟩⟩
    all_goals
      intro g' hg'
      obtain ⟨g, hg, rfl⟩ := Option.map_eq_some_iff.mp hg'
    · exact (h.ok g hg).ack
    · intro i hi ht hl
      rcases h.kept g hg i hi ht hl with hk | hk | hk
      · exact .inl hk
      · by_cases he : i = id
        · exact .inr (.inr (he ▸ hset))
        · exact .inr (.inl (Group.mem_ids_ack.mpr ⟨hk, he⟩))
      · exact .inr (.inr hk)
    · intro cl hcl
      exact h.counts g hg cl (List.mem_filter.mp hcl).1
    · exact h.handed g hg
  · exact h

lemma later_hand {g : Group} {ids : List ℕ} : Later s (s.hand g ids) :=
  ⟨fun _ _ _ h => h, fun _ => by simp [State.hand], List.Subset.refl _, List.Subset.refl _⟩

variable {g : Group} {n start : ℕ}

lemma Intact.read (h : Intact c s) (hg : s.group = some g) :
    Intact c (s.hand (g.read (s.stream c) s.now n).1 (g.read (s.stream c) s.now n).2) := by
  have hok := h.ok g hg
  refine ⟨h.long, ?_, ?_, ?_, ?_, fun hn => absurd hn (Option.some_ne_none _),
    fun d hd => (h.due d hd).later later_hand⟩
  all_goals
    intro g' hg'
    obtain rfl := Option.some.inj hg'
  · exact hok.read
  · intro id hid ht hl
    rcases h.kept g hg id hid ht hl with hk | hk | hk
    · rcases Group.mem_read_or (n := n) ht hl hk with hr | hr
      · right
        left
        rw [Group.ids_read]
        exact List.mem_append_right _ hr
      · exact .inl hr
    · right
      left
      rw [Group.ids_read]
      exact List.mem_append_left _ hk
    · exact .inr (.inr hk)
  · intro cl hcl
    rw [Group.pending_read] at hcl
    simp only [State.hand, List.count_append]
    rcases List.mem_append.mp hcl with hcl | hcl
    · -- what is pending was handed out before
      have hnot : cl.id ∉ (g.read (s.stream c) s.now n).2 := by
        rw [Group.mem_read, Group.seen]
        have := hok.handed cl.id (List.mem_map_of_mem hcl)
        omega
      rw [List.count_eq_zero_of_not_mem hnot]
      exact h.counts g hg cl hcl
    · obtain ⟨id, hid, rfl⟩ := List.mem_map.mp hcl
      have hnew : id ∉ s.delivered := by
        intro hd
        have h₁ := h.handed g hg id hd
        have h₂ := (Group.mem_read.mp hid).1
        unfold Group.seen at h₂
        omega
      rw [List.count_eq_zero_of_not_mem hnew, List.count_eq_one_of_mem Group.nodup_read hid]
  · intro id hid
    rcases List.mem_append.mp hid with hid | hid
    · exact (h.handed g hg id hid).trans Group.lastDelivered_le_read
    · exact Group.le_lastDelivered_read hid

lemma Intact.claim {now minIdle count : ℕ} (h : Intact c s) (hg : s.group = some g) :
    Intact c (s.hand (g.autoClaim (s.stream c) now minIdle start count).1
      (g.autoClaim (s.stream c) now minIdle start count).2.claimed) := by
  have hok := h.ok g hg
  refine ⟨h.long, ?_, ?_, ?_, ?_, fun hn => absurd hn (Option.some_ne_none _),
    fun d hd => (h.due d hd).later later_hand⟩
  all_goals
    intro g' hg'
    obtain rfl := Option.some.inj hg'
  · exact hok.autoClaim
  · intro id hid ht hl
    refine (h.kept g hg id hid ht hl).imp_right (Or.imp_left fun hk => ?_)
    exact Group.mem_ids_autoClaim (Stream.get?_isSome.mpr ⟨ht, hl⟩) hk
  · intro cl hcl
    obtain ⟨c₀, hc₀, hid, hcount⟩ := Group.autoClaim_count hok hcl
    simp only [State.hand, List.count_append]
    rw [hcount, h.counts g hg c₀ hc₀, hid]
  · intro id hid
    rcases List.mem_append.mp hid with hid | hid
    · exact h.handed g hg id hid
    · exact hok.handed id (Group.autoClaim_claimed hid).1

/-- The messages of a batch are entries that were handed out. -/
lemma loopOk_messages {ids : List ℕ} : LoopOk c (s.hand g ids) { batch := s.messages c ids } where
  entry := by
    intro m hm
    obtain ⟨id, hid, hm⟩ := List.mem_filterMap.mp hm
    obtain ⟨v, hv, rfl⟩ := Option.map_eq_some_iff.mp hm
    refine ⟨List.mem_append_right _ hid, ?_⟩
    unfold Stream.get? at hv
    split at hv
    · exact hv
    · cases hv
  stage := fun _ _ => trivial

lemma loopOk_nil : LoopOk c s {} := ⟨fun _ hm => absurd hm List.not_mem_nil, fun _ _ => trivial⟩

end Servers

/-! ### Steps of `handle` -/

section Handle

variable {c : Subscription} {s s' : State} {l l' : Loop} {m : XMessage} {rest : List XMessage} {a : Act}

lemma isLast_zero : c.isLast 0 = false := by
  unfold Subscription.isLast
  simp only [Bool.and_eq_false_iff, decide_eq_false_iff_not]
  omega

/-- What is pending is counted; what is not was delivered at least once. -/
lemma deliveryCount_le (h : Intact c s) (hm : m.id ∈ s.delivered) :
    s.deliveryCount m.id ≤ s.delivered.count m.id := by
  unfold State.deliveryCount
  cases hr : s.group.bind (·.retryCount m.id) with
  | none => exact List.count_pos_iff.mpr hm
  | some n =>
    obtain ⟨g, hg, hn⟩ := Option.bind_eq_some_iff.mp hr
    obtain ⟨cl, hcl, hid, rfl⟩ := Group.retryCount_eq_some hn
    rw [Option.getD_some, h.counts g hg cl hcl, hid]

lemma xack_procs {reply : Reply} {id : ℕ} : (s.xack reply id).procs = s.procs := by
  unfold State.xack
  split <;> rfl

/-- A dead letter that was stored is due. -/
lemma deadLetter_keeps {delivery trimTo : ℕ} {cause : String} {reply : Reply} {s₁ : State} (h : Intact c s)
    (hl : LoopOk c s l) (hb : l.batch = m :: rest) (hstage : StageOk c s m.id (.deadLetter delivery cause))
    (hadd : s.add c c.dlq (deadLetterValues (c.fieldsOf m.values) delivery cause) trimTo = some s₁) :
    let s' := { s₁ with letters := ⟨m.id, delivery, cause⟩ :: s₁.letters }
    Later s s' ∧ Intact c s' ∧ LoopOk c s' (if reply = .ok then { l with stage := .ack } else l.next) ∧
      s'.procs = s.procs := by
  intro s'
  have hletter : Later s₁ s' :=
    ⟨fun _ _ _ h => h, fun _ => le_rfl, List.Subset.refl _, List.subset_cons_self _ _⟩
  have hlater : Later s s' := (later_add hadd).trans hletter
  have hentry := hl.entry m (hb ▸ List.mem_cons_self)
  have hnew : Due c s' ⟨m.id, delivery, cause⟩ :=
    ⟨hstage.1, hstage.2.trans (hlater.delivered m.id), m.values, hlater.log _ _ _ hentry.2,
      hletter.mem_log (mem_add hadd)⟩
  have hok := h.add hadd
  refine ⟨hlater, hok.of_later hletter rfl rfl rfl rfl ?_, ?_, (add_fields hadd).2.2.2.2.2⟩
  · intro d hd
    rcases List.mem_cons.mp hd with rfl | hd
    · exact hnew
    · exact (hok.due d hd).later hletter
  · split
    · exact (hl.later hlater).at hb (.inr ⟨_, List.mem_cons_self, rfl⟩)
    · exact (hl.later hlater).next

/-- **What a step of `handle` keeps.** -/
lemma handleStep_keeps (h : Intact c s) (hl : LoopOk c s l) (hb : l.batch = m :: rest)
    (hs : handleStep c s l m a = some (s', l')) :
    Later s s' ∧ Intact c s' ∧ LoopOk c s' l' ∧ s'.procs = s.procs := by
  have hentry := hl.entry m (hb ▸ List.mem_cons_self)
  have hstage := hl.stage m (by rw [hb]; rfl)
  have hdone : Later s { s with done := m.id :: s.done } :=
    ⟨fun _ _ _ h => h, fun _ => le_rfl, List.subset_cons_self _ _, List.Subset.refl _⟩
  have hdoneOk : Intact c { s with done := m.id :: s.done } :=
    h.of_later hdone rfl rfl rfl rfl fun d hd => (h.due d hd).later hdone
  have hsettled : Settled { s with done := m.id :: s.done } m.id := .inl List.mem_cons_self
  unfold handleStep at hs
  cases a with
  | handlerAck reply =>
    simp only at hs
    split at hs
    · obtain ⟨rfl, rfl⟩ := Prod.mk.inj (Option.some.inj hs)
      have hlater : Later s (({ s with done := m.id :: s.done }).xack reply m.id) := hdone.trans later_xack
      exact ⟨hlater, hdoneOk.xack hsettled, (hl.later hlater).at hb trivial, xack_procs⟩
    · cases hs
  | handlerNak =>
    simp only at hs
    split at hs
    · obtain ⟨rfl, rfl⟩ := Prod.mk.inj (Option.some.inj hs)
      exact ⟨Later.refl, h, hl.at hb trivial, rfl⟩
    · cases hs
  | handlerReturn err =>
    simp only at hs
    split at hs
    · obtain ⟨rfl, rfl⟩ := Prod.mk.inj (Option.some.inj hs)
      exact ⟨Later.refl, h, hl.next, rfl⟩
    · obtain ⟨rfl, rfl⟩ := Prod.mk.inj (Option.some.inj hs)
      exact ⟨hdone, hdoneOk, (hl.later hdone).at hb hsettled, rfl⟩
    · obtain ⟨rfl, rfl⟩ := Prod.mk.inj (Option.some.inj hs)
      exact ⟨Later.refl, h, hl.at hb trivial, rfl⟩
    · cases hs
  | count seen =>
    have hle : (if seen then s.deliveryCount m.id else 0) ≤ s.delivered.count m.id := by
      split
      · exact deliveryCount_le h hentry.1
      · exact Nat.zero_le _
    simp only at hs
    generalize (if seen then s.deliveryCount m.id else 0) = delivery at hs hle
    split at hs
    · split at hs
      · next hlast =>
        obtain ⟨rfl, rfl⟩ := Prod.mk.inj (Option.some.inj hs)
        exact ⟨Later.refl, h, hl.at hb ⟨hlast, hle⟩, rfl⟩
      · obtain ⟨rfl, rfl⟩ := Prod.mk.inj (Option.some.inj hs)
        exact ⟨Later.refl, h, hl.next, rfl⟩
    · cases hs
  | deadLetter reply trimTo =>
    simp only at hs
    split at hs
    · next delivery cause hst =>
      rw [hst] at hstage
      split at hs
      · obtain ⟨s₁, hadd, hs⟩ := Option.map_eq_some_iff.mp hs
        obtain ⟨rfl, rfl⟩ := Prod.mk.inj hs
        exact deadLetter_keeps h hl hb hstage hadd
      · obtain ⟨rfl, rfl⟩ := Prod.mk.inj (Option.some.inj hs)
        exact ⟨Later.refl, h, hl.next, rfl⟩
    · cases hs
  | ack reply =>
    simp only at hs
    split at hs
    · next hst =>
      rw [hst] at hstage
      obtain ⟨rfl, rfl⟩ := Prod.mk.inj (Option.some.inj hs)
      exact ⟨later_xack, h.xack hstage, (hl.later later_xack).next, xack_procs⟩
    · cases hs

end Handle

/-! ### Runs -/

/-- **The invariant**: what the servers hold, and what every loop knows. -/
structure Inv (c : Subscription) (s : State) : Prop where
  intact : Intact c s
  loops : ∀ p, ∀ x ∈ s.procs p, ∀ w, LoopOk c s (x.loop w)

section Runs

variable {c : Subscription} {s s' : State} {p : ℕ} {x : Process} {w : Which} {l : Loop}

lemma later_setProc {x : Option Process} : Later s (s.setProc p x) :=
  ⟨fun _ _ _ h => h, fun _ => le_rfl, List.Subset.refl _, List.Subset.refl _⟩

lemma Intact.setProc {x : Option Process} (h : Intact c s) : Intact c (s.setProc p x) :=
  h.of_later later_setProc rfl rfl rfl rfl fun d hd => (h.due d hd).later later_setProc

lemma loop_setLoop (w' : Which) : (x.setLoop w l).loop w' = if w' = w then l else x.loop w' := by
  cases w <;> cases w' <;> rfl

/-- A step of one process: the servers move on, and the loops of this process are what they were or sound. -/
lemma Inv.of_proc {t : State} {x' : Option Process} (h : Inv c s) (hlater : Later s t) (ht : Intact c t)
    (hprocs : t.procs = s.procs) (hx : ∀ y ∈ x', ∀ w, LoopOk c t (y.loop w)) : Inv c (t.setProc p x') where
  intact := ht.setProc
  loops := by
    intro q y hy w
    by_cases hq : q = p
    · subst hq
      simp only [State.setProc, Function.update_self] at hy
      exact (hx y hy w).later later_setProc
    · simp only [State.setProc, Function.update_of_ne hq, hprocs] at hy
      exact ((h.loops q y hy w).later hlater).later later_setProc

lemma Inv.of_later (h : Inv c s) (hlater : Later s s') (hs : Intact c s') (hprocs : s'.procs = s.procs) :
    Inv c s' := ⟨hs, fun p x hx w => (h.loops p x (hprocs ▸ hx) w).later hlater⟩

lemma ensureGroup_keeps (h : Intact c s) :
    Later s (ensureGroup c s) ∧ Intact c (ensureGroup c s) ∧ (ensureGroup c s).procs = s.procs := by
  unfold ensureGroup
  split
  · exact ⟨Later.refl, h, rfl⟩
  · next hnone =>
    have hlater : Later s { s with
        group := some { lastDelivered := (s.stream c).lastId }, start := (s.stream c).lastId } :=
      ⟨fun _ _ _ h => h, fun _ => le_rfl, List.Subset.refl _, List.Subset.refl _⟩
    refine ⟨hlater, ⟨h.long, ?_, ?_, ?_, ?_, fun hn => absurd hn (Option.some_ne_none _),
      fun d hd => (h.due d hd).later hlater⟩, rfl⟩
    all_goals
      intro g hg
      obtain rfl := Option.some.inj hg
    · exact ⟨.nil, by simp [Group.ids], by simp [Group.ids], le_rfl⟩
    · intro id hid _ _
      exact .inl hid
    · simp
    · simp [h.fresh hnone]

/-- **What one step keeps.** -/
lemma step_inv (c : Subscription) (s : State) (lab : Label) (s' : State) (h : Inv c s)
    (hs : step c s lab = some s') : Inv c s' := by
  cases lab with
  | publish subject values trimTo =>
    exact h.of_later (later_add hs) (h.intact.add hs) (add_fields hs).2.2.2.2.2
  | subscribe p seen =>
    simp only [step] at hs
    split at hs
    · obtain rfl := Option.some.inj hs
      obtain ⟨hlater, hint, hprocs⟩ := ensureGroup_keeps h.intact
      split
      · refine h.of_proc hlater hint hprocs fun y hy w => ?_
        obtain rfl := Option.some.inj hy
        cases w <;> exact loopOk_nil
      · exact h.of_later hlater hint hprocs
    · cases hs
  | read p seen =>
    simp only [step] at hs
    split at hs
    · next x g hx hg =>
      split at hs
      · obtain rfl := Option.some.inj hs
        refine h.of_proc later_hand (h.intact.read hg) rfl fun y hy w => ?_
        obtain rfl := Option.some.inj hy
        cases w with
        | read =>
          cases seen
          · exact loopOk_nil
          · exact loopOk_messages
        | claim => exact (h.loops p x hx .claim).later later_hand
      · cases hs
    · cases hs
  | claim p seen =>
    simp only [step] at hs
    split at hs
    · next x g hx hg =>
      split at hs
      · obtain rfl := Option.some.inj hs
        refine h.of_proc later_hand (h.intact.claim hg) rfl fun y hy w => ?_
        obtain rfl := Option.some.inj hy
        cases w with
        | read => exact (h.loops p x hx .read).later later_hand
        | claim =>
          cases seen
          · exact loopOk_nil
          · exact loopOk_messages
      · cases hs
    · cases hs
  | handle p w a =>
    simp only [step] at hs
    obtain ⟨x, hx, hs⟩ := Option.bind_eq_some_iff.mp hs
    split at hs
    · cases hs
    · next m rest hb =>
      obtain ⟨⟨t, l'⟩, hstep, rfl⟩ := Option.map_eq_some_iff.mp hs
      obtain ⟨hlater, ht, hl', hprocs⟩ := handleStep_keeps h.intact (h.loops p x hx w) hb hstep
      refine h.of_proc hlater ht hprocs fun y hy w' => ?_
      obtain rfl := Option.some.inj hy
      rw [loop_setLoop]
      split
      · exact hl'
      · exact (h.loops p x hx w').later hlater
  | crash p =>
    obtain rfl := Option.some.inj hs
    exact h.of_proc Later.refl h.intact rfl fun y hy => by cases hy
  | elapse d =>
    obtain rfl := Option.some.inj hs
    have hlater : Later s { s with now := s.now + d } :=
      ⟨fun _ _ _ h => h, fun _ => le_rfl, List.Subset.refl _, List.Subset.refl _⟩
    exact h.of_later hlater (h.intact.of_later hlater rfl rfl rfl rfl
      fun d hd => (h.intact.due d hd).later hlater) rfl

lemma inv_init (c : Subscription) : Inv c {} where
  intact :=
    { long := fun _ => .inl rfl
      ok := fun _ hg => by cases hg
      kept := fun _ hg => by cases hg
      counts := fun _ hg => by cases hg
      handed := fun _ hg => by cases hg
      fresh := fun _ => rfl
      due := fun _ hd => absurd hd List.not_mem_nil }
  loops := fun _ _ hx => by cases hx

lemma run_inv {ls : List Label} (hrun : run (step c) {} ls = some s) : Inv c s :=
  reach_induct (step_inv c) (inv_init c) ⟨ls, hrun⟩

/-- **No entry is lost.** After any run, with any interleaving of the loops of any number of processes, failed calls
and crashes, an entry that was added since the group exists and is among the newest `MaxStreamLength` is unread,
pending, acknowledged by a handler, or stored as a dead letter. -/
theorem redis_never_loses (c : Subscription) {ls : List Label} {s : State} (hrun : run (step c) {} ls = some s)
    {g : Group} (hg : s.group = some g) {id : ℕ} (hid : s.start < id ∧ id ≤ (s.stream c).lastId)
    (hnew : c.maxStreamLength = 0 ∨ (s.stream c).lastId < id + c.maxStreamLength) :
    (s.stream c).get? id ≠ none ∧ (g.lastDelivered < id ∨ id ∈ g.ids) ∨
      id ∈ s.done ∨ ∃ d ∈ s.letters, d.id = id ∧ Due c s d := by
  have hinv := (run_inv hrun).intact
  have htrim : (s.stream c).trimmed < id := by
    rcases hinv.long c.subject with h | h <;> unfold State.stream <;> unfold State.stream at hnew <;> omega
  have hsome : (s.stream c).get? id ≠ none := by
    rw [← Option.isSome_iff_ne_none]
    exact Stream.get?_isSome.mpr ⟨htrim, hid.2⟩
  rcases hinv.kept g hg id hid.1 htrim hid.2 with h | h | h | ⟨d, hd, hdid⟩
  · exact .inl ⟨hsome, .inl h⟩
  · exact .inl ⟨hsome, .inr h⟩
  · exact .inr (.inl h)
  · exact .inr (.inr ⟨d, hd, hdid, hinv.due d hd⟩)

/-- One delivery is enough for a dead letter. -/
def once : Subscription := { subject := "es.evaluate.request", opts := { maxDeliver := 1 } }

/-- A process reads an entry, and its handler fails. -/
def failedOnce : List Label :=
  [.subscribe 0 true, .publish "es.evaluate.request" (publishValues "" [0x7B, 0x7D] {} "") 0, .read 0 true,
    .handle 0 .read (.handlerReturn (some "timeout")), .handle 0 .read (.count true)]

/-- The dead letter is stored and the entry acknowledged. -/
def letterStored : List Label :=
  failedOnce ++ [.handle 0 .read (.deadLetter .ok 0), .handle 0 .read (.ack .ok)]

theorem refused_letter_kept : ∃ s g, run (step once) {} (failedOnce ++ [.handle 0 .read (.deadLetter .refused 0)]) =
    some s ∧ s.group = some g ∧ ((s.stream once).get? 1 ≠ none ∧ (g.lastDelivered < 1 ∨ 1 ∈ g.ids) ∨
      1 ∈ s.done ∨ ∃ d ∈ s.letters, d.id = 1 ∧ Due once s d) := by
  have hrun : ∃ s g, run (step once) {} (failedOnce ++ [.handle 0 .read (.deadLetter .refused 0)]) = some s ∧
      s.group = some g ∧ s.start = 0 ∧ (s.stream once).lastId = 1 := ⟨_, _, rfl, rfl, rfl, rfl⟩
  obtain ⟨s, g, hs, hg, hstart, hlast⟩ := hrun
  refine ⟨s, g, hs, hg, redis_never_loses once hs hg ?_ (.inr ?_)⟩
  · rw [hstart, hlast]
    decide
  · rw [hlast]
    decide

/-- **Dead letters are due and complete.** After any run, a dead letter that was stored belongs to an entry that was
delivered at least `MaxDeliver` times. It carries the payload of the entry, its subject, and every other field. -/
theorem dead_letters_are_due (c : Subscription) {ls : List Label} {s : State} (hrun : run (step c) {} ls = some s)
    {d : Letter} (hd : d ∈ s.letters) :
    0 < c.opts.maxDeliver ∧ c.opts.maxDeliver ≤ d.delivery ∧ d.delivery ≤ s.delivered.count d.id ∧
      ∃ values letter, (s.stream c).log[d.id - 1]? = some values ∧ letter ∈ (s.streams c.dlq).log ∧
        dataOf letter = dataOf values ∧ letter headerOriginSubject = some (bytesOf c.subject) ∧
        letter headerDeliveryCount = some (bytesOf (toString d.delivery)) ∧
        letter headerError = some (bytesOf d.cause) ∧
        ∀ k ∉ [dataField, originField, headerDeliveryCount, headerError, headerOriginSubject],
          letter k = values k := by
  obtain ⟨hlast, hcount, values, hv, hm⟩ := (run_inv hrun).intact.due d hd
  unfold Subscription.isLast at hlast
  simp only [Bool.and_eq_true, decide_eq_true_eq] at hlast
  exact ⟨hlast.1, hlast.2, hcount, values, _, hv, hm, dataOf_deadLetterValues, deadLetterValues_origin,
    deadLetterValues_count, deadLetterValues_error, fun k hk => deadLetterValues_other hk⟩

theorem stored_letter_due : ∃ s, run (step once) {} letterStored = some s ∧ ⟨1, 1, "timeout"⟩ ∈ s.letters ∧
    1 ≤ s.delivered.count 1 := by
  have hrun : ∃ s, run (step once) {} letterStored = some s ∧ ⟨1, 1, "timeout"⟩ ∈ s.letters :=
    ⟨_, rfl, List.mem_cons_self⟩
  obtain ⟨s, hs, hd⟩ := hrun
  exact ⟨s, hs, hd, (dead_letters_are_due once hs hd).2.2.1⟩

end Runs

end Sn360Es.Events.Redis
