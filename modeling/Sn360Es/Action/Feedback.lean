import Sn360Es.Action.Quarantine
import Sn360Es.Lib.GoTime
import Sn360Es.Lib.Phase
import Sn360Es.Privacy.Jwt

/-!
# One-click feedback (`internal/service/action/feedback.go`, `replay_guard.go`)

A banner token may be redeemed once: `Process` verifies it, records its id in the single-use store and publishes.
A call is a program over the operations below, of which each reads the clock at most once; instants and durations
are nanoseconds, since 1970 for an instant, and those of a token are whole seconds.

* `markConsumed_cases` — what one operation of the in-memory store can do;
* `keeps_process` — a call of `Process` keeps the invariant of the store, operation by operation;
* `banner_token_single_use` — so at most one call reaches `Publish` with an id, and what the store evicts can no
  longer verify, as long as a redemption is at most a minute late and its retention fits a `time.Duration`;
* `banner_token_redeemed_twice` — a retention that does not fit wraps around to one minute.
-/

namespace Sn360Es.Action

open Lib Privacy

def audienceActionFeedback : String := "sn360-es:action-feedback"

def feedbackReportPhishing : String := "report_phishing"
def feedbackMarkSafe : String := "mark_safe"
def feedbackTrustSender : String := "trust_sender"

/-- `FeedbackAction.Valid`. -/
def validFeedbackAction (a : String) : Bool :=
  a = feedbackReportPhishing || a = feedbackMarkSafe || a = feedbackTrustSender

/-- `FeedbackEvent`; nobody sets the schema version. -/
structure FeedbackEvent where
  tenantID : String
  pseudonymizedMessage : String
  action : String
  tier : String
  occurredAt : ℤ
  correlationID : String
  deriving DecidableEq, Repr

structure FeedbackRequest where
  token : String
  action : String
  deriving DecidableEq, Repr

/-! ### The in-memory single-use store -/

def minute : ℤ := 60 * GoTime.second

/-- `InMemorySingleUseStore`. -/
structure SingleUseStore where
  seen : String → Option ℤ := fun _ => none
  ops : ℕ := 0

namespace SingleUseStore

/-- The sweep over the map that every 64th call makes. -/
def evict (now : ℤ) (seen : String → Option ℤ) : String → Option ℤ := fun k =>
  match seen k with
  | some exp => if exp < now then none else some exp
  | none => none

/-- `MarkConsumed`, under the mutex. -/
def markConsumed (s : SingleUseStore) (now : ℤ) (id : String) (ttl : ℤ) :
    Except String Bool × SingleUseStore :=
  if id = "" then (.error "action: empty token id", s)
  else
    let ops := (s.ops + 1) % 2 ^ 64
    let seen := if ops % 64 = 0 then evict now s.seen else s.seen
    if ∃ exp ∈ seen id, now < exp then (.ok true, ⟨seen, ops⟩)
    else
      let ttl := if ttl ≤ 0 then minute else ttl
      (.ok false, ⟨Function.update seen id (some (now + ttl)), ops⟩)

end SingleUseStore

/-! ### Operations -/

/-- The operations of a call: the clock is read by `verify`, `timeUntil`, `markConsumed` and `now`. -/
inductive FeedbackOp where
  | verify (token : String) (opts : VerifyOptions)
  | timeUntil (exp : ℤ)
  | markConsumed (id : String) (ttl : ℤ)
  | now
  | publish (subject payload : String) (opts : PublishOptions)
  | reEvaluate (tenantID pseudoMessageID : String)
  deriving DecidableEq, Repr

abbrev FeedbackOp.Ans : FeedbackOp → Type
  | verify _ _ => Except String ActionClaims
  | timeUntil _ => ℤ
  | markConsumed _ _ => Except String Bool
  | now => ℤ
  | publish _ _ _ => Option String
  | reEvaluate _ _ => Option String

abbrev FeedbackM := Prog FeedbackOp FeedbackOp.Ans

namespace FeedbackM

def verify (token : String) (opts : VerifyOptions) : FeedbackM (Except String ActionClaims) :=
  Prog.perform (FeedbackOp.verify token opts)

def timeUntil (exp : ℤ) : FeedbackM ℤ := Prog.perform (FeedbackOp.timeUntil exp)

def markConsumed (id : String) (ttl : ℤ) : FeedbackM (Except String Bool) :=
  Prog.perform (FeedbackOp.markConsumed id ttl)

def now : FeedbackM ℤ := Prog.perform FeedbackOp.now

def publish (subject payload : String) (opts : PublishOptions) : FeedbackM (Option String) :=
  Prog.perform (FeedbackOp.publish subject payload opts)

def reEvaluate (tenantID pseudoMessageID : String) : FeedbackM (Option String) :=
  Prog.perform (FeedbackOp.reEvaluate tenantID pseudoMessageID)

end FeedbackM

/-- `FeedbackService`: which of the dependencies are configured, and `json.Marshal` of an event. -/
structure FeedbackService where
  verifier : Bool := true
  publisher : Bool := true
  singleUse : Bool := true
  reEval : Bool := false
  marshal : FeedbackEvent → Except String String

namespace FeedbackService

variable (s : FeedbackService)

/-- How long `consumeOnce` keeps an id: the rest of the life of the token and a minute, at least a minute. The sum
is one of 64-bit integers. -/
def retention (untilExp : Option ℤ) : ℤ :=
  match untilExp with
  | some d => if minute < GoTime.int64 (d + minute) then GoTime.int64 (d + minute) else minute
  | none => minute

/-- `consumeOnce`: the error, if it refuses. -/
def consumeOnce (claims : ActionClaims) : FeedbackM (Option String) := do
  if claims.id = "" then return none
  let d ← FeedbackM.timeUntil (claims.expiresAt * GoTime.second)
  match ← FeedbackM.markConsumed claims.id (retention (some d)) with
  | .error err => return some ("feedback: replay check: " ++ err)
  | .ok true => return some ("feedback: token already used (jti " ++ claims.id ++ ")")
  | .ok false => return none

/-- What `Process` does with a token that it has consumed. -/
def redeem (req : FeedbackRequest) (claims : ActionClaims) : FeedbackM (Except String String) := do
  let occurredAt ← FeedbackM.now
  let evt : FeedbackEvent :=
    { tenantID := claims.tenantID
      pseudonymizedMessage := claims.pseudonymizedMessage
      action := req.action
      tier := claims.tier
      occurredAt
      correlationID := claims.id }
  match s.marshal evt with
  | .error err => return .error ("feedback: marshal: " ++ err)
  | .ok payload =>
    match ← FeedbackM.publish ("es.action.feedback." ++ req.action) payload
        { eventType := "action.feedback." ++ req.action
          tenantID := claims.tenantID
          messageID := claims.id
          correlationID := claims.id } with
    | some err => return .error ("feedback: publish: " ++ err)
    | none =>
      -- a failed re-evaluation is only logged
      if s.reEval ∧ (req.action = feedbackMarkSafe ∨ req.action = feedbackTrustSender) then
        let _ ← FeedbackM.reEvaluate claims.tenantID claims.pseudonymizedMessage
      return .ok claims.pseudonymizedMessage

/-- `FeedbackService.Process`. -/
def process (req : FeedbackRequest) : FeedbackM (Except String String) := do
  if !s.verifier then return .error "feedback: verifier not configured"
  if !s.publisher then return .error "feedback: publisher not configured"
  if !s.singleUse then return .error "feedback: single-use store not configured"
  if !validFeedbackAction req.action then
    return .error ("feedback: invalid action \"" ++ req.action ++ "\"")
  match ← FeedbackM.verify req.token
      { allowedScopes := [scopeBannerAction], expectedAudience := audienceActionFeedback } with
  | .error err => return .error ("feedback: verify token: " ++ err)
  | .ok claims =>
    if claims.action ≠ "" ∧ claims.action ≠ req.action then
      return .error ("feedback: token bound to action \"" ++ claims.action ++ "\", got \"" ++
        req.action ++ "\"")
    match ← consumeOnce claims with
    | some err => return .error err
    | none => s.redeem req claims

end FeedbackService

/-- A `Publish` that a call has reached. -/
structure Publication where
  subject : String
  payload : String
  opts : PublishOptions
  deriving DecidableEq, Repr

/-- What the calls share: the clock, the store, and the journal of the publisher. -/
structure FeedbackWorld where
  clock : ℤ
  store : SingleUseStore := {}
  published : List Publication := []

/-- What the world does at an operation: the time that has passed before it, and what fails. -/
structure FeedbackEnv where
  tick : ℕ := 0
  publishError : Option String := none
  reEvaluateError : Option String := none
  deriving DecidableEq, Repr

/-- `time.Until`: `Sub` saturates. -/
def untilAt (now exp : ℤ) : ℤ := max GoTime.minInt64 (min GoTime.maxInt64 (exp - now))

/-- The effect of an operation, once the clock has moved on. -/
def FeedbackOp.effect (i : JWTIssuer) (e : FeedbackEnv) (w : FeedbackWorld) :
    (o : FeedbackOp) → o.Ans × FeedbackWorld
  | .verify token opts => (i.verifyWithOptions (w.clock / GoTime.second) token opts, w)
  | .timeUntil exp => (untilAt w.clock exp, w)
  | .markConsumed id ttl =>
    ((w.store.markConsumed w.clock id ttl).1,
      { w with store := (w.store.markConsumed w.clock id ttl).2 })
  | .now => (w.clock, w)
  | .publish subject payload opts =>
    (e.publishError, { w with published := w.published ++ [⟨subject, payload, opts⟩] })
  | .reEvaluate _ _ => (e.reEvaluateError, w)

def FeedbackWorld.pass (w : FeedbackWorld) (e : FeedbackEnv) : FeedbackWorld :=
  { w with clock := w.clock + e.tick }

def FeedbackOp.exec (i : JWTIssuer) (o : FeedbackOp) (e : FeedbackEnv) (w : FeedbackWorld) :
    o.Ans × FeedbackWorld :=
  FeedbackOp.effect i e (w.pass e) o

/-! ### What the store does -/

namespace SingleUseStore

/-- `seen'` is `seen` less some of what has expired. -/
def Swept (now : ℤ) (seen seen' : String → Option ℤ) : Prop :=
  ∀ k, seen' k = seen k ∨ seen' k = none ∧ ∃ exp, seen k = some exp ∧ exp < now

lemma swept_evict (now : ℤ) (seen : String → Option ℤ) : Swept now seen (evict now seen) := by
  intro k
  unfold evict
  cases hk : seen k with
  | none => exact .inl rfl
  | some exp =>
    by_cases hlt : exp < now
    · exact .inr ⟨if_pos hlt, exp, rfl, hlt⟩
    · exact .inl (if_neg hlt)

/-- **What one operation of the store can do**: sweep, and either find the id or record it. -/
lemma markConsumed_cases (s : SingleUseStore) (now : ℤ) {id : String} (hid : id ≠ "") (ttl : ℤ) :
    ∃ seen ops, Swept now s.seen seen ∧
      ((s.markConsumed now id ttl = (.ok true, ⟨seen, ops⟩) ∧ ∃ exp ∈ seen id, now < exp) ∨
        (s.markConsumed now id ttl = (.ok false,
            ⟨Function.update seen id (some (now + if ttl ≤ 0 then minute else ttl)), ops⟩) ∧
          ∀ exp ∈ seen id, exp ≤ now)) := by
  set ops := (s.ops + 1) % 2 ^ 64 with hops
  set seen := if ops % 64 = 0 then evict now s.seen else s.seen with hseen
  have hswept : Swept now s.seen seen := by
    rw [hseen]
    split
    · exact swept_evict now s.seen
    · exact fun k => .inl rfl
  refine ⟨seen, ops, hswept, ?_⟩
  by_cases hused : ∃ exp ∈ seen id, now < exp
  · left
    refine ⟨?_, hused⟩
    simp only [markConsumed, if_neg hid, ← hops, ← hseen, if_pos hused]
  · right
    refine ⟨?_, fun exp hexp => not_lt.mp fun hlt => hused ⟨exp, hexp, hlt⟩⟩
    simp only [markConsumed, if_neg hid, ← hops, ← hseen, if_neg hused]

end SingleUseStore

/-! ### Tokens -/

/-- A call of `Issue`: its clock, its fresh id and its arguments. -/
structure Mint where
  now : ℤ
  id : String
  tenantID : String
  pseudoMessageID : String
  opts : IssueOptions := {}
  deriving DecidableEq, Repr

def Mint.claims (i : JWTIssuer) (m : Mint) : ActionClaims :=
  i.claimsFor m.now m.id m.tenantID m.pseudoMessageID m.opts

/-- The instant at which a token expires. -/
def Mint.expiry (i : JWTIssuer) (m : Mint) : ℤ := (m.claims i).expiresAt * GoTime.second

/-- What the service relies on in the libraries: a token that parses was signed by one of the calls of `Issue` and
has not expired, and no two of those calls drew the same UUID. -/
structure Minted (i : JWTIssuer) (ms : List Mint) : Prop where
  authentic : ∀ now tok c, i.parse now tok = .ok c → ∃ m ∈ ms, c = m.claims i
  unexpired : ∀ now tok c, i.parse now tok = .ok c → now < c.expiresAt
  fresh : ∀ m ∈ ms, ∀ m' ∈ ms, m.id = m'.id → m = m'

section Verify

variable {i : JWTIssuer} {ms : List Mint} {now : ℤ} {tok : String} {opts : VerifyOptions} {c : ActionClaims}

lemma parse_of_verify (h : i.verifyWithOptions now tok opts = .ok c) : i.parse now tok = .ok c := by
  unfold JWTIssuer.verifyWithOptions JWTIssuer.verifyDetailWithOptions JWTIssuer.verifyDetail at h
  by_cases htok : tok = ""
  · simp [htok] at h
  rw [if_neg htok] at h
  cases hparse : i.parse now tok with
  | error f => simp [hparse] at h
  | ok claims =>
    simp only [hparse] at h
    split_ifs at h
    cases h
    rfl

/-- A token that verifies is one that was issued, and has not expired. -/
lemma Minted.verify (h : Minted i ms)
    (hv : i.verifyWithOptions (now / GoTime.second) tok opts = .ok c) :
    ∃ m ∈ ms, c = m.claims i ∧ now < m.expiry i := by
  have hparse := parse_of_verify hv
  obtain ⟨m, hm, rfl⟩ := h.authentic _ _ _ hparse
  have hlt := h.unexpired _ _ _ hparse
  refine ⟨m, hm, rfl, ?_⟩
  unfold Mint.expiry
  exact (Int.ediv_lt_iff_lt_mul (by decide)).mp hlt

end Verify

/-! ### The invariant -/

/-- Where a call stands between its `verify` and its `publish`. -/
inductive FeedbackPhase where
  | idle
  | verified (c : ActionClaims)
  | timed (c : ActionClaims) (ttl : ℤ)
  | granted (id : String)
  deriving DecidableEq, Repr

def FeedbackPhase.next : FeedbackPhase → (o : FeedbackOp) → o.Ans → FeedbackPhase
  | _, .verify _ _, .ok c => .verified c
  | .verified c, .timeUntil _, d => .timed c (FeedbackService.retention (some d))
  | .timed c _, .markConsumed _ _, .ok false => .granted c.id
  | .granted id, .now, _ => .granted id
  | _, _, _ => .idle

/-- The condition on a redemption: its retention fits a `time.Duration`, and it is made less than a minute after the
token has expired. -/
def FeedbackOp.Timely (i : JWTIssuer) (ms : List Mint) (now : ℤ) : FeedbackOp → Prop
  | .timeUntil exp => exp - now + minute ≤ GoTime.maxInt64
  | .markConsumed id _ => ∀ m ∈ ms, m.id = id → now < m.expiry i + minute
  | _ => True

instance (i : JWTIssuer) (ms : List Mint) (now : ℤ) : ∀ o : FeedbackOp, Decidable (o.Timely i ms now)
  | .timeUntil exp => inferInstanceAs (Decidable (exp - now + minute ≤ GoTime.maxInt64))
  | .markConsumed id _ => inferInstanceAs (Decidable (∀ m ∈ ms, m.id = id → now < m.expiry i + minute))
  | .verify _ _ => isTrue trivial
  | .now => isTrue trivial
  | .publish _ _ _ => isTrue trivial
  | .reEvaluate _ _ => isTrue trivial

/-- The calls that have reached `Publish` with an id. -/
def FeedbackWorld.uses (w : FeedbackWorld) (id : String) : ℕ := w.published.countP (·.opts.messageID = id)

/-- What is recorded of an id outlives its token, and an id that a call was granted is recorded for as long as its
token may be redeemed. -/
structure FeedbackInv (i : JWTIssuer) (ms : List Mint) (w : FeedbackWorld) (gs : List FeedbackPhase) :
    Prop where
  retained : ∀ id v, w.store.seen id = some v → ∃ m ∈ ms, m.id = id ∧ m.expiry i + minute ≤ v
  verified : ∀ c, .verified c ∈ gs → ∃ m ∈ ms, c = m.claims i
  timed : ∀ c ttl, .timed c ttl ∈ gs → ∃ m ∈ ms, c = m.claims i ∧ 0 < ttl ∧
    m.expiry i + minute ≤ w.clock + ttl
  once : ∀ id, id ≠ "" → gs.count (.granted id) + w.uses id ≤ 1
  closed : ∀ id, id ≠ "" → 0 < gs.count (.granted id) + w.uses id →
    (w.store.seen id).isSome ∨ ∃ m ∈ ms, m.id = id ∧ m.expiry i + minute < w.clock

def feedbackTracker (i : JWTIssuer) (ms : List Mint) :
    Tracker FeedbackOp FeedbackOp.Ans FeedbackWorld FeedbackEnv FeedbackPhase where
  exec := FeedbackOp.exec i
  start := .idle
  next := FeedbackPhase.next
  allows w _ _ o e := o.Timely i ms (w.pass e).clock
  inv := FeedbackInv i ms

instance (i : JWTIssuer) (ms : List Mint) (w : FeedbackWorld) (gs : List FeedbackPhase) (n : ℕ)
    (o : FeedbackOp) (e : FeedbackEnv) : Decidable ((feedbackTracker i ms).allows w gs n o e) :=
  inferInstanceAs (Decidable (o.Timely i ms (w.pass e).clock))

section Keeps

variable {i : JWTIssuer} {ms : List Mint} {w : FeedbackWorld} {gs : List FeedbackPhase}
  {g g' : FeedbackPhase} {n : ℕ} {c : ActionClaims}

lemma FeedbackInv.pass (h : FeedbackInv i ms w gs) (e : FeedbackEnv) : FeedbackInv i ms (w.pass e) gs := by
  have hclock : w.clock ≤ (w.pass e).clock := by
    simp only [FeedbackWorld.pass]
    omega
  refine ⟨h.retained, h.verified, fun c ttl hmem => ?_, h.once, fun id hid hpos => ?_⟩
  · obtain ⟨m, hm, hc, hpos, hle⟩ := h.timed c ttl hmem
    exact ⟨m, hm, hc, hpos, by omega⟩
  · rcases h.closed id hid hpos with hseen | ⟨m, hm, hmid, hlt⟩
    · exact .inl hseen
    · exact .inr ⟨m, hm, hmid, by omega⟩

/-- A call that changes its phase without a grant. -/
lemma FeedbackInv.set (h : FeedbackInv i ms w gs) (hn : gs[n]? = some g)
    (hgrant : ∀ id, g' = .granted id → g = .granted id)
    (hverified : ∀ c, g' = .verified c → ∃ m ∈ ms, c = m.claims i)
    (htimed : ∀ c ttl, g' = .timed c ttl → ∃ m ∈ ms, c = m.claims i ∧ 0 < ttl ∧
      m.expiry i + minute ≤ w.clock + ttl) : FeedbackInv i ms w (gs.set n g') := by
  have hcount : ∀ id, (gs.set n g').count (.granted id) ≤ gs.count (.granted id) := by
    intro id
    have hadd := Tracker.count_set_add hn g' (.granted id)
    have hle := hgrant id
    split_ifs at hadd with h1 h2 h2
    all_goals first | omega | exact absurd (hle h2) h1
  refine ⟨h.retained, fun c hmem => ?_, fun c ttl hmem => ?_, fun id hid => ?_, fun id hid hpos => ?_⟩
  · rcases List.mem_or_eq_of_mem_set hmem with hold | hnew
    · exact h.verified c hold
    · exact hverified c hnew.symm
  · rcases List.mem_or_eq_of_mem_set hmem with hold | hnew
    · exact h.timed c ttl hold
    · exact htimed c ttl hnew.symm
  · have := h.once id hid
    have := hcount id
    omega
  · have := hcount id
    exact h.closed id hid (by omega)

/-- A call that gives up. -/
lemma FeedbackInv.drop (h : FeedbackInv i ms w gs) (hn : gs[n]? = some g) :
    FeedbackInv i ms w (gs.set n .idle) :=
  h.set hn (fun _ => nofun) (fun _ => nofun) fun _ _ => nofun

/-- The sweep of the store removes only what has outlived its token. -/
lemma FeedbackInv.sweep (h : FeedbackInv i ms w gs) {seen : String → Option ℤ}
    (hswept : SingleUseStore.Swept w.clock w.store.seen seen) (ops : ℕ) :
    FeedbackInv i ms { w with store := ⟨seen, ops⟩ } gs := by
  refine ⟨fun id v hv => ?_, h.verified, h.timed, h.once, fun id hid hpos => ?_⟩
  · change seen id = some v at hv
    rcases hswept id with heq | ⟨hnone, -⟩
    · exact h.retained id v (heq ▸ hv)
    · rw [hnone] at hv
      cases hv
  · rcases h.closed id hid hpos with hseen | hlate
    · rcases hswept id with heq | ⟨-, exp, hexp, hlt⟩
      · left
        change (seen id).isSome
        rwa [heq]
      · obtain ⟨m, hm, hmid, hle⟩ := h.retained id exp hexp
        exact .inr ⟨m, hm, hmid, lt_of_le_of_lt hle hlt⟩
    · exact .inr hlate

/-- **A grant.** The id is not recorded, and the redemption is timely: so nobody has been granted it. -/
lemma FeedbackInv.grant (h : FeedbackInv i ms w gs) {ttl : ℤ}
    (hn : gs[n]? = some (.timed c ttl)) (hid : c.id ≠ "")
    (htimely : ∀ m ∈ ms, m.id = c.id → w.clock < m.expiry i + minute)
    (hfree : ∀ exp ∈ w.store.seen c.id, exp ≤ w.clock) (ops : ℕ) :
    FeedbackInv i ms { w with store := ⟨Function.update w.store.seen c.id (some (w.clock + ttl)), ops⟩ }
      (gs.set n (.granted c.id)) := by
  have hnone : w.store.seen c.id = none := by
    cases hv : w.store.seen c.id with
    | none => rfl
    | some v =>
      obtain ⟨m, hm, hmid, hle⟩ := h.retained c.id v hv
      have hlt := htimely m hm hmid
      have hold := hfree v hv
      omega
  have hzero : gs.count (.granted c.id) + w.uses c.id = 0 := by
    by_contra hpos
    rcases h.closed c.id hid (by omega) with hseen | ⟨m, hm, hmid, hlt⟩
    · rw [hnone] at hseen
      cases hseen
    · have := htimely m hm hmid
      omega
  have hcount : ∀ id, (gs.set n (.granted c.id)).count (.granted id) =
      gs.count (.granted id) + if c.id = id then 1 else 0 := by
    intro id
    have hadd := Tracker.count_set_add hn (.granted c.id) (.granted id)
    simpa using hadd
  refine ⟨fun id v hv => ?_, fun d hmem => ?_, fun d t hmem => ?_, fun id hid' => ?_, fun id hid' hpos => ?_⟩
  · change Function.update w.store.seen c.id (some (w.clock + ttl)) id = some v at hv
    by_cases hk : id = c.id
    · subst hk
      rw [Function.update_self, Option.some.injEq] at hv
      obtain ⟨m, hm, hc, -, hle⟩ := h.timed c ttl (List.mem_of_getElem? hn)
      exact ⟨m, hm, by rw [hc]; rfl, hv ▸ hle⟩
    · rw [Function.update_of_ne hk] at hv
      exact h.retained id v hv
  · rcases List.mem_or_eq_of_mem_set hmem with hold | hnew
    · exact h.verified d hold
    · cases hnew
  · rcases List.mem_or_eq_of_mem_set hmem with hold | hnew
    · exact h.timed d t hold
    · cases hnew
  · have hcnt := hcount id
    have hold := h.once id hid'
    change (gs.set n (.granted c.id)).count (.granted id) + w.uses id ≤ 1
    by_cases hk : c.id = id
    · subst hk
      simp only [if_true] at hcnt
      omega
    · simp only [hk, if_false] at hcnt
      omega
  · change (Function.update w.store.seen c.id (some (w.clock + ttl)) id).isSome ∨ _
    by_cases hk : id = c.id
    · subst hk
      left
      rw [Function.update_self]
      rfl
    · have hcnt := hcount id
      rw [if_neg fun heq => hk heq.symm] at hcnt
      rw [Function.update_of_ne hk]
      exact h.closed id hid' (by change 0 < _ + w.uses id at hpos; omega)

/-- A call that was granted its id publishes under it. -/
lemma FeedbackInv.publish (h : FeedbackInv i ms w gs) {id : String} (pub : Publication)
    (hid : pub.opts.messageID = id) (hn : id ≠ "" → gs[n]? = some (.granted id)) (hlt : n < gs.length) :
    FeedbackInv i ms { w with published := w.published ++ [pub] } (gs.set n .idle) := by
  have huses : ∀ k, FeedbackWorld.uses { w with published := w.published ++ [pub] } k =
      w.uses k + if id = k then 1 else 0 := by
    intro k
    simp only [FeedbackWorld.uses, List.countP_append, List.countP_cons, List.countP_nil, hid]
    simp
  have hsum : ∀ k, k ≠ "" → (gs.set n .idle).count (.granted k) +
      FeedbackWorld.uses { w with published := w.published ++ [pub] } k ≤
        gs.count (.granted k) + w.uses k := by
    intro k hk
    rw [huses k]
    by_cases hik : id = k
    · subst hik
      have hadd := Tracker.count_set_add (hn hk) .idle (.granted id)
      simp only [if_true, reduceCtorEq, if_false] at hadd ⊢
      omega
    · obtain ⟨g, hg⟩ : ∃ g, gs[n]? = some g := ⟨_, List.getElem?_eq_getElem hlt⟩
      have hadd := Tracker.count_set_add hg .idle (.granted k)
      simp only [reduceCtorEq, if_false] at hadd
      rw [if_neg hik]
      split_ifs at hadd <;> omega
  refine ⟨h.retained, fun d hmem => ?_, fun d t hmem => ?_, fun k hk => ?_, fun k hk hpos => ?_⟩
  · rcases List.mem_or_eq_of_mem_set hmem with hold | hnew
    · exact h.verified d hold
    · cases hnew
  · rcases List.mem_or_eq_of_mem_set hmem with hold | hnew
    · exact h.timed d t hold
    · cases hnew
  · exact (hsum k hk).trans (h.once k hk)
  · exact h.closed k hk (lt_of_lt_of_le hpos (hsum k hk))

end Keeps

/-! ### A call -/

/-- **The retention covers the token**, as long as it fits. -/
lemma retention_covers {now exp : ℤ} (h : exp - now + minute ≤ GoTime.maxInt64) :
    0 < FeedbackService.retention (some (untilAt now exp)) ∧
      exp + minute ≤ now + FeedbackService.retention (some (untilAt now exp)) := by
  have hmin : minute = 60000000000 := by decide
  have hmax : GoTime.maxInt64 = 9223372036854775807 := by decide
  have hlow : GoTime.minInt64 = -9223372036854775808 := by decide
  set d := untilAt now exp with hd
  have hdle : d + minute ≤ GoTime.maxInt64 := by
    rw [hd, untilAt]
    omega
  have hdge : GoTime.minInt64 ≤ d + minute := by
    rw [hd, untilAt]
    omega
  have hcover : exp ≤ now ∨ exp - now = d := by
    rw [hd, untilAt]
    omega
  simp only [FeedbackService.retention, GoTime.int64_of_range hdge hdle]
  split <;> omega

section Calls

variable {i : JWTIssuer} {ms : List Mint} {g : FeedbackPhase} {c : ActionClaims}

/-- An operation that only lets time pass, by a call that gets no further. -/
lemma keeps_quiet {o : FeedbackOp} {Q : o.Ans → FeedbackPhase → Prop}
    (heff : ∀ e w, (FeedbackOp.effect i e w o).2 = w)
    (hnext : ∀ a, g.next o a = .idle ∨ g.next o a = g ∧ ∃ id, g = .granted id)
    (h : ∀ a, Q a (g.next o a)) : (feedbackTracker i ms).Keeps (.perform o) g Q := by
  refine Tracker.keeps_perform fun e w gs n hinv hn _ a w' hexec => ⟨?_, h a⟩
  have hpass := FeedbackInv.pass hinv e
  obtain rfl : w' = w.pass e := by
    rw [← heff e (w.pass e)]
    exact (congrArg Prod.snd hexec).symm
  change FeedbackInv i ms (w.pass e) (gs.set n (g.next o a))
  rcases hnext a with hidle | ⟨heq, id, hg⟩
  · rw [hidle]
    exact hpass.drop hn
  · rw [heq]
    exact hpass.set hn (fun _ hk => hk) (fun _ hk => by rw [hg] at hk; cases hk)
      fun _ _ hk => by rw [hg] at hk; cases hk

lemma keeps_verify (hms : Minted i ms) {tok : String} {opts : VerifyOptions}
    {Q : Except String ActionClaims → FeedbackPhase → Prop} (herr : ∀ err, Q (.error err) .idle)
    (hok : ∀ c, Q (.ok c) (.verified c)) :
    (feedbackTracker i ms).Keeps (FeedbackM.verify tok opts) .idle Q := by
  refine Tracker.keeps_perform (o := FeedbackOp.verify tok opts) fun e w gs n hinv hn _ a w' hexec => ?_
  have hpass := FeedbackInv.pass hinv e
  obtain ⟨hv, rfl⟩ := Prod.mk.inj hexec
  cases a with
  | error err => exact ⟨hpass.drop hn, herr err⟩
  | ok claims =>
    obtain ⟨m, hm, hc, -⟩ := hms.verify hv
    refine ⟨hpass.set hn (fun _ => nofun) (fun d hd => ?_) fun _ _ => nofun, hok claims⟩
    cases hd
    exact ⟨m, hm, hc⟩

lemma keeps_timeUntil {Q : ℤ → FeedbackPhase → Prop}
    (h : ∀ d, Q d (.timed c (FeedbackService.retention (some d)))) :
    (feedbackTracker i ms).Keeps (FeedbackM.timeUntil (c.expiresAt * GoTime.second)) (.verified c) Q := by
  refine Tracker.keeps_perform (o := FeedbackOp.timeUntil _) fun e w gs n hinv hn hok a w' hexec => ⟨?_, h a⟩
  have hpass := FeedbackInv.pass hinv e
  obtain ⟨hd, rfl⟩ := Prod.mk.inj hexec
  obtain ⟨m, hm, rfl⟩ := hpass.verified c (List.mem_of_getElem? hn)
  obtain ⟨hpos, hle⟩ := retention_covers hok
  refine hpass.set hn (fun _ => nofun) (fun _ => nofun) fun d ttl hdt => ?_
  cases hdt
  rw [← hd]
  exact ⟨m, hm, rfl, hpos, hle⟩

/-- **The redemption.** -/
lemma keeps_markConsumed {ttl : ℤ} (hid : c.id ≠ "") {Q : Except String Bool → FeedbackPhase → Prop}
    (hused : Q (.ok true) .idle) (hnew : Q (.ok false) (.granted c.id)) :
    (feedbackTracker i ms).Keeps (FeedbackM.markConsumed c.id ttl) (.timed c ttl) Q := by
  refine Tracker.keeps_perform (o := FeedbackOp.markConsumed _ _) fun e w gs n hinv hn hok a w' hexec => ?_
  have hpass := FeedbackInv.pass hinv e
  obtain ⟨ha, rfl⟩ := Prod.mk.inj hexec
  obtain ⟨seen, ops, hswept, ⟨hres, -⟩ | ⟨hres, hfree⟩⟩ :=
    (w.pass e).store.markConsumed_cases (w.pass e).clock hid ttl
  · rw [hres] at ha ⊢
    subst ha
    exact ⟨(hpass.sweep hswept ops).drop hn, hused⟩
  · rw [hres] at ha ⊢
    subst ha
    obtain ⟨-, -, -, hpos, -⟩ := hpass.timed c ttl (List.mem_of_getElem? hn)
    rw [if_neg (not_le.mpr hpos)]
    exact ⟨(hpass.sweep hswept ops).grant hn hid hok hfree ops, hnew⟩

/-- The call publishes under the id that it was granted. -/
lemma keeps_publish {subject payload : String} {opts : PublishOptions} {Q : Option String → FeedbackPhase → Prop}
    (hg : opts.messageID ≠ "" → g = .granted opts.messageID) (h : ∀ r, Q r .idle) :
    (feedbackTracker i ms).Keeps (FeedbackM.publish subject payload opts) g Q := by
  refine Tracker.keeps_perform (o := FeedbackOp.publish _ _ _) fun e w gs n hinv hn _ a w' hexec => ?_
  obtain ⟨-, rfl⟩ := Prod.mk.inj hexec
  have hidle : g.next (.publish subject payload opts) a = .idle := by
    cases g <;> rfl
  change FeedbackInv i ms _ (gs.set n (g.next _ a)) ∧ Q a (g.next _ a)
  rw [hidle]
  refine ⟨(FeedbackInv.pass hinv e).publish ⟨subject, payload, opts⟩ rfl (fun hid => ?_)
    (List.getElem?_eq_some_iff.mp hn).1, h a⟩
  rw [hn, hg hid]

lemma keeps_consumeOnce {Q : Option String → FeedbackPhase → Prop} (herr : ∀ err, Q (some err) .idle)
    (hok : ∀ g, (c.id ≠ "" → g = .granted c.id) → Q none g) :
    (feedbackTracker i ms).Keeps (FeedbackService.consumeOnce c) (.verified c) Q := by
  unfold FeedbackService.consumeOnce
  by_cases hid : c.id = ""
  · rw [if_pos hid]
    exact hok _ fun hne => absurd hid hne
  · rw [if_neg hid]
    refine .bind (keeps_timeUntil fun d => .bind (keeps_markConsumed hid ?_ ?_))
    · exact herr _
    · exact hok _ fun _ => rfl

lemma keeps_redeem (s : FeedbackService) (req : FeedbackRequest) (hg : c.id ≠ "" → g = .granted c.id) :
    (feedbackTracker i ms).Keeps (s.redeem req c) g fun _ _ => True := by
  unfold FeedbackService.redeem
  have hnow : ∀ t : ℤ, c.id ≠ "" → g.next .now t = .granted c.id := by
    intro t hid
    rw [hg hid]
    rfl
  have hstay : ∀ t : ℤ, g.next .now t = .idle ∨ g.next .now t = g ∧ ∃ id, g = .granted id := by
    intro t
    cases g with
    | granted id => exact .inr ⟨rfl, id, rfl⟩
    | idle => exact .inl rfl
    | verified d => exact .inl rfl
    | timed d ttl => exact .inl rfl
  refine .bind (keeps_quiet (o := .now) (fun _ _ => rfl) hstay fun t => ?_)
  dsimp only
  cases s.marshal _ with
  | error err => exact trivial
  | ok payload =>
    refine .bind (keeps_publish (hnow t) fun r => ?_)
    cases r with
    | some err => exact trivial
    | none =>
      dsimp only
      split
      · exact .bind (keeps_quiet (o := .reEvaluate _ _) (fun _ _ => rfl) (fun _ => .inl rfl) fun _ => trivial)
      · exact trivial

/-- **A call of `Process` keeps the invariant.** -/
theorem keeps_process (hms : Minted i ms) (s : FeedbackService) (req : FeedbackRequest) :
    (feedbackTracker i ms).Keeps (s.process req) .idle fun _ _ => True := by
  unfold FeedbackService.process
  split
  · exact trivial
  split
  · exact trivial
  split
  · exact trivial
  split
  · exact trivial
  refine .bind (keeps_verify hms (fun err => trivial) fun claims => ?_)
  dsimp only
  split
  · exact trivial
  refine .bind (keeps_consumeOnce (fun err => trivial) fun g hg => ?_)
  exact keeps_redeem s req hg

end Calls

/-! ### Runs -/

section Runs

variable (s : FeedbackService) (i : JWTIssuer)

/-- The calls of `Process`, operation by operation. -/
def feedbackStep := Pool.step (FeedbackOp.exec i) s.process

variable {s i} {ms : List Mint}

lemma feedbackInv_init (clock : ℤ) : FeedbackInv i ms { clock := clock } [] :=
  ⟨fun _ _ => nofun, fun _ => nofun, fun _ _ => nofun, fun _ _ => Nat.zero_le 1,
    fun _ _ h => absurd h (lt_irrefl 0)⟩

lemma feedbackInv_spawn (w : FeedbackWorld) (gs : List FeedbackPhase) (h : FeedbackInv i ms w gs) :
    FeedbackInv i ms w (gs ++ [.idle]) := by
  have hcount : ∀ id, (gs ++ [FeedbackPhase.idle]).count (.granted id) = gs.count (.granted id) := by
    intro id
    simp
  refine ⟨h.retained, fun c hc => ?_, fun c ttl hc => ?_, fun id hid => ?_, fun id hid hpos => ?_⟩
  · exact h.verified c (by simpa using hc)
  · exact h.timed c ttl (by simpa using hc)
  · rw [hcount]
    exact h.once id hid
  · rw [hcount] at hpos
    exact h.closed id hid hpos

/-- What disappears from the store at an operation had expired there. -/
lemma exec_evicts {o : FeedbackOp} {e : FeedbackEnv} {w : FeedbackWorld} {id : String} {v : ℤ}
    (hv : w.store.seen id = some v) (hgone : (o.exec i e w).2.store.seen id = none) :
    v < (o.exec i e w).2.clock := by
  have hsame : (w.pass e).store.seen id = some v := hv
  cases o with
  | markConsumed k ttl =>
    change ((w.pass e).store.markConsumed (w.pass e).clock k ttl).2.seen id = none at hgone
    change v < (w.pass e).clock
    by_cases hk : k = ""
    · simp [SingleUseStore.markConsumed, hk, hsame] at hgone
    have hevicted : ∀ seen, SingleUseStore.Swept (w.pass e).clock (w.pass e).store.seen seen →
        seen id = none → v < (w.pass e).clock := by
      intro seen hswept hnone
      rcases hswept id with heq | ⟨-, exp, hexp, hlt⟩
      · rw [heq, hsame] at hnone
        cases hnone
      · rw [hsame, Option.some.injEq] at hexp
        exact hexp ▸ hlt
    obtain ⟨seen, ops, hswept, ⟨hres, -⟩ | ⟨hres, -⟩⟩ :=
      (w.pass e).store.markConsumed_cases (w.pass e).clock hk ttl
    · rw [hres] at hgone
      exact hevicted seen hswept hgone
    · rw [hres] at hgone
      by_cases heq : id = k
      · simp [heq] at hgone
      · exact hevicted seen hswept (by simpa [heq] using hgone)
  | verify tok opts => exact absurd (hgone.symm.trans hsame) nofun
  | timeUntil exp => exact absurd (hgone.symm.trans hsame) nofun
  | now => exact absurd (hgone.symm.trans hsame) nofun
  | publish subject payload opts => exact absurd (hgone.symm.trans hsame) nofun
  | reEvaluate t m => exact absurd (hgone.symm.trans hsame) nofun

/-- **Banner tokens are single use.** Whatever the interleaving of any number of `Process` calls, on a store that
starts empty and a clock that does not go back, if every redemption is timely: at most one call reaches `Publish`
with an id, and an id that leaves the store is that of no token that verifies then or later. -/
theorem banner_token_single_use (hms : Minted i ms) {clock : ℤ}
    {ls : List (Pool.Label FeedbackRequest FeedbackEnv)} {p : Pool FeedbackOp FeedbackOp.Ans _ FeedbackWorld}
    (htimely : Lts.Meets (feedbackStep s i) (feedbackTracker i ms).Allows ⟨{ clock := clock }, []⟩ ls)
    (hrun : Lts.run (feedbackStep s i) ⟨{ clock := clock }, []⟩ ls = some p) :
    (∀ id, id ≠ "" → p.shared.uses id ≤ 1) ∧
      ∀ l p', feedbackStep s i p l = some p' → ∀ id, (p.shared.store.seen id).isSome →
        p'.shared.store.seen id = none → ∀ now tok opts c, p'.shared.clock ≤ now →
          i.verifyWithOptions (now / GoTime.second) tok opts = .ok c → c.id ≠ id := by
  have hholds := Tracker.run_holds (T := feedbackTracker i ms) (R := fun _ _ _ => True) feedbackInv_spawn
    (fun req _ => keeps_process hms s req) (Tracker.holds_nil (feedbackInv_init clock)) htimely hrun
  refine ⟨fun id hid => ?_, fun l p' hstep id hseen hgone now tok opts c hnow hv hc => ?_⟩
  · exact (Nat.le_add_left _ _).trans (hholds.inv.once id hid)
  · obtain ⟨v, hv'⟩ := Option.isSome_iff_exists.mp hseen
    have hexpired : v < p'.shared.clock := by
      obtain ⟨req, rfl, rfl⟩ | ⟨n, e, done, o, k, rfl, -, rfl⟩ := Pool.step_cases hstep
      · exact absurd (hgone.symm.trans hv') nofun
      · exact exec_evicts hv' hgone
    obtain ⟨m, hm, hmid, hle⟩ := hholds.inv.retained id v hv'
    obtain ⟨m', hm', rfl, hlt⟩ := hms.verify hv
    obtain rfl : m' = m := hms.fresh m' hm' m hm (hc.trans hmid.symm)
    have hmin : 0 < minute := by decide
    omega

end Runs

/-! ### One banner -/

/-- A banner token. -/
def bannerMint (ttl : ℤ) : Mint where
  now := 0
  id := "j"
  tenantID := "t"
  pseudoMessageID := "m"
  opts := { ttl, audience := [audienceActionFeedback] }

/-- An issuer that has signed one token, which reads "j". -/
def bannerIssuer (ttl : ℤ) : JWTIssuer where
  sign _ := .ok "j"
  parse now tok :=
    if tok = "j" ∧ -60 ≤ now ∧ now < ttl then
      .ok { tenantID := "t", pseudonymizedMessage := "m", id := "j", issuer := "sn360-es"
            audience := [audienceActionFeedback], expiresAt := ttl, notBefore := -60, issuedAt := 0 }
    else .error { err := "token is expired", expired := true }

lemma bannerIssuer_minted {ttl : ℤ} (h : 0 < ttl) : Minted (bannerIssuer ttl) [bannerMint ttl] := by
  have hclaims : ∀ now tok c, (bannerIssuer ttl).parse now tok = .ok c →
      c = (bannerMint ttl).claims (bannerIssuer ttl) ∧ now < ttl := by
    intro now tok c hparse
    unfold bannerIssuer at hparse
    simp only at hparse
    split_ifs at hparse with hvalid
    cases hparse
    refine ⟨?_, hvalid.2.2⟩
    simp [Mint.claims, JWTIssuer.claimsFor, bannerMint, bannerIssuer, not_le.mpr h]
  refine ⟨fun now tok c hparse => ⟨_, List.mem_singleton_self _, (hclaims now tok c hparse).1⟩, ?_, ?_⟩
  · intro now tok c hparse
    obtain ⟨rfl, hlt⟩ := hclaims now tok c hparse
    simpa [Mint.claims, JWTIssuer.claimsFor, bannerMint, not_le.mpr h] using hlt
  · intro m hm m' hm' _
    rw [List.mem_singleton.mp hm, List.mem_singleton.mp hm']

def feedbackService : FeedbackService where
  marshal evt := .ok (evt.tenantID ++ evt.pseudonymizedMessage ++ evt.action)

/-- Two clicks on one banner: both calls verify, and the second is redeemed `later` nanoseconds after the first. -/
def twoClicks (later : ℕ) : List (Pool.Label FeedbackRequest FeedbackEnv) :=
  [.spawn ⟨"j", feedbackMarkSafe⟩, .spawn ⟨"j", feedbackReportPhishing⟩, .advance 0 {}, .advance 1 {},
    .advance 0 {}, .advance 0 {}, .advance 0 {}, .advance 0 {}, .advance 1 { tick := later }, .advance 1 {}]

/-- With a life of an hour, the second click is refused. -/
theorem banner_token_two_clicks : ∃ p,
    Lts.run (feedbackStep feedbackService (bannerIssuer 3600)) ⟨{ clock := 0 }, []⟩ (twoClicks 0) = some p ∧
      p.shared.uses "j" = 1 ∧ (∀ id, id ≠ "" → p.shared.uses id ≤ 1) := by
  have hend : (Lts.run (feedbackStep feedbackService (bannerIssuer 3600)) ⟨{ clock := 0 }, []⟩
      (twoClicks 0)).map (fun p => p.shared.uses "j") = some 1 := by
    decide +kernel
  obtain ⟨p, hrun, hp⟩ := Option.map_eq_some_iff.mp hend
  exact ⟨p, hrun, hp, (banner_token_single_use (bannerIssuer_minted (by decide))
    (by decide +kernel) hrun).1⟩

/-- **With a life of 292 years**, the retention wraps around: two minutes later, while the token verifies, the
second click is published too. -/
theorem banner_token_redeemed_twice : Minted (bannerIssuer 9223372036) [bannerMint 9223372036] ∧
    ∃ p, Lts.run (feedbackStep feedbackService (bannerIssuer 9223372036)) ⟨{ clock := 0 }, []⟩
        (twoClicks 120000000000 ++ [.advance 1 {}, .advance 1 {}]) = some p ∧
      p.shared.clock / GoTime.second < 9223372036 ∧ p.shared.uses "j" = 2 := by
  refine ⟨bannerIssuer_minted (by decide), ?_⟩
  have hend : (Lts.run (feedbackStep feedbackService (bannerIssuer 9223372036)) ⟨{ clock := 0 }, []⟩
      (twoClicks 120000000000 ++ [.advance 1 {}, .advance 1 {}])).map
        (fun p => (p.shared.clock, p.shared.uses "j")) = some (120000000000, 2) := by
    decide +kernel
  obtain ⟨p, hrun, hp⟩ := Option.map_eq_some_iff.mp hend
  obtain ⟨hclock, huses⟩ := Prod.mk.inj hp
  refine ⟨p, hrun, ?_, huses⟩
  rw [hclock]
  decide

end Sn360Es.Action
