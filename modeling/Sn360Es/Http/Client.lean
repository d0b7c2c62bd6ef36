import Mathlib.Algebra.Order.Ring.Int
import Mathlib.Tactic.SplitIfs
import Sn360Es.Lib.Lts

/-!
# The HTTP client and its breaker (`pkg/httpclient/client.go`)

`Client.Do` asks the breaker once, and then makes up to `MaxRetries + 1` attempts. The breaker hears of an attempt that
was answered; a call that leaves before its attempt says nothing, and keeps the trial slot if it has it.

* `step_cases` — what a step does to the breaker and to the calls in flight;
* `HalfOpenHeld`, `QuietWhenOpen` — the invariants of the slot and of the open state;
* `http_breaker_never_wedges_iff` — the breaker is never wedged exactly if a half-open breaker is not left by its last
  call, and sends nothing while it is open if nothing is to be sent whenever it opens.
-/

namespace Sn360Es.Http

open Lib

/-! ### The breaker -/

inductive State where
  | closed
  | opened
  | halfOpen
  deriving DecidableEq, Repr

/-- `breaker`; times in nanoseconds. -/
structure Breaker where
  threshold : Int32
  timeout : ℤ
  failures : Int32 := 0
  state : State := .closed
  openedAt : ℤ := 0
  tripDisabled : Bool := false
  trialInFlight : Bool := false
  deriving DecidableEq

/-- `newBreaker`. -/
def newBreaker (threshold timeout : ℤ) : Breaker where
  threshold := Int32.ofInt threshold
  timeout := timeout
  tripDisabled := threshold ≤ 0

namespace Breaker

def allow (b : Breaker) (now : ℤ) : Bool × Breaker :=
  match b.state with
  | .closed => (true, b)
  | .halfOpen => if b.trialInFlight then (false, b) else (true, { b with trialInFlight := true })
  | .opened =>
    if now - b.openedAt < b.timeout then (false, b)
    else (true, { b with state := .halfOpen, trialInFlight := true })

def success (b : Breaker) : Breaker := { b with failures := 0, state := .closed, trialInFlight := false }

def failure (b : Breaker) (now : ℤ) : Breaker :=
  if b.tripDisabled then b
  else
    let b := { b with failures := b.failures + 1 }
    if b.threshold ≤ b.failures ∨ b.state = .halfOpen then
      { b with state := .opened, openedAt := now, trialInFlight := false }
    else b

end Breaker

/-! ### Requests -/

/-- `Config`, as far as retries and the breaker go. -/
structure Config where
  maxRetries : ℤ := 0
  maxRetriesExplicit : Bool := false
  retryBaseDelay : ℤ := 0
  circuitFailureThreshold : ℤ := 0
  circuitOpenTimeout : ℤ := 0
  deriving DecidableEq, Repr

/-- `defaulted`. -/
def Config.defaulted (c : Config) : Config :=
  { c with
    maxRetries :=
      if c.maxRetries < 0 then 0 else if c.maxRetries = 0 ∧ !c.maxRetriesExplicit then 2 else c.maxRetries
    retryBaseDelay := if c.retryBaseDelay = 0 then 100000000 else c.retryBaseDelay
    circuitFailureThreshold := if c.circuitFailureThreshold = 0 then 5 else c.circuitFailureThreshold
    circuitOpenTimeout := if c.circuitOpenTimeout = 0 then 30000000000 else c.circuitOpenTimeout }

/-- The delay before an attempt, a shift of 64 bits. -/
def Config.delay (c : Config) (attempt : ℕ) : ℤ := Int.bmod (c.retryBaseDelay * 2 ^ (attempt - 1)) (2 ^ 64)

inductive Method where
  | get | head | options | put | delete | post | other
  deriving DecidableEq, Repr

/-- What `Do` looks at in a request. -/
structure Request where
  method : Method
  /-- `hasNonEmptyBody`. -/
  hasBody : Bool := false
  /-- `GetBody` is set. -/
  getBody : Bool := false
  deriving DecidableEq, Repr

/-- `isIdempotent`. -/
def Request.isIdempotent (req : Request) : Bool :=
  match req.method with
  | .get | .head | .options => true
  | .put | .delete => !req.hasBody || req.getBody
  | .post => req.getBody
  | .other => false

/-- What `httpDo` returns: a transport error or a status. -/
inductive Answer where
  | error (err : String)
  | status (code : ℤ)
  deriving DecidableEq, Repr

/-- The answer counts as a failure. -/
def Answer.fails : Answer → Bool
  | .error _ => true
  | .status code => 500 ≤ code

inductive DoResult where
  | response (code : ℤ)
  | circuitOpen
  | ctxErr
  | rewindBody (err : String)
  /-- `Error` with its cause. -/
  | request (cause : String)
  deriving DecidableEq, Repr

/-! ### Concurrent calls -/

/-- A call that was admitted. Before an attempt it is `ready` from a time on, and then it waits for the answer. -/
structure Call where
  id : ℕ
  req : Request
  attempt : ℕ := 0
  sending : Bool := false
  readyAt : ℤ
  deriving DecidableEq, Repr

structure Client where
  breaker : Breaker
  now : ℤ := 0
  calls : List Call := []
  nextID : ℕ := 0
  results : List (ℕ × DoResult) := []
  deriving DecidableEq

inductive Event where
  /-- A call of `Do` asks the breaker. -/
  | begin (req : Request)
  /-- The context of a call ends before an attempt or while it waits for one. -/
  | cancel (id : ℕ)
  /-- `GetBody` fails before a retry. -/
  | rewindFails (id : ℕ) (err : String)
  | send (id : ℕ)
  | answer (id : ℕ) (a : Answer)
  /-- The clock advances. -/
  | tick (d : ℕ)
  deriving DecidableEq, Repr

/-- `New` and `FromHTTPClient`. -/
def Config.client (cfg : Config) : Client where
  breaker := newBreaker cfg.defaulted.circuitFailureThreshold cfg.defaulted.circuitOpenTimeout

namespace Client

/-- `Do` returns. -/
def leave (s : Client) (c : Call) (r : DoResult) : Client :=
  { s with calls := s.calls.erase c, results := s.results ++ [(c.id, r)] }

/-- The call is tried again after this answer. -/
def retries (cfg : Config) (c : Call) (a : Answer) : Bool :=
  a.fails && c.req.isIdempotent && c.attempt < cfg.defaulted.maxRetries

/-- What `Do` does with an answer, after the breaker was told. -/
def settle (cfg : Config) (s : Client) (c : Call) (a : Answer) : Client :=
  if retries cfg c a then
    { s with calls := s.calls.erase c ++
      [{ c with
        attempt := c.attempt + 1
        sending := false
        readyAt := s.now + cfg.defaulted.delay (c.attempt + 1) }] }
  else
    match a with
    | .error err => s.leave c (.request err)
    | .status code => s.leave c (.response code)

/-- A step. -/
def step (cfg : Config) (s : Client) : Event → Option Client
  | .begin req =>
    match s.breaker.allow s.now with
    | (true, b) =>
      some { s with
        breaker := b, calls := s.calls ++ [{ id := s.nextID, req, readyAt := s.now }], nextID := s.nextID + 1 }
    | (false, b) =>
      some { s with breaker := b, nextID := s.nextID + 1, results := s.results ++ [(s.nextID, .circuitOpen)] }
  | .cancel id =>
    match s.calls.find? fun c => c.id = id ∧ !c.sending with
    | none => none
    | some c => some (s.leave c .ctxErr)
  | .rewindFails id err =>
    match s.calls.find? fun c => c.id = id ∧ !c.sending ∧ 0 < c.attempt ∧ c.req.getBody ∧ c.readyAt ≤ s.now with
    | none => none
    | some c => some (s.leave c (.rewindBody err))
  | .send id =>
    match s.calls.find? fun c => c.id = id ∧ !c.sending ∧ c.readyAt ≤ s.now with
    | none => none
    | some c => some { s with calls := s.calls.erase c ++ [{ c with sending := true }] }
  | .answer id a =>
    match s.calls.find? fun c => c.id = id ∧ c.sending with
    | none => none
    | some c =>
      let b := if a.fails then s.breaker.failure s.now else s.breaker.success
      some (settle cfg { s with breaker := b } c a)
  | .tick d => some { s with now := s.now + d }

end Client

/-! ### What a step does -/

/-- The ways to get from a state to another. -/
inductive Steps (cfg : Config) (s : Client) : Event → Client → Prop where
  | begin (req : Request) (b : Breaker) (c : Call) (results : List (ℕ × DoResult)) (n : ℕ)
    (hb : s.breaker.allow s.now = (true, b)) :
    Steps cfg s (.begin req) { s with breaker := b, calls := s.calls ++ [c], nextID := n, results }
  | refuse (req : Request) (results : List (ℕ × DoResult)) (n : ℕ) :
    Steps cfg s (.begin req) { s with nextID := n, results }
  | cancel (id : ℕ) (c : Call) (r : DoResult) (hc : c ∈ s.calls) : Steps cfg s (.cancel id) (s.leave c r)
  | rewindFails (id : ℕ) (err : String) (c : Call) (r : DoResult) (hc : c ∈ s.calls) :
    Steps cfg s (.rewindFails id err) (s.leave c r)
  | send (id : ℕ) (c c' : Call) (hc : c ∈ s.calls) (hsending : c'.sending) :
    Steps cfg s (.send id) { s with calls := s.calls.erase c ++ [c'] }
  | fail (id : ℕ) (a : Answer) (c : Call) (ha : a.fails) (hc : c ∈ s.calls) (hid : c.id = id) :
    Steps cfg s (.answer id a) (Client.settle cfg { s with breaker := s.breaker.failure s.now } c a)
  | succeed (id : ℕ) (a : Answer) (c : Call) (ha : a.fails = false) (hc : c ∈ s.calls) :
    Steps cfg s (.answer id a) (Client.settle cfg { s with breaker := s.breaker.success } c a)
  | tick (d : ℕ) : Steps cfg s (.tick d) { s with now := s.now + d }

section Steps

variable {cfg : Config} {s s' : Client} {e : Event} {b : Breaker} {now : ℤ}

/-- What `allow` does: it refuses and changes nothing, admits in the closed state, or gives the trial slot. -/
lemma allow_cases (b : Breaker) (now : ℤ) :
    b.allow now = (false, b) ∧
      (b.state = .halfOpen ∧ b.trialInFlight ∨ b.state = .opened ∧ now - b.openedAt < b.timeout) ∨
    b.allow now = (true, b) ∧ b.state = .closed ∨
    b.allow now = (true, { b with state := .halfOpen, trialInFlight := true }) ∧
      (b.state = .halfOpen ∧ b.trialInFlight = false ∨ b.state = .opened ∧ b.timeout ≤ now - b.openedAt) := by
  unfold Breaker.allow
  cases hstate : b.state with
  | closed => exact Or.inr (Or.inl ⟨rfl, rfl⟩)
  | halfOpen =>
    cases htrial : b.trialInFlight with
    | true => exact Or.inl ⟨rfl, Or.inl ⟨rfl, rfl⟩⟩
    | false =>
      refine Or.inr (Or.inr ⟨?_, Or.inl ⟨rfl, rfl⟩⟩)
      simp [← hstate]
  | opened =>
    by_cases ht : now - b.openedAt < b.timeout
    · exact Or.inl ⟨by simp [ht], Or.inr ⟨rfl, ht⟩⟩
    · exact Or.inr (Or.inr ⟨by simp [ht], Or.inr ⟨rfl, not_lt.mp ht⟩⟩)

lemma find_spec {p : Call → Bool} {c : Call} (h : s.calls.find? p = some c) : c ∈ s.calls ∧ p c :=
  ⟨List.mem_of_find?_eq_some h, List.find?_some h⟩

/-- **What a step does.** -/
theorem step_cases (h : s.step cfg e = some s') : Steps cfg s e s' := by
  cases e with
  | begin req =>
    dsimp only [Client.step] at h
    split at h
    · next b hb =>
      obtain rfl := Option.some.inj h
      exact .begin req b _ _ _ hb
    · next b hb =>
      obtain rfl := Option.some.inj h
      have hsame : b = s.breaker := by
        rcases allow_cases s.breaker s.now with ⟨h, -⟩ | ⟨h, -⟩ | ⟨h, -⟩
        · exact (Prod.mk.inj (hb.symm.trans h)).2
        · cases (Prod.mk.inj (hb.symm.trans h)).1
        · cases (Prod.mk.inj (hb.symm.trans h)).1
      rw [hsame]
      exact .refuse req _ _
  | cancel id =>
    dsimp only [Client.step] at h
    split at h
    · cases h
    · next c hc =>
      obtain rfl := Option.some.inj h
      exact .cancel id c _ (find_spec hc).1
  | rewindFails id err =>
    dsimp only [Client.step] at h
    split at h
    · cases h
    · next c hc =>
      obtain rfl := Option.some.inj h
      exact .rewindFails id err c _ (find_spec hc).1
  | send id =>
    dsimp only [Client.step] at h
    split at h
    · cases h
    · next c hc =>
      obtain rfl := Option.some.inj h
      exact .send id c _ (find_spec hc).1 rfl
  | answer id a =>
    dsimp only [Client.step] at h
    split at h
    · cases h
    · next c hc =>
      obtain ⟨hmem, hid⟩ := find_spec hc
      obtain rfl := Option.some.inj h
      cases ha : a.fails with
      | true => exact .fail id a c ha hmem (by simpa using (of_decide_eq_true hid).1)
      | false => exact .succeed id a c ha hmem
  | tick d =>
    obtain rfl := Option.some.inj h
    exact .tick d

lemma settle_breaker (s : Client) (c : Call) (a : Answer) : (Client.settle cfg s c a).breaker = s.breaker := by
  unfold Client.settle
  split_ifs
  · rfl
  · cases a <;> rfl

/-- A call that is not tried again leaves. -/
lemma settle_calls (s : Client) (c : Call) {a : Answer} (h : Client.retries cfg c a = false) :
    (Client.settle cfg s c a).calls = s.calls.erase c := by
  unfold Client.settle
  rw [if_neg (by simp [h])]
  cases a <;> rfl

lemma failure_state (b : Breaker) (now : ℤ) :
    (b.failure now).state = .opened ∨ (b.failure now).state = b.state ∧ (b.state = .halfOpen → b.tripDisabled) := by
  unfold Breaker.failure
  dsimp only
  split_ifs with hdisabled htrip
  · exact Or.inr ⟨rfl, fun _ => hdisabled⟩
  · exact Or.inl rfl
  · exact Or.inr ⟨rfl, fun h => absurd (Or.inr h) htrip⟩

end Steps

/-! ### The trial slot -/

/-- The next call is admitted, once no call is in flight and the timeout has elapsed. -/
def Client.NotWedged (s : Client) : Prop :=
  s.calls = [] → (s.breaker.state ≠ .closed → s.breaker.timeout ≤ s.now - s.breaker.openedAt) →
    (s.breaker.allow s.now).1

instance (s : Client) : Decidable s.NotWedged := by
  unfold Client.NotWedged
  infer_instance

/-- The last call in flight does not leave a half-open breaker without an answer. -/
def KeepsTrial (s : Client) : Event → Prop
  | .cancel _ | .rewindFails _ _ => s.breaker.state = .halfOpen → 1 < s.calls.length
  | _ => True

instance (s : Client) (e : Event) : Decidable (KeepsTrial s e) := by
  unfold KeepsTrial
  split <;> infer_instance

/-- **The half-open state is held** by a call in flight, which has the slot. -/
structure HalfOpenHeld (s : Client) : Prop where
  disabled : s.breaker.tripDisabled → s.breaker.state = .closed
  trial : s.breaker.state = .halfOpen → s.breaker.trialInFlight
  elapsed : s.breaker.state = .halfOpen → s.breaker.timeout ≤ s.now - s.breaker.openedAt
  held : s.breaker.state = .halfOpen → s.calls ≠ []

section Trial

variable {cfg : Config} {s s' : Client} {e : Event}

lemma HalfOpenHeld.notWedged (h : HalfOpenHeld s) : s.NotWedged := by
  intro hcalls helapsed
  rcases allow_cases s.breaker s.now with ⟨-, ⟨hstate, -⟩ | ⟨hstate, hlt⟩⟩ | ⟨hallow, -⟩ | ⟨hallow, -⟩
  · exact absurd hcalls (h.held hstate)
  · exact absurd (helapsed (by simp [hstate])) (not_le.mpr hlt)
  · simp [hallow]
  · simp [hallow]

/-- A call leaves: either another one is in flight, or the breaker is not half-open. -/
lemma HalfOpenHeld.leave {c : Call} {r : DoResult} (h : HalfOpenHeld s) (hc : c ∈ s.calls)
    (hkeeps : s.breaker.state = .halfOpen → 1 < s.calls.length) : HalfOpenHeld (s.leave c r) := by
  refine ⟨h.disabled, h.trial, h.elapsed, fun hstate hnil => ?_⟩
  have hlen := congrArg List.length hnil
  rw [Client.leave, List.length_erase_of_mem hc, List.length_nil] at hlen
  have hmany := hkeeps hstate
  omega

/-- If it is the last one, a half-open breaker is wedged. -/
lemma HalfOpenHeld.wedged {c : Call} {r : DoResult} (h : HalfOpenHeld s) (hc : c ∈ s.calls)
    (hstate : s.breaker.state = .halfOpen) (hlast : ¬ 1 < s.calls.length) : ¬ (s.leave c r).NotWedged := by
  have hnil : (s.leave c r).calls = [] := by
    rw [← List.length_eq_zero_iff, Client.leave, List.length_erase_of_mem hc]
    omega
  intro hwedged
  have hadmitted := hwedged hnil fun _ => h.elapsed hstate
  have hallow : (s.leave c r).breaker.allow (s.leave c r).now = (false, s.breaker) := by
    simp [Client.leave, Breaker.allow, hstate, h.trial hstate]
  rw [hallow] at hadmitted
  cases hadmitted

/-- A breaker that was told of an answer is not half-open. -/
lemma HalfOpenHeld.settle {c : Call} {a : Answer} {b : Breaker} (hdisabled : b.tripDisabled → b.state = .closed)
    (hstate : b.state ≠ .halfOpen) : HalfOpenHeld (Client.settle cfg { s with breaker := b } c a) := by
  constructor
  · rwa [settle_breaker]
  · rw [settle_breaker]
    exact fun h => absurd h hstate
  · rw [settle_breaker]
    exact fun h => absurd h hstate
  · rw [settle_breaker]
    exact fun h => absurd h hstate

lemma HalfOpenHeld.step (h : HalfOpenHeld s) (hkeeps : KeepsTrial s e) (hstep : Steps cfg s e s') :
    HalfOpenHeld s' := by
  cases hstep with
  | begin req b c results n hb =>
    rcases allow_cases s.breaker s.now with ⟨hallow, -⟩ | ⟨hallow, hstate⟩ | ⟨hallow, hstate⟩
    · rw [hallow] at hb
      cases (Prod.mk.inj hb).1
    · obtain rfl : s.breaker = b := (Prod.mk.inj (hallow.symm.trans hb)).2
      exact ⟨h.disabled, h.trial, h.elapsed, fun _ => by simp⟩
    · obtain rfl : _ = b := (Prod.mk.inj (hallow.symm.trans hb)).2
      refine ⟨fun hd => ?_, fun _ => rfl, fun _ => ?_, fun _ => by simp⟩
      · have hclosed := h.disabled hd
        simp [hclosed] at hstate
      · rcases hstate with ⟨hhalf, -⟩ | ⟨-, helapsed⟩
        · exact h.elapsed hhalf
        · exact helapsed
  | refuse req results n => exact ⟨h.disabled, h.trial, h.elapsed, h.held⟩
  | cancel id c r hc => exact h.leave hc hkeeps
  | rewindFails id err c r hc => exact h.leave hc hkeeps
  | send id c c' hc hsending => exact ⟨h.disabled, h.trial, h.elapsed, fun _ => by simp⟩
  | fail id a c ha hc hid =>
    have hdisabled : (s.breaker.failure s.now).tripDisabled = s.breaker.tripDisabled := by
      unfold Breaker.failure
      dsimp only
      split_ifs <;> rfl
    refine HalfOpenHeld.settle (fun hd => ?_) fun hhalf => ?_
    · rw [hdisabled] at hd
      simp [Breaker.failure, hd, h.disabled hd]
    · rcases failure_state s.breaker s.now with hopened | ⟨hsame, hd⟩
      · rw [hopened] at hhalf
        cases hhalf
      · rw [hsame] at hhalf
        rw [h.disabled (hd hhalf)] at hhalf
        cases hhalf
  | succeed id a c ha hc => exact HalfOpenHeld.settle (fun _ => rfl) (by simp [Breaker.success])
  | tick d =>
    refine ⟨h.disabled, h.trial, fun hstate => ?_, h.held⟩
    have helapsed := h.elapsed hstate
    dsimp only
    omega

/-- **When a step wedges the breaker.** -/
lemma notWedged_step (h : HalfOpenHeld s) (hstep : Steps cfg s e s') : s'.NotWedged ↔ KeepsTrial s e := by
  constructor
  · intro hw
    have hleave : ∀ {c r}, c ∈ s.calls → s' = s.leave c r → s.breaker.state = .halfOpen → 1 < s.calls.length := by
      rintro c r hc rfl hstate
      by_contra hlast
      exact h.wedged hc hstate hlast hw
    cases hstep with
    | cancel id c r hc => exact hleave hc rfl
    | rewindFails id err c r hc => exact hleave hc rfl
    | _ => trivial
  · exact fun hkeeps => (h.step hkeeps hstep).notWedged

end Trial

/-! ### The open state -/

/-- No attempt starts while the breaker is open and the timeout has not elapsed. -/
def NotWhileOpen (s : Client) : Event → Prop
  | .send id => ∀ c ∈ s.calls, c.id = id → c.sending = false →
      ¬ (s.breaker.state = .opened ∧ s.now - s.breaker.openedAt < s.breaker.timeout)
  | _ => True

instance (s : Client) (e : Event) : Decidable (NotWhileOpen s e) := by
  unfold NotWhileOpen
  split <;> infer_instance

/-- A failure that leaves the breaker open comes when every call in flight has sent its attempt, and is not retried. -/
def OpensQuietly (cfg : Config) (s : Client) : Event → Prop
  | .answer id a => a.fails → (s.breaker.failure s.now).state = .opened →
      ∀ c ∈ s.calls, c.sending ∧ (c.id = id → Client.retries cfg c a = false)
  | _ => True

instance (cfg : Config) (s : Client) (e : Event) : Decidable (OpensQuietly cfg s e) := by
  unfold OpensQuietly
  split <;> infer_instance

/-- **Quiet when open**: the calls in flight wait for answers. -/
def QuietWhenOpen (s : Client) : Prop := s.breaker.state = .opened → ∀ c ∈ s.calls, c.sending

section Open

variable {cfg : Config} {s s' : Client} {e : Event}

lemma QuietWhenOpen.step (h : QuietWhenOpen s) (hquiet : OpensQuietly cfg s e) (hstep : Steps cfg s e s') :
    QuietWhenOpen s' := by
  cases hstep with
  | begin req b c results n hb =>
    intro hstate
    exfalso
    rcases allow_cases s.breaker s.now with ⟨hallow, -⟩ | ⟨hallow, hclosed⟩ | ⟨hallow, -⟩
    · rw [hallow] at hb
      cases (Prod.mk.inj hb).1
    · obtain rfl : s.breaker = b := (Prod.mk.inj (hallow.symm.trans hb)).2
      simp [hclosed] at hstate
    · obtain rfl : _ = b := (Prod.mk.inj (hallow.symm.trans hb)).2
      cases hstate
  | refuse req results n => exact h
  | cancel id c r hc => exact fun hstate x hx => h hstate x (List.mem_of_mem_erase hx)
  | rewindFails id err c r hc => exact fun hstate x hx => h hstate x (List.mem_of_mem_erase hx)
  | send id c c' hc hsending =>
    intro hstate x hx
    rcases List.mem_append.mp hx with hx | hx
    · exact h hstate x (List.mem_of_mem_erase hx)
    · obtain rfl := List.mem_singleton.mp hx
      exact hsending
  | fail id a c ha hc hid =>
    intro hstate x hx
    rw [settle_breaker] at hstate
    have hall := hquiet ha hstate
    rw [settle_calls _ _ ((hall c hc).2 hid)] at hx
    exact (hall x (List.mem_of_mem_erase hx)).1
  | succeed id a c ha hc =>
    intro hstate
    rw [settle_breaker] at hstate
    cases hstate
  | tick d => exact h

lemma QuietWhenOpen.notWhileOpen (h : QuietWhenOpen s) : NotWhileOpen s e := by
  cases e with
  | send id =>
    rintro c hc - hready ⟨hstate, -⟩
    rw [h hstate c hc] at hready
    cases hready
  | _ => trivial

end Open

/-! ### Runs -/

lemma halfOpenHeld_client (cfg : Config) : HalfOpenHeld cfg.client := by
  constructor <;> simp [Config.client, newBreaker]

lemma quietWhenOpen_client (cfg : Config) : QuietWhenOpen cfg.client := by
  intro hstate
  cases hstate

/-- **The breaker never wedges**, exactly if a half-open breaker is never left without an answer by the last call in
flight; and no attempt starts while it is open, if it opens only when no attempt is to start. -/
theorem http_breaker_never_wedges_iff (cfg : Config) {es : List Event} {s : Client}
    (hrun : Lts.run (Client.step cfg) cfg.client es = some s) :
    (Lts.Throughout (Client.step cfg) Client.NotWedged cfg.client es ↔
      Lts.Meets (Client.step cfg) KeepsTrial cfg.client es) ∧
    (Lts.Meets (Client.step cfg) (OpensQuietly cfg) cfg.client es →
      Lts.Meets (Client.step cfg) NotWhileOpen cfg.client es) := by
  constructor
  · refine Lts.throughout_iff (J := HalfOpenHeld) ?_ ?_ (halfOpenHeld_client cfg) (halfOpenHeld_client cfg).notWedged
      hrun
    · exact fun t e t' ht hkeeps hstep => ht.step hkeeps (step_cases hstep)
    · exact fun t e t' ht hstep => notWedged_step ht (step_cases hstep)
  · refine Lts.Meets.imp (I := QuietWhenOpen) ?_ ?_ (quietWhenOpen_client cfg)
    · exact fun t e t' ht hquiet hstep => ht.step hquiet (step_cases hstep)
    · exact fun t e ht _ => ht.notWhileOpen

/-- A client with one failure to the open state, no retries and a timeout of one second. -/
def touchyConfig : Config where
  maxRetriesExplicit := true
  circuitFailureThreshold := 1
  circuitOpenTimeout := 1000000000

/-- A failure, and a successful trial after the timeout. -/
def recoveringRun : List Event :=
  [.begin ⟨.get, false, false⟩, .send 0, .answer 0 (.status 503), .tick 1000000000, .begin ⟨.get, false, false⟩,
    .send 1, .answer 1 (.status 200)]

theorem http_breaker_recovers :
    Lts.Throughout (Client.step touchyConfig) Client.NotWedged touchyConfig.client recoveringRun ∧
      Lts.Meets (Client.step touchyConfig) NotWhileOpen touchyConfig.client recoveringRun := by
  obtain ⟨s, hrun⟩ := Option.isSome_iff_exists.mp
    (show (Lts.run (Client.step touchyConfig) touchyConfig.client recoveringRun).isSome by decide)
  obtain ⟨hwedge, hopen⟩ := http_breaker_never_wedges_iff touchyConfig hrun
  exact ⟨hwedge.mpr (by decide), hopen (by decide)⟩

/-- The context of the trial ends before its attempt. -/
def cancelledRun : List Event :=
  [.begin ⟨.get, false, false⟩, .send 0, .answer 0 (.status 503), .tick 1000000000, .begin ⟨.get, false, false⟩,
    .cancel 1]

/-- A call that is retried after it has opened the breaker. -/
def retriedRun : List Event :=
  [.begin ⟨.get, false, false⟩, .send 0, .answer 0 (.status 503), .tick 100000000, .send 0]

/-- The breaker stays half-open without a call in flight; and with retries an attempt is sent to an open one. -/
theorem cancelled_trial_wedges :
    ¬ Lts.Throughout (Client.step touchyConfig) Client.NotWedged touchyConfig.client cancelledRun ∧
    ¬ Lts.Meets (Client.step { circuitFailureThreshold := 1 }) NotWhileOpen
      (Config.client { circuitFailureThreshold := 1 }) retriedRun := by
  constructor
  · decide
  · decide

end Sn360Es.Http
