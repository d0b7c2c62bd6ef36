import Mathlib.Algebra.Order.Group.Int
import Mathlib.Data.List.Count
import Mathlib.Tactic.SplitIfs
import Sn360Es.Lib.Lts

/-!
# The circuit breaker (`internal/service/evaluate/circuit_breaker.go`)

The breaker itself (`allow`, `onSuccess`, `onFailure`, `transition`, each atomic under `cb.mu`), and the
system of any number of concurrent `Do` calls over it: a call begins with `allow`, stays in flight
while its `op` runs, and finishes with exactly one `onSuccess` or `onFailure`, in any interleaving with
the other calls and with the clock.

* `ProbeSlot` — the slot is taken only in the half-open state; it is kept by every step;
* `NeverWedges` — the slot, the two counters and the calls in flight; it holds in every reachable state;
* `ProbeFence` — as many probes in flight as slots taken; it is kept as long as no call that was
  admitted in the closed state finishes while a probe is in flight (`ProbeNotOvertaken`).

The callbacks `OnStateChange` and `OnShortCircuit` only feed metrics and are left out.
-/

namespace Sn360Es.Evaluate

open Lib.Lts

inductive State where
  | Closed
  | Open
  | HalfOpen
  deriving DecidableEq, Repr

structure CircuitBreakerConfig where
  failureThreshold : ℤ := 0
  successThreshold : ℤ := 0
  /-- `OpenTimeout`, in nanoseconds. -/
  openTimeout : ℤ := 0
  deriving DecidableEq, Repr

structure CircuitBreaker where
  cfg : CircuitBreakerConfig
  state : State := .Closed
  consecutiveFailures : ℤ := 0
  consecutiveSuccess : ℤ := 0
  openedAt : ℤ := 0
  halfOpenProbe : Bool := false
  totalSuccess : UInt64 := 0
  totalFailure : UInt64 := 0
  totalShortCircuit : UInt64 := 0
  deriving DecidableEq, Repr

/-- `NewCircuitBreaker`: zero and negative settings fall back to 5, 2 and 30 s. -/
def newCircuitBreaker (cfg : CircuitBreakerConfig) : CircuitBreaker where
  cfg :=
    { failureThreshold := if cfg.failureThreshold ≤ 0 then 5 else cfg.failureThreshold
      successThreshold := if cfg.successThreshold ≤ 0 then 2 else cfg.successThreshold
      openTimeout := if cfg.openTimeout ≤ 0 then 30 * 10 ^ 9 else cfg.openTimeout }

namespace CircuitBreaker

def transition (cb : CircuitBreaker) (now : ℤ) (dst : State) : CircuitBreaker :=
  { cb with
    state := dst
    consecutiveFailures := 0
    consecutiveSuccess := 0
    openedAt := if dst = .Open then now else cb.openedAt
    halfOpenProbe := false }

/-- `halfOpenProbe.CompareAndSwap(false, true)`. -/
def claimProbe (cb : CircuitBreaker) : Bool × CircuitBreaker :=
  if cb.halfOpenProbe then (false, cb) else (true, { cb with halfOpenProbe := true })

def allow (cb : CircuitBreaker) (now : ℤ) : Bool × CircuitBreaker :=
  match cb.state with
  | .Closed => (true, cb)
  | .HalfOpen => cb.claimProbe
  | .Open =>
    if cb.cfg.openTimeout ≤ now - cb.openedAt then (cb.transition now .HalfOpen).claimProbe
    else (false, cb)

def onSuccess (cb : CircuitBreaker) (now : ℤ) : CircuitBreaker :=
  let cb := { cb with totalSuccess := cb.totalSuccess + 1 }
  match cb.state with
  | .HalfOpen =>
    let cb := { cb with consecutiveSuccess := cb.consecutiveSuccess + 1 }
    if cb.cfg.successThreshold ≤ cb.consecutiveSuccess then cb.transition now .Closed
    else { cb with halfOpenProbe := false }
  | .Closed => { cb with consecutiveFailures := 0 }
  | .Open => cb

def onFailure (cb : CircuitBreaker) (now : ℤ) : CircuitBreaker :=
  let cb := { cb with totalFailure := cb.totalFailure + 1 }
  match cb.state with
  | .Closed =>
    let cb := { cb with consecutiveFailures := cb.consecutiveFailures + 1 }
    if cb.cfg.failureThreshold ≤ cb.consecutiveFailures then cb.transition now .Open else cb
  | .HalfOpen => cb.transition now .Open
  | .Open => cb

end CircuitBreaker

/-- How the wrapped `op` of a `Do` call ends. -/
inductive OpOutcome where
  | ok
  | err
  | panics
  deriving DecidableEq, Repr

/-- The tail of `Do` after an admitted `op`. A panic leaves `aborted` set, and the deferred function
records it as a failure. -/
def CircuitBreaker.settle (cb : CircuitBreaker) (now : ℤ) : OpOutcome → CircuitBreaker
  | .ok => cb.onSuccess now
  | .err => cb.onFailure now
  | .panics => cb.onFailure now

/-! ### Concurrent `Do` calls -/

/-- A call in flight, with the breaker state right after its `allow`: `HalfOpen` for the calls that
were admitted in that state or by the transition into it. -/
structure Call where
  id : ℕ
  admitted : State
  deriving DecidableEq, Repr

structure Breakers where
  breaker : CircuitBreaker
  now : ℤ := 0
  inflight : List Call := []
  nextId : ℕ := 0
  deriving DecidableEq, Repr

inductive Event where
  /-- a `Do` call runs `allow` -/
  | begin
  /-- the `op` of a call in flight ends, and `Do` settles it -/
  | finish (id : ℕ) (o : OpOutcome)
  /-- the clock advances -/
  | tick (d : ℕ)
  deriving DecidableEq, Repr

namespace Breakers

def init (cfg : CircuitBreakerConfig) : Breakers := { breaker := newCircuitBreaker cfg }

/-- The head of `Do`: an admitted call goes in flight, a refused one is counted and returns
`ErrCircuitOpen`. -/
def beginCall (s : Breakers) : Breakers :=
  match s.breaker.allow s.now with
  | (true, cb) =>
    { s with breaker := cb, inflight := ⟨s.nextId, cb.state⟩ :: s.inflight, nextId := s.nextId + 1 }
  | (false, cb) => { s with breaker := { cb with totalShortCircuit := cb.totalShortCircuit + 1 } }

def step (s : Breakers) : Event → Option Breakers
  | .begin => some s.beginCall
  | .finish id o =>
    (s.inflight.find? (·.id = id)).map fun c =>
      { s with breaker := s.breaker.settle s.now o, inflight := s.inflight.erase c }
  | .tick d => some { s with now := s.now + d }

/-- The number of calls in flight that were admitted half-open. -/
def probes (s : Breakers) : ℕ := s.inflight.countP (·.admitted = .HalfOpen)

end Breakers

/-! ### What one step can do -/

section Steps

variable {cb cb' : CircuitBreaker} {now : ℤ}

/-- What `allow` can do: admit in the closed state, take a free slot, open a fresh half-open window and
take its slot, or refuse and change nothing. -/
lemma allow_cases (cb : CircuitBreaker) (now : ℤ) :
    (cb.state = .Closed ∧ cb.allow now = (true, cb)) ∨
    (cb.state = .HalfOpen ∧ cb.halfOpenProbe = false ∧
      cb.allow now = (true, { cb with halfOpenProbe := true })) ∨
    (cb.state = .Open ∧ cb.cfg.openTimeout ≤ now - cb.openedAt ∧
      cb.allow now = (true, { cb.transition now .HalfOpen with halfOpenProbe := true })) ∨
    ((cb.state = .HalfOpen ∧ cb.halfOpenProbe = true ∨
        cb.state = .Open ∧ now - cb.openedAt < cb.cfg.openTimeout) ∧
      cb.allow now = (false, cb)) := by
  unfold CircuitBreaker.allow
  cases hs : cb.state with
  | Closed => exact Or.inl ⟨rfl, rfl⟩
  | HalfOpen =>
    cases hp : cb.halfOpenProbe
    · exact Or.inr (Or.inl ⟨rfl, rfl, by simp [CircuitBreaker.claimProbe, hp, hs]⟩)
    · exact Or.inr (Or.inr (Or.inr ⟨Or.inl ⟨rfl, rfl⟩, by simp [CircuitBreaker.claimProbe, hp]⟩))
  | Open =>
    by_cases ht : cb.cfg.openTimeout ≤ now - cb.openedAt
    · refine Or.inr (Or.inr (Or.inl ⟨rfl, ht, ?_⟩))
      simp only [if_pos ht, CircuitBreaker.claimProbe, CircuitBreaker.transition]
      rfl
    · exact Or.inr (Or.inr (Or.inr ⟨Or.inr ⟨rfl, not_le.mp ht⟩, by simp only [if_neg ht]⟩))

/-- What a breaker keeps by itself, whatever calls are in flight. -/
structure Sound (cb : CircuitBreaker) : Prop where
  failure_pos : 0 < cb.cfg.failureThreshold
  success_pos : 0 < cb.cfg.successThreshold
  slot : cb.halfOpenProbe = true → cb.state = .HalfOpen
  failures : cb.state = .Closed → cb.consecutiveFailures < cb.cfg.failureThreshold
  successes : cb.state = .HalfOpen → cb.consecutiveSuccess < cb.cfg.successThreshold

lemma sound_new (cfg : CircuitBreakerConfig) : Sound (newCircuitBreaker cfg) := by
  have hf : 0 < (newCircuitBreaker cfg).cfg.failureThreshold := by
    simp only [newCircuitBreaker]
    split_ifs <;> omega
  have hs : 0 < (newCircuitBreaker cfg).cfg.successThreshold := by
    simp only [newCircuitBreaker]
    split_ifs <;> omega
  exact ⟨hf, hs, fun h => (Bool.false_ne_true h).elim, fun _ => hf, fun h => by cases h⟩

/-- Every transition resets both counters and the slot, so it needs nothing but positive thresholds. -/
lemma Sound.transition (h : Sound cb) (now : ℤ) (dst : State) : Sound (cb.transition now dst) :=
  ⟨h.failure_pos, h.success_pos, fun hp => (Bool.false_ne_true hp).elim, fun _ => h.failure_pos,
    fun _ => h.success_pos⟩

lemma Sound.allow (h : Sound cb) : Sound (cb.allow now).2 := by
  rcases allow_cases cb now with ⟨-, e⟩ | ⟨hs, -, e⟩ | ⟨-, -, e⟩ | ⟨-, e⟩ <;> rw [e]
  · exact h
  · exact ⟨h.failure_pos, h.success_pos, fun _ => hs, h.failures, h.successes⟩
  · have ht := h.transition now .HalfOpen
    exact ⟨ht.failure_pos, ht.success_pos, fun _ => rfl, ht.failures, ht.successes⟩
  · exact h

lemma onSuccess_closed (hs : cb.state = .Closed) : cb.onSuccess now =
    { cb with totalSuccess := cb.totalSuccess + 1, consecutiveFailures := 0 } := by
  simp [CircuitBreaker.onSuccess, hs]

lemma onSuccess_open (hs : cb.state = .Open) :
    cb.onSuccess now = { cb with totalSuccess := cb.totalSuccess + 1 } := by
  simp [CircuitBreaker.onSuccess, hs]

/-- Below the threshold a success only frees the slot. -/
lemma onSuccess_release (hs : cb.state = .HalfOpen)
    (hc : cb.consecutiveSuccess + 1 < cb.cfg.successThreshold) : cb.onSuccess now =
    { cb with totalSuccess := cb.totalSuccess + 1, consecutiveSuccess := cb.consecutiveSuccess + 1,
              halfOpenProbe := false } := by
  simp [CircuitBreaker.onSuccess, hs, not_le.mpr hc]

lemma onSuccess_recover (hs : cb.state = .HalfOpen)
    (hc : cb.cfg.successThreshold ≤ cb.consecutiveSuccess + 1) : cb.onSuccess now =
    { cb.transition now .Closed with totalSuccess := cb.totalSuccess + 1 } := by
  simp [CircuitBreaker.onSuccess, hs, hc, CircuitBreaker.transition]

lemma onFailure_count (now : ℤ) (hs : cb.state = .Closed)
    (hc : cb.consecutiveFailures + 1 < cb.cfg.failureThreshold) : cb.onFailure now =
    { cb with totalFailure := cb.totalFailure + 1,
              consecutiveFailures := cb.consecutiveFailures + 1 } := by
  simp [CircuitBreaker.onFailure, hs, not_le.mpr hc]

lemma onFailure_open (hs : cb.state = .Open) :
    cb.onFailure now = { cb with totalFailure := cb.totalFailure + 1 } := by
  simp [CircuitBreaker.onFailure, hs]

/-- A failure trips the breaker from the half-open state, and from the closed one at the threshold. -/
lemma onFailure_trip (now : ℤ) (hs : cb.state = .HalfOpen ∨
      cb.state = .Closed ∧ cb.cfg.failureThreshold ≤ cb.consecutiveFailures + 1) :
    cb.onFailure now = { cb.transition now .Open with totalFailure := cb.totalFailure + 1 } := by
  rcases hs with hs | ⟨hs, hc⟩
  · simp [CircuitBreaker.onFailure, hs, CircuitBreaker.transition]
  · simp [CircuitBreaker.onFailure, hs, hc, CircuitBreaker.transition]

lemma Sound.slot_free (h : Sound cb) (hs : cb.state ≠ .HalfOpen) : cb.halfOpenProbe = false :=
  Bool.eq_false_iff.mpr fun hp => hs (h.slot hp)

lemma Sound.onSuccess (h : Sound cb) :
    Sound (cb.onSuccess now) ∧ (cb.onSuccess now).halfOpenProbe = false := by
  cases hs : cb.state with
  | Closed =>
    rw [onSuccess_closed hs]
    exact ⟨⟨h.failure_pos, h.success_pos, h.slot, fun _ => h.failure_pos, h.successes⟩,
      h.slot_free (by simp [hs])⟩
  | Open =>
    rw [onSuccess_open hs]
    exact ⟨⟨h.failure_pos, h.success_pos, h.slot, h.failures, h.successes⟩,
      h.slot_free (by simp [hs])⟩
  | HalfOpen =>
    by_cases hc : cb.cfg.successThreshold ≤ cb.consecutiveSuccess + 1
    · rw [onSuccess_recover hs hc]
      have ht := h.transition now .Closed
      exact ⟨⟨ht.failure_pos, ht.success_pos, ht.slot, ht.failures, ht.successes⟩, rfl⟩
    · rw [onSuccess_release hs (not_le.mp hc)]
      exact ⟨⟨h.failure_pos, h.success_pos, fun _ => hs, h.failures, fun _ => not_le.mp hc⟩, rfl⟩

lemma Sound.onFailure (h : Sound cb) :
    Sound (cb.onFailure now) ∧ (cb.onFailure now).halfOpenProbe = false := by
  have trip : ∀ e, cb.onFailure now = { cb.transition now .Open with totalFailure := e } →
      Sound (cb.onFailure now) ∧ (cb.onFailure now).halfOpenProbe = false := by
    intro e he
    rw [he]
    have ht := h.transition now .Open
    exact ⟨⟨ht.failure_pos, ht.success_pos, ht.slot, ht.failures, ht.successes⟩, rfl⟩
  cases hs : cb.state with
  | Open =>
    rw [onFailure_open hs]
    exact ⟨⟨h.failure_pos, h.success_pos, h.slot, h.failures, h.successes⟩,
      h.slot_free (by simp [hs])⟩
  | HalfOpen => exact trip _ (onFailure_trip now (Or.inl hs))
  | Closed =>
    by_cases hc : cb.cfg.failureThreshold ≤ cb.consecutiveFailures + 1
    · exact trip _ (onFailure_trip now (Or.inr ⟨hs, hc⟩))
    · rw [onFailure_count now hs (not_le.mp hc)]
      exact ⟨⟨h.failure_pos, h.success_pos, h.slot, fun _ => not_le.mp hc, h.successes⟩,
        h.slot_free (by simp [hs])⟩

/-- A completion never leaves the slot taken, whoever it belongs to. -/
lemma Sound.settle (h : Sound cb) (now : ℤ) (o : OpOutcome) :
    Sound (cb.settle now o) ∧ (cb.settle now o).halfOpenProbe = false := by
  cases o with
  | ok => exact h.onSuccess
  | err => exact h.onFailure
  | panics => exact h.onFailure

end Steps

namespace Breakers

section Runs

variable {s t : Breakers}

/-- What the head of `Do` can do to the system. -/
lemma beginCall_cases (s : Breakers) :
    (∃ cb, s.breaker.allow s.now = (true, cb) ∧ s.beginCall =
      { s with breaker := cb, inflight := ⟨s.nextId, cb.state⟩ :: s.inflight,
               nextId := s.nextId + 1 }) ∨
    (s.breaker.allow s.now = (false, s.breaker) ∧ s.beginCall =
      { s with breaker := { s.breaker with
          totalShortCircuit := s.breaker.totalShortCircuit + 1 } }) := by
  unfold beginCall
  rcases allow_cases s.breaker s.now with ⟨-, e⟩ | ⟨-, -, e⟩ | ⟨-, -, e⟩ | ⟨-, e⟩
  · exact Or.inl ⟨_, e, by rw [e]⟩
  · exact Or.inl ⟨_, e, by rw [e]⟩
  · exact Or.inl ⟨_, e, by rw [e]⟩
  · exact Or.inr ⟨e, by rw [e]⟩

lemma step_finish {id : ℕ} {o : OpOutcome} (h : step s (.finish id o) = some t) :
    ∃ c, s.inflight.find? (·.id = id) = some c ∧ c ∈ s.inflight ∧
      t = { s with breaker := s.breaker.settle s.now o, inflight := s.inflight.erase c } := by
  obtain ⟨c, hc, rfl⟩ := Option.map_eq_some_iff.mp h
  exact ⟨c, hc, List.mem_of_find?_eq_some hc, rfl⟩

/-! ### The breaker never wedges -/

/-- **The invariant of every run.** The breaker is sound, its settings are those of the constructor, and
a taken slot belongs to a probe that is still in flight. -/
structure NeverWedges (cfg : CircuitBreakerConfig) (s : Breakers) : Prop where
  cfg_eq : s.breaker.cfg = (newCircuitBreaker cfg).cfg
  sound : Sound s.breaker
  held : s.breaker.halfOpenProbe = true → ∃ c ∈ s.inflight, c.admitted = .HalfOpen

lemma settle_cfg (cb : CircuitBreaker) (now : ℤ) (o : OpOutcome) : (cb.settle now o).cfg = cb.cfg := by
  cases o <;> simp only [CircuitBreaker.settle, CircuitBreaker.onSuccess, CircuitBreaker.onFailure] <;>
    split <;> (try split_ifs) <;> rfl

lemma neverWedges_init (cfg : CircuitBreakerConfig) : NeverWedges cfg (init cfg) :=
  ⟨rfl, sound_new cfg, fun h => (Bool.false_ne_true h).elim⟩

lemma NeverWedges.beginCall {cfg : CircuitBreakerConfig} (h : NeverWedges cfg s) :
    NeverWedges cfg s.beginCall := by
  have hs : Sound (s.breaker.allow s.now).2 := h.sound.allow
  have he : (s.breaker.allow s.now).2.cfg = s.breaker.cfg := by
    rcases allow_cases s.breaker s.now with ⟨-, e⟩ | ⟨-, -, e⟩ | ⟨-, -, e⟩ | ⟨-, e⟩ <;>
      simp [e, CircuitBreaker.transition]
  rcases beginCall_cases s with ⟨cb, e, hb⟩ | ⟨e, hb⟩
  · rw [e] at hs he
    rw [hb]
    refine ⟨he.trans h.cfg_eq, hs, fun hp => ⟨_, List.mem_cons_self .., hs.slot hp⟩⟩
  · rw [hb]
    exact ⟨h.cfg_eq, ⟨h.sound.failure_pos, h.sound.success_pos, h.sound.slot, h.sound.failures,
      h.sound.successes⟩, h.held⟩

lemma NeverWedges.step {cfg : CircuitBreakerConfig} (h : NeverWedges cfg s) (ev : Event)
    (hst : step s ev = some t) : NeverWedges cfg t := by
  cases ev with
  | begin =>
    obtain rfl := Option.some.inj hst
    exact h.beginCall
  | finish id o =>
    obtain ⟨c, -, -, rfl⟩ := step_finish hst
    obtain ⟨hs, hp⟩ := h.sound.settle s.now o
    refine ⟨(settle_cfg _ _ _).trans h.cfg_eq, hs, fun hp' => ?_⟩
    exact (Bool.false_ne_true (hp.symm.trans hp')).elim
  | tick d =>
    obtain rfl := Option.some.inj hst
    exact ⟨h.cfg_eq, h.sound, h.held⟩

lemma neverWedges_of_reaches {cfg : CircuitBreakerConfig} (h : Reaches step (init cfg) s) :
    NeverWedges cfg s :=
  reach_induct (fun _ ev _ hI hst => hI.step ev hst) (neverWedges_init cfg) h

/-- **The breaker never wedges.** In every reachable state the slot, the counters and the calls in
flight agree, and a caller that finds nothing in flight and the open window over is admitted. -/
theorem breaker_never_wedges (cfg : CircuitBreakerConfig) (s : Breakers)
    (h : Reaches step (init cfg) s) :
    (s.breaker.halfOpenProbe = true →
      s.breaker.state = .HalfOpen ∧ ∃ c ∈ s.inflight, c.admitted = .HalfOpen) ∧
    (s.breaker.state = .Closed →
      s.breaker.consecutiveFailures < (newCircuitBreaker cfg).cfg.failureThreshold) ∧
    (s.breaker.state = .HalfOpen →
      s.breaker.consecutiveSuccess < (newCircuitBreaker cfg).cfg.successThreshold) ∧
    (s.inflight = [] → (newCircuitBreaker cfg).cfg.openTimeout ≤ s.now - s.breaker.openedAt →
      (s.breaker.allow s.now).1 = true) := by
  have hI := neverWedges_of_reaches h
  rw [← hI.cfg_eq]
  refine ⟨fun hp => ⟨hI.sound.slot hp, hI.held hp⟩, hI.sound.failures, hI.sound.successes, ?_⟩
  intro hnone hto
  rcases allow_cases s.breaker s.now with ⟨-, e⟩ | ⟨-, -, e⟩ | ⟨-, -, e⟩ | ⟨hno, e⟩
  · rw [e]
  · rw [e]
  · rw [e]
  · -- a refusal means a taken slot, so a call in flight, or an open window
    exfalso
    rcases hno with ⟨-, hp⟩ | ⟨-, hlt⟩
    · obtain ⟨c, hc, -⟩ := hI.held hp
      rw [hnone] at hc
      exact List.not_mem_nil hc
    · omega

/-- A breaker that tripped, let a probe in and saw it panic is open again, and admits the next call
once its window is over. -/
theorem breaker_never_wedges_panicked :
    ∃ s, run step (init ⟨1, 1, 2⟩) [.begin, .finish 0 .err, .tick 5, .begin, .finish 1 .panics, .tick 5] =
        some s ∧
      s.breaker.state = .Open ∧ (s.breaker.allow s.now).1 = true := by
  have hrun : run step (init ⟨1, 1, 2⟩)
      [.begin, .finish 0 .err, .tick 5, .begin, .finish 1 .panics, .tick 5] =
      some ⟨{ cfg := ⟨1, 1, 2⟩, state := .Open, openedAt := 5, totalFailure := 2 }, 10, [], 2⟩ := by
    decide
  exact ⟨_, hrun, rfl, (breaker_never_wedges ⟨1, 1, 2⟩ _ ⟨_, hrun⟩).2.2.2 rfl (by decide)⟩

/-! ### The probe fence -/

/-- The step does not let a call admitted in the closed state finish while a probe is in flight. -/
def ProbeNotOvertaken (s : Breakers) : Event → Prop
  | .finish id _ => 0 < s.probes →
      ∀ c ∈ s.inflight.find? (·.id = id), c.admitted = .HalfOpen
  | _ => True

instance (s : Breakers) : DecidablePred (ProbeNotOvertaken s)
  | .finish _ _ => inferInstanceAs (Decidable (_ → _))
  | .begin => isTrue trivial
  | .tick _ => isTrue trivial

/-- As many probes are in flight as slots are taken: none or one. -/
structure ProbeFence (s : Breakers) : Prop where
  sound : Sound s.breaker
  probes_eq : s.probes = if s.breaker.halfOpenProbe then 1 else 0

lemma probes_cons (c : Call) (s : Breakers) (cb : CircuitBreaker) (n : ℕ) :
    probes { s with breaker := cb, inflight := c :: s.inflight, nextId := n } =
      s.probes + if c.admitted = .HalfOpen then 1 else 0 := by
  simp [probes, List.countP_cons]

lemma probes_erase {c : Call} (hc : c ∈ s.inflight) (cb : CircuitBreaker) :
    probes { s with breaker := cb, inflight := s.inflight.erase c } +
      (if c.admitted = .HalfOpen then 1 else 0) = s.probes := by
  have h := (List.perm_cons_erase hc).countP_eq (fun c => decide (c.admitted = .HalfOpen))
  rw [List.countP_cons] at h
  simpa [probes] using h.symm

lemma ProbeFence.beginCall (h : ProbeFence s) : ProbeFence s.beginCall := by
  have hs : Sound (s.breaker.allow s.now).2 := h.sound.allow
  rcases beginCall_cases s with ⟨cb, e, hb⟩ | ⟨e, hb⟩
  · rw [e] at hs
    rw [hb]
    refine ⟨hs, ?_⟩
    rw [probes_cons, h.probes_eq]
    rcases allow_cases s.breaker s.now with ⟨hc, e'⟩ | ⟨hc, hp, e'⟩ | ⟨hc, -, e'⟩ | ⟨-, e'⟩ <;>
      rw [e] at e' <;> cases e'
    · simp [hc]
    · simp [hc, hp]
    · have hfree : s.breaker.halfOpenProbe = false := h.sound.slot_free (by simp [hc])
      simp [hfree, CircuitBreaker.transition]
  · rw [hb]
    exact ⟨⟨h.sound.failure_pos, h.sound.success_pos, h.sound.slot, h.sound.failures,
      h.sound.successes⟩, h.probes_eq⟩

lemma ProbeFence.step (h : ProbeFence s) (ev : Event) (hC : ProbeNotOvertaken s ev)
    (hst : step s ev = some t) : ProbeFence t := by
  cases ev with
  | begin =>
    obtain rfl := Option.some.inj hst
    exact h.beginCall
  | finish id o =>
    obtain ⟨c, hfind, hmem, rfl⟩ := step_finish hst
    obtain ⟨hs, hp⟩ := h.sound.settle s.now o
    refine ⟨hs, ?_⟩
    have hcount := probes_erase hmem (s.breaker.settle s.now o)
    have heq := h.probes_eq
    simp only [hp, Bool.false_eq_true, if_false]
    by_cases hpos : 0 < s.probes
    · -- the only probe is the call that finishes
      rw [if_pos (hC hpos c hfind)] at hcount
      split_ifs at heq <;> omega
    · omega
  | tick d =>
    obtain rfl := Option.some.inj hst
    exact ⟨h.sound, h.probes_eq⟩

lemma probeFence_of_run {cfg : CircuitBreakerConfig} {is : List Event}
    (hrun : run step (init cfg) is = some s) (hC : Meets step ProbeNotOvertaken (init cfg) is) :
    ProbeFence s :=
  run_induct (fun _ ev _ hI hC hst => hI.step ev hC hst) ⟨sound_new cfg, rfl⟩ hC hrun

/-! ### A late completion breaks the fence -/

lemma reaches_probe_halfOpen (hs : s.breaker.state = .HalfOpen)
    (hp : s.breaker.halfOpenProbe = false) :
    ∃ u, Reaches step s u ∧ u.probes = s.probes + 1 := by
  rcases allow_cases s.breaker s.now with ⟨h, -⟩ | ⟨-, -, e⟩ | ⟨h, -⟩ | ⟨h, -⟩
  · simp [hs] at h
  · refine ⟨s.beginCall, Reaches.single (i := .begin) rfl, ?_⟩
    rcases beginCall_cases s with ⟨cb, e', hb⟩ | ⟨e', -⟩
    · rw [e] at e'
      cases e'
      rw [hb, probes_cons]
      simp [hs]
    · rw [e] at e'
      cases e'
  · simp [hs] at h
  · simp [hs, hp] at h

lemma reaches_probe_open (hs : s.breaker.state = .Open) :
    ∃ u, Reaches step s u ∧ u.probes = s.probes + 1 := by
  -- let the open window pass, then one more call is the probe of the next window
  let d : ℕ := (s.breaker.cfg.openTimeout - (s.now - s.breaker.openedAt)).toNat
  let w : Breakers := { s with now := s.now + d }
  have hw : Reaches step s w := Reaches.single (i := .tick d) rfl
  have hto : w.breaker.cfg.openTimeout ≤ w.now - w.breaker.openedAt := by
    simp only [w, d]
    omega
  rcases allow_cases w.breaker w.now with ⟨h, -⟩ | ⟨h, -⟩ | ⟨-, -, e⟩ | ⟨h, -⟩
  · simp [w, hs] at h
  · simp [w, hs] at h
  · refine ⟨w.beginCall, hw.trans (Reaches.single (i := .begin) rfl), ?_⟩
    rcases beginCall_cases w with ⟨cb, e', hb⟩ | ⟨e', -⟩
    · rw [e] at e'
      cases e'
      rw [hb, probes_cons]
      simp [w, probes, CircuitBreaker.transition]
    · rw [e] at e'
      cases e'
  · rcases h with ⟨h, -⟩ | ⟨-, h⟩
    · simp [w, hs] at h
    · omega

/-- A call that is admitted in the closed state and fails at once. -/
lemma reaches_failed_call (hs : s.breaker.state = .Closed) :
    Reaches step s { s with breaker := s.breaker.onFailure s.now, nextId := s.nextId + 1 } := by
  refine ⟨[.begin, .finish s.nextId .err], ?_⟩
  have hb : s.beginCall =
      { s with inflight := ⟨s.nextId, .Closed⟩ :: s.inflight, nextId := s.nextId + 1 } := by
    simp [beginCall, CircuitBreaker.allow, hs]
  simp [run_cons, step, hb, CircuitBreaker.settle]

/-- Enough failures trip a closed breaker: the induction is on the failures still missing. -/
lemma reaches_probe_closed (n : ℕ) : ∀ s : Breakers, s.breaker.state = .Closed →
    s.breaker.cfg.failureThreshold ≤ s.breaker.consecutiveFailures + 1 + n →
    ∃ u, Reaches step s u ∧ u.probes = s.probes + 1 := by
  induction n with
  | zero =>
    intro s hs hn
    have hf := onFailure_trip s.now (Or.inr ⟨hs, by simpa using hn⟩)
    obtain ⟨u, hu, hpu⟩ := reaches_probe_open
      (s := { s with breaker := s.breaker.onFailure s.now, nextId := s.nextId + 1 })
      (by rw [hf]; rfl)
    exact ⟨u, (reaches_failed_call hs).trans hu, hpu⟩
  | succ n ih =>
    intro s hs hn
    by_cases hc : s.breaker.cfg.failureThreshold ≤ s.breaker.consecutiveFailures + 1
    · exact ih s hs (by omega)
    · have hf := onFailure_count s.now hs (not_le.mp hc)
      obtain ⟨u, hu, hpu⟩ := ih
        { s with breaker := s.breaker.onFailure s.now, nextId := s.nextId + 1 }
        (by rw [hf]; exact hs) (by rw [hf]; push_cast at hn; simp only; omega)
      exact ⟨u, (reaches_failed_call hs).trans hu, hpu⟩

/-- While the slot is free, one more probe can always be admitted. -/
lemma reaches_probe (hp : s.breaker.halfOpenProbe = false) :
    ∃ u, Reaches step s u ∧ u.probes = s.probes + 1 := by
  cases hs : s.breaker.state with
  | HalfOpen => exact reaches_probe_halfOpen hs hp
  | Open => exact reaches_probe_open hs
  | Closed =>
    refine reaches_probe_closed
      (s.breaker.cfg.failureThreshold - s.breaker.consecutiveFailures).toNat s hs ?_
    omega

/-- **The half-open fence.** As long as no call admitted in the closed state finishes while a probe is
in flight, at most one call that was admitted half-open is in flight. The first step that breaks this
frees the slot under the probe: from there a run leads to two probes at once. -/
theorem half_open_probe_fence (cfg : CircuitBreakerConfig) (is : List Event) (s : Breakers)
    (hrun : run step (init cfg) is = some s) (hC : Meets step ProbeNotOvertaken (init cfg) is) :
    s.probes ≤ 1 ∧ ∀ ev t, step s ev = some t → ¬ ProbeNotOvertaken s ev →
      ∃ u, Reaches step t u ∧ u.probes = 2 := by
  have hI := probeFence_of_run hrun hC
  have heq := hI.probes_eq
  refine ⟨by split_ifs at heq <;> omega, fun ev t hst hbad => ?_⟩
  cases ev with
  | begin => exact absurd trivial hbad
  | tick d => exact absurd trivial hbad
  | finish id o =>
    obtain ⟨c, hfind, hmem, rfl⟩ := step_finish hst
    simp only [ProbeNotOvertaken, Option.mem_def, Classical.not_imp, not_forall] at hbad
    obtain ⟨hpos, c', hfind', hnot⟩ := hbad
    rw [hfind, Option.some.injEq] at hfind'
    subst hfind'
    obtain ⟨-, hp⟩ := hI.sound.settle s.now o
    have hcount := probes_erase hmem (s.breaker.settle s.now o)
    rw [if_neg hnot] at hcount
    obtain ⟨u, hu, hpu⟩ := reaches_probe
      (s := { s with breaker := s.breaker.settle s.now o, inflight := s.inflight.erase c }) hp
    refine ⟨u, hu, ?_⟩
    split_ifs at heq <;> omega

/-- Two calls begin, one of them trips the breaker and the other stays in flight until a probe does: the
fence holds up to there, and the late success of the first call would break it. -/
theorem half_open_probe_fence_late_call :
    ∃ s, run step (init ⟨1, 2, 10⟩) [.begin, .begin, .finish 1 .err, .tick 10, .begin] = some s ∧
      s.probes ≤ 1 ∧ ∃ t u, step s (.finish 0 .ok) = some t ∧ Reaches step t u ∧ u.probes = 2 := by
  have hrun : run step (init ⟨1, 2, 10⟩) [.begin, .begin, .finish 1 .err, .tick 10, .begin] =
      some ⟨{ cfg := ⟨1, 2, 10⟩, state := .HalfOpen, halfOpenProbe := true, totalFailure := 1 }, 10,
        [⟨2, .HalfOpen⟩, ⟨0, .Closed⟩], 3⟩ := by decide
  obtain ⟨hle, hbreak⟩ := half_open_probe_fence ⟨1, 2, 10⟩ _ _ hrun (by decide)
  refine ⟨_, hrun, hle, ?_⟩
  obtain ⟨u, hu⟩ := hbreak (.finish 0 .ok) _ rfl (by decide)
  exact ⟨_, u, rfl, hu⟩

/-- With a late success the breaker has two probes in flight at once. -/
theorem half_open_two_probes :
    ¬ ∀ (cfg : CircuitBreakerConfig) (is : List Event) (s : Breakers),
        run step (init cfg) is = some s → s.probes ≤ 1 := by
  intro h
  have hrun : run step (init ⟨1, 2, 10⟩)
      [.begin, .begin, .finish 1 .err, .tick 10, .begin, .finish 0 .ok, .begin] =
      some ⟨{ cfg := ⟨1, 2, 10⟩, state := .HalfOpen, consecutiveSuccess := 1, halfOpenProbe := true,
              totalSuccess := 1, totalFailure := 1 }, 10, [⟨3, .HalfOpen⟩, ⟨2, .HalfOpen⟩], 4⟩ := by
    decide
  exact absurd (h _ _ _ hrun) (by decide)

end Runs

end Breakers

end Sn360Es.Evaluate
