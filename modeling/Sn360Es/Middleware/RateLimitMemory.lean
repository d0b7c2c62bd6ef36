import Mathlib.Data.Rat.Floor
import Mathlib.Tactic.NormNum
import Sn360Es.Lib.GoTime
import Sn360Es.Lib.Lts
import Sn360Es.Lib.TokenBucket

/-!
# The rate limit in memory (`internal/middleware/rate_limit_memory.go`)

A bucket for every client, in a map. `Take` reads the clock, looks the bucket up and takes a token of it, each on its
own, and the janitor throws buckets out that were not used for a time; a client that comes back then finds a full one.

* `take_level` — a token that is taken lowers the level of the bucket, unless the call is late and the bucket full;
* `Kept.step` — the invariant: the level and what was allowed are within what a bucket can give;
* `memory_window_bound` — in a run without late calls to full buckets, in which only buckets that are full and not in
  use are thrown out, no window has more than `burst + rate * T` allowed calls.
-/

namespace Sn360Es.Middleware

open Lib Lib.TokenBucket

/-! ### Buckets -/

/-- `memoryBucket`; times in nanoseconds. -/
structure MemoryBucket where
  tokens : ℚ
  lastFill : ℤ
  lastSeen : ℤ
  deriving DecidableEq

namespace MemoryBucket

/-- The first half of `take`. -/
def refill (b : MemoryBucket) (now : ℤ) (rate : ℚ) (burst : ℤ) : MemoryBucket :=
  if 0 < GoTime.sub now b.lastFill then
    { b with tokens := min (burst : ℚ) (b.tokens + GoTime.sub now b.lastFill / 10 ^ 9 * rate), lastFill := now }
  else b

/-- `take`. -/
def take (b : MemoryBucket) (now : ℤ) (rate : ℚ) (burst : ℤ) : Bool × MemoryBucket :=
  let b := b.refill now rate burst
  if b.tokens < 1 then (false, b) else (true, { b with tokens := b.tokens - 1, lastSeen := now })

/-- `retryAfter`, in nanoseconds. What a number beyond 64 bits becomes is up to the machine. -/
def retryAfter (b : MemoryBucket) (rate : ℚ) (beyond : ℚ → ℤ) : ℤ :=
  if 1 ≤ b.tokens then 0
  else
    let nanos := max 0 ((1 - b.tokens) / rate) * 10 ^ 9
    if nanos < 2 ^ 63 then ⌊nanos⌋ else beyond nanos

/-- The level of the bucket at a time. -/
def levelAt (b : MemoryBucket) (rate : ℚ) (burst : ℤ) (now : ℤ) : ℚ :=
  level (rate / 10 ^ 9) burst b.tokens b.lastFill now

/-- A bucket that was in use up to a time. -/
structure Sound (b : MemoryBucket) (burst now : ℤ) : Prop where
  nonneg : 0 ≤ b.tokens
  le_burst : b.tokens ≤ burst
  lastFill : b.lastFill ≤ now

section Level

variable {b : MemoryBucket} {rate : ℚ} {burst now n : ℤ}

lemma refill_sound (hrate : 0 < rate) (hburst : 1 ≤ burst) (hn : n ≤ now) (h : b.Sound burst now) :
    (b.refill n rate burst).Sound burst now := by
  have hburst' : (0 : ℚ) ≤ burst := by exact_mod_cast hburst.trans' zero_le_one
  unfold refill
  split_ifs with hpos
  · have hgain : (0 : ℚ) ≤ GoTime.sub n b.lastFill / 10 ^ 9 * rate := by
      have hcast : (0 : ℚ) < GoTime.sub n b.lastFill := by exact_mod_cast hpos
      positivity
    exact ⟨le_min hburst' (add_nonneg h.nonneg hgain), min_le_left _ _, hn⟩
  · exact h

/-- A refill at a time before does not raise the level. -/
lemma refill_level (hrate : 0 < rate) (hn : n ≤ now) :
    (b.refill n rate burst).levelAt rate burst now ≤ b.levelAt rate burst now := by
  unfold refill
  split_ifs with hpos
  · have hlt : b.lastFill < n := GoTime.sub_pos_iff.mp hpos
    have hsub : (GoTime.sub n b.lastFill : ℚ) ≤ n - b.lastFill := by exact_mod_cast GoTime.sub_le hlt.le
    have hperNano : (0 : ℚ) ≤ rate / 10 ^ 9 := by positivity
    have hnow : (n : ℚ) ≤ now := by exact_mod_cast hn
    have htokens : min (burst : ℚ) (b.tokens + GoTime.sub n b.lastFill / 10 ^ 9 * rate) ≤
        level (rate / 10 ^ 9) (burst : ℚ) b.tokens b.lastFill n := by
      unfold level
      refine min_le_min_left _ (add_le_add_right ?_ _)
      calc (GoTime.sub n b.lastFill : ℚ) / 10 ^ 9 * rate = rate / 10 ^ 9 * GoTime.sub n b.lastFill := by ring
        _ ≤ rate / 10 ^ 9 * (n - b.lastFill) := mul_le_mul_of_nonneg_left hsub hperNano
    have hsplit : level (rate / 10 ^ 9) (burst : ℚ) (level (rate / 10 ^ 9) burst b.tokens b.lastFill n) n now =
        b.levelAt rate burst now := level_level hperNano hnow
    rw [← hsplit]
    exact level_mono htokens
  · exact le_rfl

/-- Without the ceiling, a refill adds no more than the time that has passed gives. -/
lemma refill_room (hrate : 0 < rate) :
    (b.refill n rate burst).tokens + rate / 10 ^ 9 * (now - (b.refill n rate burst).lastFill) ≤
      b.tokens + rate / 10 ^ 9 * (now - b.lastFill) := by
  unfold refill
  split_ifs with hpos
  · have hlt : b.lastFill < n := GoTime.sub_pos_iff.mp hpos
    have hsub : (GoTime.sub n b.lastFill : ℚ) ≤ n - b.lastFill := by exact_mod_cast GoTime.sub_le hlt.le
    have hgain := mul_le_mul_of_nonneg_left hsub (show 0 ≤ rate / 10 ^ 9 by positivity)
    have hmin := min_le_right (burst : ℚ) (b.tokens + GoTime.sub n b.lastFill / 10 ^ 9 * rate)
    calc min (burst : ℚ) (b.tokens + GoTime.sub n b.lastFill / 10 ^ 9 * rate) + rate / 10 ^ 9 * (now - n)
        ≤ b.tokens + GoTime.sub n b.lastFill / 10 ^ 9 * rate + rate / 10 ^ 9 * (now - n) := add_le_add_left hmin _
      _ = b.tokens + rate / 10 ^ 9 * GoTime.sub n b.lastFill + rate / 10 ^ 9 * (now - n) := by ring
      _ ≤ b.tokens + rate / 10 ^ 9 * (n - b.lastFill) + rate / 10 ^ 9 * (now - n) := by linarith
      _ = b.tokens + rate / 10 ^ 9 * (now - b.lastFill) := by ring
  · exact le_rfl

lemma take_sound (hrate : 0 < rate) (hburst : 1 ≤ burst) (hn : n ≤ now) (h : b.Sound burst now) :
    (b.take n rate burst).2.Sound burst now := by
  have hrefill := refill_sound hrate hburst hn h
  unfold take
  dsimp only
  split_ifs with htokens
  · exact hrefill
  · refine ⟨?_, ?_, hrefill.lastFill⟩
    · exact sub_nonneg.mpr (not_lt.mp htokens)
    · exact (sub_le_self _ zero_le_one).trans hrefill.le_burst

/-- A rejected call does not raise the level. -/
lemma take_level_of_rejected (hrate : 0 < rate) (hn : n ≤ now) (hok : (b.take n rate burst).1 = false) :
    (b.take n rate burst).2.levelAt rate burst now ≤ b.levelAt rate burst now := by
  unfold take at hok ⊢
  dsimp only at hok ⊢
  split_ifs at hok ⊢
  exact refill_level hrate hn

/-- **A token that is taken lowers the level by one**, if the call is in time or the bucket not full. -/
lemma take_level (hrate : 0 < rate) (hburst : 1 ≤ burst) (hn : n ≤ now) (h : b.Sound burst now)
    (hcond : n = now ∨ b.tokens + rate / 10 ^ 9 * (now - b.lastFill) ≤ burst) (hok : (b.take n rate burst).1 = true) :
    (b.take n rate burst).2.levelAt rate burst now + 1 ≤ b.levelAt rate burst now := by
  have hroom : (b.refill n rate burst).tokens + rate / 10 ^ 9 * (now - (b.refill n rate burst).lastFill) ≤ burst := by
    rcases hcond with rfl | hle
    · have hlast : (b.refill n rate burst).lastFill = n := by
        unfold refill
        split_ifs with hpos
        · rfl
        · exact le_antisymm h.lastFill (not_lt.mp fun hlt => hpos (GoTime.sub_pos_iff.mpr hlt))
      rw [hlast, sub_self, mul_zero, add_zero]
      exact (refill_sound hrate hburst le_rfl h).le_burst
    · exact (refill_room hrate).trans hle
  refine le_trans ?_ (refill_level hrate hn)
  unfold take at hok ⊢
  dsimp only at hok ⊢
  split_ifs at hok ⊢
  unfold levelAt level
  rw [min_eq_right hroom]
  calc min (burst : ℚ) ((b.refill n rate burst).tokens - 1 +
        rate / 10 ^ 9 * (now - (b.refill n rate burst).lastFill)) + 1
      ≤ (b.refill n rate burst).tokens - 1 + rate / 10 ^ 9 * (now - (b.refill n rate burst).lastFill) + 1 :=
        add_le_add_left (min_le_right _ _) _
    _ = (b.refill n rate burst).tokens + rate / 10 ^ 9 * (now - (b.refill n rate burst).lastFill) := by ring

lemma levelAt_nonneg (hrate : 0 < rate) (hburst : 1 ≤ burst) (h : b.Sound burst now) :
    0 ≤ b.levelAt rate burst now := by
  have hburst' : (0 : ℚ) ≤ burst := by exact_mod_cast hburst.trans' zero_le_one
  have hlast : (0 : ℚ) ≤ now - b.lastFill := by exact_mod_cast sub_nonneg.mpr h.lastFill
  have hgain : 0 ≤ rate / 10 ^ 9 * (now - b.lastFill) := by positivity
  exact le_min hburst' (add_nonneg h.nonneg hgain)

end Level

end MemoryBucket

/-! ### The store -/

/-- Where a call of `Take` is. -/
inductive TakeStage where
  | looking
  /-- `Load` has found no bucket. -/
  | missed
  | found (p : ℕ)
  /-- `bucketFor` has returned. -/
  | held (p : ℕ)
  /-- `take` has returned false. -/
  | rejected (p : ℕ)
  deriving DecidableEq, Repr

/-- A call of `Take`, with the time that it has read. -/
structure TakeCall where
  key : String
  now : ℤ
  stage : TakeStage := .looking
  deriving DecidableEq, Repr

/-- The store with its calls. Buckets are at addresses below `size`. -/
structure MemoryStore where
  clock : ℤ := 0
  heap : ℕ → MemoryBucket := fun _ => ⟨0, 0, 0⟩
  size : ℕ := 0
  buckets : String → Option ℕ := fun _ => none
  calls : ℕ → Option TakeCall := fun _ => none
  nextID : ℕ := 0
  /-- The buckets that a sweep has found idle, before it removes them. -/
  idle : List (String × ℕ) := []
  /-- The clients that were allowed, with the times. -/
  allowed : List (String × ℤ) := []
  /-- The clients that were rejected, with the time to wait. -/
  rejected : List (String × ℤ) := []

inductive StoreEvent where
  /-- `Take` reads the clock. -/
  | begin (key : String)
  | load (id : ℕ)
  | loadOrStore (id : ℕ)
  /-- `bucketFor` writes `lastSeen`. -/
  | touch (id : ℕ)
  | take (id : ℕ)
  | retryAfter (id : ℕ)
  /-- `sweepIdle` looks at a bucket. -/
  | inspect (key : String) (now idleTTL : ℤ)
  /-- `CompareAndDelete`. -/
  | compareAndDelete (key : String) (p : ℕ)
  | tick (d : ℕ)
  deriving DecidableEq, Repr

namespace MemoryStore

variable (rate : ℚ) (burst : ℤ) (beyond : ℚ → ℤ) (s : MemoryStore)

def setStage (id : ℕ) (c : TakeCall) (stage : TakeStage) : MemoryStore :=
  { s with calls := Function.update s.calls id (some { c with stage }) }

/-- `bucketFor` stores a fresh bucket. -/
def store (id : ℕ) (c : TakeCall) : MemoryStore :=
  { s.setStage id c (.held s.size) with
    heap := Function.update s.heap s.size ⟨burst, c.now, c.now⟩
    size := s.size + 1
    buckets := Function.update s.buckets c.key (some s.size) }

/-- `take` on the bucket of a call. -/
def takeFrom (id : ℕ) (c : TakeCall) (p : ℕ) : MemoryStore :=
  let heap := Function.update s.heap p ((s.heap p).take c.now rate burst).2
  if ((s.heap p).take c.now rate burst).1 then
    { s with heap, calls := Function.update s.calls id none, allowed := s.allowed ++ [(c.key, s.clock)] }
  else { s.setStage id c (.rejected p) with heap }

/-- A step of a call of `Take`. The call with an empty key returns an error at once. -/
def callStep (id : ℕ) (c : TakeCall) : StoreEvent → Option MemoryStore
  | .load _ =>
    if c.stage = .looking then
      match s.buckets c.key with
      | some p => some (s.setStage id c (.found p))
      | none => some (s.setStage id c .missed)
    else none
  | .loadOrStore _ =>
    if c.stage = .missed then
      match s.buckets c.key with
      | some p => some (s.setStage id c (.found p))
      | none => some (s.store burst id c)
    else none
  | .touch _ =>
    match c.stage with
    | .found p => some { s.setStage id c (.held p) with
        heap := Function.update s.heap p { s.heap p with lastSeen := c.now } }
    | _ => none
  | .take _ =>
    match c.stage with
    | .held p => some (s.takeFrom rate burst id c p)
    | _ => none
  | .retryAfter _ =>
    match c.stage with
    | .rejected p => some { s with
        calls := Function.update s.calls id none
        rejected := s.rejected ++ [(c.key, (s.heap p).retryAfter rate beyond)] }
    | _ => none
  | _ => none

/-- A step, for a rate and a burst that are positive. -/
def step (e : StoreEvent) : Option MemoryStore :=
  match e with
  | .begin key =>
    if key = "" then some { s with nextID := s.nextID + 1 }
    else some { s with
      calls := Function.update s.calls s.nextID (some { key, now := s.clock }), nextID := s.nextID + 1 }
  | .load id | .loadOrStore id | .touch id | .take id | .retryAfter id =>
    (s.calls id).bind fun c => s.callStep rate burst beyond id c e
  | .inspect key now idleTTL =>
    (s.buckets key).map fun p =>
      if idleTTL < GoTime.sub now (s.heap p).lastSeen then { s with idle := s.idle ++ [(key, p)] } else s
  | .compareAndDelete key p =>
    if (key, p) ∈ s.idle then
      some { s with
        idle := s.idle.erase (key, p)
        buckets := if s.buckets key = some p then Function.update s.buckets key none else s.buckets }
    else none
  | .tick d => some { s with clock := s.clock + d }

end MemoryStore

/-- The bucket that a call has and is about to use. -/
def TakeCall.holds (c : TakeCall) : Option ℕ :=
  match c.stage with
  | .found p | .held p => some p
  | _ => none

/-! ### What a step does -/

/-- A call is one that was there before, and has its bucket from then or from the map. -/
def MemoryStore.Follows (s : MemoryStore) (id : ℕ) (c : TakeCall) : Prop :=
  ∃ c₀, s.calls id = some c₀ ∧ c.key = c₀.key ∧ c.now = c₀.now ∧
    ∀ p ∈ c.holds, p ∈ c₀.holds ∨ s.buckets c.key = some p

/-- The ways to get from a state to another. -/
inductive StoreSteps (rate : ℚ) (burst : ℤ) (s : MemoryStore) : StoreEvent → MemoryStore → Prop where
  | begin (key : String) : StoreSteps rate burst s (.begin key)
      { s with calls := Function.update s.calls s.nextID (some { key, now := s.clock }), nextID := s.nextID + 1 }
  /-- The bookkeeping of calls and sweeps. -/
  | quiet (e : StoreEvent) (calls : ℕ → Option TakeCall) (nextID : ℕ) (idle : List (String × ℕ))
    (rejected : List (String × ℤ)) (hid : s.nextID ≤ nextID) (hcalls : ∀ id c, calls id = some c → s.Follows id c) :
    StoreSteps rate burst s e { s with calls, nextID, idle, rejected }
  | store (id : ℕ) (c : TakeCall) (hc : s.calls id = some c) (hnone : s.buckets c.key = none) :
    StoreSteps rate burst s (.loadOrStore id) (s.store burst id c)
  | touch (id : ℕ) (c : TakeCall) (p : ℕ) (hc : s.calls id = some c) (hstage : c.stage = .found p) :
    StoreSteps rate burst s (.touch id)
      { s.setStage id c (.held p) with heap := Function.update s.heap p { s.heap p with lastSeen := c.now } }
  | take (id : ℕ) (c : TakeCall) (p : ℕ) (hc : s.calls id = some c) (hstage : c.stage = .held p) :
    StoreSteps rate burst s (.take id) (s.takeFrom rate burst id c p)
  | delete (key : String) (p : ℕ) (idle : List (String × ℕ)) (hp : s.buckets key = some p) :
    StoreSteps rate burst s (.compareAndDelete key p) { s with idle, buckets := Function.update s.buckets key none }
  | tick (d : ℕ) : StoreSteps rate burst s (.tick d) { s with clock := s.clock + d }

section Steps

variable {rate : ℚ} {burst : ℤ} {beyond : ℚ → ℤ} {s s' : MemoryStore} {e : StoreEvent} {id : ℕ} {c : TakeCall}

lemma follows_self (hc : s.calls id = some c) : s.Follows id c := ⟨c, hc, rfl, rfl, fun _ hp => Or.inl hp⟩

lemma follows_setStage (hc : s.calls id = some c) {stage : TakeStage}
    (hstage : ∀ p ∈ { c with stage }.holds, s.buckets c.key = some p) :
    ∀ i x, Function.update s.calls id (some { c with stage }) i = some x → s.Follows i x := by
  intro i x hx
  by_cases hi : i = id
  · subst hi
    rw [Function.update_self, Option.some.injEq] at hx
    subst hx
    exact ⟨c, hc, rfl, rfl, fun p hp => Or.inr (hstage p hp)⟩
  · rw [Function.update_of_ne hi] at hx
    exact follows_self hx

lemma follows_erase : ∀ i x, Function.update s.calls id none i = some x → s.Follows i x := by
  intro i x hx
  by_cases hi : i = id
  · subst hi
    simp at hx
  · rw [Function.update_of_ne hi] at hx
    exact follows_self hx

lemma quiet_setStage (hc : s.calls id = some c) {stage : TakeStage}
    (hstage : ∀ p ∈ { c with stage }.holds, s.buckets c.key = some p) :
    StoreSteps rate burst s e (s.setStage id c stage) :=
  .quiet e _ _ _ _ le_rfl (follows_setStage hc hstage)

lemma callStep_steps (hc : s.calls id = some c)
    (he : e = .load id ∨ e = .loadOrStore id ∨ e = .touch id ∨ e = .take id ∨ e = .retryAfter id)
    (h : s.callStep rate burst beyond id c e = some s') : StoreSteps rate burst s e s' := by
  rcases he with rfl | rfl | rfl | rfl | rfl
  · dsimp only [MemoryStore.callStep] at h
    split_ifs at h
    split at h
    · next p hp =>
      obtain rfl := Option.some.inj h
      exact quiet_setStage hc (by simpa [TakeCall.holds] using hp)
    · obtain rfl := Option.some.inj h
      exact quiet_setStage hc (by simp [TakeCall.holds])
  · dsimp only [MemoryStore.callStep] at h
    split_ifs at h
    split at h
    · next p hp =>
      obtain rfl := Option.some.inj h
      exact quiet_setStage hc (by simpa [TakeCall.holds] using hp)
    · next hnone =>
      obtain rfl := Option.some.inj h
      exact .store id c hc hnone
  · dsimp only [MemoryStore.callStep] at h
    split at h
    · next p hstage =>
      obtain rfl := Option.some.inj h
      exact .touch id c p hc hstage
    · cases h
  · dsimp only [MemoryStore.callStep] at h
    split at h
    · next p hstage =>
      obtain rfl := Option.some.inj h
      exact .take id c p hc hstage
    · cases h
  · dsimp only [MemoryStore.callStep] at h
    split at h
    · obtain rfl := Option.some.inj h
      exact .quiet _ _ _ _ _ le_rfl follows_erase
    · cases h

/-- **What a step does.** -/
theorem store_step_cases (h : s.step rate burst beyond e = some s') : StoreSteps rate burst s e s' := by
  have hself : ∀ i x, s.calls i = some x → s.Follows i x := fun i x hx => follows_self hx
  cases e with
  | begin key =>
    dsimp only [MemoryStore.step] at h
    split_ifs at h
    · obtain rfl := Option.some.inj h
      exact .quiet _ _ _ _ _ (Nat.le_succ _) hself
    · obtain rfl := Option.some.inj h
      exact .begin key
  | load id =>
    obtain ⟨c, hc, hstep⟩ := Option.bind_eq_some_iff.mp h
    exact callStep_steps hc (by simp) hstep
  | loadOrStore id =>
    obtain ⟨c, hc, hstep⟩ := Option.bind_eq_some_iff.mp h
    exact callStep_steps hc (by simp) hstep
  | touch id =>
    obtain ⟨c, hc, hstep⟩ := Option.bind_eq_some_iff.mp h
    exact callStep_steps hc (by simp) hstep
  | take id =>
    obtain ⟨c, hc, hstep⟩ := Option.bind_eq_some_iff.mp h
    exact callStep_steps hc (by simp) hstep
  | retryAfter id =>
    obtain ⟨c, hc, hstep⟩ := Option.bind_eq_some_iff.mp h
    exact callStep_steps hc (by simp) hstep
  | inspect key now idleTTL =>
    obtain ⟨p, -, rfl⟩ := Option.map_eq_some_iff.mp h
    split_ifs
    · exact .quiet _ _ _ _ _ le_rfl hself
    · exact .quiet _ _ _ _ _ le_rfl hself
  | compareAndDelete key p =>
    dsimp only [MemoryStore.step] at h
    split_ifs at h with hmem hp
    · obtain rfl := Option.some.inj h
      exact .delete key p _ hp
    · obtain rfl := Option.some.inj h
      exact .quiet _ _ _ _ _ le_rfl hself
  | tick d =>
    obtain rfl := Option.some.inj h
    exact .tick d

end Steps

/-! ### What was allowed -/

/-- The times at which a client was allowed. -/
def MemoryStore.log (s : MemoryStore) (key : String) : List ℚ :=
  (s.allowed.filter (·.1 = key)).map fun x => (x.2 : ℚ)

/-- The level of the bucket of a client; a client without a bucket gets a full one. -/
def MemoryStore.keyLevel (s : MemoryStore) (rate : ℚ) (burst : ℤ) (key : String) : ℚ :=
  match s.buckets key with
  | some p => (s.heap p).levelAt rate burst s.clock
  | none => burst

/-- The tokens that the bucket at an address would have by now without a ceiling. -/
def MemoryStore.due (s : MemoryStore) (rate : ℚ) (p : ℕ) : ℚ :=
  (s.heap p).tokens + rate / 10 ^ 9 * (s.clock - (s.heap p).lastFill)

/-- A token is taken by a call that has read the present time, or of a bucket that is not full; and a bucket is removed
when it is full again and no call is about to use it. -/
def InTime (rate : ℚ) (burst : ℤ) (s : MemoryStore) : StoreEvent → Prop
  | .take id => ∀ c ∈ s.calls id, ∀ p ∈ c.holds, c.now = s.clock ∨ s.due rate p ≤ burst
  | .compareAndDelete key p => s.buckets key = some p →
      burst ≤ s.due rate p ∧ ∀ id < s.nextID, ∀ c ∈ s.calls id, c.holds ≠ some p
  | _ => True

instance (rate : ℚ) (burst : ℤ) (s : MemoryStore) (e : StoreEvent) : Decidable (InTime rate burst s e) := by
  unfold InTime
  split <;> infer_instance

/-- **The invariant.** -/
structure Kept (rate : ℚ) (burst : ℤ) (s : MemoryStore) : Prop where
  sound : ∀ k p, s.buckets k = some p → p < s.size ∧ (s.heap p).Sound burst s.clock
  inj : ∀ k k' p, s.buckets k = some p → s.buckets k' = some p → k = k'
  calls : ∀ id c, s.calls id = some c → id < s.nextID ∧ c.now ≤ s.clock ∧ ∀ p ∈ c.holds, s.buckets c.key = some p
  paced : ∀ k, Paced (rate / 10 ^ 9) (burst : ℚ) (s.log k) s.clock (s.keyLevel rate burst k)

section Allowed

variable {rate : ℚ} {burst : ℤ} {s s' : MemoryStore} {e : StoreEvent} {id : ℕ} {c : TakeCall} {p : ℕ}

lemma kept_start (hrate : 0 < rate) (hburst : 1 ≤ burst) (t : ℤ) : Kept rate burst { clock := t } := by
  refine ⟨by simp, by simp, by simp, fun k => ?_⟩
  have hburst' : (0 : ℚ) ≤ burst := by exact_mod_cast hburst.trans' zero_le_one
  exact Paced.nil (by positivity) hburst' le_rfl

/-- Calls that follow those before. -/
lemma Kept.follows (h : Kept rate burst s) {calls : ℕ → Option TakeCall} {n : ℕ} (hid : s.nextID ≤ n)
    (hcalls : ∀ id c, calls id = some c → s.Follows id c) :
    ∀ id c, calls id = some c → id < n ∧ c.now ≤ s.clock ∧ ∀ p ∈ c.holds, s.buckets c.key = some p := by
  intro id c hc
  obtain ⟨c₀, hc₀, hkey, hnow, hholds⟩ := hcalls id c hc
  obtain ⟨hlt, hle, hmap⟩ := h.calls id c₀ hc₀
  refine ⟨hlt.trans_le hid, hnow ▸ hle, fun p hp => ?_⟩
  rcases hholds p hp with hp | hp
  · rw [hkey]
    exact hmap p hp
  · exact hp

lemma Kept.quiet (h : Kept rate burst s) (calls : ℕ → Option TakeCall) (nextID : ℕ) (idle : List (String × ℕ))
    (rejected : List (String × ℤ)) (hid : s.nextID ≤ nextID) (hcalls : ∀ id c, calls id = some c → s.Follows id c) :
    Kept rate burst { s with calls, nextID, idle, rejected } :=
  ⟨h.sound, h.inj, h.follows hid hcalls, h.paced⟩

lemma Kept.begin (h : Kept rate burst s) (key : String) : Kept rate burst
    { s with calls := Function.update s.calls s.nextID (some { key, now := s.clock }), nextID := s.nextID + 1 } := by
  refine ⟨h.sound, h.inj, fun id c hc => ?_, h.paced⟩
  by_cases hid : id = s.nextID
  · subst hid
    simp only [Function.update_self, Option.some.injEq] at hc
    subst hc
    exact ⟨Nat.lt_succ_self _, le_rfl, by simp [TakeCall.holds]⟩
  · simp only [Function.update_of_ne hid] at hc
    exact ⟨(h.calls id c hc).1.trans (Nat.lt_succ_self _), (h.calls id c hc).2⟩

/-- A bucket is changed, and its level is not raised. -/
lemma keyLevel_update (h : Kept rate burst s) {key : String} (hp : s.buckets key = some p) (b : MemoryBucket)
    (k : String) : { s with heap := Function.update s.heap p b }.keyLevel rate burst k =
      if k = key then b.levelAt rate burst s.clock else s.keyLevel rate burst k := by
  unfold MemoryStore.keyLevel
  by_cases hk : k = key
  · subst hk
    simp [hp]
  · rw [if_neg hk]
    dsimp only
    cases hb : s.buckets k with
    | none => rfl
    | some q =>
      have hne : q ≠ p := by
        rintro rfl
        exact hk (h.inj k key q hb hp)
      simp only [Function.update_of_ne hne]

lemma sound_update (h : Kept rate burst s) {b : MemoryBucket} (hb : b.Sound burst s.clock) (k : String) (q : ℕ)
    (hq : s.buckets k = some q) : q < s.size ∧ (Function.update s.heap p b q).Sound burst s.clock := by
  refine ⟨(h.sound k q hq).1, ?_⟩
  by_cases hqp : q = p
  · subst hqp
    rwa [Function.update_self]
  · rw [Function.update_of_ne hqp]
    exact (h.sound k q hq).2

lemma Kept.touch (h : Kept rate burst s) (hc : s.calls id = some c) (hstage : c.stage = .found p) : Kept rate burst
    { s.setStage id c (.held p) with heap := Function.update s.heap p { s.heap p with lastSeen := c.now } } := by
  have hp : s.buckets c.key = some p := (h.calls id c hc).2.2 p (by simp [TakeCall.holds, hstage])
  have hsound : MemoryBucket.Sound { s.heap p with lastSeen := c.now } burst s.clock := by
    obtain ⟨hnonneg, hle, hfill⟩ := (h.sound c.key p hp).2
    exact ⟨hnonneg, hle, hfill⟩
  refine ⟨sound_update h hsound, h.inj, h.follows le_rfl (follows_setStage hc ?_), fun k => ?_⟩
  · simpa [TakeCall.holds] using hp
  · have hlevel :
        { s with heap := Function.update s.heap p { s.heap p with lastSeen := c.now } }.keyLevel rate burst k =
          s.keyLevel rate burst k := by
      rw [keyLevel_update h hp]
      split_ifs with hk
      · subst hk
        simp [MemoryStore.keyLevel, hp, MemoryBucket.levelAt]
      · rfl
    have hpaced := h.paced k
    rw [← hlevel] at hpaced
    exact hpaced

/-! A fresh bucket is at an address that no other client has. -/

lemma store_buckets_self : (s.store burst id c).buckets c.key = some s.size := Function.update_self ..

lemma store_buckets_of_ne {k : String} (hk : k ≠ c.key) : (s.store burst id c).buckets k = s.buckets k :=
  Function.update_of_ne hk _ _

lemma store_heap_self : (s.store burst id c).heap s.size = ⟨burst, c.now, c.now⟩ := Function.update_self ..

lemma store_heap_of_bucket (h : Kept rate burst s) {k : String} (hp : s.buckets k = some p) :
    (s.store burst id c).heap p = s.heap p :=
  Function.update_of_ne (h.sound k p hp).1.ne _ _

lemma store_calls_self : (s.store burst id c).calls id = some { c with stage := .held s.size } :=
  Function.update_self ..

/-- A client without a bucket gets a full one. -/
lemma keyLevel_store (h : Kept rate burst s) (hrate : 0 < rate) (hc : s.calls id = some c)
    (hnone : s.buckets c.key = none) (k : String) :
    (s.store burst id c).keyLevel rate burst k = s.keyLevel rate burst k := by
  obtain ⟨-, hnow, -⟩ := h.calls id c hc
  have hclock : (s.store burst id c).clock = s.clock := rfl
  unfold MemoryStore.keyLevel
  by_cases hk : k = c.key
  · subst hk
    have hgain : (0 : ℚ) ≤ rate / 10 ^ 9 * (s.clock - c.now) := by
      have hcast : (0 : ℚ) ≤ s.clock - c.now := by exact_mod_cast sub_nonneg.mpr hnow
      positivity
    rw [store_buckets_self, hnone]
    simp only [store_heap_self, hclock, MemoryBucket.levelAt, level]
    exact min_eq_left (le_add_of_nonneg_right hgain)
  · rw [store_buckets_of_ne hk]
    cases hb : s.buckets k with
    | none => rfl
    | some q => simp only [store_heap_of_bucket h hb, hclock]

lemma store_inj (h : Kept rate burst s) {k k' : String} (hk : (s.store burst id c).buckets k = some p)
    (hk' : (s.store burst id c).buckets k' = some p) : k = k' := by
  have hnew : ∀ {k k'}, k = c.key → k' ≠ c.key → (s.store burst id c).buckets k = some p →
      (s.store burst id c).buckets k' ≠ some p := by
    rintro k k' rfl hne hk hk'
    obtain rfl : s.size = p := Option.some.inj (store_buckets_self.symm.trans hk)
    rw [store_buckets_of_ne hne] at hk'
    exact lt_irrefl _ (h.sound k' _ hk').1
  by_cases hkey : k = c.key
  · by_cases hkey' : k' = c.key
    · rw [hkey, hkey']
    · exact absurd hk' (hnew hkey hkey' hk)
  · by_cases hkey' : k' = c.key
    · exact absurd hk (hnew hkey' hkey hk')
    · rw [store_buckets_of_ne hkey] at hk
      rw [store_buckets_of_ne hkey'] at hk'
      exact h.inj k k' p hk hk'

lemma Kept.store (h : Kept rate burst s) (hrate : 0 < rate) (hburst : 1 ≤ burst) (hc : s.calls id = some c)
    (hnone : s.buckets c.key = none) : Kept rate burst (s.store burst id c) := by
  obtain ⟨hid, hnow, -⟩ := h.calls id c hc
  refine ⟨fun k q hq => ?_, fun k k' q hq hq' => store_inj h hq hq', fun i x hx => ?_, fun k => ?_⟩
  · by_cases hk : k = c.key
    · subst hk
      obtain rfl : s.size = q := Option.some.inj (store_buckets_self.symm.trans hq)
      refine ⟨Nat.lt_succ_self _, ?_⟩
      rw [store_heap_self]
      exact ⟨Int.cast_nonneg (hburst.trans' zero_le_one), le_rfl, hnow⟩
    · rw [store_buckets_of_ne hk] at hq
      rw [store_heap_of_bucket h hq]
      exact ⟨(h.sound k q hq).1.trans (Nat.lt_succ_self _), (h.sound k q hq).2⟩
  · by_cases hi : i = id
    · subst hi
      obtain rfl := Option.some.inj (store_calls_self.symm.trans hx)
      refine ⟨hid, hnow, fun p hp => ?_⟩
      obtain rfl : s.size = p := by simpa [TakeCall.holds] using hp
      exact store_buckets_self
    · have hx' : s.calls i = some x := (Function.update_of_ne hi _ _).symm.trans hx
      refine ⟨(h.calls i x hx').1, (h.calls i x hx').2.1, fun p hp => ?_⟩
      have hmap := (h.calls i x hx').2.2 p hp
      have hne : x.key ≠ c.key := by
        intro heq
        rw [heq, hnone] at hmap
        cases hmap
      rw [store_buckets_of_ne hne]
      exact hmap
  · have hpaced := h.paced k
    rw [← keyLevel_store h hrate hc hnone k] at hpaced
    exact hpaced

/-- The token that is taken is accounted for. -/
lemma paced_takeFrom (h : Kept rate burst s) (id : ℕ) (hrate : 0 < rate) (hburst : 1 ≤ burst) (hnow : c.now ≤ s.clock)
    (hp : s.buckets c.key = some p) (hin : c.now = s.clock ∨ s.due rate p ≤ burst) (k : String) :
    Paced (rate / 10 ^ 9) (burst : ℚ) ((s.takeFrom rate burst id c p).log k) s.clock
      ((s.takeFrom rate burst id c p).keyLevel rate burst k) := by
  have hperNano : (0 : ℚ) ≤ rate / 10 ^ 9 := by positivity
  have hsound := (h.sound c.key p hp).2
  have hafter := MemoryBucket.take_sound hrate hburst hnow hsound
  have hbefore : s.keyLevel rate burst c.key = (s.heap p).levelAt rate burst s.clock := by
    simp [MemoryStore.keyLevel, hp]
  have hlevel : (s.takeFrom rate burst id c p).keyLevel rate burst k =
      if k = c.key then ((s.heap p).take c.now rate burst).2.levelAt rate burst s.clock
      else s.keyLevel rate burst k := by
    rw [← keyLevel_update h hp]
    unfold MemoryStore.takeFrom
    dsimp only
    split_ifs <;> rfl
  rw [hlevel]
  cases hok : ((s.heap p).take c.now rate burst).1 with
  | true =>
    have hlog : (s.takeFrom rate burst id c p).log k = if k = c.key then s.log k ++ [(s.clock : ℚ)] else s.log k := by
      unfold MemoryStore.takeFrom MemoryStore.log
      dsimp only
      rw [if_pos hok]
      by_cases hk : c.key = k
      · simp [hk, List.filter_append]
      · simp [hk, Ne.symm hk, List.filter_append]
    rw [hlog]
    split_ifs with hk
    · subst hk
      refine (h.paced c.key).grant hperNano (MemoryBucket.levelAt_nonneg hrate hburst hafter) ?_
      rw [hbefore]
      exact MemoryBucket.take_level hrate hburst hnow hsound hin hok
    · exact h.paced k
  | false =>
    have hlog : (s.takeFrom rate burst id c p).log k = s.log k := by
      unfold MemoryStore.takeFrom
      dsimp only
      rw [if_neg (by simp [hok])]
      rfl
    rw [hlog]
    split_ifs with hk
    · subst hk
      refine (h.paced c.key).lower (MemoryBucket.levelAt_nonneg hrate hburst hafter) ?_
      rw [hbefore]
      exact MemoryBucket.take_level_of_rejected hrate hnow hok
    · exact h.paced k

lemma Kept.take (h : Kept rate burst s) (hrate : 0 < rate) (hburst : 1 ≤ burst) (hc : s.calls id = some c)
    (hstage : c.stage = .held p) (hin : c.now = s.clock ∨ s.due rate p ≤ burst) :
    Kept rate burst (s.takeFrom rate burst id c p) := by
  obtain ⟨-, hnow, hmap⟩ := h.calls id c hc
  have hp : s.buckets c.key = some p := hmap p (by simp [TakeCall.holds, hstage])
  have hafter := MemoryBucket.take_sound hrate hburst hnow (h.sound c.key p hp).2
  have hpaced := paced_takeFrom h id hrate hburst hnow hp hin
  unfold MemoryStore.takeFrom at hpaced ⊢
  dsimp only at hpaced ⊢
  split_ifs at hpaced ⊢
  · exact ⟨sound_update h hafter, h.inj, h.follows le_rfl follows_erase, hpaced⟩
  · refine ⟨sound_update h hafter, h.inj, h.follows le_rfl (follows_setStage hc ?_), hpaced⟩
    simp [TakeCall.holds]

/-- A bucket that is full is as good as none. -/
lemma Kept.delete (h : Kept rate burst s) {key : String} (idle : List (String × ℕ)) (hp : s.buckets key = some p)
    (hfull : burst ≤ s.due rate p) (hfree : ∀ id < s.nextID, ∀ c ∈ s.calls id, c.holds ≠ some p) :
    Kept rate burst { s with idle, buckets := Function.update s.buckets key none } := by
  have hother : ∀ {k q}, Function.update s.buckets key none k = some q → k ≠ key ∧ s.buckets k = some q := by
    intro k q hq
    by_cases hk : k = key
    · subst hk
      simp at hq
    · rw [Function.update_of_ne hk] at hq
      exact ⟨hk, hq⟩
  refine ⟨fun k q hq => h.sound k q (hother hq).2, fun k k' q hq hq' => ?_, fun id c hc => ?_, fun k => ?_⟩
  · exact h.inj k k' q (hother hq).2 (hother hq').2
  · obtain ⟨hid, hnow, hmap⟩ := h.calls id c hc
    refine ⟨hid, hnow, fun q hq => ?_⟩
    have hne : c.key ≠ key := by
      rintro rfl
      obtain rfl : p = q := Option.some.inj (hp.symm.trans (hmap q hq))
      exact hfree id hid c hc hq
    exact (Function.update_of_ne hne _ _).trans (hmap q hq)
  · have hlevel : { s with idle, buckets := Function.update s.buckets key none }.keyLevel rate burst k =
        s.keyLevel rate burst k := by
      unfold MemoryStore.keyLevel
      by_cases hk : k = key
      · subst hk
        simp only [hp, Function.update_self]
        exact (min_eq_left hfull).symm
      · simp only [Function.update_of_ne hk]
    have hpaced := h.paced k
    rw [← hlevel] at hpaced
    exact hpaced

lemma Kept.tick (h : Kept rate burst s) (hrate : 0 < rate) (hburst : 1 ≤ burst) (d : ℕ) :
    Kept rate burst { s with clock := s.clock + d } := by
  have hclock : s.clock ≤ s.clock + d := le_add_of_nonneg_right (Int.natCast_nonneg d)
  have hperNano : (0 : ℚ) ≤ rate / 10 ^ 9 := by positivity
  have hsound : ∀ k p, s.buckets k = some p → p < s.size ∧ (s.heap p).Sound burst (s.clock + d) := by
    intro k p hp
    obtain ⟨hlt, hnonneg, hle, hfill⟩ := h.sound k p hp
    exact ⟨hlt, hnonneg, hle, hfill.trans hclock⟩
  refine ⟨hsound, h.inj, fun id c hc => ?_, fun k => ?_⟩
  · obtain ⟨hid, hnow, hmap⟩ := h.calls id c hc
    exact ⟨hid, hnow.trans hclock, hmap⟩
  · have hcast : (s.clock : ℚ) ≤ (s.clock + d : ℤ) := by exact_mod_cast hclock
    have hburst' : (0 : ℚ) ≤ burst := by exact_mod_cast hburst.trans' zero_le_one
    have hgain : 0 ≤ rate / 10 ^ 9 * (((s.clock + d : ℤ) : ℚ) - s.clock) := mul_nonneg hperNano (sub_nonneg.mpr hcast)
    refine (h.paced k).wait hperNano hcast ?_ ?_ ?_
    · unfold MemoryStore.keyLevel
      dsimp only
      split
      · next p hp => exact MemoryBucket.levelAt_nonneg hrate hburst (hsound k p hp).2
      · exact hburst'
    · unfold MemoryStore.keyLevel
      dsimp only
      split
      · exact level_le_burst
      · exact le_rfl
    · unfold MemoryStore.keyLevel
      dsimp only
      split
      · exact level_wait hperNano hcast
      · exact le_add_of_nonneg_right hgain

/-- **Every step that is in time keeps the invariant.** -/
lemma Kept.step (hrate : 0 < rate) (hburst : 1 ≤ burst) (h : Kept rate burst s) (hin : InTime rate burst s e)
    (hstep : StoreSteps rate burst s e s') : Kept rate burst s' := by
  cases hstep with
  | begin key => exact h.begin key
  | quiet e calls nextID idle rejected hid hcalls => exact h.quiet calls nextID idle rejected hid hcalls
  | store id c hc hnone => exact h.store hrate hburst hc hnone
  | touch id c p hc hstage => exact h.touch hc hstage
  | take id c p hc hstage => exact h.take hrate hburst hc hstage (hin c hc p (by simp [TakeCall.holds, hstage]))
  | delete key p idle hp =>
    obtain ⟨hfull, hfree⟩ := hin hp
    exact h.delete idle hp hfull hfree
  | tick d => exact h.tick hrate hburst d

end Allowed

/-- **The bound of every window.** In a run whose steps are in time, no client is allowed more than `burst + rate * T`
calls in a window of `T` seconds. -/
theorem memory_window_bound {rate : ℚ} {burst : ℤ} (hrate : 0 < rate) (hburst : 1 ≤ burst) (beyond : ℚ → ℤ) (start : ℤ)
    {es : List StoreEvent} {s : MemoryStore}
    (hrun : Lts.run (MemoryStore.step rate burst beyond) { clock := start } es = some s)
    (hin : Lts.Meets (MemoryStore.step rate burst beyond) (InTime rate burst) { clock := start } es)
    (key : String) (a T : ℚ) (hT : 0 ≤ T) :
    (s.allowed.countP fun x => x.1 = key ∧ a ≤ x.2 ∧ x.2 ≤ a + T * 10 ^ 9 : ℚ) ≤ burst + rate * T := by
  have hkept : Kept rate burst s := by
    refine Lts.run_induct (I := Kept rate burst) ?_ (kept_start hrate hburst start) hin hrun
    exact fun t e t' ht hC hstep => ht.step hrate hburst hC (store_step_cases hstep)
  have hwindow := (hkept.paced key).window a (a + T * 10 ^ 9) (le_add_of_nonneg_right (by positivity))
  have hcount : (s.log key).countP (fun t => a ≤ t ∧ t ≤ a + T * 10 ^ 9) =
      s.allowed.countP fun x => x.1 = key ∧ a ≤ x.2 ∧ x.2 ≤ a + T * 10 ^ 9 := by
    rw [MemoryStore.log, List.countP_map, List.countP_filter]
    refine List.countP_congr fun x _ => ?_
    simp [and_comm]
  have hrate' : rate / 10 ^ 9 * (a + T * 10 ^ 9 - a) = rate * T := by
    field_simp
    ring
  rw [hcount, hrate'] at hwindow
  exact hwindow

/-- A call that is allowed and, a second later, one that is rejected. -/
def timelyRun : List StoreEvent :=
  [.begin "a", .load 0, .loadOrStore 0, .take 0, .tick 1000000000, .begin "a", .load 1, .touch 1, .take 1,
    .retryAfter 1]

theorem memory_window_bound_timely : ∃ s,
    Lts.run (MemoryStore.step (1 / 1000) 1 fun _ => 0) { clock := 0 } timelyRun = some s ∧
    (s.allowed.countP fun x => x.1 = "a" ∧ (0 : ℚ) ≤ x.2 ∧ x.2 ≤ 0 + (1 : ℚ) * 10 ^ 9 : ℚ) ≤
      (1 : ℤ) + 1 / 1000 * (1 : ℚ) := by
  obtain ⟨s, hs⟩ := Option.isSome_iff_exists.mp
    (show (Lts.run (MemoryStore.step (1 / 1000) 1 fun _ => 0) { clock := 0 } timelyRun).isSome by decide +kernel)
  exact ⟨s, hs, memory_window_bound (by norm_num) le_rfl _ 0 hs (by decide +kernel) "a" 0 1 zero_le_one⟩

/-- A client that waits for the janitor, which removes buckets after five minutes. -/
def evictedRun : List StoreEvent :=
  [.begin "a", .load 0, .loadOrStore 0, .take 0, .tick 301000000000, .inspect "a" 301000000000 300000000000,
    .compareAndDelete "a" 0, .begin "a", .load 1, .loadOrStore 1, .take 1]

/-- With a token every thousand seconds, two calls are allowed in 301 seconds. -/
theorem evicted_bucket_refills : ∃ s,
    Lts.run (MemoryStore.step (1 / 1000) 1 fun _ => 0) { clock := 0 } evictedRun = some s ∧
    ¬ (s.allowed.countP fun x => x.1 = "a" ∧ (0 : ℚ) ≤ x.2 ∧ x.2 ≤ 0 + (301 : ℚ) * 10 ^ 9 : ℚ) ≤
      (1 : ℤ) + 1 / 1000 * (301 : ℚ) := by
  have hallowed : (Lts.run (MemoryStore.step (1 / 1000) 1 fun _ => 0) { clock := 0 } evictedRun).map (·.allowed) =
      some [("a", 0), ("a", 301000000000)] := by decide +kernel
  obtain ⟨s, hs, heq⟩ := Option.map_eq_some_iff.mp hallowed
  refine ⟨s, hs, ?_⟩
  rw [heq]
  norm_num

end Sn360Es.Middleware
