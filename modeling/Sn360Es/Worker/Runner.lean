import Sn360Es.Lib.Lts
import Sn360Es.Lib.Phase
import Mathlib.Data.Int.Notation

/-!
# Replicas of a periodic job (`internal/service/worker/worker.go`, `pkg/storage/redis/lock.go`)

Any number of replicas that start at any time, each with a `Runner` of the same job: a cycle at the start, then one for
each tick of its own ticker. A cycle takes the lock with `SET NX`, runs the job and releases the lock; the lock is not
extended, and Redis drops it when its time to live ends. Time passes between any two steps, so a job lasts as long as
it likes; a reply of Redis may be lost, and a replica may be cancelled or crash.

* `Covered` — what the replicas and the lock have, as long as nobody takes the lock from a cycle that has outlived it
  or within an interval of the last execution;
* `Covered.step` — every step keeps it;
* `replicas_run_once` — so no two replicas execute the job at once, and two executions start an interval apart;
* `replicas_run_twice` — a job that outlives its lock, and a replica whose tick comes after a short job of another one.
-/

namespace Sn360Es.Worker

open Lib

/-- A `Runner`, with the time to live that is configured for its lock (in milliseconds). -/
structure Runner where
  interval : ℕ
  /-- `NewRunner` refuses an interval that is not positive. -/
  interval_pos : 0 < interval
  lockTTL : ℤ

/-- The time to live that `buildWorkerLockFactory` gives to a lock. -/
def Runner.ttl (run : Runner) : ℕ := if run.lockTTL ≤ 0 then 10 * 60 * 1000 else run.lockTTL.toNat

/-- `DistributedLock`: the value that is its holder's own, and the time when Redis drops it. -/
structure DistributedLock where
  value : ℕ
  expires : ℕ
  deriving DecidableEq

/-- Where a replica stands. -/
inductive Phase where
  /-- In `runCycle`, before `Acquire`. -/
  | cycle
  | acquired (lock : DistributedLock)
  | executing (lock : DistributedLock)
  /-- `job.Run` has returned, `Release` is deferred. -/
  | executed (lock : DistributedLock)
  /-- `runCycle` has returned. -/
  | returned
  | select
  | stopped
  deriving DecidableEq

namespace Phase

/-- The lock of a cycle that has taken it and whose job is not over. -/
def cycleLock : Phase → Option DistributedLock
  | .acquired lock | .executing lock => some lock
  | _ => none

/-- The lock of a cycle that has taken it. -/
def lock : Phase → Option DistributedLock
  | .acquired lock | .executing lock | .executed lock => some lock
  | _ => none

def underWay (p : Phase) : Bool := p.cycleLock.isSome

def isExecuting : Phase → Bool
  | .executing _ => true
  | _ => false

end Phase

structure Replica where
  phase : Phase := .cycle
  /-- When the ticker fires next; it is made after the first cycle. -/
  ticker : Option ℕ := none
  cancelled : Bool := false
  deriving DecidableEq

structure Cluster where
  now : ℕ := 0
  /-- The key of the lock in Redis. -/
  key : Option DistributedLock := none
  /-- How many lock values have been drawn: no two are the same. -/
  drawn : ℕ := 0
  replicas : List Replica := []
  /-- When executions of the job have started, the last one first. -/
  starts : List ℕ := []

namespace Cluster

/-- `GET`: a lock whose time to live has ended is not there. -/
def get (w : Cluster) : Option DistributedLock := w.key.filter fun lock => w.now < lock.expires

/-- `randomToken`. -/
def draw (w : Cluster) : Cluster := { w with drawn := w.drawn + 1 }

/-- `SET NX`. -/
def setNX (w : Cluster) (lock : DistributedLock) : Cluster :=
  if w.get = none then { w with key := some lock } else w

/-- `luaReleaseScript`. -/
def del (w : Cluster) (value : ℕ) : Cluster :=
  if w.get.map DistributedLock.value = some value then { w with key := none } else w

end Cluster

/-- What comes back from `SET NX`. -/
inductive Reply where
  | answer
  /-- An error, of a command that Redis has performed or not. -/
  | error (performed : Bool)
  deriving DecidableEq

inductive Act where
  | acquire (reply : Reply)
  | execute
  | finish
  /-- `Release`, whose command may get lost. -/
  | release (performed : Bool)
  | loop
  | tick
  | cancel
  | done
  | crash
  deriving DecidableEq

namespace Runner

variable (run : Runner)

/-- The lock that the factory makes for a cycle. -/
def newLock (w : Cluster) : DistributedLock := { value := w.drawn, expires := w.now + run.ttl }

/-- The head of `runCycle`. -/
def acquire (w : Cluster) (r : Replica) (reply : Reply) : Cluster × Replica :=
  if r.cancelled then (w, { r with phase := .returned })
  else
    match reply with
    | .answer => (w.draw.setNX (run.newLock w),
        { r with phase := if w.get = none then .acquired (run.newLock w) else .returned })
    | .error performed => (if performed then w.draw.setNX (run.newLock w) else w.draw, { r with phase := .returned })

/-- `ticker.C`: ticks that nobody has received are dropped but for one. -/
def receive (w : Cluster) (next : ℕ) : Option ℕ :=
  if next ≤ w.now then some (next + run.interval * (1 + (w.now - next) / run.interval)) else none

/-- A step of `Run` or `runCycle`. -/
def act (w : Cluster) (r : Replica) (a : Act) : Option (Cluster × Replica) :=
  match a, r.phase with
  | .acquire reply, .cycle => some (run.acquire w r reply)
  | .execute, .acquired lock => some ({ w with starts := w.now :: w.starts }, { r with phase := .executing lock })
  | .finish, .executing lock => some (w, { r with phase := .executed lock })
  | .release performed, .executed lock =>
    some (if performed then w.del lock.value else w, { r with phase := .returned })
  | .loop, .returned =>
    some (w, { r with phase := .select, ticker := some (r.ticker.getD (w.now + run.interval)) })
  | .tick, .select =>
    (r.ticker.bind (run.receive w)).map fun next => (w, { r with phase := .cycle, ticker := some next })
  | .done, .select => if r.cancelled then some (w, { r with phase := .stopped }) else none
  | .cancel, _ => some (w, { r with cancelled := true })
  | .crash, _ => some (w, { r with phase := .stopped })
  | _, _ => none

end Runner

inductive Event where
  | pass (d : ℕ)
  /-- A replica starts. -/
  | start
  | act (i : ℕ) (a : Act)
  deriving DecidableEq

def Runner.step (run : Runner) (w : Cluster) : Event → Option Cluster
  | .pass d => some { w with now := w.now + d }
  | .start => some { w with replicas := w.replicas ++ [{}] }
  | .act i a =>
    w.replicas[i]?.bind fun r => (run.act w r a).map fun (w', r') => { w' with replicas := w.replicas.set i r' }

/-- **The contract.** No two replicas execute the job, and in no window of an interval do two executions start. -/
structure Runner.Once (run : Runner) (w : Cluster) : Prop where
  alone : w.replicas.countP (·.phase.isExecuting) ≤ 1
  spaced : w.starts.Pairwise fun later earlier => earlier + run.interval ≤ later

/-- The condition on a step: when a cycle is about to find the lock free, no cycle that is under way has outlived the
lock's time to live, and the last execution has started an interval ago. -/
def Runner.FindsCovered (run : Runner) (w : Cluster) : Event → Prop
  | .act i (.acquire .answer) => w.get = none → (∀ r ∈ w.replicas[i]?, r.cancelled = false) →
      (∀ r ∈ w.replicas, ∀ lock ∈ r.phase.cycleLock, w.now < lock.expires) ∧
        ∀ t ∈ w.starts, t + run.interval ≤ w.now
  | _ => True

section Decidable

variable (run : Runner)

instance : DecidablePred run.Once := fun w =>
  decidable_of_iff (w.replicas.countP (·.phase.isExecuting) ≤ 1 ∧
    w.starts.Pairwise fun later earlier => earlier + run.interval ≤ later)
    ⟨fun h => ⟨h.1, h.2⟩, fun h => ⟨h.alone, h.spaced⟩⟩

instance (w : Cluster) : ∀ e, Decidable (run.FindsCovered w e)
  | .act _ (.acquire .answer) => inferInstanceAs (Decidable (w.get = none → _))
  | .act _ (.acquire (.error _)) | .act _ .execute | .act _ .finish | .act _ (.release _) | .act _ .loop | .act _ .tick
  | .act _ .cancel | .act _ .done | .act _ .crash | .pass _ | .start => isTrue trivial

end Decidable

/-! ### What the replicas and the lock have -/

/-- The invariant: a cycle that is under way is alone, and has the lock for as long as that lives. -/
structure Runner.Covered (run : Runner) (w : Cluster) : Prop where
  alone : w.replicas.countP (·.phase.underWay) ≤ 1
  spaced : w.starts.Pairwise fun later earlier => earlier + run.interval ≤ later
  ready : ∀ r ∈ w.replicas, ∀ lock, r.phase = .acquired lock → ∀ t ∈ w.starts, t + run.interval ≤ w.now
  holds : ∀ r ∈ w.replicas, ∀ lock, r.phase.cycleLock = some lock → w.now < lock.expires → w.key = some lock
  drawn : ∀ r ∈ w.replicas, ∀ lock, r.phase.lock = some lock → lock.value < w.drawn
  apart : ∀ r ∈ w.replicas, ∀ lock, r.phase.cycleLock = some lock → ∀ r' ∈ w.replicas, ∀ lock',
    r'.phase = .executed lock' → lock'.value ≠ lock.value

variable {run : Runner} {w w' : Cluster} {r r' : Replica}

lemma Phase.lock_of_cycleLock {p : Phase} {lock : DistributedLock} (h : p.cycleLock = some lock) :
    p.lock = some lock := by
  cases p with
  | acquired _ | executing _ => exact h
  | _ => cases h

lemma Phase.cycleLock_of_lock_eq_none {p : Phase} (h : p.lock = none) : p.cycleLock = none := by
  cases hp : p.cycleLock with
  | none => rfl
  | some lock => rw [Phase.lock_of_cycleLock hp] at h; cases h

lemma Cluster.get_eq_none : w.get = none ↔ ∀ lock, w.key = some lock → lock.expires ≤ w.now := by
  unfold Cluster.get
  cases w.key <;> simp

lemma Cluster.get_of_key {lock : DistributedLock} (hkey : w.key = some lock) (hnow : w.now < lock.expires) :
    w.get = some lock := by
  simp [Cluster.get, hkey, hnow]

/-- What a step of a replica that neither takes the lock nor starts or ends an execution does to the key. -/
inductive KeyChange (w : Cluster) (r : Replica) : Option DistributedLock → Prop where
  | same : KeyChange w r w.key
  /-- By a `SET NX` whose answer is lost. -/
  | set (lock : DistributedLock) (hfree : w.get = none) : KeyChange w r (some lock)
  | del (lock : DistributedLock) (hphase : r.phase = .executed lock)
      (hvalue : w.get.map DistributedLock.value = some lock.value) : KeyChange w r none

/-- What a step of a replica does that neither takes the lock nor starts or ends an execution. -/
structure Rests (w : Cluster) (r : Replica) (w' : Cluster) (r' : Replica) : Prop where
  phase : r'.phase = r.phase ∨ r'.phase.lock = none
  key : KeyChange w r w'.key
  drawn : w.drawn ≤ w'.drawn
  now : w'.now = w.now
  starts : w'.starts = w.starts

lemma Cluster.setNX_free (hfree : w.get = none) (lock : DistributedLock) :
    w.draw.setNX lock = { w with drawn := w.drawn + 1, key := some lock } := if_pos hfree

lemma Cluster.setNX_held (hheld : w.get ≠ none) (lock : DistributedLock) : w.draw.setNX lock = w.draw :=
  if_neg hheld

lemma Runner.acquire_cases {reply : Reply} (h : run.acquire w r reply = (w', r')) :
    (reply = .answer ∧ w.get = none ∧ r.cancelled = false ∧ r'.phase = .acquired (run.newLock w) ∧
      w' = { w with drawn := w.drawn + 1, key := some (run.newLock w) }) ∨ Rests w r w' r' := by
  unfold Runner.acquire at h
  by_cases hcancelled : r.cancelled
  · rw [if_pos hcancelled] at h
    cases h
    exact Or.inr ⟨Or.inr rfl, .same, Nat.le_refl _, rfl, rfl⟩
  · rw [if_neg hcancelled] at h
    by_cases hfree : w.get = none
    · simp only [Cluster.setNX_free hfree, if_pos hfree] at h
      cases reply with
      | answer =>
        cases h
        exact Or.inl ⟨rfl, hfree, Bool.eq_false_iff.mpr hcancelled, rfl, rfl⟩
      | error performed =>
        cases performed <;> cases h
        · exact Or.inr ⟨Or.inr rfl, .same, Nat.le_succ _, rfl, rfl⟩
        · exact Or.inr ⟨Or.inr rfl, .set _ hfree, Nat.le_succ _, rfl, rfl⟩
    · simp only [Cluster.setNX_held hfree, if_neg hfree, ite_self] at h
      cases reply <;> cases h <;> exact Or.inr ⟨Or.inr rfl, .same, Nat.le_succ _, rfl, rfl⟩

/-- What a step of a replica does. -/
lemma Runner.act_cases {a : Act} (h : run.act w r a = some (w', r')) :
    (a = .acquire .answer ∧ w.get = none ∧ r.cancelled = false ∧ r'.phase = .acquired (run.newLock w) ∧
      w' = { w with drawn := w.drawn + 1, key := some (run.newLock w) }) ∨
    (∃ lock, r.phase = .acquired lock ∧ r'.phase = .executing lock ∧ w' = { w with starts := w.now :: w.starts }) ∨
    (∃ lock, r.phase = .executing lock ∧ r'.phase = .executed lock ∧ w' = w) ∨ Rests w r w' r' := by
  unfold Runner.act at h
  split at h
  · rcases acquire_cases (Option.some.inj h) with ⟨rfl, htook⟩ | hrest
    · exact Or.inl ⟨rfl, htook⟩
    · exact Or.inr (Or.inr (Or.inr hrest))
  · next lock hphase =>
    cases h
    exact Or.inr (Or.inl ⟨lock, hphase, rfl, rfl⟩)
  · next lock hphase =>
    cases h
    exact Or.inr (Or.inr (Or.inl ⟨lock, hphase, rfl, rfl⟩))
  · next performed lock hphase =>
    right; right; right
    cases performed with
    | false =>
      cases h
      exact ⟨Or.inr rfl, .same, Nat.le_refl _, rfl, rfl⟩
    | true =>
      rw [if_pos rfl, Cluster.del] at h
      split_ifs at h with hvalue <;> cases h
      · exact ⟨Or.inr rfl, .del lock hphase hvalue, Nat.le_refl _, rfl, rfl⟩
      · exact ⟨Or.inr rfl, .same, Nat.le_refl _, rfl, rfl⟩
  · cases h
    exact Or.inr (Or.inr (Or.inr ⟨Or.inr rfl, .same, Nat.le_refl _, rfl, rfl⟩))
  · obtain ⟨next, -, hnext⟩ := Option.map_eq_some_iff.mp h
    cases hnext
    exact Or.inr (Or.inr (Or.inr ⟨Or.inr rfl, .same, Nat.le_refl _, rfl, rfl⟩))
  · split_ifs at h
    cases h
    exact Or.inr (Or.inr (Or.inr ⟨Or.inr rfl, .same, Nat.le_refl _, rfl, rfl⟩))
  · cases h
    exact Or.inr (Or.inr (Or.inr ⟨Or.inl rfl, .same, Nat.le_refl _, rfl, rfl⟩))
  · cases h
    exact Or.inr (Or.inr (Or.inr ⟨Or.inr rfl, .same, Nat.le_refl _, rfl, rfl⟩))
  · cases h

namespace Runner.Covered

lemma once (h : run.Covered w) : run.Once w where
  alone := by
    refine Nat.le_trans (List.countP_mono_left fun r _ hr => ?_) h.alone
    unfold Phase.isExecuting at hr
    split at hr
    · next hphase => rw [hphase]; rfl
    · cases hr
  spaced := h.spaced

/-- A cycle that is under way has the lock, so a lock that is free has been outlived by it. -/
lemma cycleLock_of_free (h : run.Covered w) (hfree : w.get = none)
    (hlive : ∀ r ∈ w.replicas, ∀ lock ∈ r.phase.cycleLock, w.now < lock.expires) :
    ∀ r ∈ w.replicas, r.phase.cycleLock = none := by
  intro r hr
  by_contra hsome
  obtain ⟨lock, hlock⟩ := Option.ne_none_iff_exists'.mp hsome
  have hnow := hlive r hr lock hlock
  have hexpired := Cluster.get_eq_none.mp hfree lock (h.holds r hr lock hlock hnow)
  omega

/-- A cycle takes the lock. -/
lemma took (h : run.Covered w) (hno : ∀ r ∈ w.replicas, r.phase.cycleLock = none)
    (hlast : ∀ t ∈ w.starts, t + run.interval ≤ w.now) {i : ℕ} (hi : w.replicas[i]? = some r)
    (hphase : r'.phase = .acquired (run.newLock w)) :
    run.Covered { w with
      drawn := w.drawn + 1, key := some (run.newLock w), replicas := w.replicas.set i r' } where
  alone := by
    have hcount := Tracker.countP_set_add hi r' (·.phase.underWay)
    have hzero : w.replicas.countP (·.phase.underWay) = 0 := by
      rw [List.countP_eq_zero]
      intro x hx
      simp [Phase.underWay, hno x hx]
    have hle := Bool.toNat_le r'.phase.underWay
    simp only at hcount ⊢
    omega
  spaced := h.spaced
  ready _ _ _ _ := hlast
  holds x hx lock hlock _ := by
    rcases List.mem_or_eq_of_mem_set hx with hx | rfl
    · rw [hno x hx] at hlock
      cases hlock
    · rw [hphase] at hlock
      exact hlock
  drawn x hx lock hlock := by
    rcases List.mem_or_eq_of_mem_set hx with hx | rfl
    · have := h.drawn x hx lock hlock
      show lock.value < w.drawn + 1
      omega
    · rw [hphase] at hlock
      cases hlock
      exact Nat.lt_succ_self _
  apart x hx lock hlock y hy lock' hlock' := by
    rcases List.mem_or_eq_of_mem_set hx with hx | rfl
    · rw [hno x hx] at hlock
      cases hlock
    · rw [hphase] at hlock
      cases hlock
      rcases List.mem_or_eq_of_mem_set hy with hy | rfl
      · have hlt := h.drawn y hy lock' (by rw [hlock']; rfl)
        exact Nat.ne_of_lt hlt
      · rw [hphase] at hlock'
        cases hlock'

/-- An execution starts. -/
lemma executes (h : run.Covered w) {i : ℕ} (hi : w.replicas[i]? = some r) {lock : DistributedLock}
    (hphase : r.phase = .acquired lock) (hphase' : r'.phase = .executing lock) :
    run.Covered { w with starts := w.now :: w.starts, replicas := w.replicas.set i r' } := by
  have hr := List.mem_of_getElem? hi
  have hunder : r.phase.underWay = true := by rw [hphase]; rfl
  refine ⟨?_, ?_, fun x hx l hl => ?_, fun x hx l hl => ?_, fun x hx l hl => ?_, fun x hx l hl y hy l' hl' => ?_⟩
  · have hcount := Tracker.countP_set_add hi r' (·.phase.underWay)
    have hunder' : r'.phase.underWay = true := by rw [hphase']; rfl
    simp only [hunder, hunder'] at hcount
    have hone := h.alone
    show (w.replicas.set i r').countP _ ≤ 1
    omega
  · exact List.pairwise_cons.mpr ⟨h.ready r hr lock hphase, h.spaced⟩
  · -- no other cycle is under way
    rcases Tracker.eq_or_of_mem_set (q := (·.phase.underWay)) hunder hi h.alone hx with rfl | hx
    · rw [hphase'] at hl
      cases hl
    · rw [hl] at hx
      cases hx
  · rcases List.mem_or_eq_of_mem_set hx with hx | rfl
    · exact h.holds x hx l hl
    · rw [hphase'] at hl
      exact h.holds r hr l (by rw [hphase]; exact hl)
  · rcases List.mem_or_eq_of_mem_set hx with hx | rfl
    · exact h.drawn x hx l hl
    · rw [hphase'] at hl
      exact h.drawn r hr l (by rw [hphase]; exact hl)
  · rcases List.mem_or_eq_of_mem_set hy with hold | rfl
    · rcases List.mem_or_eq_of_mem_set hx with hx | rfl
      · exact h.apart x hx l hl y hold l' hl'
      · rw [hphase'] at hl
        exact h.apart r hr l (by rw [hphase]; exact hl) y hold l' hl'
    · rw [hphase'] at hl'
      cases hl'

/-- An execution ends. -/
lemma finishes (h : run.Covered w) {i : ℕ} (hi : w.replicas[i]? = some r) {lock : DistributedLock}
    (hphase : r.phase = .executing lock) (hphase' : r'.phase = .executed lock) :
    run.Covered { w with replicas := w.replicas.set i r' } := by
  have hr := List.mem_of_getElem? hi
  -- no cycle is under way any more
  have hno : ∀ x ∈ w.replicas.set i r', x.phase.cycleLock = none := by
    intro x hx
    have hunder : r.phase.underWay = true := by rw [hphase]; rfl
    rcases Tracker.eq_or_of_mem_set (q := (·.phase.underWay)) hunder hi h.alone hx with rfl | hx
    · rw [hphase']
      rfl
    · simpa [Phase.underWay] using hx
  refine ⟨?_, h.spaced, fun x hx l hl => ?_, fun x hx l hl => ?_, fun x hx l hl => ?_, fun x hx l hl => ?_⟩
  · have hzero : (w.replicas.set i r').countP (·.phase.underWay) = 0 := by
      rw [List.countP_eq_zero]
      intro x hx
      simp [Phase.underWay, hno x hx]
    show (w.replicas.set i r').countP _ ≤ 1
    omega
  · have hnone := hno x hx
    rw [hl] at hnone
    cases hnone
  · rw [hno x hx] at hl
    cases hl
  · rcases List.mem_or_eq_of_mem_set hx with hx | rfl
    · exact h.drawn x hx l hl
    · rw [hphase'] at hl
      exact h.drawn r hr l (by rw [hphase]; exact hl)
  · rw [hno x hx] at hl
    cases hl

/-- A lock that is alive and belongs to a cycle under way stays, whoever else asks for it or gives his own back. -/
lemma keyChange (h : run.Covered w) {x : Replica} (hx : x ∈ w.replicas) {lock : DistributedLock}
    (hlock : x.phase.cycleLock = some lock) (hnow : w.now < lock.expires) (hr : r ∈ w.replicas)
    {key : Option DistributedLock} (hkey : KeyChange w r key) : key = some lock := by
  have hheld := h.holds x hx lock hlock hnow
  have hget := Cluster.get_of_key hheld hnow
  cases hkey with
  | same => exact hheld
  | set l hfree =>
    rw [hget] at hfree
    cases hfree
  | del l hphase hvalue =>
    rw [hget] at hvalue
    exact absurd (Option.some.inj hvalue).symm (h.apart x hx lock hlock r hr l hphase)

lemma rests (h : run.Covered w) {i : ℕ} (hi : w.replicas[i]? = some r) (hrest : Rests w r w' r') :
    run.Covered { w' with replicas := w.replicas.set i r' } := by
  have hr := List.mem_of_getElem? hi
  have hdrawn := hrest.drawn
  -- whoever is somewhere in a cycle was there before
  have hin : ∀ x ∈ w.replicas.set i r', ∀ l, x.phase.lock = some l → ∃ y ∈ w.replicas, y.phase = x.phase := by
    intro x hx l hl
    rcases List.mem_or_eq_of_mem_set hx with hx | rfl
    · exact ⟨x, hx, rfl⟩
    · rcases hrest.phase with hp | hp
      · exact ⟨r, hr, hp.symm⟩
      · rw [hp] at hl
        cases hl
  refine ⟨?_, ?_, fun x hx l hl => ?_, fun x hx l hl hnow => ?_, fun x hx l hl => ?_, fun x hx l hl y hy l' hl' => ?_⟩
  · have hcount := Tracker.countP_set_add hi r' (·.phase.underWay)
    have hle : r'.phase.underWay.toNat ≤ r.phase.underWay.toNat := by
      rcases hrest.phase with hp | hp
      · exact Nat.le_of_eq (congrArg (fun p => p.underWay.toNat) hp)
      · simp [Phase.underWay, Phase.cycleLock_of_lock_eq_none hp]
    have hone := h.alone
    show (w.replicas.set i r').countP _ ≤ 1
    omega
  · show w'.starts.Pairwise _
    rw [hrest.starts]
    exact h.spaced
  · show ∀ t ∈ w'.starts, t + run.interval ≤ w'.now
    obtain ⟨y, hy, hphase⟩ := hin x hx l (by rw [hl]; rfl)
    rw [hrest.starts, hrest.now]
    exact h.ready y hy l (hphase.trans hl)
  · obtain ⟨y, hy, hphase⟩ := hin x hx l (Phase.lock_of_cycleLock hl)
    rw [← hphase] at hl
    exact h.keyChange hy hl (hrest.now ▸ hnow) hr hrest.key
  · obtain ⟨y, hy, hphase⟩ := hin x hx l hl
    rw [← hphase] at hl
    have hlt := h.drawn y hy l hl
    show l.value < w'.drawn
    omega
  · obtain ⟨x₀, hx₀, hphase⟩ := hin x hx l (Phase.lock_of_cycleLock hl)
    obtain ⟨y₀, hy₀, hphase'⟩ := hin y hy l' (by rw [hl']; rfl)
    rw [← hphase] at hl
    exact h.apart x₀ hx₀ l hl y₀ hy₀ l' (hphase'.trans hl')

/-- **Every step keeps it.** -/
lemma step {e : Event} (h : run.Covered w) (hC : run.FindsCovered w e) (hstep : run.step w e = some w') :
    run.Covered w' := by
  cases e with
  | pass d =>
    cases hstep
    refine ⟨h.alone, h.spaced, fun x hx l hl t ht => ?_, fun x hx l hl hnow => ?_, h.drawn, h.apart⟩
    · have := h.ready x hx l hl t ht
      show t + run.interval ≤ w.now + d
      omega
    · exact h.holds x hx l hl (Nat.lt_of_le_of_lt (Nat.le_add_right _ _) hnow)
  | start =>
    cases hstep
    have hin : ∀ x ∈ w.replicas ++ [({} : Replica)], ∀ l, x.phase.lock = some l → x ∈ w.replicas := by
      intro x hx l hl
      rcases List.mem_append.mp hx with hx | hx
      · exact hx
      · obtain rfl := List.mem_singleton.mp hx
        cases hl
    refine ⟨?_, h.spaced, fun x hx l hl => h.ready x (hin x hx l (by rw [hl]; rfl)) l hl,
      fun x hx l hl => h.holds x (hin x hx l (Phase.lock_of_cycleLock hl)) l hl,
      fun x hx l hl => h.drawn x (hin x hx l hl) l hl,
      fun x hx l hl y hy l' hl' => h.apart x (hin x hx l (Phase.lock_of_cycleLock hl)) l hl y
        (hin y hy l' (by rw [hl']; rfl)) l' hl'⟩
    show (w.replicas ++ [({} : Replica)]).countP _ ≤ 1
    rw [List.countP_append]
    exact h.alone
  | act i a =>
    obtain ⟨r, hi, hmap⟩ := Option.bind_eq_some_iff.mp hstep
    obtain ⟨⟨w₁, r'⟩, hact, rfl⟩ := Option.map_eq_some_iff.mp hmap
    rcases act_cases hact with ⟨rfl, hfree, hlives, hphase, rfl⟩ | ⟨lock, hphase, hphase', rfl⟩ |
      ⟨lock, hphase, hphase', rfl⟩ | hrest
    · obtain ⟨hlive, hlast⟩ := hC hfree fun x hx => Option.some.inj (hi.symm.trans hx) ▸ hlives
      exact h.took (h.cycleLock_of_free hfree hlive) hlast hi hphase
    · exact h.executes hi hphase hphase'
    · exact h.finishes hi hphase hphase'
    · exact h.rests hi hrest

end Runner.Covered

lemma Runner.covered_empty : run.Covered {} where
  alone := Nat.zero_le _
  spaced := List.Pairwise.nil
  ready _ h := by cases h
  holds _ h := by cases h
  drawn _ h := by cases h
  apart _ h := by cases h

/-- **Each cycle runs once.** In every run of any number of replicas in which the lock is never found free while a cycle
that has outlived it is under way, or within an interval of the last execution, no two replicas execute the job at
once and no two executions start within an interval. -/
theorem replicas_run_once (run : Runner) (es : List Event) (h : Lts.Meets run.step run.FindsCovered {} es) :
    Lts.Throughout run.step run.Once {} es :=
  Lts.throughout_of_meets (fun _ _ _ hc hC hstep => hc.step hC hstep) (fun _ hc => hc.once) Runner.covered_empty h

/-- An hourly job whose lock lives for ten minutes. -/
def hourly : Runner := { interval := 3600000, interval_pos := by decide, lockTTL := 0 }

/-- A cycle of the replica `i` from the answer of Redis on. -/
def takes (i : ℕ) : List Event := [.act i (.acquire .answer), .act i .execute]

def gives (i : ℕ) : List Event := [.act i .finish, .act i (.release true), .act i .loop]

/-- Two replicas; the second one starts during the first execution, and its tick comes after an hour. -/
theorem replicas_run_once_hourly :
    Lts.Throughout hourly.step hourly.Once {}
      ([.start] ++ takes 0 ++ [.pass 60000, .start, .act 1 (.acquire .answer), .act 1 .loop] ++ gives 0 ++
        [.pass 3600000, .act 1 .tick] ++ takes 1 ++ gives 1) :=
  replicas_run_once hourly _ (by decide)

/-- A job that takes longer than ten minutes runs on two replicas at once, and a job that takes a minute is run again by
a replica that has started half an hour later. -/
theorem replicas_run_twice :
    ¬ Lts.Throughout hourly.step hourly.Once {} ([.start] ++ takes 0 ++ [.pass 600000, .start] ++ takes 1) ∧
      ¬ Lts.Throughout hourly.step hourly.Once {}
        ([.start] ++ takes 0 ++ [.pass 60000] ++ gives 0 ++ [.pass 1800000, .start] ++ takes 1) := by
  decide

end Sn360Es.Worker
