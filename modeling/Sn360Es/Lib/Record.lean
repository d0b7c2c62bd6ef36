import Mathlib.Data.List.Forall2
import Sn360Es.Lib.Phase

/-!
# Recorded runs

A pool whose shared state keeps all states before it, and whose answers carry the time at which they were given:
the number of operations before them. The programs do not look at the time.

* `Recorded` — a state with its past, `atTime` the state at a time;
* `Prog.stamp`, `record` — a program and its operations, with the time in the answers;
* `Pool.Follows.run` — recording changes nothing: the recorded pool takes the same steps;
* `keeps_stamp_perform`, `Keeps.stamp_bind` — the rules for a tracker of recorded operations.
-/

namespace Lib

universe u v w

/-- A state with all states before it, the oldest first. -/
structure Recorded (S : Type*) where
  past : List S := []
  now : S

namespace Recorded

variable {S : Type*}

/-- The number of operations so far. -/
def time (w : Recorded S) : ℕ := w.past.length

/-- The state at a time. -/
def atTime (w : Recorded S) (t : ℕ) : Option S := (w.past ++ [w.now])[t]?

def push (w : Recorded S) (s : S) : Recorded S := ⟨w.past ++ [w.now], s⟩

variable {w : Recorded S} {s s' : S} {t : ℕ}

@[simp] lemma push_now : (w.push s).now = s := rfl

@[simp] lemma time_push : (w.push s).time = w.time + 1 := by simp [time, push]

@[simp] lemma atTime_now : w.atTime w.time = some w.now := by simp [atTime, time]

/-- The past stays. -/
lemma atTime_push (h : w.atTime t = some s) : (w.push s').atTime t = some s := by
  have hlt : t < (w.past ++ [w.now]).length := (List.getElem?_eq_some_iff.mp h).1
  rw [atTime, push, List.getElem?_append_left hlt]
  exact h

end Recorded

variable {Op : Type u} {Ans : Op → Type v} {α β : Type w} {S E ι : Type*}

/-- Answers with the time at which they were given. -/
abbrev Stamped (Ans : Op → Type v) (o : Op) : Type v := ℕ × Ans o

/-- The program on stamped answers. -/
def Prog.stamp : Prog Op Ans α → Prog Op (Stamped Ans) α
  | .ret a => .ret a
  | .call o k => .call o fun x => (k x.2).stamp

lemma Prog.stamp_bind (p : Prog Op Ans α) (f : α → Prog Op Ans β) :
    (p >>= f).stamp = p.stamp >>= fun a => (f a).stamp := by
  induction p with
  | ret a => rfl
  | call o k ih =>
    change Prog.call o _ = Prog.call o _
    congr 1
    funext x
    exact ih x.2

/-- The recorded operation. -/
def record (exec : (o : Op) → E → S → Ans o × S) (o : Op) (e : E) (w : Recorded S) :
    Stamped Ans o × Recorded S :=
  ((w.time, (exec o e w.now).1), w.push (exec o e w.now).2)

/-! ### Trackers of recorded operations -/

namespace Tracker

variable {G : Type*} {T : Tracker Op (Stamped Ans) (Recorded S) E G} {g : G}

lemma Keeps.stamp_bind {p : Prog Op Ans α} {f : α → Prog Op Ans β} {R : β → G → Prop}
    (h : T.Keeps p.stamp g fun a g' => T.Keeps (f a).stamp g' R) : T.Keeps (p >>= f).stamp g R := by
  rw [Prog.stamp_bind]
  exact .bind h

lemma keeps_stamp_perform {exec : (o : Op) → E → S → Ans o × S} (hexec : T.exec = record exec) {o : Op}
    {Q : Ans o → G → Prop}
    (h : ∀ e w gs n, T.inv w gs → gs[n]? = some g → T.allows w gs n o e → ∀ a s', exec o e w.now = (a, s') →
      T.inv (w.push s') (gs.set n (T.next g o (w.time, a))) ∧ Q a (T.next g o (w.time, a))) :
    T.Keeps (Prog.perform o).stamp g Q := by
  intro e w gs n hinv hn hok
  rw [hexec]
  exact h e w gs n hinv hn hok _ _ rfl

end Tracker

/-! ### Recording changes nothing -/

/-- A thread and the same thread with stamped answers. -/
structure Thread.Follows (t : Thread Op Ans α) (u : Thread Op (Stamped Ans) α) : Prop where
  rest : u.rest = t.rest.stamp
  performed : u.performed.map (fun x => (⟨x.1, x.2.2⟩ : (o : Op) × Ans o)) = t.performed

/-- A pool and the recorded pool. -/
structure Pool.Follows (p : Pool Op Ans α S) (q : Pool Op (Stamped Ans) α (Recorded S)) : Prop where
  shared : q.shared.now = p.shared
  threads : List.Forall₂ Thread.Follows p.threads q.threads

variable {exec : (o : Op) → E → S → Ans o × S} {body : ι → Prog Op Ans α}
  {p p' : Pool Op Ans α S} {q : Pool Op (Stamped Ans) α (Recorded S)}

lemma forall₂_set {γ δ : Type*} {R : γ → δ → Prop} {l₁ : List γ} {l₂ : List δ} (h : List.Forall₂ R l₁ l₂)
    (n : ℕ) {x : γ} {y : δ} (hxy : R x y) : List.Forall₂ R (l₁.set n x) (l₂.set n y) := by
  induction h generalizing n with
  | nil => exact .nil
  | cons hab hrest ih =>
    cases n with
    | zero => exact .cons hxy hrest
    | succ n => exact .cons hab (ih n)

lemma forall₂_getElem? {γ δ : Type*} {R : γ → δ → Prop} {l₁ : List γ} {l₂ : List δ}
    (h : List.Forall₂ R l₁ l₂) {n : ℕ} {x : γ} (hn : l₁[n]? = some x) : ∃ y, l₂[n]? = some y ∧ R x y := by
  induction h generalizing n with
  | nil => cases hn
  | cons hab _ ih =>
    cases n with
    | zero =>
      cases hn
      exact ⟨_, rfl, hab⟩
    | succ n => exact ih hn

/-- One step of the recorded pool. -/
theorem Pool.Follows.step (h : p.Follows q) {l : Pool.Label ι E} (hst : Pool.step exec body p l = some p') :
    ∃ q', Pool.step (record exec) (fun i => (body i).stamp) q l = some q' ∧ p'.Follows q' := by
  obtain ⟨i, rfl, rfl⟩ | ⟨n, e, done, o, k, rfl, hn, rfl⟩ := Pool.step_cases hst
  · refine ⟨_, rfl, h.shared, ?_⟩
    exact List.rel_append h.threads (.cons ⟨rfl, rfl⟩ .nil)
  · obtain ⟨⟨done', rest'⟩, hq, hrest, hdone⟩ := forall₂_getElem? h.threads hn
    obtain rfl : rest' = .call o fun x => (k x.2).stamp := hrest
    refine ⟨⟨(record exec o e q.shared).2, q.threads.set n ⟨⟨o, (record exec o e q.shared).1⟩ :: done',
      (k (record exec o e q.shared).1.2).stamp⟩⟩, by simp only [Pool.step, hq], ?_, ?_⟩
    · simp only [record, Recorded.push_now, h.shared]
    · refine forall₂_set h.threads n ⟨?_, ?_⟩
      · simp only [record, h.shared]
      · simp only [record, h.shared, List.map_cons]
        exact congrArg _ hdone

/-- **Recording changes nothing.** -/
theorem Pool.Follows.run {ls : List (Pool.Label ι E)} (h : p.Follows q)
    (hrun : Lts.run (Pool.step exec body) p ls = some p') :
    ∃ q', Lts.run (Pool.step (record exec) fun i => (body i).stamp) q ls = some q' ∧ p'.Follows q' := by
  induction ls generalizing p q with
  | nil =>
    cases hrun
    exact ⟨q, rfl, h⟩
  | cons l ls ih =>
    obtain ⟨t, hst, hts⟩ := Lts.run_cons_some.mp hrun
    obtain ⟨u, hu, hfol⟩ := h.step hst
    obtain ⟨q', hq', hend⟩ := ih hfol hts
    exact ⟨q', Lts.run_cons_some.mpr ⟨u, hu, hq'⟩, hend⟩

end Lib
