import Sn360Es.Lib.Prog

/-!
# A worker amid a changing world

One worker runs a program again and again; between its operations, and between its rounds, the world changes. Part of
the state is the worker's own: only it writes there, so what it has seen of that part stays true.

* `Amid.step` — a change from outside, a new round, or the next operation of the round;
* `Keeps p v Q` — the weakest precondition for `p` to keep the invariant whatever happens outside, when the worker's own
  part is `v`, and to end with its own part in `Q`;
* `run_keeps` — the invariant rule for runs.
-/

namespace Lib

universe u v w

/-- The state of the world, and what is left of the round. -/
structure Amid (Op : Type u) (Ans : Op → Type v) (α : Type w) (S : Type*) where
  shared : S
  rest : Prog Op Ans α

namespace Amid

/-- What happens next. -/
inductive Label (X E : Type*)
  | outside (x : X)
  | start
  | advance (e : E)

variable {Op : Type u} {Ans : Op → Type v} {α β : Type w} {S E X V : Type*}

/-- How the worker and the world step. -/
structure Rules (Op : Type u) (Ans : Op → Type v) (S E X : Type*) where
  exec : (o : Op) → E → S → Ans o × S
  outside : X → S → S

/-- No round is going on. -/
def Idle (s : Amid Op Ans α S) : Prop := ∃ a, s.rest = .ret a

instance (s : Amid Op Ans α S) : Decidable s.Idle :=
  match h : s.rest with
  | .ret a => isTrue ⟨a, h⟩
  | .call _ _ => isFalse fun ⟨a, ha⟩ => by rw [h] at ha; cases ha

def step (r : Rules Op Ans S E X) (body : Prog Op Ans α) (s : Amid Op Ans α S) :
    Label X E → Option (Amid Op Ans α S)
  | .outside x => some { s with shared := r.outside x s.shared }
  | .start =>
    match s.rest with
    | .ret _ => some { s with rest := body }
    | .call _ _ => none
  | .advance e =>
    match s.rest with
    | .ret _ => none
    | .call o k => some ⟨(r.exec o e s.shared).2, k (r.exec o e s.shared).1⟩

/-- An invariant, the worker's own part of the state, and the steps that are allowed. -/
structure Books (Op : Type u) (S E X V : Type*) where
  inv : S → Prop
  own : S → V
  allows : S → Op → E → Prop
  permits : S → X → Prop

/-- The step is allowed. -/
def Allows (b : Books Op S E X V) (s : Amid Op Ans α S) : Label X E → Prop
  | .outside x => b.permits s.shared x
  | .start => True
  | .advance e =>
    match s.rest with
    | .ret _ => True
    | .call o _ => b.allows s.shared o e

instance (b : Books Op S E X V) [∀ s o e, Decidable (b.allows s o e)] [∀ s x, Decidable (b.permits s x)]
    (s : Amid Op Ans α S) : ∀ l : Label X E, Decidable (Allows b s l)
  | .outside x => inferInstanceAs (Decidable (b.permits s.shared x))
  | .start => isTrue trivial
  | .advance e =>
    match h : s.rest with
    | .ret _ => isTrue (by simp only [Allows, h])
    | .call o _ => decidable_of_iff (b.allows s.shared o e) (by simp only [Allows, h])

section Keeps

variable (r : Rules Op Ans S E X) (b : Books Op S E X V)

/-- The weakest precondition for a program to keep the invariant. -/
def Keeps : Prog Op Ans α → V → (α → V → Prop) → Prop
  | .ret a, v, Q => Q a v
  | .call o k, v, Q => ∀ e s, b.inv s → b.own s = v → b.allows s o e →
      b.inv (r.exec o e s).2 ∧ Keeps (k (r.exec o e s).1) (b.own (r.exec o e s).2) Q

variable {r b} {p : Prog Op Ans α} {v : V}

lemma Keeps.mono {Q Q' : α → V → Prop} (h : Keeps r b p v Q) (hQ : ∀ a v', Q a v' → Q' a v') :
    Keeps r b p v Q' := by
  induction p generalizing v with
  | ret a => exact hQ a v h
  | call o k ih =>
    intro e s hinv hown hok
    obtain ⟨hinv', hk⟩ := h e s hinv hown hok
    exact ⟨hinv', ih _ hk⟩

/-- **Sequencing.** -/
lemma Keeps.bind {f : α → Prog Op Ans β} {Q : β → V → Prop}
    (h : Keeps r b p v fun a v' => Keeps r b (f a) v' Q) : Keeps r b (p >>= f) v Q := by
  induction p generalizing v with
  | ret a => exact h
  | call o k ih =>
    intro e s hinv hown hok
    obtain ⟨hinv', hk⟩ := h e s hinv hown hok
    exact ⟨hinv', ih _ hk⟩

/-- The rule for one operation. -/
lemma keeps_perform {o : Op} {Q : Ans o → V → Prop}
    (h : ∀ e s, b.inv s → b.own s = v → b.allows s o e → ∀ a s', r.exec o e s = (a, s') →
      b.inv s' ∧ Q a (b.own s')) : Keeps r b (.perform o) v Q :=
  fun e s hinv hown hok => h e s hinv hown hok _ _ rfl

variable {body : Prog Op Ans α} {P : V → Prop}

/-- The invariant holds, and the rest of the round keeps it and ends in `P`. -/
structure Holds (r : Rules Op Ans S E X) (b : Books Op S E X V) (P : V → Prop) (s : Amid Op Ans α S) : Prop where
  inv : b.inv s.shared
  keeps : Keeps r b s.rest (b.own s.shared) fun _ v => P v

lemma Holds.idle {s : Amid Op Ans α S} (h : Holds r b P s) (hidle : s.Idle) : P (b.own s.shared) := by
  obtain ⟨a, ha⟩ := hidle
  have hkeep := h.keeps
  rw [ha] at hkeep
  exact hkeep

/-- **The invariant rule.** A round that keeps the invariant and goes from `P` to `P` does so amid all changes from
outside that keep the invariant and leave the worker's part alone. -/
theorem run_keeps
    (houtside : ∀ s x, b.inv s → b.permits s x → b.inv (r.outside x s) ∧ b.own (r.outside x s) = b.own s)
    (hbody : ∀ v, P v → Keeps r b body v fun _ v' => P v') {ls : List (Label X E)} {s s' : Amid Op Ans α S}
    (h : Holds r b P s) (hmeets : Lts.Meets (step r body) (Allows b) s ls)
    (hrun : Lts.run (step r body) s ls = some s') : Holds r b P s' := by
  refine Lts.run_induct (fun s l s' hs hl hst => ?_) h hmeets hrun
  cases l with
  | outside x =>
    cases hst
    obtain ⟨hinv, hown⟩ := houtside s.shared x hs.inv hl
    exact ⟨hinv, by rw [hown]; exact hs.keeps⟩
  | start =>
    cases hrest : s.rest with
    | ret a =>
      simp only [step, hrest] at hst
      cases hst
      exact ⟨hs.inv, hbody _ (hs.idle ⟨a, hrest⟩)⟩
    | call o k =>
      simp only [step, hrest] at hst
      cases hst
  | advance e =>
    cases hrest : s.rest with
    | ret a =>
      simp only [step, hrest] at hst
      cases hst
    | call o k =>
      simp only [step, hrest] at hst
      cases hst
      simp only [Allows, hrest] at hl
      have hkeep := hs.keeps
      rw [hrest] at hkeep
      obtain ⟨hinv, hk⟩ := hkeep e s.shared hs.inv rfl hl
      exact ⟨hinv, hk⟩

end Keeps

end Amid

end Lib
