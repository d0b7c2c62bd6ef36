import Sn360Es.Lib.Prog

/-!
# What a program that runs alone does

`trace` lists the operations of a run with their answers. `Solo p s Q` is the weakest precondition for the program
`p`, started in the state `s`, to end in `Q` whatever the environment does; `Q` sees the trace.

* `Solo.bind` — the rule for sequencing;
* `Solo.run` — what it says of `eval`;
* `mem_trace` — an answer in the trace was given in some environment of the run.
-/

namespace Lib.Prog

universe u v w

variable {Op : Type u} {Ans : Op → Type v} {α β : Type w} {S E : Type*}
variable (exec : (o : Op) → E → S → Ans o × S)

/-- The operations that a program performs when it runs alone, with their answers. -/
def trace : Prog Op Ans α → (ℕ → E) → S → List ((o : Op) × Ans o)
  | ret _, _, _ => []
  | call o k, env, s =>
    ⟨o, (exec o (env 0) s).1⟩ ::
      trace (k (exec o (env 0) s).1) (fun n => env (n + 1)) (exec o (env 0) s).2

/-- The weakest precondition for a program that runs alone. -/
def Solo : Prog Op Ans α → S → (α → S → List ((o : Op) × Ans o) → Prop) → Prop
  | ret a, s, Q => Q a s []
  | call o k, s, Q => ∀ e, Solo (k (exec o e s).1) (exec o e s).2
      fun a s' tr => Q a s' (⟨o, (exec o e s).1⟩ :: tr)

variable {exec} {p : Prog Op Ans α} {s : S} {Q Q' : α → S → List ((o : Op) × Ans o) → Prop}

@[simp] lemma solo_ret {a : α} : Solo exec (ret a) s Q ↔ Q a s [] := Iff.rfl

lemma Solo.mono (h : Solo exec p s Q) (hQ : ∀ a s' tr, Q a s' tr → Q' a s' tr) : Solo exec p s Q' := by
  induction p generalizing s Q Q' with
  | ret a => exact hQ _ _ _ h
  | call o k ih => exact fun e => ih _ (h e) fun a s' tr => hQ a s' _

/-- **Sequencing.** -/
lemma Solo.bind {f : α → Prog Op Ans β} {R : β → S → List ((o : Op) × Ans o) → Prop}
    (h : Solo exec p s fun a s' tr => Solo exec (f a) s' fun b s'' tr' => R b s'' (tr ++ tr')) :
    Solo exec (p >>= f) s R := by
  induction p generalizing s R with
  | ret a => exact h
  | call o k ih => exact fun e => ih _ (h e)

/-- The rule for one operation. -/
lemma solo_perform {o : Op} {Q : Ans o → S → List ((o : Op) × Ans o) → Prop}
    (h : ∀ e a s', exec o e s = (a, s') → Q a s' [⟨o, a⟩]) : Solo exec (perform o) s Q :=
  fun e => h e _ _ rfl

/-- What the precondition says of a run. -/
lemma Solo.run (h : Solo exec p s Q) (env : ℕ → E) :
    Q (p.eval exec env s).1 (p.eval exec env s).2.1 (p.trace exec env s) := by
  induction p generalizing s Q env with
  | ret a => exact h
  | call o k ih => exact ih _ (h (env 0)) fun n => env (n + 1)

lemma mem_trace {x : (o : Op) × Ans o} : ∀ {p : Prog Op Ans α} {env : ℕ → E} {s : S}, x ∈ p.trace exec env s →
    ∃ n s', x.2 = (exec x.1 (env n) s').1
  | ret _, _, _, h => by cases h
  | call o k, env, s, h => by
    rcases List.mem_cons.mp h with rfl | h
    · exact ⟨0, s, rfl⟩
    · obtain ⟨n, s', hx⟩ := mem_trace h
      exact ⟨n + 1, s', hx⟩

end Lib.Prog
