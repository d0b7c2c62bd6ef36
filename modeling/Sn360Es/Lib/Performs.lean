import Sn360Es.Lib.Every
import Sn360Es.Lib.Solo

/-!
# Whether a program performs an operation of a kind

* `Performs exec P p env s` — the program `p`, alone, performs a step in `P`, which sees the operation and its answer;
* `performs_bind`, `performs_perform`, `not_performs_of_every`, `performs_bind_of_every` — the rules;
* `both` — two kinds of operations, each with its own state and environment;
* `eval_inl`, `performs_inl` — a program over the first kind runs as it does without the second;
* `via` — a program whose operations are among others.
-/

namespace Lib.Prog

universe u v w

section Performs

variable {Op : Type u} {Ans : Op → Type v} {α β : Type w} {S E : Type*}
variable {exec : (o : Op) → E → S → Ans o × S} {P : (o : Op) × Ans o → Prop} {p : Prog Op Ans α} {env : ℕ → E} {s : S}

variable (exec P p env s) in
def Performs : Prop := ∃ x ∈ p.trace exec env s, P x

lemma trace_bind (p : Prog Op Ans α) (f : α → Prog Op Ans β) (env : ℕ → E) (s : S) :
    (p >>= f).trace exec env s = p.trace exec env s ++
      (f (p.eval exec env s).1).trace exec (p.eval exec env s).2.2 (p.eval exec env s).2.1 := by
  induction p generalizing env s with
  | ret a => rfl
  | call o k ih => exact congrArg (_ :: ·) (ih _ _ _)

@[simp] lemma not_performs_ret (a : α) : ¬ Performs exec P (ret a) env s := by
  rintro ⟨x, hx, -⟩
  cases hx

/-- **Sequencing.** -/
lemma performs_bind {f : α → Prog Op Ans β} : Performs exec P (p >>= f) env s ↔ Performs exec P p env s ∨
    Performs exec P (f (p.eval exec env s).1) (p.eval exec env s).2.2 (p.eval exec env s).2.1 := by
  simp only [Performs, trace_bind, List.mem_append, or_and_right, exists_or]

lemma performs_perform {o : Op} : Performs exec P (perform o) env s ↔ P ⟨o, (exec o (env 0) s).1⟩ := by
  constructor
  · rintro ⟨x, hx, hP⟩
    rw [List.mem_singleton.mp (show x ∈ [_] from hx)] at hP
    exact hP
  · intro h
    exact ⟨_, List.mem_cons_self, h⟩

lemma Every.of_mem_trace {φ : Op → Prop} (h : Every φ p) {x : (o : Op) × Ans o} (hx : x ∈ p.trace exec env s) :
    φ x.1 := by
  induction p generalizing env s with
  | ret a => cases hx
  | call o k ih =>
    rcases List.mem_cons.mp hx with rfl | hx
    · exact h.1
    · exact ih _ (h.2 _) hx

/-- What no operation of the program is, it does not perform. -/
lemma not_performs_of_every {φ : Op → Prop} (hφ : ∀ x, P x → ¬ φ x.1) (h : Every φ p) : ¬ Performs exec P p env s := by
  rintro ⟨x, hx, hP⟩
  exact hφ x hP (h.of_mem_trace hx)

/-- What comes after a program without such steps decides. -/
lemma performs_bind_of_every {φ : Op → Prop} (hφ : ∀ x, P x → ¬ φ x.1) (h : Every φ p) {f : α → Prog Op Ans β} :
    Performs exec P (p >>= f) env s ↔
      Performs exec P (f (p.eval exec env s).1) (p.eval exec env s).2.2 (p.eval exec env s).2.1 :=
  performs_bind.trans (or_iff_right (not_performs_of_every hφ h))

end Performs

/-! ### Two kinds of operations -/

section Both

variable {Op Op' : Type u} {Ans : Op → Type v} {Ans' : Op' → Type v} {α : Type w} {S S' E E' : Type*}

/-- The effect of an operation of either kind. -/
def both (exec : (o : Op) → E → S → Ans o × S) (exec' : (o : Op') → E' → S' → Ans' o × S') :
    (o : Op ⊕ Op') → E × E' → S × S' → Sum.elim Ans Ans' o × (S × S')
  | .inl o, e, s => ((exec o e.1 s.1).1, ((exec o e.1 s.1).2, s.2))
  | .inr o, e, s => ((exec' o e.2 s.2).1, (s.1, (exec' o e.2 s.2).2))

/-- A step of the first kind. -/
def stepInl (x : (o : Op) × Ans o) : (o : Op ⊕ Op') × Sum.elim Ans Ans' o := ⟨.inl x.1, x.2⟩

variable {exec : (o : Op) → E → S → Ans o × S} {exec' : (o : Op') → E' → S' → Ans' o × S'}

/-- What a program over the first kind returns and leaves behind. -/
lemma eval_inl (p : Prog Op Ans α) (env : ℕ → E × E') (s : S × S') :
    ∃ k, (p.inl : Prog (Op ⊕ Op') (Sum.elim Ans Ans') α).eval (both exec exec') env s =
      ((p.eval exec (fun n => (env n).1) s.1).1, ((p.eval exec (fun n => (env n).1) s.1).2.1, s.2),
        fun n => env (n + k)) := by
  induction p generalizing env s with
  | ret a => exact ⟨0, rfl⟩
  | call o k ih =>
    obtain ⟨m, hm⟩ := ih (exec o (env 0).1 s.1).1 (fun n => env (n + 1)) ((exec o (env 0).1 s.1).2, s.2)
    exact ⟨m + 1, hm⟩

lemma trace_inl (p : Prog Op Ans α) (env : ℕ → E × E') (s : S × S') :
    (p.inl : Prog (Op ⊕ Op') (Sum.elim Ans Ans') α).trace (both exec exec') env s =
      (p.trace exec (fun n => (env n).1) s.1).map stepInl := by
  induction p generalizing env s with
  | ret a => rfl
  | call o k ih => exact congrArg (_ :: ·) (ih _ (fun n => env (n + 1)) ((exec o (env 0).1 s.1).2, s.2))

lemma performs_inl {P : (o : Op ⊕ Op') × Sum.elim Ans Ans' o → Prop} {p : Prog Op Ans α} {env : ℕ → E × E'}
    {s : S × S'} : Performs (both exec exec') P p.inl env s ↔
      Performs exec (fun x => P (stepInl x)) p (fun n => (env n).1) s.1 := by
  simp only [Performs, trace_inl, List.mem_map, exists_exists_and_eq_and]

end Both

/-! ### Operations among others -/

section Via

variable {Op Op' : Type u} {Ans : Op → Type v} {Ans' : Op' → Type v} {α β : Type w}
variable {name : Op → Op'} {ans : (o : Op) → Ans' (name o) → Ans o}

variable (name ans) in
/-- The program that calls the operations under their names among others. -/
def via : Prog Op Ans α → Prog Op' Ans' α
  | .ret a => .ret a
  | .call o k => .call (name o) fun a => via (k (ans o a))

end Via

end Lib.Prog
