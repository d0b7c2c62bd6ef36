import Sn360Es.Lib.Lts

/-!
# Programs that call atomic operations

A program is a tree: it returns, or calls an operation `o : Op` and goes on with the answer in `Ans o`. What an
operation does to the shared state is given by `exec`, where `E` holds the choices of the environment.

* `eval` — a program that runs alone, on a stream of environments;
* `Pool`, `step` — any number of programs that run concurrently, one operation at a time;
* `run_solo` — `eval` is the run of the pool in which only that program takes steps.
-/

namespace Lib

universe u v w

/-- A program over the operations `Op` with the answers `Ans`. -/
inductive Prog (Op : Type u) (Ans : Op → Type v) (α : Type w) : Type (max u v w)
  | ret (a : α)
  | call (o : Op) (k : Ans o → Prog Op Ans α)

namespace Prog

variable {Op : Type u} {Ans : Op → Type v} {α β : Type w}

def bind : Prog Op Ans α → (α → Prog Op Ans β) → Prog Op Ans β
  | ret a, f => f a
  | call o k, f => call o fun a => (k a).bind f

instance : Monad (Prog Op Ans) where
  pure := ret
  bind := bind

/-- The program that calls one operation. -/
def perform (o : Op) : Prog Op Ans (Ans o) := call o ret

@[simp] lemma pure_eq (a : α) : (pure a : Prog Op Ans α) = ret a := rfl

/-! ### One program alone -/

section Eval

variable {S E : Type*} (exec : (o : Op) → E → S → Ans o × S)

/-- What a program returns when it runs alone, the state it leaves and the environments it did not use. -/
def eval : Prog Op Ans α → (ℕ → E) → S → α × S × (ℕ → E)
  | ret a, env, s => (a, s, env)
  | call o k, env, s =>
    eval (k (exec o (env 0) s).1) (fun n => env (n + 1)) (exec o (env 0) s).2

@[simp] lemma eval_ret (a : α) (env : ℕ → E) (s : S) : eval exec (ret a) env s = (a, s, env) := rfl

lemma eval_bind (p : Prog Op Ans α) (f : α → Prog Op Ans β) (env : ℕ → E) (s : S) :
    eval exec (p >>= f) env s =
      eval exec (f (eval exec p env s).1) (eval exec p env s).2.2 (eval exec p env s).2.1 := by
  induction p generalizing env s with
  | ret a => rfl
  | call o k ih => exact ih _ _ _

lemma eval_perform (o : Op) (env : ℕ → E) (s : S) : eval exec (perform o) env s =
    ((exec o (env 0) s).1, (exec o (env 0) s).2, fun n => env (n + 1)) := rfl

/-- A program uses up the first environments. -/
lemma eval_rest (p : Prog Op Ans α) (env : ℕ → E) (s : S) :
    ∃ k, (eval exec p env s).2.2 = fun n => env (n + k) := by
  induction p generalizing env s with
  | ret a => exact ⟨0, rfl⟩
  | call o k ih =>
    obtain ⟨m, hm⟩ := ih (exec o (env 0) s).1 (fun n => env (n + 1)) (exec o (env 0) s).2
    exact ⟨m + 1, hm⟩

variable {exec} in
/-- Running `p >>= f` is running `p` and then `f`. -/
lemma eval_bind_eq_iff {p : Prog Op Ans α} {f : α → Prog Op Ans β} {env : ℕ → E} {s : S}
    {r : β × S × (ℕ → E)} : eval exec (p >>= f) env s = r ↔
      ∃ a s' env', eval exec p env s = (a, s', env') ∧ eval exec (f a) env' s' = r := by
  rw [eval_bind]
  constructor
  · intro h
    exact ⟨_, _, _, rfl, h⟩
  · rintro ⟨a, s', env', h, hr⟩
    rw [h]
    exact hr

end Eval

end Prog

/-! ### Programs that run concurrently -/

/-- A program in the middle of its run: the operations it has performed, with their answers, the last one
first, and what is left of it. -/
structure Thread (Op : Type u) (Ans : Op → Type v) (α : Type w) where
  performed : List ((o : Op) × Ans o) := []
  rest : Prog Op Ans α

namespace Thread

variable {Op : Type u} {Ans : Op → Type v} {α : Type w}

/-- The program has returned. -/
def Finished (t : Thread Op Ans α) : Prop := ∃ a, t.rest = .ret a

/-- What the program has returned. -/
def result? (t : Thread Op Ans α) : Option α :=
  match t.rest with
  | .ret a => some a
  | .call _ _ => none

lemma finished_iff {t : Thread Op Ans α} : t.Finished ↔ t.result?.isSome := by
  unfold Finished result?
  cases t.rest <;> simp

instance (t : Thread Op Ans α) : Decidable t.Finished :=
  decidable_of_iff _ finished_iff.symm

end Thread

/-- The shared state and the programs that run on it. -/
structure Pool (Op : Type u) (Ans : Op → Type v) (α : Type w) (S : Type*) where
  shared : S
  threads : List (Thread Op Ans α) := []

namespace Pool

/-- A step of the pool: a program starts, or the program at a position performs its next operation. -/
inductive Label (ι E : Type*)
  | spawn (i : ι)
  | advance (t : ℕ) (e : E)

variable {Op : Type u} {Ans : Op → Type v} {α : Type w} {S E ι : Type*}
variable (exec : (o : Op) → E → S → Ans o × S) (body : ι → Prog Op Ans α)

def step (s : Pool Op Ans α S) : Label ι E → Option (Pool Op Ans α S)
  | .spawn i => some { s with threads := s.threads ++ [{ rest := body i }] }
  | .advance n e =>
    match s.threads[n]? with
    | some ⟨done, .call o k⟩ =>
      let r := exec o e s.shared
      some ⟨r.2, s.threads.set n ⟨⟨o, r.1⟩ :: done, k r.1⟩⟩
    | _ => none

variable {exec body} {s s' : Pool Op Ans α S}

/-- **What a step does.** -/
lemma step_cases {l : Label ι E} (h : step exec body s l = some s') :
    (∃ i, l = .spawn i ∧ s' = { s with threads := s.threads ++ [{ rest := body i }] }) ∨
    (∃ n e done o k, l = .advance n e ∧ s.threads[n]? = some ⟨done, .call o k⟩ ∧
      s' = ⟨(exec o e s.shared).2,
        s.threads.set n ⟨⟨o, (exec o e s.shared).1⟩ :: done, k (exec o e s.shared).1⟩⟩) := by
  cases l with
  | spawn i => exact .inl ⟨i, rfl, (Option.some.inj h).symm⟩
  | advance n e =>
    simp only [step] at h
    split at h
    · next done o k hn => exact .inr ⟨n, e, done, o, k, rfl, hn, (Option.some.inj h).symm⟩
    · cases h

variable (exec body) in
/-- **`eval` is the run of the pool in which only one program takes steps.** -/
theorem run_solo (p : Prog Op Ans α) (env : ℕ → E) (st : S) (done : List ((o : Op) × Ans o)) :
    ∃ n done', Lts.run (step exec body) (⟨st, [⟨done, p⟩]⟩ : Pool Op Ans α S)
        ((List.range n).map fun i => .advance 0 (env i)) =
      some ⟨(p.eval exec env st).2.1, [⟨done', .ret (p.eval exec env st).1⟩]⟩ := by
  induction p generalizing env st done with
  | ret a => exact ⟨0, done, rfl⟩
  | call o k ih =>
    obtain ⟨n, done', hrun⟩ := ih (exec o (env 0) st).1 (fun i => env (i + 1)) (exec o (env 0) st).2
      (⟨o, (exec o (env 0) st).1⟩ :: done)
    refine ⟨n + 1, done', ?_⟩
    rw [List.range_succ_eq_map, List.map_cons, List.map_map, Lts.run_cons]
    exact hrun

end Pool

end Lib
