import Sn360Es.Lib.Prog

/-!
# What every operation of a program is

* `Prog.Every φ p` — every operation that `p` may perform is in `φ`, whatever the answers are;
* `Prog.inl` — a program over some of the operations;
* `Pool.Every.step` — the threads of a pool stay in `φ`;
* `Pool.run_exact` — a property of the shared state that the operations in `φ` keep exactly under a condition.
-/

namespace Lib

universe u v w

variable {Op Op' : Type u} {Ans : Op → Type v} {Ans' : Op' → Type v} {α β : Type w} {S E ι : Type*}

namespace Prog

def Every (φ : Op → Prop) : Prog Op Ans α → Prop
  | .ret _ => True
  | .call o k => φ o ∧ ∀ a, Every φ (k a)

variable {φ : Op → Prop} {p : Prog Op Ans α}

lemma every_pure (a : α) : Every φ (pure a : Prog Op Ans α) := trivial

lemma every_perform {o : Op} (h : φ o) : Every φ (perform o : Prog Op Ans (Ans o)) := ⟨h, fun _ => trivial⟩

/-- **Sequencing.** -/
lemma Every.bind (h : Every φ p) {f : α → Prog Op Ans β} (hf : ∀ a, Every φ (f a)) : Every φ (p >>= f) := by
  induction p with
  | ret a => exact hf a
  | call o k ih => exact ⟨h.1, fun a => ih a (h.2 a)⟩

/-- The program over more operations. -/
def inl : Prog Op Ans α → Prog (Op ⊕ Op') (Sum.elim Ans Ans') α
  | .ret a => .ret a
  | .call o k => .call (.inl o) fun a => inl (k a)

lemma Every.inl {φ' : Op ⊕ Op' → Prop} (hφ : ∀ o, φ o → φ' (.inl o)) (h : Every φ p) :
    Every φ' (p.inl : Prog (Op ⊕ Op') (Sum.elim Ans Ans') α) := by
  induction p with
  | ret a => trivial
  | call o k ih => exact ⟨hφ o h.1, fun a => ih a (h.2 a)⟩

end Prog

namespace Pool

variable {φ : Op → Prop} {exec : (o : Op) → E → S → Ans o × S} {body : ι → Prog Op Ans α} {s s' : Pool Op Ans α S}

/-- Every operation that is still to come. -/
def Every (φ : Op → Prop) (s : Pool Op Ans α S) : Prop := ∀ t ∈ s.threads, t.rest.Every φ

lemma Every.next (h : s.Every φ) {n : ℕ} {done : List ((o : Op) × Ans o)} {o : Op} {k : Ans o → Prog Op Ans α}
    (hn : s.threads[n]? = some ⟨done, .call o k⟩) : φ o :=
  (h _ (List.mem_of_getElem? hn)).1

lemma Every.step (h : s.Every φ) (hbody : ∀ i, (body i).Every φ) {l : Label ι E}
    (hst : Pool.step exec body s l = some s') : s'.Every φ := by
  obtain ⟨i, rfl, rfl⟩ | ⟨n, e, done, o, k, rfl, hn, rfl⟩ := step_cases hst
  · intro t ht
    rcases List.mem_append.mp ht with ht | ht
    · exact h t ht
    · rw [List.mem_singleton.mp ht]
      exact hbody i
  · intro t ht
    rcases List.mem_or_eq_of_mem_set ht with ht | rfl
    · exact h t ht
    · exact (h _ (List.mem_of_getElem? hn)).2 _

/-- The operation that is performed next meets the condition. -/
def Permits (C : S → Op → E → Prop) (s : Pool Op Ans α S) : Label ι E → Prop
  | .spawn _ => True
  | .advance n e =>
    match s.threads[n]? with
    | some ⟨_, .call o _⟩ => C s.shared o e
    | _ => True

instance (C : S → Op → E → Prop) [∀ st o e, Decidable (C st o e)] (s : Pool Op Ans α S) :
    ∀ l : Label ι E, Decidable (Permits C s l)
  | .spawn _ => isTrue trivial
  | .advance n e =>
    match h : s.threads[n]? with
    | some ⟨_, .call o _⟩ => decidable_of_iff (C s.shared o e) (by simp only [Permits, h])
    | some ⟨_, .ret _⟩ => isTrue (by simp only [Permits, h])
    | none => isTrue (by simp only [Permits, h])

/-- **The exact rule** for a pool. -/
theorem run_exact {I P : S → Prop} {C : S → Op → E → Prop} (hbody : ∀ i, (body i).Every φ)
    (keep : ∀ st o e, φ o → I st → I (exec o e st).2)
    (hexact : ∀ st o e, φ o → I st → (P (exec o e st).2 ↔ P st ∧ C st o e)) {ls : List (Label ι E)}
    (hs : s.Every φ) (hI : I s.shared) (hrun : Lts.run (Pool.step exec body) s ls = some s') :
    P s'.shared ↔ P s.shared ∧ Lts.Meets (Pool.step exec body) (Permits C) s ls := by
  refine Lts.run_iff (I := fun s => s.Every φ ∧ I s.shared) (P := fun s => P s.shared)
    (fun s l s' hs hst => ⟨hs.1.step hbody hst, ?_⟩) (fun s l s' hs hst => ?_) ⟨hs, hI⟩ hrun
  · obtain ⟨i, rfl, rfl⟩ | ⟨n, e, done, o, k, rfl, hn, rfl⟩ := step_cases hst
    · exact hs.2
    · exact keep _ o e (hs.1.next hn) hs.2
  · obtain ⟨i, rfl, rfl⟩ | ⟨n, e, done, o, k, rfl, hn, rfl⟩ := step_cases hst
    · exact ⟨fun h => ⟨h, trivial⟩, And.left⟩
    · simp only [Permits, hn]
      exact hexact _ o e (hs.1.next hn) hs.2

end Pool

end Lib
