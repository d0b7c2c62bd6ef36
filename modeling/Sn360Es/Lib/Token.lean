import Mathlib.Algebra.BigOperators.Group.List.Basic
import Mathlib.Algebra.Ring.Nat
import Sn360Es.Lib.Prog

/-!
# Programs that pass tokens around

A `Ledger` says how many tokens a shared state holds and which answers use a token up. `Linear p n Q` is the
weakest precondition for a program that owns `n` tokens to keep the books: at every operation, what the shared
state gains the program gives up, and `Q` holds of the result and of the tokens it owns at the end.

* `Linear.bind` — the rule for sequencing;
* `Ledger.run_balanced` — in every run of a pool of programs that start and end with no token, no token is
  lost or copied: those of the shared state, those that programs own and those used up make a constant;
* `Balanced.used_le`, `Balanced.quiet` — what this says about the tokens used up, and about a state in which no
  program owns a token.
-/

namespace Lib

universe u v w

/-- The tokens of a system: `cap` bounds their number, `ok` are the environments in which the books have to be
kept, and only the operations that `acquires` names may give a token to a program. -/
structure Ledger (Op : Type u) (Ans : Op → Type v) (S E : Type*) where
  exec : (o : Op) → E → S → Ans o × S
  ok : E → Prop
  cap : ℕ
  tokens : S → ℕ
  uses : (o : Op) → Ans o → ℕ
  acquires : Op → Prop

variable {Op : Type u} {Ans : Op → Type v} {α β : Type w} {S E ι : Type*} (L : Ledger Op Ans S E)

namespace Ledger

/-- An operation performed by a program that owns `n` tokens leaves it with `m`. -/
structure Moves (o : Op) (e : E) (s : S) (n m : ℕ) : Prop where
  balance : L.tokens (L.exec o e s).2 + m + L.uses o (L.exec o e s).1 = L.tokens s + n
  acquired : m ≤ n ∨ L.acquires o

/-- The weakest precondition for `p`, which owns `n` tokens, to keep the books and to end in `Q`. -/
def Linear : Prog Op Ans α → ℕ → (α → ℕ → Prop) → Prop
  | .ret a, n, Q => Q a n
  | .call o k, n, Q => ∀ e s, L.ok e → L.tokens s + n ≤ L.cap →
      ∃ m, L.Moves o e s n m ∧ Linear (k (L.exec o e s).1) m Q

variable {L} {p : Prog Op Ans α} {n : ℕ}

@[simp] lemma linear_ret {a : α} {Q : α → ℕ → Prop} : L.Linear (.ret a) n Q ↔ Q a n := Iff.rfl

/-- **Sequencing.** -/
lemma Linear.bind {f : α → Prog Op Ans β} {R : β → ℕ → Prop}
    (h : L.Linear p n fun a m => L.Linear (f a) m R) : L.Linear (p >>= f) n R := by
  induction p generalizing n with
  | ret a => exact h
  | call o k ih =>
    intro e s he hs
    obtain ⟨m, hm, hk⟩ := h e s he hs
    exact ⟨m, hm, ih _ hk⟩

/-- The rule for one operation. -/
lemma linear_perform {o : Op} {Q : Ans o → ℕ → Prop}
    (h : ∀ e s, L.ok e → L.tokens s + n ≤ L.cap →
      ∃ m, L.Moves o e s n m ∧ Q (L.exec o e s).1 m) : L.Linear (.perform o) n Q := h

end Ledger

/-! ### Pools -/

namespace Ledger

/-- The tokens that a thread has used up. -/
def used (t : Thread Op Ans α) : ℕ := (t.performed.map fun x => L.uses x.1 x.2).sum

/-- The thread has performed an operation that may have given it a token, and has not returned yet. -/
def Busy (t : Thread Op Ans α) : Prop := (∃ x ∈ t.performed, L.acquires x.1) ∧ ¬ t.Finished

/-- A thread that owns `n` tokens keeps the books for the rest of its run. -/
structure Owns (n : ℕ) (t : Thread Op Ans α) : Prop where
  linear : L.Linear t.rest n fun _ m => m = 0
  acquired : n ≠ 0 → ∃ x ∈ t.performed, L.acquires x.1

/-- The books of a pool: the tokens of the shared state, those owned and those used up make `total`. -/
def Balanced (total : ℕ) (s : Pool Op Ans α S) : Prop :=
  ∃ owners : List (ℕ × Thread Op Ans α), owners.map Prod.snd = s.threads ∧
    (∀ x ∈ owners, L.Owns x.1 x.2) ∧
    L.tokens s.shared + (owners.map fun x => x.1 + L.used x.2).sum = total

variable {L} {total : ℕ} {s s' : Pool Op Ans α S} {body : ι → Prog Op Ans α}

lemma balanced_nil (st : S) : L.Balanced (L.tokens st) (⟨st, []⟩ : Pool Op Ans α S) :=
  ⟨[], rfl, by simp, by simp⟩

lemma Owns.eq_zero {t : Thread Op Ans α} {n : ℕ} (h : L.Owns n t) (hbusy : ¬ L.Busy t) : n = 0 := by
  by_contra hn
  have hfin : t.Finished := by
    by_contra hfin
    exact hbusy ⟨h.acquired hn, hfin⟩
  obtain ⟨a, ha⟩ := hfin
  have hlin := h.linear
  rw [ha, linear_ret] at hlin
  exact hn hlin

/-- The tokens used up are at most all tokens. -/
lemma Balanced.used_le (h : L.Balanced total s) : (s.threads.map L.used).sum ≤ total := by
  obtain ⟨owners, hmap, -, hsum⟩ := h
  rw [← hmap, List.map_map]
  rw [List.sum_map_add] at hsum
  change (owners.map fun x => L.used x.2).sum ≤ total
  omega

/-- When no thread is busy, every token is in the shared state or used up. -/
lemma Balanced.quiet (h : L.Balanced total s) (hq : ∀ t ∈ s.threads, ¬ L.Busy t) :
    L.tokens s.shared + (s.threads.map L.used).sum = total := by
  obtain ⟨owners, hmap, howns, hsum⟩ := h
  have hused : (owners.map fun x => x.1 + L.used x.2) = s.threads.map L.used := by
    rw [← hmap, List.map_map]
    refine List.map_congr_left fun x hx => ?_
    have hmem : x.2 ∈ s.threads := hmap ▸ List.mem_map_of_mem hx
    rw [(howns x hx).eq_zero (hq x.2 hmem), Nat.zero_add]
    rfl
  rw [← hsum, hused]

/-- A program that starts with no token does not change the books. -/
lemma Balanced.spawn (h : L.Balanced total s) {q : Prog Op Ans α} (hq : L.Linear q 0 fun _ m => m = 0) :
    L.Balanced total { s with threads := s.threads ++ [{ rest := q }] } := by
  obtain ⟨owners, hmap, howns, hsum⟩ := h
  refine ⟨owners ++ [(0, { rest := q })], by simp [hmap], ?_, ?_⟩
  · intro x hx
    rcases List.mem_append.mp hx with hx | hx
    · exact howns x hx
    · rw [List.mem_singleton.mp hx]
      exact ⟨hq, fun h => absurd rfl h⟩
  · simpa [used] using hsum

/-- A list split at one of its positions. -/
private lemma exists_split {γ : Type*} {l : List γ} {i : ℕ} {x : γ} (h : l[i]? = some x) :
    ∃ l₁ l₂, l = l₁ ++ x :: l₂ ∧ ∀ y, l.set i y = l₁ ++ y :: l₂ := by
  obtain ⟨hi, rfl⟩ := List.getElem?_eq_some_iff.mp h
  refine ⟨l.take i, l.drop (i + 1), ?_, fun y => ?_⟩
  · rw [List.getElem_cons_drop, List.take_append_drop]
  · rw [List.set_eq_take_append_cons_drop, if_pos hi]

/-- An operation moves tokens between its thread and the shared state only. -/
lemma Balanced.advance (h : L.Balanced total s) (hcap : total ≤ L.cap) {i : ℕ} {e : E} (he : L.ok e)
    {done : List ((o : Op) × Ans o)} {o : Op} {k : Ans o → Prog Op Ans α}
    (hi : s.threads[i]? = some ⟨done, .call o k⟩) :
    L.Balanced total ⟨(L.exec o e s.shared).2,
      s.threads.set i ⟨⟨o, (L.exec o e s.shared).1⟩ :: done, k (L.exec o e s.shared).1⟩⟩ := by
  obtain ⟨owners, hmap, howns, hsum⟩ := h
  rw [← hmap, List.getElem?_map, Option.map_eq_some_iff] at hi
  obtain ⟨⟨n, t⟩, hn, ht⟩ := hi
  obtain rfl : t = ⟨done, .call o k⟩ := ht
  obtain ⟨l₁, l₂, hl, hset⟩ := exists_split hn
  subst hl
  have hown : L.Owns n ⟨done, .call o k⟩ := howns (n, ⟨done, .call o k⟩) (by simp)
  simp only [List.map_append, List.map_cons, List.sum_append, List.sum_cons] at hsum
  obtain ⟨m, hmoves, hlin⟩ := hown.linear e s.shared he (by omega)
  refine ⟨(l₁ ++ (n, ⟨done, .call o k⟩) :: l₂).set i
    (m, ⟨⟨o, (L.exec o e s.shared).1⟩ :: done, k (L.exec o e s.shared).1⟩), ?_, ?_, ?_⟩
  · rw [List.map_set, hmap]
  · intro x hx
    rw [hset] at hx
    rcases List.mem_append.mp hx with hx | hx
    · exact howns x (List.mem_append_left _ hx)
    rcases List.mem_cons.mp hx with rfl | hx
    · refine ⟨hlin, fun hm => ?_⟩
      rcases hmoves.acquired with hle | hacq
      · obtain ⟨y, hy, hay⟩ := hown.acquired (by omega)
        exact ⟨y, List.mem_cons_of_mem _ hy, hay⟩
      · exact ⟨_, List.mem_cons_self, hacq⟩
    · exact howns x (List.mem_append_right _ (List.mem_cons_of_mem _ hx))
  · rw [hset]
    have hbal := hmoves.balance
    simp only [List.map_append, List.map_cons, List.sum_append, List.sum_cons, used] at hsum ⊢
    omega

/-- **No token is lost or copied.** In every run of programs that start and end with no token, in environments
where the books have to be kept. -/
theorem run_balanced (hbody : ∀ i, L.Linear (body i) 0 fun _ m => m = 0) (hcap : total ≤ L.cap)
    {ls : List (Pool.Label ι E)} (hok : ∀ i e, .advance i e ∈ ls → L.ok e) (h : L.Balanced total s)
    (hrun : Lts.run (Pool.step L.exec body) s ls = some s') : L.Balanced total s' := by
  have hmeets : Lts.Meets (Pool.step L.exec body)
      (fun _ l => ∀ i e, l = Pool.Label.advance i e → L.ok e) s ls :=
    Lts.meets_of_forall s fun l hl i e h => hok i e (h ▸ hl)
  refine Lts.run_induct (fun s l s' hs hl hst => ?_) h hmeets hrun
  obtain ⟨i, rfl, rfl⟩ | ⟨n, e, done, o, k, rfl, hn, rfl⟩ := Pool.step_cases hst
  · exact hs.spawn (hbody i)
  · exact hs.advance hcap (hl n e rfl) hn

end Ledger

end Lib
