import Sn360Es.Lib.Prog

/-!
# Phases of concurrent programs

Where a thread stands is read off the operations it has performed: `next` says how an operation and its answer
change the phase. An invariant speaks of the shared state and of the phases of all threads, and `Keeps p g Q` is
the weakest precondition for a program in phase `g` to keep it, as long as its steps are allowed, and to return
in `Q`.

* `Keeps.bind` — the rule for sequencing;
* `Tracker.run_holds` — in every run whose steps are allowed, the invariant holds and every thread keeps it.
-/

namespace Lib

universe u v w

/-- Phases, the steps that are allowed, and an invariant. The number is the position of the thread that takes the
step. -/
structure Tracker (Op : Type u) (Ans : Op → Type v) (S E G : Type*) where
  exec : (o : Op) → E → S → Ans o × S
  start : G
  next : G → (o : Op) → Ans o → G
  allows : S → List G → ℕ → Op → E → Prop
  inv : S → List G → Prop

variable {Op : Type u} {Ans : Op → Type v} {α β : Type w} {S E G ι : Type*}

namespace Tracker

variable (T : Tracker Op Ans S E G)

/-- The phase of a thread. -/
def phase (t : Thread Op Ans α) : G := t.performed.foldr (fun x g => T.next g x.1 x.2) T.start

def phases (s : Pool Op Ans α S) : List G := s.threads.map T.phase

/-- The step is allowed. -/
def Allows (s : Pool Op Ans α S) : Pool.Label ι E → Prop
  | .spawn _ => True
  | .advance n e =>
    match s.threads[n]? with
    | some ⟨_, .call o _⟩ => T.allows s.shared (T.phases s) n o e
    | _ => True

instance [∀ s gs n o e, Decidable (T.allows s gs n o e)] (s : Pool Op Ans α S) :
    ∀ l : Pool.Label ι E, Decidable (T.Allows s l)
  | .spawn _ => isTrue trivial
  | .advance n e =>
    match h : s.threads[n]? with
    | some ⟨_, .call o _⟩ =>
      decidable_of_iff (T.allows s.shared (T.phases s) n o e) (by simp only [Allows, h])
    | some ⟨_, .ret _⟩ => isTrue (by simp only [Allows, h])
    | none => isTrue (by simp only [Allows, h])

/-- The weakest precondition for `p` in phase `g` to keep the invariant and to return in `Q`. -/
def Keeps : Prog Op Ans α → G → (α → G → Prop) → Prop
  | .ret a, g, Q => Q a g
  | .call o k, g, Q => ∀ e s gs n, T.inv s gs → gs[n]? = some g → T.allows s gs n o e →
      T.inv (T.exec o e s).2 (gs.set n (T.next g o (T.exec o e s).1)) ∧
        Keeps (k (T.exec o e s).1) (T.next g o (T.exec o e s).1) Q

/-- The invariant holds, and every thread keeps it for the rest of its run; `Q` may depend on the position of the
thread. -/
structure Holds (Q : ℕ → α → G → Prop) (s : Pool Op Ans α S) : Prop where
  inv : T.inv s.shared (T.phases s)
  keeps : ∀ n t, s.threads[n]? = some t → T.Keeps t.rest (T.phase t) (Q n)

variable {T} {p : Prog Op Ans α} {g : G} {Q : α → G → Prop} {s s' : Pool Op Ans α S}
  {body : ι → Prog Op Ans α}

@[simp] lemma keeps_ret {a : α} : T.Keeps (.ret a) g Q ↔ Q a g := Iff.rfl

/-- **Sequencing.** -/
lemma Keeps.bind {f : α → Prog Op Ans β} {R : β → G → Prop}
    (h : T.Keeps p g fun a g' => T.Keeps (f a) g' R) : T.Keeps (p >>= f) g R := by
  induction p generalizing g with
  | ret a => exact h
  | call o k ih =>
    intro e s gs n hinv hg hok
    obtain ⟨hinv', hk⟩ := h e s gs n hinv hg hok
    exact ⟨hinv', ih _ hk⟩

lemma Keeps.mono {Q' : α → G → Prop} (h : T.Keeps p g Q) (hQ : ∀ a g', Q a g' → Q' a g') : T.Keeps p g Q' := by
  induction p generalizing g with
  | ret a => exact hQ a g h
  | call o k ih =>
    intro e s gs n hinv hg hok
    obtain ⟨hinv', hk⟩ := h e s gs n hinv hg hok
    exact ⟨hinv', ih _ hk⟩

/-- The rule for one operation. -/
lemma keeps_perform {o : Op} {Q : Ans o → G → Prop}
    (h : ∀ e s gs n, T.inv s gs → gs[n]? = some g → T.allows s gs n o e → ∀ a s', T.exec o e s = (a, s') →
      T.inv s' (gs.set n (T.next g o a)) ∧ Q a (T.next g o a)) : T.Keeps (.perform o) g Q :=
  fun e s gs n hinv hn hok => h e s gs n hinv hn hok _ _ rfl

lemma set_self_eq {gs : List G} {n : ℕ} (hn : gs[n]? = some g) : gs.set n g = gs := by
  obtain ⟨hlt, hget⟩ := List.getElem?_eq_some_iff.mp hn
  rw [← hget]
  exact List.set_getElem_self hlt

lemma ite_eq_toNat (b : Bool) : (if b = true then 1 else 0) = b.toNat := by cases b <;> rfl

/-- How many threads are in a phase of a kind, when one of them changes its own. -/
lemma countP_set_add {gs : List G} {n : ℕ} (hn : gs[n]? = some g) (g' : G) (q : G → Bool) :
    (gs.set n g').countP q + (q g).toNat = gs.countP q + (q g').toNat := by
  obtain ⟨hlt, hget⟩ := List.getElem?_eq_some_iff.mp hn
  have hpos : (q g).toNat ≤ gs.countP q := by
    cases hq : q g with
    | false => exact Nat.zero_le _
    | true => exact List.countP_pos_iff.mpr ⟨g, hget ▸ List.getElem_mem hlt, hq⟩
  rw [List.countP_set hlt, hget, ite_eq_toNat, ite_eq_toNat]
  omega

/-- When no more than one thread is in a phase of a kind, and it changes its own, the others are in other phases. -/
lemma eq_or_of_mem_set {q : G → Bool} (hq : q g = true) {g' x : G} :
    ∀ {gs : List G} {n : ℕ}, gs[n]? = some g → gs.countP q ≤ 1 → x ∈ gs.set n g' → x = g' ∨ q x = false
  | [], _, hn, _, _ => by cases hn
  | y :: gs, 0, hn, hone, hx => by
    obtain rfl : y = g := Option.some.inj hn
    rw [List.countP_cons_of_pos hq] at hone
    rcases List.mem_cons.mp hx with rfl | hx
    · exact Or.inl rfl
    · have hzero : gs.countP q = 0 := by omega
      exact Or.inr (Bool.eq_false_iff.mpr (List.countP_eq_zero.mp hzero x hx))
  | y :: gs, n + 1, hn, hone, hx => by
    rw [List.getElem?_cons_succ] at hn
    rcases List.mem_cons.mp hx with rfl | hx
    · right
      by_contra hy
      have hpos := List.countP_pos_iff.mpr ⟨g, List.mem_of_getElem? hn, hq⟩
      rw [List.countP_cons_of_pos (by simpa using hy)] at hone
      omega
    · exact eq_or_of_mem_set hq hn (by rw [List.countP_cons] at hone; omega) hx

/-- Any two threads are in phases that go together, and one of them changes its own. -/
lemma pairwise_set {R : G → G → Prop} {g' : G} :
    ∀ {gs : List G} {n : ℕ}, gs[n]? = some g → (∀ x ∈ gs, R g x → R g' x) → (∀ x ∈ gs, R x g → R x g') →
      gs.Pairwise R → (gs.set n g').Pairwise R
  | [], _, hn, _, _, _ => by cases hn
  | y :: gs, 0, hn, hleft, _, hR => by
    obtain rfl : y = g := Option.some.inj hn
    obtain ⟨hy, hgs⟩ := List.pairwise_cons.mp hR
    exact List.pairwise_cons.mpr ⟨fun x hx => hleft x (List.mem_cons_of_mem _ hx) (hy x hx), hgs⟩
  | y :: gs, n + 1, hn, hleft, hright, hR => by
    rw [List.getElem?_cons_succ] at hn
    obtain ⟨hy, hgs⟩ := List.pairwise_cons.mp hR
    refine List.pairwise_cons.mpr ⟨fun x hx => ?_, pairwise_set hn (fun x hx => hleft x (List.mem_cons_of_mem _ hx))
      (fun x hx => hright x (List.mem_cons_of_mem _ hx)) hgs⟩
    rcases List.mem_or_eq_of_mem_set hx with hx | rfl
    · exact hy x hx
    · exact hright y List.mem_cons_self (hy g (List.mem_of_getElem? hn))

/-- Then the others go together with the phase that it was in. -/
lemma eq_or_rel_of_mem_set {R : G → G → Prop} (hsymm : ∀ x y, R x y → R y x) {g' x : G} :
    ∀ {gs : List G} {n : ℕ}, gs[n]? = some g → gs.Pairwise R → x ∈ gs.set n g' → x = g' ∨ (x ∈ gs ∧ R g x)
  | [], _, hn, _, _ => by cases hn
  | y :: gs, 0, hn, hR, hx => by
    obtain rfl : y = g := Option.some.inj hn
    rcases List.mem_cons.mp hx with rfl | hx
    · exact Or.inl rfl
    · exact Or.inr ⟨List.mem_cons_of_mem _ hx, (List.pairwise_cons.mp hR).1 x hx⟩
  | y :: gs, n + 1, hn, hR, hx => by
    rw [List.getElem?_cons_succ] at hn
    obtain ⟨hy, hgs⟩ := List.pairwise_cons.mp hR
    rcases List.mem_cons.mp hx with rfl | hx
    · exact Or.inr ⟨List.mem_cons_self, hsymm _ _ (hy g (List.mem_of_getElem? hn))⟩
    · rcases eq_or_rel_of_mem_set hsymm hn hgs hx with rfl | ⟨hx, hrel⟩
      · exact Or.inl rfl
      · exact Or.inr ⟨List.mem_cons_of_mem _ hx, hrel⟩

/-- How many threads are in a phase, when one of them changes its own. -/
lemma count_set_add [DecidableEq G] {gs : List G} {n : ℕ} (hn : gs[n]? = some g) (g' x : G) :
    (gs.set n g').count x + (if g = x then 1 else 0) = gs.count x + if g' = x then 1 else 0 := by
  have h := countP_set_add hn g' (· == x)
  have hnat : ∀ y : G, (y == x).toNat = if y = x then 1 else 0 := by
    intro y
    by_cases hy : y = x <;> simp [hy]
  rw [hnat, hnat] at h
  exact h

lemma phases_spawn (q : Prog Op Ans α) :
    T.phases { s with threads := s.threads ++ [{ rest := q }] } = T.phases s ++ [T.start] := by
  simp [phases, phase]

lemma phases_get {n : ℕ} {t : Thread Op Ans α} (h : s.threads[n]? = some t) :
    (T.phases s)[n]? = some (T.phase t) := by
  rw [phases, List.getElem?_map, h]
  rfl

variable {R : ℕ → α → G → Prop}

lemma holds_nil {st : S} (h : T.inv st []) : T.Holds R ⟨st, []⟩ :=
  ⟨h, fun _ _ hn => by simp at hn⟩

/-- A thread that keeps the invariant does so in the step it takes. -/
lemma Holds.advance (h : T.Holds R s) {n : ℕ} {e : E} {done : List ((o : Op) × Ans o)} {o : Op}
    {k : Ans o → Prog Op Ans α} (hn : s.threads[n]? = some ⟨done, .call o k⟩)
    (hok : T.allows s.shared (T.phases s) n o e) :
    T.Holds R ⟨(T.exec o e s.shared).2,
      s.threads.set n ⟨⟨o, (T.exec o e s.shared).1⟩ :: done, k (T.exec o e s.shared).1⟩⟩ := by
  have hkeep := h.keeps n _ hn
  obtain ⟨hinv, hrest⟩ := hkeep e s.shared (T.phases s) n h.inv (phases_get hn) hok
  refine ⟨?_, fun m t ht => ?_⟩
  · rw [phases, List.map_set]
    exact hinv
  · by_cases hm : n = m
    · subst hm
      rw [List.getElem?_set_self (List.getElem?_eq_some_iff.mp hn).1] at ht
      cases ht
      exact hrest
    · rw [List.getElem?_set_ne hm] at ht
      exact h.keeps m t ht

lemma Holds.step (hspawn : ∀ s gs, T.inv s gs → T.inv s (gs ++ [T.start]))
    (hbody : ∀ i n, T.Keeps (body i) T.start (R n)) (h : T.Holds R s) {l : Pool.Label ι E} (hl : T.Allows s l)
    (hst : Pool.step T.exec body s l = some s') : T.Holds R s' := by
  obtain ⟨i, rfl, rfl⟩ | ⟨n, e, done, o, k, rfl, hn, rfl⟩ := Pool.step_cases hst
  · refine ⟨?_, fun m t ht => ?_⟩
    · rw [phases_spawn]
      exact hspawn _ _ h.inv
    · rw [List.getElem?_append] at ht
      split at ht
      · exact h.keeps m t ht
      · rw [List.getElem?_singleton] at ht
        split at ht
        · cases ht
          exact hbody i m
        · cases ht
  · simp only [Allows, hn] at hl
    exact h.advance hn hl

/-- **The invariant rule.** In every run whose steps are allowed, of programs that keep the invariant from the
start, the invariant holds and every thread keeps it. -/
theorem run_holds (hspawn : ∀ s gs, T.inv s gs → T.inv s (gs ++ [T.start]))
    (hbody : ∀ i n, T.Keeps (body i) T.start (R n)) {ls : List (Pool.Label ι E)} (h : T.Holds R s)
    (hmeets : Lts.Meets (Pool.step T.exec body) T.Allows s ls)
    (hrun : Lts.run (Pool.step T.exec body) s ls = some s') : T.Holds R s' :=
  Lts.run_induct (fun _ _ _ hs hl hst => hs.step hspawn hbody hl hst) h hmeets hrun

/-- Where every operation is allowed, every step is. -/
lemma allows_of_forall (h : ∀ s gs n o e, T.allows s gs n o e) (l : Pool.Label ι E) : T.Allows s l := by
  cases l with
  | spawn i => trivial
  | advance n e =>
    simp only [Allows]
    split
    · exact h _ _ _ _ _
    · trivial

/-- A thread that has returned has done so in `Q`. -/
lemma Holds.returned (h : T.Holds R s) {n : ℕ} {t : Thread Op Ans α} (ht : s.threads[n]? = some t) {a : α}
    (ha : t.result? = some a) : R n a (T.phase t) := by
  have hkeep := h.keeps n t ht
  obtain ⟨done, rest⟩ := t
  cases rest with
  | ret b =>
    cases ha
    exact hkeep
  | call o k => cases ha

end Tracker

end Lib
