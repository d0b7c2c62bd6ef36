import Sn360Es.Lib.Performs
import Sn360Es.Lib.Phase

/-!
# Programs that start late

Once a condition on the shared state holds for good, the programs that start then only see states in which it holds.

* `Prog.Within I p done Q` — the weakest precondition for `p`, which has performed `done`, to return in `Q`, when it
  sees states in `I` only; `Q` sees what was performed;
* `Prog.Until I X p done Q` — the same for `p` to keep the states in `I` until what was performed is in `X`;
* `Pool.run_within` — the rule for the programs of a pool that start late;
* `Pool.throughout_until_iff` — a condition stays until a late program has performed `X`, exactly if no program that was
  under way disturbs it;
* `Tracker.inl` — a tracker of some of the operations, as one of all of them;
* `Tracker.keeps_of_every`, `Tracker.mem_phases_step` — programs that do not change their phase, and phases that are not
  left.
-/

namespace Lib

universe u v w

namespace Prog

variable {Op : Type u} {Ans : Op → Type v} {α β : Type w} {S E : Type*}
variable (exec : (o : Op) → E → S → Ans o × S) (I : S → Prop)

/-- The weakest precondition for a program that sees states in `I` only. -/
def Within : Prog Op Ans α → List ((o : Op) × Ans o) → (α → List ((o : Op) × Ans o) → Prop) → Prop
  | ret a, done, Q => Q a done
  | call o k, done, Q => ∀ e s, I s → Within (k (exec o e s).1) (⟨o, (exec o e s).1⟩ :: done) Q

variable {exec I} {p : Prog Op Ans α} {done : List ((o : Op) × Ans o)}

/-- **Sequencing.** -/
lemma Within.bind {f : α → Prog Op Ans β} {Q : β → List ((o : Op) × Ans o) → Prop}
    (h : Within exec I p done fun a done' => Within exec I (f a) done' Q) : Within exec I (p >>= f) done Q := by
  induction p generalizing done with
  | ret a => exact h
  | call o k ih =>
    intro e s hs
    exact ih _ (h e s hs)

lemma within_of_forall {Q : α → List ((o : Op) × Ans o) → Prop} (h : ∀ a done, Q a done) :
    Within exec I p done Q := by
  induction p generalizing done with
  | ret a => exact h a done
  | call o k ih =>
    intro e s _
    exact ih _

variable (exec I) in
/-- The weakest precondition for a program that sees states in `I` only to leave them in `I`, until what it has
performed is in `X`. -/
def Until (X : List ((o : Op) × Ans o) → Prop) :
    Prog Op Ans α → List ((o : Op) × Ans o) → (α → List ((o : Op) × Ans o) → Prop) → Prop
  | ret a, done, Q => Q a done
  | call o k, done, Q => ∀ e s, I s → X (⟨o, (exec o e s).1⟩ :: done) ∨
      I (exec o e s).2 ∧ Until X (k (exec o e s).1) (⟨o, (exec o e s).1⟩ :: done) Q

variable {X : List ((o : Op) × Ans o) → Prop}

lemma Until.bind {f : α → Prog Op Ans β} {Q : β → List ((o : Op) × Ans o) → Prop}
    (h : Until exec I X p done fun a done' => Until exec I X (f a) done' Q) : Until exec I X (p >>= f) done Q := by
  induction p generalizing done with
  | ret a => exact h
  | call o k ih =>
    intro e s hs
    exact (h e s hs).imp id fun hk => ⟨hk.1, ih _ hk.2⟩

/-- A program all of whose operations leave the state in `I`. -/
lemma until_of_every {φ : Op → Prop} {Q : α → List ((o : Op) × Ans o) → Prop}
    (hφ : ∀ o e s, φ o → I s → I (exec o e s).2) (hp : p.Every φ) (hQ : ∀ a done, Q a done) :
    Until exec I X p done Q := by
  induction p generalizing done with
  | ret a => exact hQ a done
  | call o k ih =>
    intro e s hs
    exact .inr ⟨hφ o e s hp.1 hs, ih _ (hp.2 _)⟩

/-- An operation after which the state is still in `I`. -/
lemma until_perform {o : Op} {Q : Ans o → List ((o : Op) × Ans o) → Prop} (hI : ∀ e s, I s → I (exec o e s).2)
    (hQ : ∀ e s, I s → Q (exec o e s).1 (⟨o, (exec o e s).1⟩ :: done)) : Until exec I X (perform o) done Q :=
  fun e s hs => .inr ⟨hI e s hs, hQ e s hs⟩

end Prog

namespace Pool

variable {Op : Type u} {Ans : Op → Type v} {α : Type w} {S E ι : Type*}
variable {exec : (o : Op) → E → S → Ans o × S} {body : ι → Prog Op Ans α} {s s' : Pool Op Ans α S}

/-- **Late programs.** While `J` holds, and with it `I` of the shared state, the programs that start are within `I`. -/
theorem run_within {J : Pool Op Ans α S → Prop} {I : S → Prop} {Q : α → List ((o : Op) × Ans o) → Prop}
    (hkeep : ∀ s l s', J s → Pool.step exec body s l = some s' → J s') (hJ : ∀ s, J s → I s.shared)
    (hbody : ∀ i, Prog.Within exec I (body i) [] Q) (hs : J s) {ls : List (Label ι E)}
    (hrun : Lts.run (Pool.step exec body) s ls = some s') :
    ∀ n t, s.threads.length ≤ n → s'.threads[n]? = some t → Prog.Within exec I t.rest t.performed Q := by
  have hlate : ∀ n t, s.threads.length ≤ n → s.threads[n]? = some t → Prog.Within exec I t.rest t.performed Q := by
    intro n t hn ht
    rw [List.getElem?_eq_none hn] at ht
    cases ht
  refine (Lts.run_induct (C := fun _ _ => True) (I := fun s' => J s' ∧ ∀ n t, s.threads.length ≤ n →
    s'.threads[n]? = some t → Prog.Within exec I t.rest t.performed Q) ?_ ⟨hs, hlate⟩
    (Lts.meets_of_forall s fun _ _ => trivial) hrun).2
  rintro s₁ l s₂ ⟨hs₁, hlate⟩ - hst
  refine ⟨hkeep _ _ _ hs₁ hst, fun m t hm ht => ?_⟩
  obtain ⟨i, rfl, rfl⟩ | ⟨n, e, done, o, k, rfl, hn, rfl⟩ := step_cases hst
  · rw [List.getElem?_append] at ht
    split at ht
    · exact hlate m t hm ht
    · rw [List.getElem?_singleton] at ht
      split at ht
      · cases ht
        exact hbody i
      · cases ht
  · by_cases hmn : n = m
    · subst hmn
      rw [List.getElem?_set_self (List.getElem?_eq_some_iff.mp hn).1] at ht
      cases ht
      exact hlate n _ hm hn e s₁.shared (hJ _ hs₁)
    · rw [List.getElem?_set_ne hmn] at ht
      exact hlate m t hm ht

/-- A program that starts at position `N` or later has performed `X`. -/
def Escaped (N : ℕ) (X : List ((o : Op) × Ans o) → Prop) (s : Pool Op Ans α S) : Prop :=
  ∃ n t, N ≤ n ∧ s.threads[n]? = some t ∧ X t.performed

/-- A program before position `N` performs an operation that leaves `I`. -/
def Disturbs (exec : (o : Op) → E → S → Ans o × S) (N : ℕ) (I : S → Prop) (s : Pool Op Ans α S) (l : Label ι E) :
    Prop :=
  ∃ n e done o k, l = .advance n e ∧ n < N ∧ s.threads[n]? = some ⟨done, .call o k⟩ ∧ ¬ I (exec o e s.shared).2

section Until

variable {N : ℕ} {I : S → Prop} {X : List ((o : Op) × Ans o) → Prop} {D : Pool Op Ans α S → Label ι E → Prop}

/-- The late programs keep `I` until `X`. -/
def LateUntil (exec : (o : Op) → E → S → Ans o × S) (N : ℕ) (I : S → Prop) (X : List ((o : Op) × Ans o) → Prop)
    (s : Pool Op Ans α S) : Prop :=
  ∀ n t, N ≤ n → s.threads[n]? = some t → Prog.Until exec I X t.rest t.performed fun _ _ => True

lemma Escaped.step (hX : ∀ x done, X done → X (x :: done)) (h : s.Escaped N X) {l : Label ι E}
    (hst : Pool.step exec body s l = some s') : s'.Escaped N X := by
  obtain ⟨m, t, hm, ht, hXt⟩ := h
  obtain ⟨i, rfl, rfl⟩ | ⟨n, e, done, o, k, rfl, hn, rfl⟩ := step_cases hst
  · exact ⟨m, t, hm, by rw [List.getElem?_append_left (List.getElem?_eq_some_iff.mp ht).1]; exact ht, hXt⟩
  · by_cases hmn : n = m
    · subst hmn
      obtain rfl := Option.some.inj (hn.symm.trans ht)
      exact ⟨n, _, hm, List.getElem?_set_self (List.getElem?_eq_some_iff.mp hn).1, hX _ _ hXt⟩
    · exact ⟨m, t, hm, by rw [List.getElem?_set_ne hmn]; exact ht, hXt⟩

/-- What a step adds, when `X` means that an operation in `Y` was performed. -/
lemma escaped_step_iff {Y : (o : Op) × Ans o → Prop} (hnil : ¬ X []) (hX : ∀ x done, X (x :: done) ↔ Y x ∨ X done)
    {l : Label ι E} (hst : Pool.step exec body s l = some s') : s'.Escaped N X ↔ s.Escaped N X ∨
      ∃ n e done o k, l = .advance n e ∧ N ≤ n ∧ s.threads[n]? = some ⟨done, .call o k⟩ ∧
        Y ⟨o, (exec o e s.shared).1⟩ := by
  constructor
  · rintro ⟨m, t, hm, ht, hXt⟩
    obtain ⟨i, rfl, rfl⟩ | ⟨n, e, done, o, k, rfl, hn, rfl⟩ := step_cases hst
    · rw [List.getElem?_append] at ht
      split at ht
      · exact .inl ⟨m, t, hm, ht, hXt⟩
      · rw [List.getElem?_singleton] at ht
        split at ht
        · cases ht
          exact absurd hXt hnil
        · cases ht
    · by_cases hmn : n = m
      · subst hmn
        rw [List.getElem?_set_self (List.getElem?_eq_some_iff.mp hn).1] at ht
        cases ht
        rcases (hX _ _).mp hXt with hY | hXt
        · exact .inr ⟨n, e, done, o, k, rfl, hm, hn, hY⟩
        · exact .inl ⟨n, _, hm, hn, hXt⟩
      · rw [List.getElem?_set_ne hmn] at ht
        exact .inl ⟨m, t, hm, ht, hXt⟩
  · rintro (h | ⟨n, e, done, o, k, rfl, hnN, hn, hY⟩)
    · exact h.step (fun x done hXd => (hX x done).mpr (.inr hXd)) hst
    · simp only [Pool.step, hn] at hst
      cases hst
      exact ⟨n, _, hnN, List.getElem?_set_self (List.getElem?_eq_some_iff.mp hn).1, (hX _ _).mpr (.inl hY)⟩

lemma LateUntil.spawn (h : s.LateUntil exec N I X)
    (hbody : ∀ i, Prog.Until exec I X (body i) [] fun _ _ => True) (i : ι) :
    LateUntil exec N I X { s with threads := s.threads ++ [{ rest := body i }] } := by
  intro m t hm ht
  rw [List.getElem?_append] at ht
  split at ht
  · exact h m t hm ht
  · rw [List.getElem?_singleton] at ht
    split at ht
    · cases ht
      exact hbody i
    · cases ht

/-- A program that was under way takes a step. -/
lemma until_step_early (hno : ¬ s.Escaped N X) (hlate : s.LateUntil exec N I X) {n : ℕ} {e : E}
    {done : List ((o : Op) × Ans o)} {o : Op} {k : Ans o → Prog Op Ans α} (hn : s.threads[n]? = some ⟨done, .call o k⟩)
    (hnN : n < N) (hst : Pool.step exec body s (.advance n e) = some s') :
    ¬ s'.Escaped N X ∧ s'.LateUntil exec N I X ∧ (I s'.shared ↔ ¬ Disturbs exec N I s (.advance n e : Label ι E)) := by
  simp only [Pool.step, hn] at hst
  cases hst
  have hothers : ∀ m t, N ≤ m → (s.threads.set n ⟨⟨o, (exec o e s.shared).1⟩ :: done, k (exec o e s.shared).1⟩)[m]? =
      some t → s.threads[m]? = some t := by
    intro m t hm ht
    rwa [List.getElem?_set_ne (by omega)] at ht
  refine ⟨?_, fun m t hm ht => hlate m t hm (hothers m t hm ht), ?_⟩
  · rintro ⟨m, t, hm, ht, hXt⟩
    exact hno ⟨m, t, hm, hothers m t hm ht, hXt⟩
  · constructor
    · rintro hI' ⟨n', e', done', o', k', hl, -, hn', hleft⟩
      cases hl
      cases Option.some.inj (hn.symm.trans hn')
      exact hleft hI'
    · intro hquiet
      by_contra hleft
      exact hquiet ⟨n, e, done, o, k, rfl, hnN, hn, hleft⟩

/-- A late program takes a step. -/
lemma until_step_late (hI : I s.shared) (hlate : s.LateUntil exec N I X) {n : ℕ} {e : E}
    {done : List ((o : Op) × Ans o)} {o : Op} {k : Ans o → Prog Op Ans α}
    (hn : s.threads[n]? = some ⟨done, .call o k⟩) (hnN : N ≤ n)
    (hst : Pool.step exec body s (.advance n e) = some s') :
    s'.Escaped N X ∨ I s'.shared ∧ s'.LateUntil exec N I X := by
  have hlt : n < s.threads.length := (List.getElem?_eq_some_iff.mp hn).1
  simp only [Pool.step, hn] at hst
  cases hst
  rcases hlate n _ hnN hn e s.shared hI with hXn | ⟨hI', huntil⟩
  · exact .inl ⟨n, _, hnN, List.getElem?_set_self hlt, hXn⟩
  · refine .inr ⟨hI', fun m t hm ht => ?_⟩
    by_cases hmn : n = m
    · subst hmn
      rw [List.getElem?_set_self hlt] at ht
      cases ht
      exact huntil
    · rw [List.getElem?_set_ne hmn] at ht
      exact hlate m t hm ht

/-- **A step** that is taken where no late program has performed `X`. -/
lemma until_step (hbody : ∀ i, Prog.Until exec I X (body i) [] fun _ _ => True) (hno : ¬ s.Escaped N X)
    (hI : I s.shared) (hlate : s.LateUntil exec N I X) {l : Label ι E} (hst : Pool.step exec body s l = some s') :
    (¬ Disturbs exec N I s l → s'.Escaped N X ∨ I s'.shared ∧ s'.LateUntil exec N I X) ∧
      (Disturbs exec N I s l → ¬ s'.Escaped N X ∧ ¬ I s'.shared) := by
  obtain ⟨i, rfl, rfl⟩ | ⟨n, e, done, o, k, rfl, hn, rfl⟩ := step_cases hst
  · refine ⟨fun _ => .inr ⟨hI, hlate.spawn hbody i⟩, ?_⟩
    rintro ⟨n, e, done, o, k, hl, -⟩
    cases hl
  rcases Nat.lt_or_ge n N with hnN | hnN
  · obtain ⟨hno', hlate', hiff⟩ := until_step_early hno hlate hn hnN hst
    exact ⟨fun hquiet => .inr ⟨hiff.mpr hquiet, hlate'⟩, fun hdist => ⟨hno', fun hI' => hiff.mp hI' hdist⟩⟩
  · refine ⟨fun _ => until_step_late hI hlate hn hnN hst, ?_⟩
    rintro ⟨n', e', done', o', k', hl, hlt, -⟩
    cases hl
    omega

/-- **The exact rule.** `D` is the condition of `Disturbs` where `I` holds. -/
theorem throughout_until_iff (hX : ∀ x done, X done → X (x :: done))
    (hbody : ∀ i, Prog.Until exec I X (body i) [] fun _ _ => True)
    (hD : ∀ s l, I s.shared → (D s l ↔ Disturbs exec N I s l)) (hI : I s.shared) (hN : s.threads.length ≤ N)
    {ls : List (Label ι E)} (hrun : Lts.run (Pool.step exec body) s ls = some s') :
    Lts.Throughout (Pool.step exec body) (fun s => ¬ s.Escaped N X → I s.shared) s ls ↔
      Lts.Meets (Pool.step exec body) (fun s l => s.Escaped N X ∨ ¬ D s l) s ls := by
  have hlate : s.LateUntil exec N I X := by
    intro n t hn ht
    rw [List.getElem?_eq_none (Nat.le_trans hN hn)] at ht
    cases ht
  refine Lts.throughout_iff (J := fun s => s.Escaped N X ∨ I s.shared ∧ s.LateUntil exec N I X) ?_ ?_
    (.inr ⟨hI, hlate⟩) (fun _ => hI) hrun
  · rintro s l s' hJ hC hst
    by_cases hesc : s.Escaped N X
    · exact .inl (hesc.step hX hst)
    · obtain ⟨hI, hlate⟩ := hJ.resolve_left hesc
      have hquiet := (not_congr (hD s l hI)).mp (hC.resolve_left hesc)
      exact (until_step hbody hesc hI hlate hst).1 hquiet
  · rintro s l s' hJ hst
    by_cases hesc : s.Escaped N X
    · exact iff_of_true (fun h => absurd (hesc.step hX hst) h) (.inl hesc)
    · obtain ⟨hI, hlate⟩ := hJ.resolve_left hesc
      obtain ⟨hquiet, hdist⟩ := until_step hbody hesc hI hlate hst
      rw [hD s l hI, or_iff_right hesc]
      constructor
      · intro h hDl
        exact (hdist hDl).2 (h (hdist hDl).1)
      · intro hDl h
        exact ((hquiet hDl).resolve_left h).1

end Until

end Pool

/-! ### Trackers -/

namespace Tracker

variable {Op Op' : Type u} {Ans : Op → Type v} {Ans' : Op' → Type v} {α : Type w} {S S' E E' G ι : Type*}

section Inl

variable (T : Tracker Op Ans S E G) (exec' : (o : Op') → E' → S' → Ans' o × S')

/-- The tracker among more operations, which it does not look at. -/
def inl : Tracker (Op ⊕ Op') (Sum.elim Ans Ans') (S × S') (E × E') G where
  exec := Prog.both T.exec exec'
  start := T.start
  next g o a :=
    match o, a with
    | .inl o, a => T.next g o a
    | .inr _, _ => g
  allows s gs n o e :=
    match o with
    | .inl o => T.allows s.1 gs n o e.1
    | .inr _ => True
  inv s gs := T.inv s.1 gs

variable {T exec'}

lemma keeps_inl {p : Prog Op Ans α} {g : G} {Q : α → G → Prop} (h : T.Keeps p g Q) :
    (T.inl exec').Keeps (p.inl : Prog (Op ⊕ Op') (Sum.elim Ans Ans') α) g Q := by
  induction p generalizing g with
  | ret a => exact h
  | call o k ih =>
    intro e s gs n hinv hg hok
    obtain ⟨hinv', hk⟩ := h e.1 s.1 gs n hinv hg hok
    exact ⟨hinv', ih _ hk⟩

/-- An operation that the tracker does not look at. -/
lemma keeps_inr {o : Op'} {g : G} {Q : Ans' o → G → Prop} (h : ∀ a, Q a g) :
    (T.inl exec').Keeps (Prog.perform (Sum.inr o) : Prog (Op ⊕ Op') (Sum.elim Ans Ans') _) g Q := by
  intro e s gs n hinv hg _
  refine ⟨?_, h _⟩
  show T.inv s.1 (gs.set n g)
  rw [set_self_eq hg]
  exact hinv

end Inl

variable {T : Tracker Op Ans S E G}

/-- A program none of whose operations changes its phase. -/
lemma keeps_of_every {φ : Op → Prop} {p : Prog Op Ans α} {g : G} {Q : α → G → Prop}
    (hφ : ∀ o e s, φ o → (∀ gs, T.inv s gs → T.inv (T.exec o e s).2 gs) ∧ T.next g o (T.exec o e s).1 = g)
    (hp : p.Every φ) (hQ : ∀ a, Q a g) : T.Keeps p g Q := by
  induction p with
  | ret a => exact hQ a
  | call o k ih =>
    intro e s gs n hinv hg _
    obtain ⟨hkeep, hnext⟩ := hφ o e s hp.1
    rw [hnext]
    refine ⟨?_, ih _ (hp.2 _)⟩
    rw [set_self_eq hg]
    exact hkeep gs hinv

variable {s s' : Pool Op Ans α S} {body : ι → Prog Op Ans α}

/-- A phase that no operation leaves. -/
lemma mem_phases_step {g : G} (hstay : ∀ o a, T.next g o a = g) (hg : g ∈ T.phases s) {l : Pool.Label ι E}
    (hst : Pool.step T.exec body s l = some s') : g ∈ T.phases s' := by
  obtain ⟨i, rfl, rfl⟩ | ⟨n, e, done, o, k, rfl, hn, rfl⟩ := Pool.step_cases hst
  · rw [phases_spawn]
    exact List.mem_append_left _ hg
  · obtain ⟨m, hm⟩ := List.mem_iff_getElem?.mp hg
    refine List.mem_iff_getElem?.mpr ⟨m, ?_⟩
    simp only [phases, List.map_set]
    by_cases hmn : n = m
    · subst hmn
      rw [phases_get hn, Option.some.injEq] at hm
      rw [List.getElem?_set_self (by rw [List.length_map]; exact (List.getElem?_eq_some_iff.mp hn).1)]
      exact congrArg some ((congrArg (fun g => T.next g o _) hm).trans (hstay _ _))
    · rw [List.getElem?_set_ne hmn]
      exact hm

end Tracker

end Lib
