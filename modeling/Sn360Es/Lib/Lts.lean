import Mathlib.Data.List.Basic
import Mathlib.Data.List.Induction

/-!
# Runs of a labelled transition system

A system is a partial step function `step : σ → ι → Option σ`: the label carries every choice of the
environment, so a run is a list of labels and can be executed.

* `run step s is` — the state after the labels `is`, if every one of them was enabled;
* `Meets step C s is` — every step of that run was taken in a state that satisfies `C`;
* `run_induct` — the invariant rule for runs whose steps meet `C`, and `reach_induct` without `C`;
* `run_history` — the invariant rule with the labels so far;
* `run_iff` — the rule for a property that holds exactly when the steps meet `C`;
* `Throughout step P s is` — `P` in every state of the run, `throughout_of_meets`, the invariant rule for it, and
  `throughout_iff`, the exact one;
* `countSteps` — how many steps of a run are of a kind, and `countSteps_le`, a bound by a potential;
* `run_length_le` — a bound on the length of every run by a measure that every step lowers.
-/

namespace Lib.Lts

variable {σ ι : Type*} (step : σ → ι → Option σ)

/-- The state reached from `s` by the labels of a list, `none` if one of them is not enabled. -/
def run : σ → List ι → Option σ
  | s, [] => some s
  | s, i :: is => (step s i).bind fun s' => run s' is

/-- `s'` is reached from `s` by some run. -/
def Reaches (s s' : σ) : Prop := ∃ is, run step s is = some s'

/-- Every step of the run of `is` from `s` is taken in a state where `C` allows the label. -/
def Meets (C : σ → ι → Prop) : σ → List ι → Prop
  | _, [] => True
  | s, i :: is => C s i ∧ ∀ s' ∈ step s i, Meets C s' is

instance decidableMeets (C : σ → ι → Prop) [∀ s i, Decidable (C s i)] :
    ∀ (is : List ι) (s : σ), Decidable (Meets step C s is)
  | [], _ => isTrue trivial
  | i :: is, s =>
    have : DecidablePred fun s' => Meets step C s' is := decidableMeets C is
    inferInstanceAs (Decidable (C s i ∧ ∀ s' ∈ step s i, Meets step C s' is))

/-- Every state of the run of `is` from `s` satisfies `P`. -/
def Throughout (P : σ → Prop) : σ → List ι → Prop
  | s, [] => P s
  | s, i :: is => P s ∧ ∀ s' ∈ step s i, Throughout P s' is

instance decidableThroughout (P : σ → Prop) [DecidablePred P] :
    ∀ (is : List ι) (s : σ), Decidable (Throughout step P s is)
  | [], s => inferInstanceAs (Decidable (P s))
  | i :: is, s =>
    have : DecidablePred fun s' => Throughout step P s' is := decidableThroughout P is
    inferInstanceAs (Decidable (P s ∧ ∀ s' ∈ step s i, Throughout step P s' is))

/-- The number of steps of the run that are of a kind. -/
def countSteps (P : σ → σ → Bool) : σ → List ι → ℕ
  | _, [] => 0
  | s, i :: is =>
    match step s i with
    | none => 0
    | some s' => (P s s').toNat + countSteps P s' is

section Runs

variable {step} {s s' : σ} {i : ι} {is : List ι}

@[simp] lemma run_nil : run step s [] = some s := rfl

lemma run_cons : run step s (i :: is) = (step s i).bind fun s' => run step s' is := rfl

lemma run_cons_some : run step s (i :: is) = some s' ↔
    ∃ t, step s i = some t ∧ run step t is = some s' := by
  rw [run_cons, Option.bind_eq_some_iff]

lemma run_append (is js : List ι) :
    run step s (is ++ js) = (run step s is).bind fun t => run step t js := by
  induction is generalizing s with
  | nil => rfl
  | cons i is ih =>
    rw [List.cons_append, run_cons, run_cons, Option.bind_assoc]
    congr 1
    funext t
    exact ih

lemma Reaches.refl : Reaches step s s := ⟨[], rfl⟩

lemma Reaches.trans {t : σ} (h : Reaches step s t) (h' : Reaches step t s') :
    Reaches step s s' := by
  obtain ⟨is, hi⟩ := h
  obtain ⟨js, hj⟩ := h'
  refine ⟨is ++ js, ?_⟩
  rw [run_append, hi]
  exact hj

lemma Reaches.single (h : step s i = some s') : Reaches step s s' :=
  ⟨[i], by rw [run_cons, h]; rfl⟩

end Runs

section Invariants

variable {step}

/-- **The invariant rule.** What holds at the start and is kept by every step that meets `C` holds
at the end of every run whose steps all meet `C`. -/
theorem run_induct {C : σ → ι → Prop} {I : σ → Prop}
    (keep : ∀ s i s', I s → C s i → step s i = some s' → I s') :
    ∀ {is : List ι} {s s' : σ}, I s → Meets step C s is → run step s is = some s' → I s' := by
  intro is
  induction is with
  | nil =>
    intro s s' hI _ hrun
    rw [run_nil, Option.some.injEq] at hrun
    exact hrun ▸ hI
  | cons i is ih =>
    intro s s' hI hC hrun
    obtain ⟨t, hst, hts⟩ := run_cons_some.mp hrun
    exact ih (keep s i t hI hC.1 hst) (hC.2 t hst) hts

/-- The invariant rule with the labels so far. -/
theorem run_history {I : List ι → σ → Prop} (keep : ∀ is s i s', I is s → step s i = some s' → I (is ++ [i]) s')
    {s s' : σ} (start : I [] s) {is : List ι} (hrun : run step s is = some s') : I is s' := by
  induction is using List.reverseRecOn generalizing s' with
  | nil =>
    rw [run_nil, Option.some.injEq] at hrun
    exact hrun ▸ start
  | append_singleton is i ih =>
    rw [run_append, Option.bind_eq_some_iff] at hrun
    obtain ⟨t, ht, hlast⟩ := hrun
    obtain ⟨t', hstep, hnil⟩ := run_cons_some.mp hlast
    rw [run_nil, Option.some.injEq] at hnil
    exact hnil ▸ keep is t i t' (ih ht) hstep

/-- **The exact rule.** If `P` holds after a step exactly when it held before and `C` allows the step, then it holds at
the end of a run exactly when it held at the start and every step has met `C`. -/
theorem run_iff {C : σ → ι → Prop} {I P : σ → Prop} (keep : ∀ s i s', I s → step s i = some s' → I s')
    (hexact : ∀ s i s', I s → step s i = some s' → (P s' ↔ P s ∧ C s i)) :
    ∀ {is : List ι} {s s' : σ}, I s → run step s is = some s' → (P s' ↔ P s ∧ Meets step C s is) := by
  intro is
  induction is with
  | nil =>
    intro s s' _ hrun
    rw [run_nil, Option.some.injEq] at hrun
    subst hrun
    exact ⟨fun h => ⟨h, trivial⟩, And.left⟩
  | cons i is ih =>
    intro s s' hI hrun
    obtain ⟨t, hst, hts⟩ := run_cons_some.mp hrun
    rw [ih (keep s i t hI hst) hts, hexact s i t hI hst]
    constructor
    · rintro ⟨⟨hP, hC⟩, hrest⟩
      refine ⟨hP, hC, fun t' ht' => ?_⟩
      obtain rfl : t = t' := Option.some.inj (hst.symm.trans ht')
      exact hrest
    · rintro ⟨hP, hC, hrest⟩
      exact ⟨⟨hP, hC⟩, hrest t hst⟩

lemma Throughout.start {P : σ → Prop} {s : σ} {is : List ι} (h : Throughout step P s is) : P s := by
  cases is with
  | nil => exact h
  | cons i is => exact h.1

/-- What an invariant gives holds in every state of a run whose steps all meet `C`. -/
lemma throughout_of_meets {C : σ → ι → Prop} {J P : σ → Prop} (keep : ∀ s i s', J s → C s i → step s i = some s' → J s')
    (h : ∀ s, J s → P s) : ∀ {is : List ι} {s : σ}, J s → Meets step C s is → Throughout step P s is
  | [], s, hJ, _ => h s hJ
  | i :: _, s, hJ, hC =>
    ⟨h s hJ, fun s' hs' => throughout_of_meets keep h (keep s i s' hJ hC.1 hs') (hC.2 s' hs')⟩

/-- What holds in every state of a run holds at its end. -/
lemma Throughout.last {P : σ → Prop} :
    ∀ {is : List ι} {s s' : σ}, Throughout step P s is → run step s is = some s' → P s'
  | [], s, s', h, hrun => by
    rw [run_nil, Option.some.injEq] at hrun
    exact hrun ▸ h
  | i :: is, s, s', h, hrun => by
    obtain ⟨t, hst, hts⟩ := run_cons_some.mp hrun
    exact (h.2 t hst).last hts

/-- **The exact rule for every state.** If a step that `C` allows keeps `J`, and `P` holds after a step exactly when `C`
allows it, then `P` holds in every state of a run exactly when every step has met `C`. -/
theorem throughout_iff {C : σ → ι → Prop} {J P : σ → Prop}
    (keep : ∀ s i s', J s → C s i → step s i = some s' → J s')
    (hexact : ∀ s i s', J s → step s i = some s' → (P s' ↔ C s i)) :
    ∀ {is : List ι} {s s' : σ}, J s → P s → run step s is = some s' → (Throughout step P s is ↔ Meets step C s is) := by
  intro is
  induction is with
  | nil =>
    intro s s' _ hP _
    exact iff_of_true hP trivial
  | cons i is ih =>
    intro s s' hJ hP hrun
    obtain ⟨t, hst, hts⟩ := run_cons_some.mp hrun
    have hnext : ∀ {Q : σ → Prop}, (∀ t' ∈ step s i, Q t') ↔ Q t := by
      intro Q
      constructor
      · intro h
        exact h t hst
      · intro h t' ht'
        obtain rfl : t = t' := Option.some.inj (hst.symm.trans ht')
        exact h
    show (P s ∧ ∀ t' ∈ step s i, Throughout step P t' is) ↔ (C s i ∧ ∀ t' ∈ step s i, Meets step C t' is)
    rw [hnext, hnext]
    constructor
    · rintro ⟨-, hthrough⟩
      have hC := (hexact s i t hJ hst).mp hthrough.start
      exact ⟨hC, (ih (keep s i t hJ hC hst) hthrough.start hts).mp hthrough⟩
    · rintro ⟨hC, hmeets⟩
      exact ⟨hP, (ih (keep s i t hJ hC hst) ((hexact s i t hJ hst).mpr hC) hts).mpr hmeets⟩

/-- A condition on the labels alone is met as soon as every label meets it. -/
lemma meets_of_forall {C : ι → Prop} :
    ∀ {is : List ι} (s : σ), (∀ i ∈ is, C i) → Meets step (fun _ i => C i) s is
  | [], _, _ => trivial
  | i :: _, _, h => ⟨h i List.mem_cons_self,
      fun s' _ => meets_of_forall s' fun j hj => h j (List.mem_cons_of_mem _ hj)⟩

/-- Two conditions that are the same on the steps of a run. -/
lemma meets_congr_of_meets {C C' D : σ → ι → Prop} (h : ∀ s i, D s i → (C s i ↔ C' s i)) :
    ∀ {is : List ι} {s : σ}, Meets step D s is → (Meets step C s is ↔ Meets step C' s is)
  | [], _, _ => Iff.rfl
  | _ :: _, s, hD => and_congr (h s _ hD.1) (forall₂_congr fun s' hs' => meets_congr_of_meets h (hD.2 s' hs'))

/-- **From one condition to another**, with an invariant that the first one keeps. -/
lemma Meets.imp {C C' : σ → ι → Prop} {I : σ → Prop} (keep : ∀ s i s', I s → C s i → step s i = some s' → I s')
    (h : ∀ s i, I s → C s i → C' s i) : ∀ {is : List ι} {s : σ}, I s → Meets step C s is → Meets step C' s is
  | [], _, _, _ => trivial
  | i :: _, s, hI, hC =>
    ⟨h s i hI hC.1, fun s' hs' => Meets.imp keep h (keep s i s' hI hC.1 hs') (hC.2 s' hs')⟩

/-- What an invariant gives of every step is met by every run. -/
lemma meets_of_invariant {C : σ → ι → Prop} {I : σ → Prop} (keep : ∀ s i s', I s → step s i = some s' → I s')
    (hC : ∀ s i, I s → C s i) : ∀ {is : List ι} {s : σ}, I s → Meets step C s is
  | [], _, _ => trivial
  | i :: _, s, hI => ⟨hC s i hI, fun s' hs' => meets_of_invariant keep hC (keep s i s' hI hs')⟩

/-- **The potential rule.** If every step of the kind uses up the potential and no other step adds to it, the potential
at the start bounds the number of steps of the kind. -/
theorem countSteps_le {C : σ → ι → Prop} {P : σ → σ → Bool} {Φ : σ → ℕ}
    (h : ∀ s i s', C s i → step s i = some s' → (P s s').toNat + Φ s' ≤ Φ s) :
    ∀ {is : List ι} {s : σ}, Meets step C s is → countSteps step P s is ≤ Φ s := by
  intro is
  induction is with
  | nil =>
    intro s _
    exact Nat.zero_le _
  | cons i is ih =>
    intro s hC
    unfold countSteps
    cases hst : step s i with
    | none => exact Nat.zero_le _
    | some s' =>
      have hstep := h s i s' hC.1 hst
      have hrest := ih (hC.2 s' hst)
      simp only
      omega

/-- **The measure rule.** If every step lowers a measure, the measure at the start bounds the length of every run. -/
theorem run_length_le {I : σ → Prop} {Φ : σ → ℕ} (keep : ∀ s i s', I s → step s i = some s' → I s')
    (h : ∀ s i s', I s → step s i = some s' → Φ s' < Φ s) :
    ∀ {is : List ι} {s s' : σ}, I s → run step s is = some s' → is.length ≤ Φ s := by
  intro is
  induction is with
  | nil =>
    intro s s' _ _
    exact Nat.zero_le _
  | cons i is ih =>
    intro s s' hI hrun
    obtain ⟨t, hst, hts⟩ := run_cons_some.mp hrun
    have hlower := h s i t hI hst
    have hrest := ih (keep s i t hI hst) hts
    rw [List.length_cons]
    omega

/-- The invariant rule for all runs. -/
theorem reach_induct {I : σ → Prop} {s s' : σ}
    (keep : ∀ s i s', I s → step s i = some s' → I s') (hI : I s) (h : Reaches step s s') : I s' := by
  obtain ⟨is, hrun⟩ := h
  exact run_induct (fun s i s' hs _ hst => keep s i s' hs hst) hI
    (meets_of_forall (C := fun _ => True) s fun _ _ => trivial) hrun

end Invariants

end Lib.Lts
