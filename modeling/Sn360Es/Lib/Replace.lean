import Mathlib.Data.List.Infix

/-!
# Replacing every match

A `Matcher` says what it matches at the head of a text and what follows the match. `replace` reads a text from left to
right: where the matcher matches, its replacement is put and the reading goes on behind the match; elsewhere the symbol
is copied.

* `scan_induction` — the induction that follows the reading;
* `prefix_of_prefix_replace` — if every replacement starts with a mark, an initial part of the new text without the mark
  is one of the old text;
* `replace_eq_self_iff` — if no match starts with the mark, a text stays as it is exactly if nothing in it matches.
-/

namespace Lib

variable {α β : Type*}

/-- What is matched at the head of a text, and the rest. A match is never empty. -/
structure Matcher (α β : Type*) where
  find : List α → Option (β × List α)
  consumes : ∀ {x m r}, find x = some (m, r) → ∃ a w, x = a :: w ++ r

namespace Matcher

variable (M : Matcher α β) (put : β → List α)

/-- The first `skip` symbols belong to a match and are dropped. -/
def replaceFrom : ℕ → List α → List α
  | _, [] => []
  | skip + 1, _ :: l => replaceFrom skip l
  | 0, a :: l =>
    match M.find (a :: l) with
    | some (m, r) => put m ++ replaceFrom (l.length - r.length) l
    | none => a :: replaceFrom 0 l

def replace (x : List α) : List α := M.replaceFrom put 0 x

/-- Something in the text matches. -/
def Found (x : List α) : Prop := ∃ s, s <:+ x ∧ (M.find s).isSome

/-- `r` is what follows one of the matches the reading of the text meets. -/
inductive After : List α → List α → Prop
  | here {x m r} : M.find x = some (m, r) → After x r
  | behind {x m r r'} : M.find x = some (m, r) → After r r' → After x r'
  | next {a l r} : M.find (a :: l) = none → After l r → After (a :: l) r

variable {M} {put}

@[simp] lemma find_nil : M.find [] = none := by
  cases h : M.find [] with
  | none => rfl
  | some p =>
    obtain ⟨a, w, hw⟩ := M.consumes h
    simp at hw

lemma replaceFrom_eq : ∀ (skip : ℕ) (x : List α), M.replaceFrom put skip x = M.replace put (x.drop skip)
  | 0, x => by simp [replace]
  | skip + 1, [] => by simp [replace, replaceFrom]
  | skip + 1, a :: l => by simpa [replaceFrom] using replaceFrom_eq skip l

@[simp] lemma replace_nil : M.replace put [] = [] := by simp [replace, replaceFrom]

lemma replace_of_none {a : α} {l : List α} (h : M.find (a :: l) = none) :
    M.replace put (a :: l) = a :: M.replace put l := by
  simp [replace, replaceFrom, h]

lemma replace_of_some {x r : List α} {m : β} (h : M.find x = some (m, r)) :
    M.replace put x = put m ++ M.replace put r := by
  obtain ⟨a, w, rfl⟩ := M.consumes h
  have hstep : M.replace put (a :: w ++ r) = put m ++ M.replaceFrom put ((w ++ r).length - r.length) (w ++ r) := by
    simp only [List.cons_append] at h ⊢
    simp only [replace, replaceFrom, h]
  have hdrop : (w ++ r).drop ((w ++ r).length - r.length) = r := by simp
  rw [hstep, replaceFrom_eq, hdrop]

variable (M) in
/-- The induction along the reading of a text. -/
theorem scan_induction {P : List α → Prop} (hnil : P [])
    (hnone : ∀ a l, M.find (a :: l) = none → P l → P (a :: l))
    (hsome : ∀ x m r, M.find x = some (m, r) → P r → P x) (x : List α) : P x := by
  induction hn : x.length using Nat.strong_induction_on generalizing x with
  | _ n ih =>
    cases x with
    | nil => exact hnil
    | cons a l =>
      cases hf : M.find (a :: l) with
      | none => exact hnone a l hf (ih l.length (by simp at hn; omega) l rfl)
      | some p =>
        obtain ⟨m, r⟩ := p
        obtain ⟨b, w, hw⟩ := M.consumes hf
        have hlen : r.length < n := by
          rw [← hn, hw, List.length_append, List.length_cons]
          omega
        exact hsome _ m r hf (ih r.length hlen r rfl)

@[simp] lemma not_after_nil {r : List α} : ¬ M.After [] r := by
  intro h
  cases h with
  | here hf => simp at hf
  | behind hf _ => simp at hf

lemma after_of_none {a : α} {l r : List α} (h : M.find (a :: l) = none) : M.After (a :: l) r ↔ M.After l r := by
  constructor
  · intro hr
    cases hr with
    | here hf => simp [h] at hf
    | behind hf _ => simp [h] at hf
    | next _ hr => exact hr
  · exact After.next h

lemma after_of_some {x r r' : List α} {m : β} (h : M.find x = some (m, r)) :
    M.After x r' ↔ r' = r ∨ M.After r r' := by
  constructor
  · intro hr
    cases hr with
    | here hf =>
      rw [h] at hf
      exact .inl (by simpa using congrArg Prod.snd (Option.some.inj hf).symm)
    | behind hf hr =>
      rw [h] at hf
      obtain rfl : r = _ := congrArg Prod.snd (Option.some.inj hf)
      exact .inr hr
    | next hf _ => simp [h] at hf
  · rintro (rfl | hr)
    · exact After.here h
    · exact After.behind h hr

lemma found_of_find {x : List α} (h : (M.find x).isSome) : M.Found x := ⟨x, List.suffix_rfl, h⟩

lemma found_cons {a : α} {l : List α} : M.Found (a :: l) ↔ (M.find (a :: l)).isSome ∨ M.Found l := by
  constructor
  · rintro ⟨s, hs, hf⟩
    rcases List.suffix_cons_iff.mp hs with rfl | hs
    · exact .inl hf
    · exact .inr ⟨s, hs, hf⟩
  · rintro (hf | ⟨s, hs, hf⟩)
    · exact found_of_find hf
    · exact ⟨s, hs.trans (List.suffix_cons a l), hf⟩

@[simp] lemma not_found_nil : ¬ M.Found [] := by
  rintro ⟨s, hs, hf⟩
  rw [List.suffix_nil.mp hs, find_nil] at hf
  simp at hf

section Mark

variable {z : α} (hput : ∀ m, ∃ t, put m = z :: t)
include hput

lemma find_eq_none_of_prefix {p y : List α} (hp : p <+: M.replace put y) (hne : p ≠ []) (hz : z ∉ p) :
    M.find y = none := by
  cases hf : M.find y with
  | none => rfl
  | some q =>
    obtain ⟨m, r⟩ := q
    obtain ⟨t, ht⟩ := hput m
    obtain ⟨c, p, rfl⟩ := List.exists_cons_of_ne_nil hne
    rw [replace_of_some hf, ht, List.cons_append, List.cons_prefix_cons] at hp
    exact absurd (hp.1 ▸ List.mem_cons_self) hz

/-- What starts the new text and does not hold the mark has been copied. -/
theorem prefix_of_prefix_replace {p y : List α} (hp : p <+: M.replace put y) (hz : z ∉ p) : p <+: y := by
  induction p generalizing y with
  | nil => exact List.nil_prefix
  | cons c p ih =>
    have hf : M.find y = none := find_eq_none_of_prefix hput hp (by simp) hz
    cases y with
    | nil => simp at hp
    | cons a y =>
      rw [replace_of_none hf, List.cons_prefix_cons] at hp
      exact List.cons_prefix_cons.mpr ⟨hp.1, ih hp.2 fun h => hz (List.mem_cons_of_mem _ h)⟩

/-- Nothing in a text matches if replacing leaves it as it is, and only then. -/
theorem replace_eq_self_iff (hstart : ∀ {l}, M.find (z :: l) = none) {x : List α} :
    M.replace put x = x ↔ ¬ M.Found x := by
  induction x with
  | nil => simp
  | cons a l ih =>
    rw [found_cons]
    cases hf : M.find (a :: l) with
    | none =>
      rw [replace_of_none hf]
      simpa using ih
    | some q =>
      obtain ⟨m, r⟩ := q
      obtain ⟨t, ht⟩ := hput m
      have hne : M.replace put (a :: l) ≠ a :: l := by
        rw [replace_of_some hf, ht]
        intro h
        have hza : z = a := by simpa using congrArg List.head? h
        rw [← hza, hstart] at hf
        simp at hf
      simpa using hne

end Mark

end Matcher

end Lib
