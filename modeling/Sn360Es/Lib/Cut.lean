import Mathlib.Data.List.Sort

/-!
# The first entries of a sorted list

`cut key n l` sorts a list by a key, keeping the order of entries with the same key, and takes the first `n`.

* `exists_mem_take_iff` — an entry outside an initial part of the order is taken exactly if that part has fewer than `n`
  entries;
* `countP_lt_of_mem_cut` — so an entry that is taken has fewer than `n` entries before it;
* `sortBy_eq_append` — with two keys the sort is a partition.
-/

namespace Lib

variable {α κ : Type*} [LinearOrder κ] (key : α → κ)

/-- The list in the order of the key. -/
def sortBy (l : List α) : List α := l.insertionSort fun a b => key a ≤ key b

def cut (n : ℕ) (l : List α) : List α := (sortBy key l).take n

variable {key} {l : List α} {n : ℕ}

lemma sortBy_perm (l : List α) : (sortBy key l).Perm l := List.perm_insertionSort _ l

@[simp] lemma mem_sortBy {x : α} : x ∈ sortBy key l ↔ x ∈ l := (sortBy_perm l).mem_iff

lemma pairwise_sortBy (l : List α) : (sortBy key l).Pairwise fun a b => key a ≤ key b := by
  have : Std.Total fun a b : α => key a ≤ key b := ⟨fun a b => le_total _ _⟩
  have : IsTrans α fun a b => key a ≤ key b := ⟨fun a b c hab hbc => le_trans hab hbc⟩
  exact List.pairwise_insertionSort _ l

private lemma orderedInsert_append {s t : List α} {x : α} (hs : ∀ y ∈ s, key y < key x) (ht : ∀ y ∈ t, key x ≤ key y) :
    (s ++ t).orderedInsert (fun a b => key a ≤ key b) x = s ++ x :: t := by
  induction s with
  | nil =>
    cases t with
    | nil => rfl
    | cons y t => exact if_pos (ht y List.mem_cons_self)
  | cons y s ih =>
    have hstep : (y :: s ++ t).orderedInsert (fun a b => key a ≤ key b) x =
        y :: (s ++ t).orderedInsert (fun a b => key a ≤ key b) x := if_neg (not_le.mpr (hs y List.mem_cons_self))
    rw [hstep, ih fun z hz => hs z (List.mem_cons_of_mem _ hz)]
    rfl

/-- With two keys the sort is a partition. -/
lemma sortBy_eq_append {a b : κ} (hab : a < b) (h : ∀ x ∈ l, key x = a ∨ key x = b) :
    sortBy key l = l.filter (fun x => key x = a) ++ l.filter (fun x => key x = b) := by
  have hkey : ∀ {c : κ} {l : List α} {y : α}, y ∈ l.filter (fun x => key x = c) → key y = c := fun hy =>
    of_decide_eq_true (List.mem_filter.mp hy).2
  induction l with
  | nil => rfl
  | cons x l ih =>
    have hstep : sortBy key (x :: l) = (sortBy key l).orderedInsert (fun a b => key a ≤ key b) x := rfl
    rw [hstep, ih fun y hy => h y (List.mem_cons_of_mem _ hy)]
    rcases h x List.mem_cons_self with hx | hx
    · have hb : ¬ key x = b := by rw [hx]; exact hab.ne
      rw [List.filter_cons_of_pos (by simp [hx]), List.filter_cons_of_neg (by simp [hb])]
      refine orderedInsert_append (s := []) (fun y hy => absurd hy List.not_mem_nil) fun y hy => ?_
      rcases List.mem_append.mp hy with hy | hy
      · rw [hx, hkey hy]
      · rw [hx, hkey hy]
        exact hab.le
    · have ha : ¬ key x = a := by rw [hx]; exact hab.ne'
      rw [List.filter_cons_of_neg (by simp [ha]), List.filter_cons_of_pos (by simp [hx])]
      refine orderedInsert_append (fun y hy => ?_) fun y hy => ?_
      · rw [hx, hkey hy]
        exact hab
      · rw [hx, hkey hy]

/-- Fewer entries satisfy the stronger of two conditions, if one tells them apart. -/
lemma countP_lt_countP {p q : α → Bool} {x : α} (h : ∀ y ∈ l, p y = true → q y = true) (hx : x ∈ l)
    (hp : p x = false) (hq : q x = true) : l.countP p < l.countP q := by
  obtain ⟨s, t, rfl⟩ := List.append_of_mem hx
  have hs : s.countP p ≤ s.countP q := List.countP_mono_left fun y hy => h y (List.mem_append_left _ hy)
  have ht : t.countP p ≤ t.countP q := List.countP_mono_left fun y hy =>
    h y (List.mem_append_right _ (List.mem_cons_of_mem _ hy))
  rw [List.countP_append, List.countP_append, List.countP_cons_of_neg (by simp [hp]), List.countP_cons_of_pos hq]
  omega

lemma mem_of_mem_cut {x : α} (h : x ∈ cut key n l) : x ∈ l := mem_sortBy.mp (List.mem_of_mem_take h)

/-- **What a cut reaches**, in a list that is in order. -/
lemma exists_mem_take_iff {p : α → Bool} (hl : l.Pairwise fun a b => key a ≤ key b)
    (hp : ∀ a b, key a ≤ key b → p b = true → p a = true) :
    (∃ x ∈ l.take n, p x = false) ↔ l.countP p < n ∧ ∃ x ∈ l, p x = false := by
  induction l generalizing n with
  | nil => simp
  | cons a l ih =>
    obtain ⟨ha, hl⟩ := List.pairwise_cons.mp hl
    cases n with
    | zero => simp
    | succ n =>
      rw [List.take_succ_cons]
      cases hpa : p a with
      | true =>
        simp only [List.mem_cons, exists_eq_or_imp, hpa, Bool.true_eq_false, false_or,
          List.countP_cons_of_pos hpa, Nat.add_lt_add_iff_right]
        exact ih hl
      | false =>
        -- what follows is not before `a`
        have hzero : l.countP p = 0 := by
          refine List.countP_eq_zero.mpr fun x hx hpx => ?_
          rw [hp a x (ha x hx) hpx] at hpa
          cases hpa
        simp only [List.mem_cons, exists_eq_or_imp, hpa, true_or, true_iff]
        rw [List.countP_cons_of_neg (by simp [hpa]), hzero]
        exact ⟨Nat.succ_pos n, trivial⟩

lemma exists_mem_cut_iff {p : α → Bool} (hp : ∀ a b, key a ≤ key b → p b = true → p a = true) :
    (∃ x ∈ cut key n l, p x = false) ↔ l.countP p < n ∧ ∃ x ∈ l, p x = false := by
  unfold cut
  rw [exists_mem_take_iff (pairwise_sortBy l) hp, (sortBy_perm l).countP_eq]
  simp

/-- An entry after `s` is taken. -/
lemma exists_lt_mem_cut_iff (s : κ) :
    (∃ x ∈ cut key n l, s < key x) ↔ l.countP (fun x => key x ≤ s) < n ∧ ∃ x ∈ l, s < key x := by
  have hp : ∀ a b, key a ≤ key b → decide (key b ≤ s) = true → decide (key a ≤ s) = true := fun a b hab hb =>
    decide_eq_true (hab.trans (of_decide_eq_true hb))
  simpa only [decide_eq_false_iff_not, not_le] using exists_mem_cut_iff (n := n) (l := l) hp

/-- Fewer than `n` entries come before one that is taken. -/
lemma countP_lt_of_mem_cut {x : α} (hx : x ∈ cut key n l) : l.countP (fun y => key y < key x) < n := by
  have hp : ∀ a b, key a ≤ key b → decide (key b < key x) = true → decide (key a < key x) = true := fun a b hab hb =>
    decide_eq_true (lt_of_le_of_lt hab (of_decide_eq_true hb))
  exact ((exists_mem_cut_iff hp).mp ⟨x, hx, decide_eq_false (lt_irrefl _)⟩).1

/-- A first entry is taken. -/
lemma exists_le_mem_cut {x : α} (hx : x ∈ l) (hn : 0 < n) : ∃ y ∈ cut key n l, key y ≤ key x := by
  have hsorted : (sortBy key l).Pairwise fun a b => key a ≤ key b := pairwise_sortBy l
  have hx' : x ∈ sortBy key l := mem_sortBy.mpr hx
  unfold cut
  cases hs : sortBy key l with
  | nil =>
    rw [hs] at hx'
    cases hx'
  | cons a t =>
    rw [hs] at hx' hsorted
    obtain ⟨m, rfl⟩ := Nat.exists_eq_succ_of_ne_zero hn.ne'
    refine ⟨a, List.mem_cons_self, ?_⟩
    rcases List.mem_cons.mp hx' with rfl | hx'
    · exact le_refl _
    · exact (List.pairwise_cons.mp hsorted).1 x hx'

end Lib
