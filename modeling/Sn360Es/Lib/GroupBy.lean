import Mathlib.Data.List.Basic
import Mathlib.Data.List.Induction

/-!
# Grouping in one pass

Elements are accumulated under their keys, in a map that is filled in one pass over the list. The map is a list of
entries with distinct keys; nothing is said about the order in which it hands them out.

* `mem_group` — the entry of a key is the fold over the elements with that key, in their order.
-/

namespace Lib

variable {α β κ : Type*} [DecidableEq κ] (key : α → κ) (init : κ → β) (add : β → α → β)

/-- One element goes under its key; a new key starts with `init`. -/
def groupStep (m : List (κ × β)) (a : α) : List (κ × β) :=
  if key a ∈ m.map Prod.fst then m.map fun e => if e.1 = key a then (e.1, add e.2 a) else e
  else m ++ [(key a, add (init (key a)) a)]

def group (as : List α) : List (κ × β) := as.foldl (groupStep key init add) []

/-- What is accumulated under a key. -/
def groupOf (as : List α) (k : κ) : β := (as.filter (key · = k)).foldl add (init k)

lemma group_concat (as : List α) (a : α) :
    group key init add (as ++ [a]) = groupStep key init add (group key init add as) a := by
  rw [group, List.foldl_append]
  rfl

lemma groupOf_concat (as : List α) (a : α) (k : κ) : groupOf key init add (as ++ [a]) k =
    if key a = k then add (groupOf key init add as k) a else groupOf key init add as k := by
  unfold groupOf
  by_cases h : key a = k
  · simp [List.filter_append, h]
  · simp [List.filter_append, h]

lemma groupStep_keys (m : List (κ × β)) (a : α) : (groupStep key init add m a).map Prod.fst =
    if key a ∈ m.map Prod.fst then m.map Prod.fst else m.map Prod.fst ++ [key a] := by
  unfold groupStep
  by_cases h : key a ∈ m.map Prod.fst
  · rw [if_pos h, if_pos h, List.map_map]
    refine List.map_congr_left fun e _ => ?_
    by_cases he : e.1 = key a
    · simp [he]
    · simp [he]
  · rw [if_neg h, if_neg h, List.map_append]
    rfl

lemma mem_group_keys {as : List α} {k : κ} : k ∈ (group key init add as).map Prod.fst ↔ k ∈ as.map key := by
  induction as using List.reverseRecOn with
  | nil => exact Iff.rfl
  | append_singleton as a ih =>
    rw [group_concat, groupStep_keys, List.map_append, List.mem_append, ← ih]
    split
    · next h =>
      constructor
      · exact Or.inl
      · rintro (hk | hk)
        · exact hk
        · rw [List.mem_singleton.mp hk]
          exact h
    · rw [List.mem_append]
      rfl

/-- **The entries of the map.** -/
theorem mem_group {as : List α} {k : κ} {b : β} : (k, b) ∈ group key init add as ↔
    k ∈ as.map key ∧ b = groupOf key init add as k := by
  induction as using List.reverseRecOn generalizing k b with
  | nil => simp [group]
  | append_singleton as a ih =>
    rw [group_concat, groupOf_concat, List.map_append, List.mem_append]
    have hkeys : key a ∈ (group key init add as).map Prod.fst ↔ key a ∈ as.map key := mem_group_keys key init add
    by_cases hold : key a ∈ as.map key
    · -- the entry of `a` is changed, and the others stay
      rw [groupStep, if_pos (hkeys.mpr hold), List.mem_map]
      by_cases hk : key a = k
      · subst hk
        simp only [hold, true_or, true_and, if_true]
        constructor
        · rintro ⟨⟨k', b'⟩, hmem, heq⟩
          by_cases hk' : k' = key a
          · subst hk'
            rw [if_pos rfl] at heq
            rw [← (Prod.mk.inj heq).2, (ih.mp hmem).2]
          · rw [if_neg hk'] at heq
            exact absurd (Prod.mk.inj heq).1 hk'
        · rintro rfl
          exact ⟨(key a, groupOf key init add as (key a)), ih.mpr ⟨hold, rfl⟩, by simp⟩
      · rw [if_neg hk]
        have hsing : k ∉ List.map key [a] := by
          simpa using fun h : k = key a => hk h.symm
        simp only [hsing, or_false, ← ih]
        constructor
        · rintro ⟨⟨k', b'⟩, hmem, heq⟩
          by_cases hk' : k' = key a
          · subst hk'
            rw [if_pos rfl] at heq
            exact absurd (Prod.mk.inj heq).1 hk
          · rw [if_neg hk'] at heq
            rwa [← heq]
        · intro hmem
          exact ⟨(k, b), hmem, by rw [if_neg fun h => hk h.symm]⟩
    · rw [groupStep, if_neg fun h => hold (hkeys.mp h), List.mem_append, ih]
      by_cases hk : key a = k
      · subst hk
        have hnil : as.filter (key · = key a) = [] := by
          rw [List.filter_eq_nil_iff]
          intro x hx
          simpa using fun h => hold (List.mem_map.mpr ⟨x, hx, h⟩)
        simp [hold, groupOf, hnil]
      · have hk' : ¬ k = key a := fun h => hk h.symm
        simp [hk, hk']

end Lib
