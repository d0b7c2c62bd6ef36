import Mathlib.Data.List.Nodup

/-!
# Upserts into a table with a key

`upsert` changes the row that has the key of a new one, or adds the new one. It is what `INSERT … ON CONFLICT DO UPDATE`
does with one row.

* `insertAll` — the statement with several rows, which fails if it meets a key twice;
* `keys_upsert`, `mem_upsert` — the keys and the rows of the table afterwards;
* `find_upsert` — what is under a key afterwards;
* `upsert_eq_set` — the same, as an assignment to the place of the first row with the key.
-/

namespace Lib

variable {α κ : Type*} [DecidableEq κ] (key : α → κ) (merge : α → α → α)

/-- The rows with the key of `x` take over what `merge` says; without one, `x` is added. -/
def upsert (l : List α) (x : α) : List α :=
  if key x ∈ l.map key then l.map fun y => if key y = key x then merge y x else y else l ++ [x]

def upsertAll (l : List α) (xs : List α) : List α := xs.foldl (upsert key merge) l

/-- A statement that changes a row twice fails. -/
def insertAll (l : List α) (xs : List α) : Option (List α) :=
  if (xs.map key).Nodup then some (upsertAll key merge l xs) else none

variable {key merge} {l xs : List α} {x : α} {k : κ}

lemma insertAll_eq_some_iff {l' : List α} :
    insertAll key merge l xs = some l' ↔ (xs.map key).Nodup ∧ l' = upsertAll key merge l xs := by
  unfold insertAll
  split
  · next h => simp [h, eq_comm]
  · next h => simp [h]

section Keys

variable (hmerge : ∀ y x, key (merge y x) = key y)
include hmerge

lemma keys_upsert : (upsert key merge l x).map key = if key x ∈ l.map key then l.map key else l.map key ++ [key x] := by
  unfold upsert
  split
  · rw [List.map_map]
    refine List.map_congr_left fun y _ => ?_
    by_cases hy : key y = key x
    · simp [hy, hmerge]
    · simp [hy]
  · simp

lemma nodup_upsert (h : (l.map key).Nodup) : ((upsert key merge l x).map key).Nodup := by
  rw [keys_upsert hmerge]
  split
  · exact h
  · next hx =>
    rw [List.nodup_append]
    refine ⟨h, List.nodup_singleton _, fun a ha b hb => ?_⟩
    rintro rfl
    rw [List.mem_singleton.mp hb] at ha
    exact hx ha

lemma nodup_upsertAll (h : (l.map key).Nodup) : ((upsertAll key merge l xs).map key).Nodup := by
  induction xs generalizing l with
  | nil => exact h
  | cons x xs ih => exact ih (nodup_upsert hmerge h)

lemma mem_keys_upsertAll : k ∈ (upsertAll key merge l xs).map key ↔ k ∈ l.map key ∨ k ∈ xs.map key := by
  induction xs generalizing l with
  | nil => simp [upsertAll]
  | cons x xs ih =>
    show k ∈ (upsertAll key merge (upsert key merge l x) xs).map key ↔ _
    rw [ih, keys_upsert hmerge, List.map_cons, List.mem_cons]
    split
    · next hx =>
      constructor
      · rintro (h | h)
        · exact .inl h
        · exact .inr (.inr h)
      · rintro (h | rfl | h)
        · exact .inl h
        · exact .inl hx
        · exact .inr h
    · rw [List.mem_append, List.mem_singleton, or_assoc]

end Keys

/-- A row after an upsert: one that was not touched, one that was merged, or the new one. -/
lemma mem_upsert {r : α} (h : r ∈ upsert key merge l x) :
    (r ∈ l ∧ key r ≠ key x) ∨ (∃ y ∈ l, key y = key x ∧ r = merge y x) ∨ (r = x ∧ key x ∉ l.map key) := by
  unfold upsert at h
  split at h
  · obtain ⟨y, hy, rfl⟩ := List.mem_map.mp h
    by_cases hkey : key y = key x
    · rw [if_pos hkey]
      exact .inr (.inl ⟨y, hy, hkey, rfl⟩)
    · rw [if_neg hkey]
      exact .inl ⟨hy, hkey⟩
  · next hx =>
    rcases List.mem_append.mp h with h | h
    · exact .inl ⟨h, fun hkey => hx (List.mem_map.mpr ⟨r, h, hkey⟩)⟩
    · exact .inr (.inr ⟨List.mem_singleton.mp h, hx⟩)

/-- **What is under a key** after an upsert. -/
lemma find_upsert (hmerge : ∀ y, key y = key x → key (merge y x) = key x) :
    (upsert key merge l x).find? (key · = k) =
      if k = key x then some (((l.find? (key · = k)).map (merge · x)).getD x) else l.find? (key · = k) := by
  unfold upsert
  split
  · next hmem =>
    have hcomp : ((fun y => decide (key y = k)) ∘ fun y => if key y = key x then merge y x else y) =
        fun y => decide (key y = k) := by
      funext y
      by_cases hy : key y = key x
      · rw [Function.comp_apply, if_pos hy, hmerge y hy, hy]
      · rw [Function.comp_apply, if_neg hy]
    rw [List.find?_map, hcomp]
    by_cases hk : k = key x
    · subst hk
      rw [if_pos rfl]
      cases hfind : l.find? (key · = key x) with
      | some y =>
        have hy : key y = key x := by simpa using List.find?_some hfind
        simp [hy]
      | none =>
        obtain ⟨y, hy, hkey⟩ := List.mem_map.mp hmem
        exact absurd (List.find?_eq_none.mp hfind y hy) (by simp [hkey])
    · rw [if_neg hk]
      cases hfind : l.find? (key · = k) with
      | some y =>
        have hy : key y = k := by simpa using List.find?_some hfind
        have hne : ¬ key y = key x := fun h => hk (hy.symm.trans h)
        simp [hne]
      | none => rfl
  · next hmem =>
    rw [List.find?_append]
    by_cases hk : k = key x
    · subst hk
      have hnone : l.find? (key · = key x) = none := by
        refine List.find?_eq_none.mpr fun y hy => ?_
        simp only [decide_eq_true_eq]
        exact fun h => hmem (List.mem_map.mpr ⟨y, hy, h⟩)
      simp [hnone]
    · have hne : ¬ key x = k := fun h => hk h.symm
      simp [hk, hne]

lemma upsertAll_concat : upsertAll key merge l (xs ++ [x]) = upsert key merge (upsertAll key merge l xs) x := by
  unfold upsertAll
  rw [List.foldl_append]
  rfl

lemma upsertAll_append {ys : List α} :
    upsertAll key merge l (xs ++ ys) = upsertAll key merge (upsertAll key merge l xs) ys := List.foldl_append ..

variable (merge) in
/-- With distinct keys an upsert changes one place. -/
lemma upsert_eq_set {i : ℕ} (hl : (l.map key).Nodup) (hi : l.findIdx? (key · = key x) = some i) :
    ∃ y, l[i]? = some y ∧ key y = key x ∧ upsert key merge l x = l.set i (merge y x) := by
  obtain ⟨hlt, hkey, -⟩ := List.findIdx?_eq_some_iff_getElem.mp hi
  have hkey : key l[i] = key x := of_decide_eq_true hkey
  refine ⟨l[i], List.getElem?_eq_getElem hlt, hkey, ?_⟩
  unfold upsert
  rw [if_pos (List.mem_map.mpr ⟨l[i], List.getElem_mem hlt, hkey⟩)]
  refine List.ext_getElem (by simp) fun j hj hj' => ?_
  rw [List.length_map] at hj
  rw [List.getElem_map, List.getElem_set]
  by_cases hij : i = j
  · subst hij
    simp [hkey]
  · have hne : ¬ key l[j] = key x := by
      intro h
      have hi' : i < (l.map key).length := by simpa using hlt
      have hj' : j < (l.map key).length := by simpa using hj
      have hmap : (l.map key)[i] = (l.map key)[j] := by simp [hkey, h]
      exact hij ((List.Nodup.getElem_inj_iff hl).mp hmap)
    simp [hij, hne]

lemma upsert_eq_append (hi : l.findIdx? (key · = key x) = none) : upsert key merge l x = l ++ [x] := by
  refine if_neg fun hmem => ?_
  obtain ⟨y, hy, hkey⟩ := List.mem_map.mp hmem
  exact absurd (List.findIdx?_eq_none_iff.mp hi y hy) (by simp [hkey])

end Lib
