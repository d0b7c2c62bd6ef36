import Mathlib.Data.List.Basic

/-!
# The last write under a key

A journal of writes, each under a key. A reader gets the last one (`lastWith`). Reading back under the key of
each write gives what that write stored, up to `f`, exactly when the writes under one key agree on `f`
(`lastWith_agree_iff`).
-/

namespace Lib

variable {α κ β : Type*} [DecidableEq κ]

/-- The last of the writes under the key `k`. -/
def lastWith (key : α → κ) (k : κ) (ws : List α) : Option α := ws.reverse.find? fun w => key w = k

variable {key : α → κ} {k : κ} {ws : List α} {w : α}

lemma lastWith_concat_self (ws : List α) (w : α) : lastWith key (key w) (ws ++ [w]) = some w := by
  simp [lastWith]

lemma lastWith_concat_of_ne (ws : List α) (h : key w ≠ k) :
    lastWith key k (ws ++ [w]) = lastWith key k ws := by
  simp [lastWith, h]

/-- Earlier writes do not show behind a later one. -/
lemma lastWith_append (before : List α) (h : lastWith key k ws = some w) : lastWith key k (before ++ ws) = some w := by
  unfold lastWith at h ⊢
  rw [List.reverse_append, List.find?_append, h]
  rfl

lemma lastWith_map {γ : Type*} (key : γ → κ) (f : α → γ) (k : κ) (ws : List α) :
    lastWith key k (ws.map f) = (lastWith (fun w => key (f w)) k ws).map f := by
  unfold lastWith
  rw [← List.map_reverse, List.find?_map]
  rfl

lemma lastWith_mem (h : lastWith key k ws = some w) : w ∈ ws ∧ key w = k :=
  ⟨List.mem_reverse.mp (List.mem_of_find?_eq_some h), by simpa using List.find?_some h⟩

variable (key)

/-- A key that was written has a last write. -/
lemma lastWith_isSome (h : w ∈ ws) : ∃ l, lastWith key (key w) ws = some l := by
  have hsome : (ws.reverse.find? fun w' => key w' = key w).isSome := by
    rw [List.find?_isSome]
    exact ⟨w, List.mem_reverse.mpr h, by simp⟩
  exact Option.isSome_iff_exists.mp hsome

/-- **Reading back.** Every write agrees with the last one under its key exactly when all writes under one
key agree. -/
theorem lastWith_agree_iff (f : α → β) :
    (∀ w ∈ ws, ∀ l, lastWith key (key w) ws = some l → f l = f w) ↔
      ∀ w ∈ ws, ∀ w' ∈ ws, key w = key w' → f w = f w' := by
  constructor
  · intro h w hw w' hw' hk
    obtain ⟨l, hl⟩ := lastWith_isSome key hw
    rw [← h w hw l hl, h w' hw' l (hk ▸ hl)]
  · intro h w hw l hl
    obtain ⟨hmem, hkey⟩ := lastWith_mem hl
    exact h l hmem w hw hkey

end Lib
