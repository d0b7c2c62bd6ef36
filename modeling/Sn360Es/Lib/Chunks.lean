import Mathlib.Data.List.Basic

/-!
# A list in chunks

* `chunks n l` — the pieces `l[0:n]`, `l[n:2n]`, …; the last one may be shorter;
* `flatten_chunks` — they make up the list.
-/

namespace Lib

variable {α : Type*}

/-- The pieces of `n` elements, and the rest. -/
def chunks (n : ℕ) (l : List α) : List (List α) :=
  (List.range ((l.length + n - 1) / n)).map fun i => (l.drop (i * n)).take n

variable {n : ℕ} {l : List α}

private lemma flatten_pieces (l : List α) (k : ℕ) :
    ((List.range k).map fun i => (l.drop (i * n)).take n).flatten = l.take (k * n) := by
  induction k with
  | zero => simp
  | succ k ih =>
    rw [List.range_succ, List.map_append, List.flatten_append, ih, Nat.succ_mul, List.take_add]
    simp

lemma flatten_chunks (hn : 0 < n) (l : List α) : (chunks n l).flatten = l := by
  have hceil : l.length ≤ (l.length + n - 1) / n * n := by
    have hdiv := Nat.div_add_mod (l.length + n - 1) n
    have hmod := Nat.mod_lt (l.length + n - 1) hn
    rw [Nat.mul_comm] at hdiv
    omega
  rw [chunks, flatten_pieces, List.take_of_length_le hceil]

/-- A list that fits into one piece. -/
lemma chunks_of_length_le (hl : l ≠ []) (h : l.length ≤ n) : chunks n l = [l] := by
  have hpos : 0 < l.length := List.length_pos_of_ne_nil hl
  have hone : (l.length + n - 1) / n = 1 := Nat.div_eq_of_lt_le (by omega) (by omega)
  rw [chunks, hone]
  simp [List.take_of_length_le h]

end Lib
