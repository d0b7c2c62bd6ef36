import Mathlib.Algebra.Order.Group.Int
import Mathlib.Data.List.Basic

/-!
# Records as text

A list of fields written into one text and read back. Every character of a field is preceded by a dot and
every field is closed by a bar, so nothing has to be escaped (`read_write`). Integers are tallies
(`readInt_writeInt`).
-/

namespace Lib.Fields

def write (fields : List (List Char)) : List Char :=
  fields.flatMap fun f => f.flatMap (fun c => ['.', c]) ++ ['|']

def read : List Char → List (List Char)
  | [] => []
  | '|' :: cs => [] :: read cs
  | '.' :: c :: cs =>
    match read cs with
    | [] => [[c]]
    | f :: fs => (c :: f) :: fs
  | _ :: cs => read cs

lemma read_field (f rest : List Char) :
    read (f.flatMap (fun c => ['.', c]) ++ '|' :: rest) = f :: read rest := by
  induction f with
  | nil => rw [List.flatMap_nil, List.nil_append, read]
  | cons c f ih =>
    simp only [List.flatMap_cons, List.cons_append, List.nil_append, read, ih]

/-- **Round trip.** -/
theorem read_write (fields : List (List Char)) : read (write fields) = fields := by
  induction fields with
  | nil => rfl
  | cons f fields ih =>
    unfold write at ih ⊢
    rw [List.flatMap_cons, List.append_assoc, List.singleton_append, read_field, ih]

def writeInt (z : ℤ) : List Char := List.replicate z.natAbs (if z < 0 then '-' else '+')

def readInt (cs : List Char) : ℤ := if '-' ∈ cs then -cs.length else cs.length

lemma readInt_writeInt (z : ℤ) : readInt (writeInt z) = z := by
  unfold readInt writeInt
  rcases lt_or_ge z 0 with hz | hz
  · have hmem : '-' ∈ List.replicate z.natAbs '-' := by
      rw [List.mem_replicate]
      exact ⟨by omega, rfl⟩
    rw [if_pos hz, if_pos hmem, List.length_replicate]
    omega
  · have hmem : '-' ∉ List.replicate z.natAbs '+' := by
      rw [List.mem_replicate]
      rintro ⟨-, h⟩
      cases h
    rw [if_neg (not_lt.mpr hz), if_neg hmem, List.length_replicate]
    omega

lemma head_write (f : List Char) (fs : List (List Char)) :
    (write (f :: fs)).head? = some '.' ∨ (write (f :: fs)).head? = some '|' := by
  cases f with
  | nil => exact .inr rfl
  | cons c cs => exact .inl rfl

lemma getLast_write {fs : List (List Char)} (h : fs ≠ []) : (write fs).getLast? = some '|' := by
  obtain ⟨fs, f, rfl⟩ := List.eq_nil_or_concat fs |>.resolve_left h
  simp [write]

end Lib.Fields
