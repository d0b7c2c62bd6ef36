import Mathlib.Data.List.Nodup

/-!
# Ideal authenticated encryption

A table of what was sealed stands for the cipher: `opens` gives the plaintext back exactly for the key, the nonce and
the associated data of the entry with the ciphertext. Ciphertexts are chosen by the environment, and are never used
again.

* `opens_eq` — opening a ciphertext of the table.
-/

namespace Lib.Aead

variable {κ ν α π γ : Type*} [DecidableEq κ] [DecidableEq ν] [DecidableEq α] [DecidableEq γ]

/-- What was sealed. -/
structure Seal (κ ν α π γ : Type*) where
  key : κ
  nonce : ν
  data : α
  plaintext : π
  ciphertext : γ

/-- `Open`. -/
def opens (seals : List (Seal κ ν α π γ)) (key : κ) (nonce : ν) (data : α) (ciphertext : γ) : Option π :=
  (seals.find? fun s => s.key = key ∧ s.nonce = nonce ∧ s.data = data ∧ s.ciphertext = ciphertext).map Seal.plaintext

/-- The ciphertext was not used yet. -/
def fresh (seals : List (Seal κ ν α π γ)) (ciphertext : γ) : Bool := seals.all fun s => s.ciphertext ≠ ciphertext

/-- No ciphertext was used twice. -/
def Ideal (seals : List (Seal κ ν α π γ)) : Prop := (seals.map Seal.ciphertext).Nodup

variable {seals : List (Seal κ ν α π γ)} {s : Seal κ ν α π γ} {key : κ} {nonce : ν} {data : α}

omit [DecidableEq κ] [DecidableEq ν] [DecidableEq α] in
lemma Ideal.concat (h : Ideal seals) (hfresh : fresh seals s.ciphertext = true) : Ideal (seals ++ [s]) := by
  unfold Ideal
  rw [List.map_append, List.nodup_append]
  refine ⟨h, List.nodup_singleton _, fun c hc c' hc' heq => ?_⟩
  obtain ⟨s', hs', rfl⟩ := List.mem_map.mp hc
  rw [List.map_singleton, List.mem_singleton] at hc'
  have hne := List.all_eq_true.mp hfresh s' hs'
  exact absurd (heq.trans hc') (of_decide_eq_true hne)

/-- **Opening** succeeds exactly with the key, the nonce and the associated data of the seal. -/
lemma opens_eq (h : Ideal seals) (hs : s ∈ seals) : opens seals key nonce data s.ciphertext =
    if key = s.key ∧ nonce = s.nonce ∧ data = s.data then some s.plaintext else none := by
  unfold opens
  split
  · next hkey =>
    obtain ⟨rfl, rfl, rfl⟩ := hkey
    cases hfind : seals.find? fun s' => s'.key = s.key ∧ s'.nonce = s.nonce ∧ s'.data = s.data ∧
        s'.ciphertext = s.ciphertext with
    | none => exact absurd (List.find?_eq_none.mp hfind s hs) (by simp)
    | some s' =>
      have hmatch := List.find?_some hfind
      have hct : s'.ciphertext = s.ciphertext := (of_decide_eq_true hmatch).2.2.2
      rw [List.inj_on_of_nodup_map h (List.mem_of_find?_eq_some hfind) hs hct]
      rfl
  · next hkey =>
    have hnone : (seals.find? fun s' => s'.key = key ∧ s'.nonce = nonce ∧ s'.data = data ∧
        s'.ciphertext = s.ciphertext) = none := by
      refine List.find?_eq_none.mpr fun s' hs' hmatch => hkey ?_
      obtain ⟨rfl, rfl, rfl, hct⟩ := of_decide_eq_true hmatch
      rw [List.inj_on_of_nodup_map h hs' hs hct]
      exact ⟨rfl, rfl, rfl⟩
    rw [hnone]
    rfl

end Lib.Aead
