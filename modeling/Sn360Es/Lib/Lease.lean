import Mathlib.Logic.Basic

/-!
# Resources on lease

A table of resources, each of them free or held under one key, with some data of the holder.

* `Exclusive` — no resource is held twice, and none that is held is free;
* `Exclusive.take`, `Exclusive.give` — taking a free resource and giving one back keep the table so;
* `held_take`, `held_give` — what is held afterwards: the holders of the other resources are as they were.
-/

namespace Lib.Lease

variable {κ ρ β : Type*}

/-- A table of resources. -/
structure Table (κ ρ β : Type*) where
  free : ρ → Bool
  held : κ → Option (ρ × β)

/-- All resources are free. -/
def Table.new : Table κ ρ β := ⟨fun _ => true, fun _ => none⟩

/-- What is held is held once. -/
structure Exclusive (t : Table κ ρ β) : Prop where
  busy : ∀ k r b, t.held k = some (r, b) → t.free r = false
  alone : ∀ k k' r b b', t.held k = some (r, b) → t.held k' = some (r, b') → k = k'

lemma exclusive_new : Exclusive (Table.new : Table κ ρ β) where
  busy _ _ _ h := by cases h
  alone _ _ _ _ _ h := by cases h

variable [DecidableEq κ] [DecidableEq ρ]

namespace Table

variable (t : Table κ ρ β)

/-- The resource `r` is held under `k`. -/
def take (k : κ) (r : ρ) (b : β) : Table κ ρ β where
  free r' := if r' = r then false else t.free r'
  held k' := if k' = k then some (r, b) else t.held k'

/-- The resource `r`, which was held under `k`, is free again. -/
def give (k : κ) (r : ρ) : Table κ ρ β where
  free r' := if r' = r then true else t.free r'
  held k' := if k' = k then none else t.held k'

end Table

section Moves

variable {t : Table κ ρ β} {k k' : κ} {r r' : ρ} {b b' : β}

/-- What is held after a resource was taken. -/
lemma Exclusive.held_take (h : Exclusive t) (hfree : t.free r = true) (hheld : (t.take k r b).held k' = some (r', b')) :
    (k' = k ∧ r' = r ∧ b' = b) ∨ (k' ≠ k ∧ r' ≠ r ∧ t.held k' = some (r', b')) := by
  simp only [Table.take] at hheld
  split at hheld
  · next hk =>
    obtain ⟨rfl, rfl⟩ := Prod.mk.inj (Option.some.inj hheld)
    exact .inl ⟨hk, rfl, rfl⟩
  · next hk =>
    refine .inr ⟨hk, ?_, hheld⟩
    rintro rfl
    exact absurd (h.busy _ _ _ hheld) (by rw [hfree]; decide)

/-- What is held after a resource was given back. -/
lemma Exclusive.held_give (h : Exclusive t) (hr : t.held k = some (r, b))
    (hheld : (t.give k r).held k' = some (r', b')) : k' ≠ k ∧ r' ≠ r ∧ t.held k' = some (r', b') := by
  simp only [Table.give] at hheld
  split at hheld
  · cases hheld
  · next hk =>
    refine ⟨hk, ?_, hheld⟩
    rintro rfl
    exact hk (h.alone _ _ _ _ _ hheld hr)

lemma Exclusive.take (h : Exclusive t) (hfree : t.free r = true) : Exclusive (t.take k r b) where
  busy k₁ r₁ b₁ h₁ := by
    obtain ⟨-, rfl, -⟩ | ⟨-, hr, hold⟩ := h.held_take hfree h₁
    · exact if_pos rfl
    · exact (if_neg hr).trans (h.busy _ _ _ hold)
  alone k₁ k₂ r₁ b₁ b₂ h₁ h₂ := by
    obtain ⟨rfl, rfl, -⟩ | ⟨-, hr, hold⟩ := h.held_take hfree h₁
    · obtain ⟨rfl, -, -⟩ | ⟨-, hr, -⟩ := h.held_take hfree h₂
      · rfl
      · exact absurd rfl hr
    · obtain ⟨-, rfl, -⟩ | ⟨-, -, hold'⟩ := h.held_take hfree h₂
      · exact absurd rfl hr
      · exact h.alone _ _ _ _ _ hold hold'

lemma Exclusive.give (h : Exclusive t) (hr : t.held k = some (r, b)) : Exclusive (t.give k r) where
  busy k₁ r₁ b₁ h₁ := by
    obtain ⟨-, hne, hold⟩ := h.held_give hr h₁
    exact (if_neg hne).trans (h.busy _ _ _ hold)
  alone k₁ k₂ r₁ b₁ b₂ h₁ h₂ := by
    obtain ⟨-, -, hold⟩ := h.held_give hr h₁
    obtain ⟨-, -, hold'⟩ := h.held_give hr h₂
    exact h.alone _ _ _ _ _ hold hold'

end Moves

end Lib.Lease
