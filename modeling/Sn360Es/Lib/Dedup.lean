import Mathlib.Data.List.Basic
import Mathlib.Data.List.Nodup

/-!
# A store that drops duplicates

Entries have a key. A store remembers some of its entries; an entry whose key is remembered is dropped.

* `Sound` — what is remembered is stored;
* `receive_covers` — an entry whose key is remembered only of entries that are as good as it is stored, or one as
  good as it is;
* `receiveAll_covers` — the same for a list of entries with distinct keys.
-/

namespace Lib.Dedup

structure Store (ε : Type*) where
  stored : List ε := []
  window : List ε := []

namespace Store

variable {ε κ : Type*} [DecidableEq κ] (key : ε → κ)

/-- An entry comes in. -/
def receive (s : Store ε) (e : ε) : Store ε :=
  if ∃ w ∈ s.window, key w = key e then s else ⟨s.stored ++ [e], s.window ++ [e]⟩

/-- Only some entries are still remembered. -/
def forget (keep : ε → Bool) (s : Store ε) : Store ε := { s with window := s.window.filter keep }

def receiveAll (s : Store ε) (es : List ε) : Store ε := es.foldl (receive key) s

def Sound (s : Store ε) : Prop := ∀ w ∈ s.window, w ∈ s.stored

variable {key} {s : Store ε} {e : ε} {es : List ε}

lemma forget_sound (h : s.Sound) (keep : ε → Bool) : (s.forget keep).Sound :=
  fun w hw => h w (List.mem_filter.mp hw).1

lemma mem_stored_receive {x : ε} (hx : x ∈ s.stored) : x ∈ (s.receive key e).stored := by
  unfold receive
  split
  · exact hx
  · exact List.mem_append_left _ hx

/-- What is stored or remembered after an entry came in was so before, or is the entry. -/
lemma stored_receive {x : ε} (hx : x ∈ (s.receive key e).stored) : x ∈ s.stored ∨ x = e := by
  unfold receive at hx
  split at hx
  · exact .inl hx
  · simpa using hx

lemma window_receive {w : ε} (hw : w ∈ (s.receive key e).window) : w ∈ s.window ∨ w = e := by
  unfold receive at hw
  split at hw
  · exact .inl hw
  · simpa using hw

lemma receive_sound (h : s.Sound) : (s.receive key e).Sound := by
  intro w hw
  unfold receive at hw ⊢
  split at hw
  · next hdup =>
    rw [if_pos hdup]
    exact h w hw
  · next hnew =>
    rw [if_neg hnew]
    rcases List.mem_append.mp hw with hold | hlast
    · exact List.mem_append_left _ (h w hold)
    · exact List.mem_append_right _ hlast

lemma receiveAll_sound (h : s.Sound) : (s.receiveAll key es).Sound := by
  induction es generalizing s with
  | nil => exact h
  | cons e es ih => exact ih (receive_sound h)

lemma mem_stored_receiveAll {x : ε} (hx : x ∈ s.stored) : x ∈ (s.receiveAll key es).stored := by
  induction es generalizing s with
  | nil => exact hx
  | cons e es ih => exact ih (mem_stored_receive hx)

lemma stored_receiveAll {x : ε} (hx : x ∈ (s.receiveAll key es).stored) : x ∈ s.stored ∨ x ∈ es := by
  induction es generalizing s with
  | nil => exact .inl hx
  | cons e es ih =>
    rcases ih hx with hmem | hmem
    · rcases stored_receive hmem with hold | rfl
      · exact .inl hold
      · exact .inr List.mem_cons_self
    · exact .inr (List.mem_cons_of_mem _ hmem)

section Covers

variable {R : ε → ε → Prop} (hrefl : ∀ e, R e e)

include hrefl

/-- **One entry.** -/
theorem receive_covers (hs : s.Sound) (hsafe : ∀ w ∈ s.window, key w = key e → R w e) :
    ∃ x ∈ (s.receive key e).stored, R x e := by
  unfold receive
  split
  · next hdup =>
    obtain ⟨w, hw, hkey⟩ := hdup
    exact ⟨w, hs w hw, hsafe w hw hkey⟩
  · exact ⟨e, List.mem_append_right _ List.mem_cons_self, hrefl e⟩

/-- **A list of entries** with distinct keys. -/
theorem receiveAll_covers (hs : s.Sound) (hkeys : (es.map key).Nodup)
    (hsafe : ∀ e ∈ es, ∀ w ∈ s.window, key w = key e → R w e) :
    ∀ e ∈ es, ∃ x ∈ (s.receiveAll key es).stored, R x e := by
  induction es generalizing s with
  | nil => simp
  | cons e es ih =>
    rw [List.map_cons, List.nodup_cons] at hkeys
    intro e' he'
    rcases List.mem_cons.mp he' with rfl | hmem
    · obtain ⟨x, hx, hR⟩ := receive_covers hrefl hs (hsafe e' List.mem_cons_self)
      have hstay : x ∈ ((s.receive key e').receiveAll key es).stored := mem_stored_receiveAll hx
      exact ⟨x, hstay, hR⟩
    · refine ih (receive_sound hs) hkeys.2 ?_ e' hmem
      intro f hf w hw hkey
      rcases window_receive hw with hold | rfl
      · exact hsafe f (List.mem_cons_of_mem _ hf) w hold hkey
      · exact absurd (hkey ▸ List.mem_map_of_mem hf) hkeys.1

end Covers

end Store

end Lib.Dedup
