import Mathlib.Data.List.Basic
import Mathlib.Data.List.Nodup

/-!
# Journals written block by block

`Written R ks log`: `log` is one block after another, one block per key of `ks`, and the block of `k` is one
that `R k` allows. When the entries of a block carry its key and no key comes twice, the entries that carry
`k` are exactly the block of `k` (`Written.project`), so what holds of blocks holds of the journal seen from
one key.
-/

namespace Lib

/-- A journal made of one block per key. -/
inductive Written {κ α : Type*} (R : κ → List α → Prop) : List κ → List α → Prop
  | nil : Written R [] []
  | cons {k : κ} {ks : List κ} {b log : List α} (hb : R k b) (h : Written R ks log) :
      Written R (k :: ks) (b ++ log)

namespace Written

variable {κ α : Type*} {R : κ → List α → Prop} {ks ks' : List κ} {log log' : List α} {k : κ}

lemma single {b : List α} (hb : R k b) : Written R [k] b := by
  simpa using Written.cons hb Written.nil

lemma append (h : Written R ks log) (h' : Written R ks' log') :
    Written R (ks ++ ks') (log ++ log') := by
  induction h with
  | nil => exact h'
  | cons hb _ ih =>
    rw [List.append_assoc, List.cons_append]
    exact .cons hb ih

/-- Every entry belongs to one of the keys. -/
lemma tag_mem {tag : α → κ} (htag : ∀ k b, R k b → ∀ a ∈ b, tag a = k) (h : Written R ks log) :
    ∀ a ∈ log, tag a ∈ ks := by
  induction h with
  | nil => exact fun a ha => absurd ha List.not_mem_nil
  | cons hb _ ih =>
    intro a ha
    rcases List.mem_append.mp ha with h | h
    · exact List.mem_cons.mpr (Or.inl (htag _ _ hb a h))
    · exact List.mem_cons_of_mem _ (ih a h)

/-- **The journal seen from one key** is the block of that key. -/
theorem project [DecidableEq κ] {tag : α → κ} (htag : ∀ k b, R k b → ∀ a ∈ b, tag a = k)
    (h : Written R ks log) (hnd : ks.Nodup) (hk : k ∈ ks) :
    R k (log.filter fun a => tag a = k) := by
  induction h with
  | nil => exact absurd hk List.not_mem_nil
  | @cons k' ks b log hb hlog ih =>
    obtain ⟨hnot, hnd'⟩ := List.nodup_cons.mp hnd
    rw [List.filter_append]
    rcases List.mem_cons.mp hk with rfl | hk'
    · -- the head block is kept whole, and nothing behind it carries its key
      have hkeep : b.filter (fun a => tag a = k) = b :=
        List.filter_eq_self.mpr fun a ha => decide_eq_true (htag _ _ hb a ha)
      have hdrop : log.filter (fun a => tag a = k) = [] := by
        refine List.filter_eq_nil_iff.mpr fun a ha hka => hnot ?_
        have := hlog.tag_mem htag a ha
        rwa [of_decide_eq_true hka] at this
      rw [hkeep, hdrop, List.append_nil]
      exact hb
    · have hdrop : b.filter (fun a => tag a = k) = [] := by
        refine List.filter_eq_nil_iff.mpr fun a ha hka => hnot ?_
        rw [← htag _ _ hb a ha, of_decide_eq_true hka]
        exact hk'
      rw [hdrop, List.nil_append]
      exact ih hnd' hk'

end Written

end Lib
