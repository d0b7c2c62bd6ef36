import Mathlib.Data.List.Sort
import Mathlib.Logic.Function.Basic

/-!
# Tallies and their ranking

A list of weighted votes is summed into a map (`tally`), and the keys of the map are ranked by descending
weight, ties by a fixed position (`rank`). Nothing is assumed of the addition, so it may round.

* `tally_apply` — the entry of a key is the sum of its own votes, in their order;
* `rank_perm` — the ranking does not depend on the order in which the keys are listed;
* `rank_head` — the first key beats every other one.
-/

namespace Lib

section Tally

variable {κ F : Type*} [DecidableEq κ] [Zero F] [Add F]

/-- `m[k] += w` on a map whose missing entries read as zero. -/
def bump (m : κ → Option F) (v : κ × F) : κ → Option F :=
  Function.update m v.1 (some ((m v.1).getD 0 + v.2))

def tally (vs : List (κ × F)) : κ → Option F := vs.foldl bump fun _ => none

/-- The votes for `k`, summed in their order onto `z`. -/
def bucketFrom (z : F) (vs : List (κ × F)) (k : κ) : F :=
  ((vs.filter (·.1 = k)).map Prod.snd).foldl (· + ·) z

def bucket (vs : List (κ × F)) (k : κ) : F := bucketFrom 0 vs k

omit [Zero F] in
lemma bucketFrom_cons (z : F) (v : κ × F) (vs : List (κ × F)) (k : κ) :
    bucketFrom z (v :: vs) k = bucketFrom (if v.1 = k then z + v.2 else z) vs k := by
  unfold bucketFrom
  by_cases h : v.1 = k
  · simp [h]
  · simp [h]

lemma foldl_bump_apply (vs : List (κ × F)) : ∀ (m : κ → Option F) (k : κ), vs.foldl bump m k =
    if k ∈ vs.map Prod.fst then some (bucketFrom ((m k).getD 0) vs k) else m k := by
  induction vs with
  | nil => intro m k; simp
  | cons v vs ih =>
    intro m k
    rw [List.foldl_cons, ih, bucketFrom_cons, List.map_cons]
    by_cases hk : k = v.1
    · subst hk
      by_cases hmem : v.1 ∈ vs.map Prod.fst
      · simp [bump, hmem]
      · -- the last vote for its key: nothing is left to add
        have hnil : vs.filter (·.1 = v.1) = [] := by
          rw [List.filter_eq_nil_iff]
          intro x hx
          have := fun h => hmem (List.mem_map.mpr ⟨x, hx, h⟩)
          simpa using this
        simp only [List.mem_cons_self, if_true, if_neg hmem]
        simp [bump, bucketFrom, hnil]
    · have hv : v.1 ≠ k := fun h => hk h.symm
      have hmem : k ∈ v.1 :: vs.map Prod.fst ↔ k ∈ vs.map Prod.fst := by simp [hk]
      simp only [bump, Function.update_of_ne hk, if_neg hv, hmem]

theorem tally_apply (vs : List (κ × F)) (k : κ) :
    tally vs k = if k ∈ vs.map Prod.fst then some (bucket vs k) else none :=
  foldl_bump_apply vs _ k

lemma tally_isSome {vs : List (κ × F)} {k : κ} : (tally vs k).isSome ↔ k ∈ vs.map Prod.fst := by
  rw [tally_apply]
  split_ifs with h <;> simp [h]

lemma tally_getD {vs : List (κ × F)} {k : κ} (h : k ∈ vs.map Prod.fst) :
    (tally vs k).getD 0 = bucket vs k := by
  rw [tally_apply, if_pos h]
  rfl

end Tally

section Rank

variable {κ F : Type*} [LinearOrder F] (pos : κ → ℕ) (f : κ → F)

/-- `a` weighs more than `b`, or as much and stands before it. -/
def Beats (a b : κ) : Prop := f b < f a ∨ f b = f a ∧ pos a < pos b

instance (a b : κ) : Decidable (Beats pos f a b) :=
  inferInstanceAs (Decidable (_ ∨ _ ∧ _))

/-- The order of the ranking: `a` may stand before `b`. -/
def RankLe (a b : κ) : Prop := f b < f a ∨ f b = f a ∧ pos a ≤ pos b

instance : DecidableRel (RankLe pos f) := fun _ _ => inferInstanceAs (Decidable (_ ∨ _ ∧ _))

/-- The stable sort of the keys. -/
def rank (keys : List κ) : List κ := keys.insertionSort (RankLe pos f)

instance : IsTrans κ (RankLe pos f) where
  trans a b c hab hbc := by
    rcases hab with hab | ⟨hab, pab⟩ <;> rcases hbc with hbc | ⟨hbc, pbc⟩
    · exact Or.inl (hbc.trans hab)
    · exact Or.inl (hbc ▸ hab)
    · exact Or.inl (hab ▸ hbc)
    · exact Or.inr ⟨hbc.trans hab, pab.trans pbc⟩

instance : Std.Total (RankLe pos f) where
  total a b := by
    rcases lt_trichotomy (f a) (f b) with h | h | h
    · exact Or.inr (Or.inl h)
    · rcases le_total (pos a) (pos b) with hp | hp
      · exact Or.inl (Or.inr ⟨h.symm, hp⟩)
      · exact Or.inr (Or.inr ⟨h, hp⟩)
    · exact Or.inl (Or.inl h)

lemma rank_pairwise (keys : List κ) : (rank pos f keys).Pairwise (RankLe pos f) :=
  List.pairwise_insertionSort _ keys

variable {pos f}

lemma mem_rank {keys : List κ} {k : κ} : k ∈ rank pos f keys ↔ k ∈ keys :=
  List.mem_insertionSort _

lemma beats_of_rankLe (hpos : Function.Injective pos) {a b : κ} (h : RankLe pos f a b)
    (hne : a ≠ b) : Beats pos f a b := by
  rcases h with h | ⟨h, hp⟩
  · exact Or.inl h
  · exact Or.inr ⟨h, lt_of_le_of_ne hp fun e => hne (hpos e)⟩

lemma Beats.asymm {a b : κ} (h : Beats pos f a b) : ¬ Beats pos f b a := by
  rintro (h' | ⟨h', hp'⟩) <;> rcases h with h | ⟨h, hp⟩
  · exact lt_asymm h h'
  · exact h'.ne h.symm
  · exact h.ne h'.symm
  · exact lt_asymm hp hp'

/-- **The winner.** The first key of a ranking beats every other key. -/
theorem rank_head (hpos : Function.Injective pos) {keys rest : List κ} {p : κ}
    (h : rank pos f keys = p :: rest) : p ∈ keys ∧ ∀ k ∈ keys, k ≠ p → Beats pos f p k := by
  have hsorted := rank_pairwise pos f keys
  rw [h, List.pairwise_cons] at hsorted
  refine ⟨mem_rank.mp (h ▸ List.mem_cons_self ..), fun k hk hne => ?_⟩
  have hk' : k ∈ p :: rest := h ▸ mem_rank.mpr hk
  rcases List.mem_cons.mp hk' with rfl | hk'
  · exact absurd rfl hne
  · exact beats_of_rankLe hpos (hsorted.1 k hk') hne.symm

/-- The ranking is a function of the set of keys, whatever order a map hands them out in. -/
theorem rank_perm (hpos : Function.Injective pos) {keys keys' : List κ} (h : keys.Perm keys') :
    rank pos f keys = rank pos f keys' := by
  refine List.Perm.eq_of_pairwise ?_ (rank_pairwise pos f keys) (rank_pairwise pos f keys') ?_
  · intro a b _ _ hab hba
    by_contra hne
    exact (beats_of_rankLe hpos hab hne).asymm (beats_of_rankLe hpos hba fun e => hne e.symm)
  · exact (List.perm_insertionSort _ keys).trans (h.trans (List.perm_insertionSort _ keys').symm)

end Rank

end Lib
