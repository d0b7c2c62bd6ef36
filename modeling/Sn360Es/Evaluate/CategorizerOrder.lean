import Sn360Es.Evaluate.Categorizer

/-!
# The categoriser and the order of a map

`Categorise` goes over the map of buckets twice, once to rank the categories and once to collect the reasons, and each
time the map hands out its keys in an order of its own. `categoriseIn` is `Categorise` under two such orders. The
ranking sorts the keys, the reasons are left as they come.

* `decideIn_eq` — the primary and the secondaries do not depend on the order;
* `secondary_spec` — what the secondaries are;
* `categorise_any_order_iff` — the reasons do not exactly if at most one bucket is positive.
-/

namespace Sn360Es.Evaluate

open Lib

namespace RuleCategorizer

variable (c : RuleCategorizer) (r : EvaluateResult) (sig : RiskSignals)

/-- The keys of the map of buckets, in the order of `AllCategories`. -/
def bucketKeys : List Category := Category.all.filter fun k => (tally (c.votes r sig) k).isSome

/-- `Decide`, with the keys in the order `keys` when they are ranked. -/
def decideIn (keys : List Category) : CategorisationDecision :=
  if sig.isInternal then { primary := .internalTrusted }
  else if sig.isFromVendor then { primary := .vendorTrusted }
  else if sig.isRecurringService then { primary := .newsletter }
  else
    let scores := tally (c.votes r sig)
    match rank Category.order (fun k => (scores k).getD 0) keys with
    | [] => { primary := .firstContactExternal, weights := scores }
    | p :: rest => { primary := p, secondary := (rest.filter (!·.isBenign)).take 2, weights := scores }

/-- `Categorise`, with the keys in the order `keys` when they are ranked and `keys'` when the reasons are collected. -/
def categoriseIn (keys keys' : List Category) : Category × List Category × List String :=
  let dec := c.decideIn r sig keys
  (dec.primary, dec.secondary, (keys'.filter fun k => 0 < (dec.weights k).getD 0).map Category.code)

variable {c r sig}

lemma decideIn_eq {keys : List Category} (h : keys.Perm (c.bucketKeys r sig)) :
    c.decideIn r sig keys = c.decide r sig := by
  have hrank := sortCategories_any_order (tally (c.votes r sig)) keys h
  cases hs : sortCategories (tally (c.votes r sig)) <;> simp only [decideIn, decide, hrank, hs]

lemma code_injective : Function.Injective Category.code := by
  have hnodup : (Category.all.map Category.code).Nodup := by decide +kernel
  intro a b h
  exact List.inj_on_of_nodup_map hnodup (Category.mem_all a) (Category.mem_all b) h

/-! ### The secondaries -/

/-- What a list of secondaries next to a primary is, for buckets `f`. -/
structure Secondaries (f : Category → Float64) (primary : Category) (secondary : List Category) : Prop where
  atMostTwo : secondary.length ≤ 2
  distinct : secondary.Nodup
  noBenign : ∀ k ∈ secondary, k.isBenign = false
  notPrimary : primary ∉ secondary
  sorted : secondary.Pairwise fun a b => f b ≤ f a

lemma secondaries_nil (f : Category → Float64) (primary : Category) : Secondaries f primary [] :=
  ⟨by simp, by simp, by simp, by simp, by simp⟩

lemma bucketKeys_nodup : (c.bucketKeys r sig).Nodup := by
  have hall : Category.all.Nodup := by decide
  exact hall.filter _

/-- They are a part of a ranking without repetitions. -/
lemma secondaries_of_rank {f : Category → Float64} {keys rest : List Category} {p : Category} (hkeys : keys.Nodup)
    (h : rank Category.order f keys = p :: rest) : Secondaries f p ((rest.filter (!·.isBenign)).take 2) := by
  have hnodup : (p :: rest).Nodup := by
    rw [← h]
    exact (List.perm_insertionSort _ keys).nodup_iff.mpr hkeys
  have hsorted := rank_pairwise Category.order f keys
  rw [h, List.pairwise_cons] at hsorted
  have hsub : ((rest.filter (!·.isBenign)).take 2).Sublist rest := (List.take_sublist _ _).trans List.filter_sublist
  obtain ⟨hp, hrest⟩ := List.nodup_cons.mp hnodup
  refine ⟨List.length_take_le _ _, hsub.nodup hrest, ?_, fun hmem => hp (hsub.subset hmem), ?_⟩
  · intro k hk
    simpa using (List.mem_filter.mp ((List.take_sublist _ _).subset hk)).2
  · refine (hsorted.2.sublist hsub).imp fun {a b} hab => ?_
    rcases hab with hlt | ⟨heq, -⟩
    · exact hlt.le
    · exact heq.le

/-- The bucket of a category, zero if nobody voted for it. -/
def bucketOf (c : RuleCategorizer) (r : EvaluateResult) (sig : RiskSignals) (k : Category) : Float64 :=
  (tally (c.votes r sig) k).getD 0

lemma secondary_spec : Secondaries (c.bucketOf r sig) (c.decide r sig).primary (c.decide r sig).secondary := by
  unfold decide
  split_ifs
  · exact secondaries_nil _ _
  · exact secondaries_nil _ _
  · exact secondaries_nil _ _
  · dsimp only
    split
    · exact secondaries_nil _ _
    · next p rest hrank => exact secondaries_of_rank bucketKeys_nodup hrank

/-! ### The reasons -/

/-- The weights that `Categorise` reads: the buckets, or none after a benign signal. -/
lemma decide_weights (k : Category) : (0 < ((c.decide r sig).weights k).getD 0) ↔
    NoBenignSignal sig ∧ 0 < c.bucketOf r sig k := by
  unfold decide NoBenignSignal
  by_cases h1 : sig.isInternal = true
  · simp [h1]
  by_cases h2 : sig.isFromVendor = true
  · simp [h1, h2]
  by_cases h3 : sig.isRecurringService = true
  · simp [h1, h2, h3]
  · simp only [h1, h2, h3]
    cases sortCategories (tally (c.votes r sig)) <;> simp [bucketOf]

variable (c r sig) in
/-- The categories with a positive bucket, in a given order. -/
def positive (keys : List Category) : List Category := keys.filter fun k => 0 < ((c.decide r sig).weights k).getD 0

lemma categoriseIn_eq {keys keys' : List Category} (h : keys.Perm (c.bucketKeys r sig)) :
    c.categoriseIn r sig keys keys' =
      ((c.decide r sig).primary, (c.decide r sig).secondary, (c.positive r sig keys').map Category.code) := by
  simp only [categoriseIn, decideIn_eq h, positive]

lemma mem_bucketKeys_of_pos {k : Category} (h : 0 < c.bucketOf r sig k) : k ∈ c.bucketKeys r sig := by
  refine List.mem_filter.mpr ⟨Category.mem_all k, ?_⟩
  unfold bucketOf at h
  cases ht : tally (c.votes r sig) k with
  | none => simp [ht] at h
  | some _ => rfl

/-- Two orders of the keys that put a positive `a` before and behind a positive `b`. -/
lemma exists_orders {a b : Category} (hab : a ≠ b) (ha : a ∈ c.bucketKeys r sig) (hb : b ∈ c.bucketKeys r sig) :
    ∃ rest, (a :: b :: rest).Perm (c.bucketKeys r sig) ∧ (b :: a :: rest).Perm (c.bucketKeys r sig) := by
  have hb' : b ∈ (c.bucketKeys r sig).erase a := (List.mem_erase_of_ne hab.symm).mpr hb
  refine ⟨((c.bucketKeys r sig).erase a).erase b, ?_, ?_⟩
  · exact (List.Perm.cons a (List.perm_cons_erase hb').symm).trans (List.perm_cons_erase ha).symm
  · exact (List.Perm.swap a b _).trans
      ((List.Perm.cons a (List.perm_cons_erase hb').symm).trans (List.perm_cons_erase ha).symm)

variable (c r sig) in
/-- No two categories have a positive bucket, or a benign signal leaves no bucket at all. -/
def AtMostOneReason : Prop :=
  NoBenignSignal sig → ∀ a b, 0 < c.bucketOf r sig a → 0 < c.bucketOf r sig b → a = b

lemma positive_eq_of_perm (h : c.AtMostOneReason r sig) {keys keys' : List Category}
    (hkeys : keys.Perm (c.bucketKeys r sig)) (hkeys' : keys'.Perm (c.bucketKeys r sig)) :
    c.positive r sig keys = c.positive r sig keys' := by
  have hperm : (c.positive r sig keys).Perm (c.positive r sig keys') := (hkeys.trans hkeys'.symm).filter _
  have hnodup : (c.positive r sig keys').Nodup := (hkeys'.nodup_iff.mpr bucketKeys_nodup).filter _
  have hone : ∀ a ∈ c.positive r sig keys', ∀ b ∈ c.positive r sig keys', a = b := by
    intro a ha b hb
    have ha' := of_decide_eq_true (List.mem_filter.mp ha).2
    have hb' := of_decide_eq_true (List.mem_filter.mp hb).2
    rw [decide_weights] at ha' hb'
    exact h ha'.1 a b ha'.2 hb'.2
  generalize c.positive r sig keys' = l at hperm hnodup hone
  match l, hperm, hnodup, hone with
  | [], hperm, _, _ => exact hperm.eq_nil
  | [a], hperm, _, _ => exact List.perm_singleton.mp hperm
  | a :: b :: l, _, hnodup, hone =>
    have hab : a = b := hone a (by simp) b (by simp)
    simp [hab] at hnodup

/-- The primary, the secondaries and the reasons are the same for all orders exactly if at most one bucket is positive;
the first two always are, and the secondaries are what they should be. -/
theorem categorise_any_order_iff (c : RuleCategorizer) (r : EvaluateResult) (sig : RiskSignals) :
    ((∀ keys keys' keys₁ keys₁' : List Category, keys.Perm (c.bucketKeys r sig) → keys'.Perm (c.bucketKeys r sig) →
        keys₁.Perm (c.bucketKeys r sig) → keys₁'.Perm (c.bucketKeys r sig) →
        c.categoriseIn r sig keys keys' = c.categoriseIn r sig keys₁ keys₁') ↔ c.AtMostOneReason r sig) ∧
    (∀ keys keys' keys₁ keys₁' : List Category, keys.Perm (c.bucketKeys r sig) → keys₁.Perm (c.bucketKeys r sig) →
      (c.categoriseIn r sig keys keys').1 = (c.categoriseIn r sig keys₁ keys₁').1 ∧
        (c.categoriseIn r sig keys keys').2.1 = (c.categoriseIn r sig keys₁ keys₁').2.1) ∧
    Secondaries (c.bucketOf r sig) (c.decide r sig).primary (c.decide r sig).secondary := by
  refine ⟨⟨?_, ?_⟩, ?_, secondary_spec⟩
  · intro h hb a b ha hb'
    by_contra hab
    obtain ⟨rest, h1, h2⟩ := exists_orders hab (mem_bucketKeys_of_pos ha) (mem_bucketKeys_of_pos hb')
    have heq := h _ _ _ _ (List.Perm.refl _) h1 (List.Perm.refl _) h2
    rw [categoriseIn_eq (List.Perm.refl _), categoriseIn_eq (List.Perm.refl _)] at heq
    have hposa : 0 < ((c.decide r sig).weights a).getD 0 := (decide_weights a).mpr ⟨hb, ha⟩
    have hposb : 0 < ((c.decide r sig).weights b).getD 0 := (decide_weights b).mpr ⟨hb, hb'⟩
    simp [positive, hposa, hposb] at heq
    exact hab (code_injective heq.1)
  · intro h keys keys' keys₁ keys₁' hk hk' hk₁ hk₁'
    rw [categoriseIn_eq hk, categoriseIn_eq hk₁, positive_eq_of_perm h hk' hk₁']
  · intro keys keys' keys₁ keys₁' hk hk₁
    rw [categoriseIn_eq hk, categoriseIn_eq hk₁]
    exact ⟨rfl, rfl⟩

end RuleCategorizer

open RuleCategorizer in
/-- A suspicious link is also a nudge towards phishing: the two reasons come in either order. -/
theorem reasons_come_in_any_order :
    let c := newRuleCategorizer
    let sig : RiskSignals := { hasSuspiciousURL := true }
    [Category.suspiciousURL, .likelyPhishing].Perm (c.bucketKeys {} sig) ∧
      c.bucketKeys {} sig = [.likelyPhishing, .suspiciousURL] ∧
      c.categoriseIn {} sig (c.bucketKeys {} sig) [.suspiciousURL, .likelyPhishing] ≠
        c.categoriseIn {} sig (c.bucketKeys {} sig) [.likelyPhishing, .suspiciousURL] := by
  refine ⟨?_, rfl, ?_⟩
  · exact List.Perm.swap _ _ _
  · decide +kernel

end Sn360Es.Evaluate
