import Sn360Es.Action.TierDecider
import Sn360Es.Lib.GoStrings
import Sn360Es.Lib.Tally

/-!
# The rule-based categoriser (`internal/service/evaluate/categorizer.go`)

`Decide` short-circuits on the three benign signals and otherwise sums weighted votes into one bucket per
category: votes of the signals, of the categories Tier 2 named, and of the reason codes. The heaviest bucket
is the primary category. Benign categories can be voted for by Tier 2 only.

* `decide_primary` — the primary category beats every other category that was voted for;
* `NoBenignOverride` — the condition, on the inputs of `Decide`, under which the tier decider does not fall
  below the plain score mapping; `decideTier_severity_iff` says that it is exact.
-/

namespace Sn360Es.Evaluate

open Lib Sn360Es.Action
open Lib.GoStrings (contains)

structure CategoryWeights where
  highScoreThreshold : ℤ
  highScoreWeight : Float64
  firstContactWeight : Float64
  lookalikeDomainWeight : Float64
  lookalikeBECNudge : Float64
  suspiciousURLWeight : Float64
  suspiciousURLPhishingNudge : Float64
  suspiciousAttachmentWeight : Float64
  qrPhishingWeight : Float64
  invoiceFraudWeight : Float64
  invoiceLookalikeBoost : Float64
  credentialHarvestingWeight : Float64
  authFailedWeight : Float64
  authFailedPhishingNudge : Float64
  accountTakeoverWeight : Float64
  vendorCompromiseWeight : Float64
  llmCategoryWeight : Float64
  reasonCodeNudge : Float64
  deriving DecidableEq, Repr

def defaultCategoryWeights : CategoryWeights where
  highScoreThreshold := 70
  highScoreWeight := .ofInt 3
  firstContactWeight := .ofInt 2
  lookalikeDomainWeight := .ofInt 4
  lookalikeBECNudge := .ofInt 1
  suspiciousURLWeight := .ofInt 3
  suspiciousURLPhishingNudge := .ofInt 1
  suspiciousAttachmentWeight := .ofInt 3
  qrPhishingWeight := .ofInt 4
  invoiceFraudWeight := .ofInt 2
  invoiceLookalikeBoost := .ofInt 2
  credentialHarvestingWeight := .ofInt 3
  authFailedWeight := .ofInt 2
  authFailedPhishingNudge := .ofInt 1
  accountTakeoverWeight := .ofInt 4
  vendorCompromiseWeight := .ofInt 4
  llmCategoryWeight := .ofRat (3 / 2)
  reasonCodeNudge := .ofRat (1 / 2)

/-- A categoriser. `toLower` stands for `strings.ToLower`; nothing below depends on its tables. -/
structure RuleCategorizer where
  weights : CategoryWeights
  toLower : String → String

structure CategorisationDecision where
  primary : Category
  secondary : List Category := []
  weights : Category → Option Float64 := fun _ => none

/-- The votes of one rule, if its guard holds. -/
def votesIf (guard : Bool) (vs : List (Category × Float64)) : List (Category × Float64) :=
  if guard then vs else []

namespace RuleCategorizer

variable (c : RuleCategorizer)

/-- The votes of the score and the signals, one entry per `scores[…] += …` of the source. -/
def ruleVotes (score : ℤ) (sig : RiskSignals) : List (Category × Float64) :=
  let w := c.weights
  [votesIf (w.highScoreThreshold ≤ score) [(.likelyPhishing, w.highScoreWeight)],
    votesIf (sig.isExternal && sig.relationshipCategory = .firstTimeExternal)
      [(.firstContactExternal, w.firstContactWeight)],
    votesIf sig.hasLookalikeDomain
      [(.lookalikeDomain, w.lookalikeDomainWeight), (.becImpersonation, w.lookalikeBECNudge)],
    votesIf sig.hasSuspiciousURL
      [(.suspiciousURL, w.suspiciousURLWeight), (.likelyPhishing, w.suspiciousURLPhishingNudge)],
    votesIf sig.hasSuspiciousAttachment [(.suspiciousAttachment, w.suspiciousAttachmentWeight)],
    votesIf sig.hasQRCode [(.qrPhishing, w.qrPhishingWeight)],
    votesIf sig.hasInvoiceHint [(.invoiceFraud, w.invoiceFraudWeight)],
    votesIf (sig.hasInvoiceHint && sig.hasLookalikeDomain)
      [(.invoiceFraud, w.invoiceLookalikeBoost)],
    votesIf sig.hasCredentialLex [(.credentialHarvesting, w.credentialHarvestingWeight)],
    votesIf sig.authFailed
      [(.authFailed, w.authFailedWeight), (.likelyPhishing, w.authFailedPhishingNudge)],
    votesIf sig.looksLikeAccountTakeover [(.accountTakeoverSuspected, w.accountTakeoverWeight)],
    votesIf sig.looksLikeVendorCompromise [(.vendorCompromise, w.vendorCompromiseWeight)]].flatten

/-- The votes of Tier 2: one per mention, repetitions included. -/
def llmVotes (tier2 : Option Tier2Outcome) : List (Category × Float64) :=
  match tier2 with
  | none => []
  | some t2 => t2.categories.map fun cat => (cat, c.weights.llmCategoryWeight)

/-- The category a reason code nudges, if any. -/
def reasonCategory (code : String) : Option Category :=
  let code := c.toLower code
  if contains code "phish" then some .likelyPhishing
  else if contains code "bec" || contains code "imperson" then some .becImpersonation
  else if contains code "scam" || contains code "fraud" then some .scamFraud
  else if contains code "cred" || contains code "harvest" then some .credentialHarvesting
  else none

def reasonVotes (codes : List String) : List (Category × Float64) :=
  codes.filterMap fun code => (c.reasonCategory code).map fun cat => (cat, c.weights.reasonCodeNudge)

/-- Every vote of `Decide` past the benign gates, in the order of the source. -/
def votes (r : EvaluateResult) (sig : RiskSignals) : List (Category × Float64) :=
  c.ruleVotes r.score sig ++ c.llmVotes r.tier2 ++ c.reasonVotes r.reasonCodes

end RuleCategorizer

/-- `sortCategories`, with the keys of the map listed in the order of `AllCategories`. -/
def sortCategories (scores : Category → Option Float64) : List Category :=
  rank Category.order (fun c => (scores c).getD 0) (Category.all.filter fun c => (scores c).isSome)

/-- Whatever order the map hands its keys out in, the sort puts them in the same order. -/
theorem sortCategories_any_order (scores : Category → Option Float64) (keys : List Category)
    (h : keys.Perm (Category.all.filter fun c => (scores c).isSome)) :
    rank Category.order (fun c => (scores c).getD 0) keys = sortCategories scores :=
  rank_perm Category.order_injective h

/-- `RuleCategorizer.Decide`. -/
def RuleCategorizer.decide (c : RuleCategorizer) (r : EvaluateResult) (sig : RiskSignals) :
    CategorisationDecision :=
  if sig.isInternal then { primary := .internalTrusted }
  else if sig.isFromVendor then { primary := .vendorTrusted }
  else if sig.isRecurringService then { primary := .newsletter }
  else
    let scores := tally (c.votes r sig)
    match sortCategories scores with
    | [] => { primary := .firstContactExternal, weights := scores }
    | p :: rest => { primary := p, secondary := (rest.filter (!·.isBenign)).take 2, weights := scores }

/-- `RuleCategorizer.Categorise`. The reasons come out of a map in no particular order; here in the order
of `AllCategories`. -/
def RuleCategorizer.categorise (c : RuleCategorizer) (r : EvaluateResult) (sig : RiskSignals) :
    Category × List Category × List String :=
  let dec := c.decide r sig
  (dec.primary, dec.secondary,
    (Category.all.filter fun cat => 0 < (dec.weights cat).getD 0).map Category.code)

/-! ### The winner of the tally -/

section Winner

variable {c : RuleCategorizer} {r : EvaluateResult} {sig : RiskSignals}

/-- None of the three signals that short-circuit `Decide`. -/
def NoBenignSignal (sig : RiskSignals) : Prop :=
  sig.isInternal = false ∧ sig.isFromVendor = false ∧ sig.isRecurringService = false

/-- The categories that were voted for. -/
def voted (c : RuleCategorizer) (r : EvaluateResult) (sig : RiskSignals) : List Category :=
  (c.votes r sig).map Prod.fst

/-- `a` has the heavier bucket than `b`, or as heavy a one and the earlier place. -/
def Outvotes (c : RuleCategorizer) (r : EvaluateResult) (sig : RiskSignals) (a b : Category) : Prop :=
  Beats Category.order (bucket (c.votes r sig)) a b

lemma beats_tally {vs : List (Category × Float64)} {a b : Category} (ha : a ∈ vs.map Prod.fst)
    (hb : b ∈ vs.map Prod.fst) :
    Beats Category.order (fun c => (tally vs c).getD 0) a b ↔ Beats Category.order (bucket vs) a b := by
  simp only [Beats, tally_getD ha, tally_getD hb]

/-- **The winner.** Without a benign signal the primary category was voted for and outvotes every other
one, or there was no vote at all. -/
theorem decide_primary (hb : NoBenignSignal sig) :
    (voted c r sig = [] ∧ (c.decide r sig).primary = .firstContactExternal) ∨
    ((c.decide r sig).primary ∈ voted c r sig ∧
      ∀ k ∈ voted c r sig, k ≠ (c.decide r sig).primary →
        Outvotes c r sig (c.decide r sig).primary k) := by
  have hkeys : ∀ k, k ∈ Category.all.filter (fun k => (tally (c.votes r sig) k).isSome) ↔
      k ∈ voted c r sig := by
    intro k
    rw [List.mem_filter, tally_isSome]
    exact and_iff_right (Category.mem_all k)
  obtain ⟨h1, h2, h3⟩ := hb
  unfold RuleCategorizer.decide
  simp only [h1, h2, h3, Bool.false_eq_true, if_false]
  cases hs : sortCategories (tally (c.votes r sig)) with
  | nil =>
    refine Or.inl ⟨List.eq_nil_iff_forall_not_mem.mpr fun k hk => ?_, rfl⟩
    have : k ∈ sortCategories (tally (c.votes r sig)) := mem_rank.mpr ((hkeys k).mpr hk)
    rw [hs] at this
    exact List.not_mem_nil this
  | cons p rest =>
    obtain ⟨hp, hbeats⟩ := rank_head Category.order_injective hs
    rw [hkeys] at hp
    refine Or.inr ⟨hp, fun k hk hne => ?_⟩
    exact (beats_tally hp hk).mp (hbeats k ((hkeys k).mpr hk) hne)

lemma isBenign_votesIf {guard : Bool} {vs : List (Category × Float64)}
    (h : ∀ v ∈ vs, v.1.isBenign = false) : ∀ v ∈ votesIf guard vs, v.1.isBenign = false := by
  unfold votesIf
  split_ifs
  · exact h
  · exact fun _ hv => absurd hv List.not_mem_nil

lemma isBenign_ruleVotes (score : ℤ) :
    ∀ v ∈ c.ruleVotes score sig, v.1.isBenign = false := by
  intro v hv
  simp only [RuleCategorizer.ruleVotes, List.flatten_cons, List.flatten_nil, List.mem_append,
    List.not_mem_nil, or_false] at hv
  rcases hv with h | h | h | h | h | h | h | h | h | h | h | h <;>
    exact isBenign_votesIf (by simp [Category.isBenign]) v h

lemma isBenign_reasonVotes {codes : List String} {v : Category × Float64}
    (h : v ∈ c.reasonVotes codes) : v.1.isBenign = false := by
  obtain ⟨code, -, hv⟩ := List.mem_filterMap.mp h
  obtain ⟨cat, hcat, rfl⟩ := Option.map_eq_some_iff.mp hv
  simp only [RuleCategorizer.reasonCategory] at hcat
  split_ifs at hcat <;> (cases hcat; rfl)

/-- The categories that Tier 2 named. -/
def named (r : EvaluateResult) : List Category := (r.tier2.map Tier2Outcome.categories).getD []

/-- A benign category is voted for exactly when Tier 2 names it. -/
lemma mem_voted_benign {b : Category} (hb : b.isBenign = true) :
    b ∈ voted c r sig ↔ b ∈ named r := by
  have hllm : b ∈ (c.llmVotes r.tier2).map Prod.fst ↔ b ∈ named r := by
    unfold RuleCategorizer.llmVotes named
    cases r.tier2 <;> simp
  rw [← hllm]
  unfold voted RuleCategorizer.votes
  rw [List.map_append, List.map_append, List.mem_append, List.mem_append]
  constructor
  · rintro ((h | h) | h)
    · obtain ⟨v, hv, rfl⟩ := List.mem_map.mp h
      rw [isBenign_ruleVotes _ v hv] at hb
      cases hb
    · exact h
    · obtain ⟨v, hv, rfl⟩ := List.mem_map.mp h
      rw [isBenign_reasonVotes hv] at hb
      cases hb
  · exact fun h => Or.inl (Or.inr h)

end Winner

/-! ### Verdicts below their score -/

section Override

variable (c : RuleCategorizer) (d : TierDecider) (r : EvaluateResult) (sig : RiskSignals)

/-- `RuleCategorizer.Decide` followed by `TierDecider.Decide`, as `tierDeciderAdapter` wires them. -/
def decideTier : Tier := tierDeciderAdapter (some d) r.score (some (c.decide r sig).primary) sig

/-- Tier 2 does not carry a benign verdict past the score: every benign category it names is outvoted by
another category, or forces a tier that the score does not exceed. -/
def NotCarried : Prop :=
  ∀ b ∈ named r, ∀ t ∈ overrideTier (some b),
    (∃ k ∈ voted c r sig, Outvotes c r sig k b) ∨ r.score < d.cutoff t

/-- The condition, on the inputs of the two functions, under which the category cannot lower the tier: a
score below the cutoff of the tier that the first benign signal forces, and, without such a signal,
`NotCarried`. -/
def NoBenignOverride : Prop :=
  if sig.isInternal || sig.isFromVendor then r.score < d.cutoff .trusted
  else if sig.isRecurringService then r.score < d.cutoff .informational
  else NotCarried c d r sig

lemma overrideTier_isBenign {k : Category} {t : Tier} (h : t ∈ overrideTier (some k)) :
    k.isBenign = true := by
  cases k <;> simp_all [overrideTier, Category.isBenign]

lemma override_iff_notCarried (hb : NoBenignSignal sig) :
    (∀ t ∈ overrideTier (some (c.decide r sig).primary), r.score < d.cutoff t) ↔
      NotCarried c d r sig := by
  constructor
  · intro h b hnamed t ht
    have hvoted : b ∈ voted c r sig := (mem_voted_benign (overrideTier_isBenign ht)).mpr hnamed
    by_cases hp : (c.decide r sig).primary = b
    · exact Or.inr (h t (hp ▸ ht))
    · rcases decide_primary (c := c) (r := r) hb with ⟨hnil, -⟩ | ⟨hmem, hwin⟩
      · rw [hnil] at hvoted
        exact absurd hvoted List.not_mem_nil
      · exact Or.inl ⟨_, hmem, hwin b hvoted fun e => hp e.symm⟩
  · intro h t ht
    rcases decide_primary (c := c) (r := r) hb with ⟨-, hp⟩ | ⟨hmem, hwin⟩
    · rw [hp] at ht
      cases ht
    · have hnamed := (mem_voted_benign (overrideTier_isBenign ht)).mp hmem
      rcases h _ hnamed t ht with ⟨k, hk, hbeats⟩ | hlt
      · by_cases hkp : k = (c.decide r sig).primary
        · exact absurd hbeats (hkp ▸ fun hself => hself.asymm hself)
        · exact absurd hbeats (hwin k hk hkp).asymm
      · exact hlt

/-- **Exactly when the category lowers the tier.** -/
theorem decideTier_severity_iff :
    (d.tierFromScore r.score).severity ≤ (decideTier c d r sig).severity ↔
      NoBenignOverride c d r sig := by
  rw [decideTier, decide_severity_iff]
  unfold NoBenignOverride
  by_cases h1 : sig.isInternal = true
  · simp [RuleCategorizer.decide, h1, overrideTier]
  by_cases h2 : sig.isFromVendor = true
  · simp [RuleCategorizer.decide, h1, h2, overrideTier]
  by_cases h3 : sig.isRecurringService = true
  · simp [RuleCategorizer.decide, h1, h2, h3, overrideTier]
  · have hb : NoBenignSignal sig := ⟨by simpa using h1, by simpa using h2, by simpa using h3⟩
    rw [override_iff_notCarried c d r sig hb]
    simp [h1, h2, h3]

/-- **Tier 2 and the tier.** Without a benign signal the verdict stays at least as severe as its score
exactly when Tier 2 does not carry a benign category past it. -/
theorem advisory_categories_severity_iff (hb : NoBenignSignal sig) :
    (d.tierFromScore r.score).severity ≤ (decideTier c d r sig).severity ↔ NotCarried c d r sig := by
  rw [decideTier_severity_iff]
  simp [NoBenignOverride, hb.1, hb.2.1, hb.2.2]

end Override

/-- The categoriser of `NewRuleCategorizer`, with `strings.ToLower` on ASCII text. -/
def newRuleCategorizer : RuleCategorizer := ⟨defaultCategoryWeights, String.toLower⟩

/-- A score in the Blocked band and one mention of `NEWSLETTER`: the phishing bucket outvotes it. -/
theorem advisory_categories_one_mention :
    (defaultTierDecider.tierFromScore 90).severity ≤
      (decideTier newRuleCategorizer defaultTierDecider
        { score := 90, tier2 := some { categories := [.newsletter] } } {}).severity := by
  refine (advisory_categories_severity_iff newRuleCategorizer defaultTierDecider
    { score := 90, tier2 := some { categories := [.newsletter] } } {} ⟨rfl, rfl, rfl⟩).mpr ?_
  intro b hb t ht
  refine Or.inl ⟨.likelyPhishing, by decide +kernel, ?_⟩
  obtain rfl : b = .newsletter := by simpa [named] using hb
  exact Or.inl (by decide +kernel)

/-- Three mentions outvote it, and a message that scores 90 is Informational. -/
theorem advisory_categories_three_mentions :
    ¬ ∀ (c : RuleCategorizer) (d : TierDecider) (r : EvaluateResult) (sig : RiskSignals),
        NoBenignSignal sig →
        (d.tierFromScore r.score).severity ≤ (decideTier c d r sig).severity := by
  intro h
  have h90 := h newRuleCategorizer defaultTierDecider
    { score := 90, tier2 := some { categories := [.newsletter, .newsletter, .newsletter] } } {}
    ⟨rfl, rfl, rfl⟩
  exact absurd h90 (by decide +kernel)

end Sn360Es.Evaluate
