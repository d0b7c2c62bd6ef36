import Mathlib.Algebra.Order.Floor.Ring
import Mathlib.Data.List.Sort
import Mathlib.Data.Rat.Floor
import Mathlib.Data.Finset.Card
import Mathlib.Tactic.Linarith
import Mathlib.Tactic.NormNum
import Sn360Es.Lib.GroupBy
import Sn360Es.Lib.GoStrings
import Sn360Es.Relationship.CommunicationHistory

/-!
# Vendor discovery (`internal/service/relationship/vendor_discovery.go`)

The weekly job sums the communication histories of a tenant up by sender domain (`buildSenderObservations`), and
`Propose` scores every domain. The scores are exact rationals here.

* `mem_buildSenderObservations` — the observation of a domain, from the rows of that domain;
* `one_way_never_approved` — a domain that never gets mail back is not approved if and only if it sends at most 30
  mails to at most 10 recipients: the two contributions are clamped at 1, not at the caps that the comments give.
-/

namespace Sn360Es.Relationship

open Lib

structure SenderObservation where
  domain : String
  inboundCount : ℤ
  outboundCount : ℤ := 0
  distinctRecipients : ℕ
  firstSeen : ℤ
  lastSeen : ℤ
  deriving DecidableEq, Repr

structure VendorProposal where
  domain : String
  confidence : ℚ
  autoApprove : Bool
  bidirectional : Bool
  inboundCount : ℤ
  outboundCount : ℤ
  distinctRecipients : ℕ
  reason : String
  deriving DecidableEq, Repr

structure VendorDiscoveryConfig where
  minInbound : ℤ
  minDistinctRecipients : ℕ
  minWindowDays : ℤ
  autoApproveThreshold : ℚ
  excludeFreeDomains : Bool
  freeDomains : List String
  deriving DecidableEq, Repr

/-- `DefaultVendorDiscoveryConfig`. -/
def defaultVendorDiscoveryConfig : VendorDiscoveryConfig where
  minInbound := 5
  minDistinctRecipients := 2
  minWindowDays := 14
  autoApproveThreshold := 4 / 5
  excludeFreeDomains := true
  freeDomains := ["gmail.com", "outlook.com", "yahoo.com", "hotmail.com", "icloud.com", "proton.me", "protonmail.com"]

/-- `VendorDiscovery`, with `strings.ToLower`. -/
structure VendorDiscovery where
  cfg : VendorDiscoveryConfig := defaultVendorDiscoveryConfig
  toLower : String → String

def day : ℤ := 24 * 3600 * GoTime.second

def min01 (v : ℚ) : ℚ := if v < 0 then 0 else if 1 < v then 1 else v

/-- `round2`; `int` truncates. -/
def round2 (v : ℚ) : ℚ :=
  let x := v * 100 + 1 / 2
  (if x < 0 then ⌈x⌉ else ⌊x⌋ : ℤ) / 100

/-- What the volume adds to the confidence. -/
def volumeContribution (inboundCount : ℤ) : ℚ := min01 (inboundCount / 30 * (1 / 2))

/-- What the recipients add to the confidence. -/
def recipientContribution (distinctRecipients : ℕ) : ℚ := min01 (distinctRecipients / 10 * (1 / 4))

/-- The confidence of `score`, before it is rounded. -/
def confidence (obs : SenderObservation) : ℚ :=
  let conf := volumeContribution obs.inboundCount + recipientContribution obs.distinctRecipients +
    (if 0 < obs.outboundCount then 1 / 5 else 0) + if 3 ≤ obs.outboundCount then 1 / 20 else 0
  if 1 < conf then 1 else conf

namespace VendorDiscovery

variable (v : VendorDiscovery)

/-- `strings.ToLower(strings.TrimSpace(domain))`. -/
def normalizeDomain (domain : String) : String := v.toLower (GoStrings.trimSpace domain)

/-- The gates of `score`. -/
def eligible (obs : SenderObservation) : Bool :=
  let domain := v.normalizeDomain obs.domain
  domain ≠ "" && !(v.cfg.excludeFreeDomains && decide (domain ∈ v.cfg.freeDomains)) &&
    v.cfg.minInbound ≤ obs.inboundCount && v.cfg.minDistinctRecipients ≤ obs.distinctRecipients &&
    !(0 < v.cfg.minWindowDays && obs.firstSeen ≠ 0 && obs.lastSeen - obs.firstSeen < v.cfg.minWindowDays * day)

def score (obs : SenderObservation) : Option VendorProposal :=
  if v.eligible obs then
    let conf := confidence obs
    let bidirectional : Bool := 0 < obs.outboundCount
    some { domain := v.normalizeDomain obs.domain
           confidence := round2 conf
           autoApprove := v.cfg.autoApproveThreshold ≤ conf
           bidirectional
           inboundCount := obs.inboundCount
           outboundCount := obs.outboundCount
           distinctRecipients := obs.distinctRecipients
           reason := if bidirectional then "bidirectional" else "recurring_inbound" }
  else none

/-- The order of the proposals: by descending confidence, then by domain. -/
def ProposalLe (p q : VendorProposal) : Prop :=
  q.confidence < p.confidence ∨ q.confidence = p.confidence ∧ p.domain ≤ q.domain

instance : DecidableRel ProposalLe := fun _ _ => inferInstanceAs (Decidable (_ ∨ _ ∧ _))

def propose (tenantID : String) (observations : List SenderObservation) : Except String (List VendorProposal) :=
  if tenantID = "" then .error "relationship: tenant_id is required"
  else .ok ((observations.filterMap v.score).insertionSort ProposalLe)

/-! ### Observations -/

/-- The accumulator of `buildSenderObservations`. -/
structure Acc where
  inbound : ℤ := 0
  distinctRecs : List Bytes := []
  firstSeen : ℤ := 0
  lastSeen : ℤ := 0

/-- One more row. `inbound` is a 64-bit number. -/
def Acc.add (a : Acc) (r : CommunicationHistory) : Acc where
  inbound := GoTime.int64 (a.inbound + r.count30d)
  distinctRecs := if r.recipientHash ∈ a.distinctRecs then a.distinctRecs else a.distinctRecs ++ [r.recipientHash]
  firstSeen := if a.firstSeen = 0 ∨ r.firstSeenAt < a.firstSeen then r.firstSeenAt else a.firstSeen
  lastSeen := if a.lastSeen < r.lastSeenAt then r.lastSeenAt else a.lastSeen

def rowDomain (r : CommunicationHistory) : String := v.normalizeDomain r.senderDomain

def observation (domain : String) (a : Acc) : SenderObservation where
  domain := domain
  inboundCount := a.inbound
  distinctRecipients := a.distinctRecs.length
  firstSeen := a.firstSeen
  lastSeen := a.lastSeen

/-- `buildSenderObservations`. Go hands the map out in any order. -/
def buildSenderObservations (rows : List CommunicationHistory) : List SenderObservation :=
  (group v.rowDomain (fun _ => {}) Acc.add (rows.filter (v.rowDomain · ≠ ""))).map fun e => observation e.1 e.2

/-! ### What is observed of a domain -/

/-- What is accumulated for a domain. -/
def acc (rows : List CommunicationHistory) (domain : String) : Acc :=
  (rows.filter (v.rowDomain · = domain)).foldl Acc.add {}

/-- The mails of a domain in the last 30 days, as a 64-bit sum. -/
def inboundOf (rows : List CommunicationHistory) (domain : String) : ℤ :=
  GoTime.int64 ((rows.filter (v.rowDomain · = domain)).map (·.count30d)).sum

/-- The number of recipients of a domain. -/
def recipientsOf (rows : List CommunicationHistory) (domain : String) : ℕ :=
  ((rows.filter (v.rowDomain · = domain)).map (·.recipientHash)).toFinset.card

variable {v}

lemma foldl_add_inbound (rows : List CommunicationHistory) (a : Acc) (ha : GoTime.int64 a.inbound = a.inbound) :
    (rows.foldl Acc.add a).inbound = GoTime.int64 (a.inbound + (rows.map (·.count30d)).sum) := by
  induction rows generalizing a with
  | nil => simp [ha]
  | cons r rows ih =>
    rw [List.foldl_cons, ih (a.add r) (by simp [Acc.add, GoTime.int64]), List.map_cons, List.sum_cons]
    simp only [Acc.add, GoTime.int64, Int.bmod_add_bmod]
    rw [Int.add_assoc]

/-- The recipients are collected without repetition. -/
lemma foldl_add_recs (rows : List CommunicationHistory) (a : Acc) (ha : a.distinctRecs.Nodup) :
    (rows.foldl Acc.add a).distinctRecs.Nodup ∧ ∀ h, h ∈ (rows.foldl Acc.add a).distinctRecs ↔
      h ∈ a.distinctRecs ∨ h ∈ rows.map (·.recipientHash) := by
  induction rows generalizing a with
  | nil => simpa using ha
  | cons r rows ih =>
    have hnodup : (a.add r).distinctRecs.Nodup := by
      simp only [Acc.add]
      split
      · exact ha
      · next h => exact List.nodup_append'.mpr ⟨ha, List.nodup_singleton _, by simpa using h⟩
    have hmem : ∀ h, h ∈ (a.add r).distinctRecs ↔ h ∈ a.distinctRecs ∨ h = r.recipientHash := by
      intro h
      simp only [Acc.add]
      split
      · next hr =>
        constructor
        · exact Or.inl
        · rintro (hh | rfl)
          · exact hh
          · exact hr
      · simp
    obtain ⟨hnd, hiff⟩ := ih (a.add r) hnodup
    refine ⟨hnd, fun h => ?_⟩
    rw [List.foldl_cons, hiff, hmem, List.map_cons, List.mem_cons, or_assoc]

lemma acc_inbound (rows : List CommunicationHistory) (domain : String) :
    (v.acc rows domain).inbound = v.inboundOf rows domain := by
  rw [acc, foldl_add_inbound _ _ rfl, inboundOf, Int.zero_add]

lemma acc_recs (rows : List CommunicationHistory) (domain : String) :
    (v.acc rows domain).distinctRecs.length = v.recipientsOf rows domain := by
  obtain ⟨hnodup, hmem⟩ := foldl_add_recs (rows.filter (v.rowDomain · = domain)) {} List.nodup_nil
  rw [acc, recipientsOf, ← List.toFinset_card_of_nodup hnodup]
  congr 1
  ext h
  simpa using hmem h

/-- **What is observed**: one observation for each domain of the rows. -/
theorem mem_buildSenderObservations {rows : List CommunicationHistory} {obs : SenderObservation} :
    obs ∈ v.buildSenderObservations rows ↔
      ∃ domain ∈ rows.map v.rowDomain, domain ≠ "" ∧ obs = observation domain (v.acc rows domain) := by
  have hfilter : ∀ domain, domain ≠ "" →
      (rows.filter (v.rowDomain · ≠ "")).filter (v.rowDomain · = domain) = rows.filter (v.rowDomain · = domain) := by
    intro domain hne
    rw [List.filter_filter]
    refine List.filter_congr fun r _ => ?_
    by_cases h : v.rowDomain r = domain
    · simp [h, hne]
    · simp [h]
  rw [buildSenderObservations, List.mem_map]
  constructor
  · rintro ⟨⟨domain, a⟩, hmem, rfl⟩
    obtain ⟨hkey, ha⟩ := (mem_group _ _ _).mp hmem
    obtain ⟨r, hr, rfl⟩ := List.mem_map.mp hkey
    obtain ⟨hr, hne⟩ := List.mem_filter.mp hr
    have hne : v.rowDomain r ≠ "" := by simpa using hne
    refine ⟨v.rowDomain r, List.mem_map_of_mem hr, hne, ?_⟩
    rw [ha, groupOf, hfilter _ hne]
    rfl
  · rintro ⟨domain, hdom, hne, rfl⟩
    obtain ⟨r, hr, rfl⟩ := List.mem_map.mp hdom
    refine ⟨(v.rowDomain r, v.acc rows (v.rowDomain r)), (mem_group _ _ _).mpr ⟨?_, ?_⟩, rfl⟩
    · exact List.mem_map_of_mem (List.mem_filter.mpr ⟨hr, by simpa using hne⟩)
    · rw [groupOf, hfilter _ hne]
      rfl

/-! ### The caps -/

lemma min01_le_iff {x c : ℚ} (hc : 0 ≤ c) (hc1 : c < 1) : min01 x ≤ c ↔ x ≤ c := by
  unfold min01
  split
  · next h => exact ⟨fun _ => h.le.trans hc, fun _ => hc⟩
  · split
    · next h => exact ⟨fun h1 => absurd h1 (not_le.mpr hc1), fun hx => absurd (hx.trans_lt hc1) (not_lt.mpr h.le)⟩
    · exact Iff.rfl

lemma volumeContribution_le {n : ℤ} : volumeContribution n ≤ 1 / 2 ↔ n ≤ 30 := by
  rw [volumeContribution, min01_le_iff (by norm_num) (by norm_num)]
  constructor
  · intro h
    have hn : (n : ℚ) ≤ 30 := by linarith
    exact_mod_cast hn
  · intro h
    have hn : (n : ℚ) ≤ 30 := by exact_mod_cast h
    linarith

lemma recipientContribution_le {n : ℕ} : recipientContribution n ≤ 1 / 4 ↔ n ≤ 10 := by
  rw [recipientContribution, min01_le_iff (by norm_num) (by norm_num)]
  constructor
  · intro h
    have hn : (n : ℚ) ≤ 10 := by linarith
    exact_mod_cast hn
  · intro h
    have hn : (n : ℚ) ≤ 10 := by exact_mod_cast h
    linarith

lemma round2_le {x : ℚ} (h : x ≤ 3 / 4) : round2 x ≤ 3 / 4 := by
  unfold round2
  simp only
  have hint : (if x * 100 + 1 / 2 < 0 then ⌈x * 100 + 1 / 2⌉ else ⌊x * 100 + 1 / 2⌋ : ℤ) ≤ 75 := by
    split
    · next hneg =>
      rw [Int.ceil_le]
      push_cast
      linarith
    · rw [← Int.lt_add_one_iff, Int.floor_lt]
      push_cast
      linarith
  have hcast : ((if x * 100 + 1 / 2 < 0 then ⌈x * 100 + 1 / 2⌉ else ⌊x * 100 + 1 / 2⌋ : ℤ) : ℚ) ≤ 75 := by
    exact_mod_cast hint
  linarith

/-- Within the caps, a sender without outbound mail scores at most 0.75. -/
lemma confidence_le {obs : SenderObservation} (hout : obs.outboundCount = 0)
    (hvol : volumeContribution obs.inboundCount ≤ 1 / 2)
    (hrec : recipientContribution obs.distinctRecipients ≤ 1 / 4) : confidence obs ≤ 3 / 4 := by
  have hfew : ¬ (3 : ℤ) ≤ 0 := by norm_num
  unfold confidence
  simp only [hout, lt_irrefl, hfew, if_false]
  split
  · linarith
  · linarith

/-- A proposal of a one-way sender stays within the caps. -/
def WithinCaps (p : VendorProposal) : Prop :=
  volumeContribution p.inboundCount ≤ 1 / 2 ∧ recipientContribution p.distinctRecipients ≤ 1 / 4 ∧
    p.confidence ≤ 3 / 4 ∧ p.autoApprove = false

lemma withinCaps_of_score {obs : SenderObservation} {p : VendorProposal}
    (hthreshold : 3 / 4 < v.cfg.autoApproveThreshold) (hout : obs.outboundCount = 0) (hscore : v.score obs = some p) :
    WithinCaps p ↔ obs.inboundCount ≤ 30 ∧ obs.distinctRecipients ≤ 10 := by
  unfold score at hscore
  split at hscore
  · cases hscore
    unfold WithinCaps
    rw [volumeContribution_le, recipientContribution_le]
    constructor
    · rintro ⟨hvol, hrec, -⟩
      exact ⟨hvol, hrec⟩
    · rintro ⟨hvol, hrec⟩
      have hconf : confidence obs ≤ 3 / 4 :=
        confidence_le hout (volumeContribution_le.mpr hvol) (recipientContribution_le.mpr hrec)
      refine ⟨hvol, hrec, round2_le hconf, ?_⟩
      simpa using hconf.trans_lt hthreshold
  · cases hscore

end VendorDiscovery

open VendorDiscovery

/-- **One-way senders.** With the production configuration, every proposal for a domain without outbound mail stays
within the caps if and only if every eligible domain has sent at most 30 mails to at most 10 recipients. -/
theorem one_way_never_approved (toLower : String → String) (tenantID : String) (rows : List CommunicationHistory) :
    let v : VendorDiscovery := { toLower }
    (∀ props, v.propose tenantID (v.buildSenderObservations rows) = .ok props →
      ∀ p ∈ props, p.outboundCount = 0 → WithinCaps p) ↔
    (tenantID ≠ "" → ∀ domain ∈ rows.map v.rowDomain, domain ≠ "" →
      v.eligible (observation domain (v.acc rows domain)) = true →
        v.inboundOf rows domain ≤ 30 ∧ v.recipientsOf rows domain ≤ 10) := by
  intro v
  have hthreshold : 3 / 4 < v.cfg.autoApproveThreshold := by
    show (3 / 4 : ℚ) < 4 / 5
    norm_num
  unfold propose
  by_cases htenant : tenantID = ""
  · simp [htenant]
  · simp only [htenant, if_false, Except.ok.injEq, forall_eq', List.mem_insertionSort, List.mem_filterMap, ne_eq,
      not_false_eq_true, true_implies]
    constructor
    · intro h domain hdom hne helig
      have hscore : ∃ p, v.score (observation domain (v.acc rows domain)) = some p := by
        simp [score, helig]
      obtain ⟨p, hp⟩ := hscore
      have hout : p.outboundCount = 0 := by
        simp only [score, helig, if_true] at hp
        cases hp
        rfl
      have hcaps := h p ⟨_, mem_buildSenderObservations.mpr ⟨domain, hdom, hne, rfl⟩, hp⟩ hout
      rw [withinCaps_of_score hthreshold rfl hp] at hcaps
      rw [← acc_inbound, ← acc_recs]
      exact hcaps
    · rintro h p ⟨obs, hobs, hp⟩ -
      obtain ⟨domain, hdom, hne, rfl⟩ := mem_buildSenderObservations.mp hobs
      have helig : v.eligible (observation domain (v.acc rows domain)) = true := by
        by_contra hno
        rw [score, if_neg hno] at hp
        cases hp
      rw [withinCaps_of_score hthreshold rfl hp]
      have hcaps := h domain hdom hne helig
      rw [← acc_inbound, ← acc_recs] at hcaps
      exact hcaps

section Witness

def newsletterRow (recipient : UInt8) : CommunicationHistory where
  tenantID := "acme"
  senderHash := [1]
  recipientHash := [recipient]
  senderDomain := "news.example"
  count7d := 10
  count30d := 50
  firstSeenAt := 1
  lastSeenAt := 1 + 20 * day

/-- **A newsletter.** A domain that sends 100 mails in three weeks to two recipients is approved. -/
theorem newsletter_approved : ∃ props,
    VendorDiscovery.propose { toLower := id } "acme"
      (buildSenderObservations { toLower := id } [newsletterRow 1, newsletterRow 2]) = .ok props ∧
    props.map (fun p => (p.domain, p.outboundCount, p.confidence, p.autoApprove)) =
      [("news.example", 0, 1, true)] := by
  refine ⟨_, rfl, ?_⟩
  decide +kernel

end Witness

end Sn360Es.Relationship
