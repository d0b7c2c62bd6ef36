import Sn360Es.Evaluate.BatchSettle

/-!
# The batch path against the per-message path

`BatchOrchestrator.processOnce` mirrors `Evaluator.Evaluate` by hand. With neither Rspamd nor Tier 2 configured
both come down to the same aggregation of a Tier 1 answer (`shortVerdict`). They differ in one place: when the
gate asks to skip the models, the evaluator aggregates without Tier 1 and the orchestrator with it.

* `evaluate_verdict` and `tier1Result_verdict` — the two sides;
* `batch_verdict_iff` — exactly when a published result carries the evaluator's verdict.
-/

namespace Sn360Es

/-- The part of a result that the action layer decides by. -/
def EvaluateResult.verdict (r : EvaluateResult) : ℤ × Option Category × List Category × Option Tier :=
  (r.score, r.primary, r.secondary, r.tier)

end Sn360Es

namespace Sn360Es.Evaluate

open Lib Sn360Es.Tier1

/-- The verdict on a message of which only the Tier 1 score, if any, and the reason codes are known. -/
def shortVerdict (c : Option RuleCategorizer)
    (tierDecider : Option (ℤ → Option Category → RiskSignals → Tier)) (w : Weights)
    (sig : RiskSignals) (ai : Option ℤ) (reasonCodes : List String) :
    ℤ × Option Category × List Category × Option Tier :=
  let comp : Components := fromResultEx { tier1 := ai.map fun score => { score } }
  let r : EvaluateResult := { score := scoreWithAvailability comp w, reasonCodes }
  let primary := c.map fun c => (c.decide r sig).primary
  (r.score, primary, (c.map fun c => (c.decide r sig).secondary).getD [],
    tierDecider.map fun decide => decide r.score primary sig)

/-- What is left of a Tier 1 score, once it is weighted and rounded, when there is no other source. -/
def aiShare (w : Weights) (score : ℤ) : ℤ := scoreWithAvailability { ai := if 0 < score then score else 0 } w

/-- The category that has most votes, and the next two that are not benign. -/
def leaders (vs : List (Category × Float64)) : Category × List Category :=
  match sortCategories (tally vs) with
  | [] => (.firstContactExternal, [])
  | p :: rest => (p, (rest.filter (!·.isBenign)).take 2)

/-- The nudges of the reason codes do not change the leaders that the signals of the message vote for. -/
def Unmoved (c : RuleCategorizer) (sig : RiskSignals) (reasonCodes : List String) : Prop :=
  leaders (c.ruleVotes 0 sig ++ c.reasonVotes reasonCodes) = leaders (c.ruleVotes 0 sig)

/-- A Tier 1 answer that weighs nothing: its share of the score rounds to zero, and its reason codes move nothing, or
the signals of the message are benign. -/
def Inert (c : Option RuleCategorizer) (w : Weights) (sig : RiskSignals) (t1 : Tier1Outcome) : Prop :=
  aiShare w t1.score = 0 ∧ ∀ c' ∈ c, NoBenignSignal sig → Unmoved c' sig t1.reasonCodes

/-- `o` is wired like `e`, with no Rspamd and no Tier 2 client, and falls back on `e` or on nothing. -/
structure Mirrors (c : Option RuleCategorizer) (o : BatchOrchestrator) (e : Config) : Prop where
  tier0 : ∃ gate, e.tier0 = some gate ∧ o.tier0 = some fun _ => gate
  thresholds : o.thresholds = ⟨e.tier1PassThreshold, e.tier1FlagThreshold, e.tier1SuppressPartner⟩
  weights : o.weights = e.weights
  tenantConfig : o.tenantConfig = e.tenantConfig
  categorizer : e.categorizer = c.map RuleCategorizer.categorise
  categorizer_batch : o.categorizer = c.map RuleCategorizer.categorise
  tierDecider : o.tierDecider = e.tierDecider
  tier2 : e.tier2 = none
  rspamd : e.rspamd = none
  fallback : ∀ f, o.fallback = some f → ∀ i req sig full, f i req sig = .ok full →
    ∃ now, e.evaluate now req sig = .ok full

/-! ### Two aggregations -/

section Aggregation

variable {c : Option RuleCategorizer} {o : BatchOrchestrator} {e : Config} {sig : RiskSignals}

/-- A result before its aggregation, with Tier 1 the only source. -/
structure Fresh (res : EvaluateResult) : Prop where
  tier2 : res.tier2 = none
  rspamd : res.rspamd = none
  links : res.linkScore = none
  attachments : res.attachmentScore = none
  primary : res.primary = none
  secondary : res.secondary = []
  tier : res.tier = none

lemma fromResultEx_fresh {res : EvaluateResult} (h : Fresh res) :
    fromResultEx res =
      fromResultEx { tier1 := (res.tier1.map Tier1Outcome.score).map fun score => { score } } := by
  simp only [fromResultEx, h.tier2, h.rspamd, h.links, h.attachments]
  cases res.tier1 <;> rfl

lemma aggregateLightweight_verdict {res : EvaluateResult} (h : Fresh res)
    (hc : o.categorizer = c.map RuleCategorizer.categorise) (w : Weights) :
    (o.aggregateLightweight res sig w).verdict =
      shortVerdict c o.tierDecider w sig (res.tier1.map Tier1Outcome.score) res.reasonCodes := by
  unfold BatchOrchestrator.aggregateLightweight shortVerdict
  rw [hc, fromResultEx_fresh h]
  cases c with
  | none => cases o.tierDecider <;> simp [EvaluateResult.verdict, h.primary, h.secondary, h.tier]
  | some c =>
    have hd : ∀ score, c.decide { res with score } sig =
        c.decide { score, reasonCodes := res.reasonCodes } sig :=
      fun score => decide_congr rfl h.tier2 rfl
    simp only [Option.map_some, RuleCategorizer.categorise, hd]
    cases o.tierDecider <;>
      simp only [EvaluateResult.verdict, h.tier, Option.map_none, Option.map_some, Option.getD_some]

/-- The evaluator's aggregation is the orchestrator's. -/
lemma aggregate_verdict (hc : o.categorizer = e.categorizer) (hd : o.tierDecider = e.tierDecider)
    (w : Weights) (g : Config.Gathered) :
    (e.aggregate w sig g).verdict = (o.aggregateLightweight g.res sig w).verdict := by
  unfold Config.aggregate BatchOrchestrator.aggregateLightweight
  rw [hc, hd]
  cases e.categorizer <;> cases e.tierDecider <;> rfl

end Aggregation

/-! ### The two paths -/

section Paths

variable {c : Option RuleCategorizer} {o : BatchOrchestrator} {e : Config} {req : EvaluateRequest}
  {sig : RiskSignals}

/-- The stages that the gate turned off. -/
def skipsModels (tier0 : Tier0Outcome) : Bool := tier0.skipML || tier0.rspamdOnly

lemma resolveTenantConfig_mirrors (hm : Mirrors c o e) (tenantID : String) :
    o.resolveTenantConfig tenantID = e.resolveTenantConfig tenantID := by
  unfold BatchOrchestrator.resolveTenantConfig Config.resolveTenantConfig
  cases ht : e.tenantConfig with
  | none => simp only [hm.tenantConfig, ht, hm.weights, hm.thresholds]
  | some load => simp only [hm.tenantConfig, ht, hm.weights, hm.thresholds]

/-- Without Rspamd and Tier 2 the evaluator gathers the Tier 1 answer, unless the gate skips it. -/
lemma gather_tier1 {tier0 : Tier0Outcome} {t1 : Tier1Outcome} (hm : Mirrors c o e) (th : Thresholds)
    (h1 : e.tier1Answer req = some t1) (res : EvaluateResult) :
    (e.gather th req tier0 res).res =
      if skipsModels tier0 then res
      else { res with
        reasonCodes := res.reasonCodes ++ t1.reasonCodes
        tier1 := some (Config.judgeTier1 th tier0 t1) } := by
  obtain ⟨f, hf, ht1⟩ := Option.bind_eq_some_iff.mp h1
  have hok : f req = .ok t1 := by
    cases hfr : f req with
    | error _ =>
      rw [hfr] at ht1
      cases ht1
    | ok _ =>
      rw [hfr] at ht1
      cases ht1
      rfl
  unfold Config.gather Config.mergeTier2 skipsModels
  simp only [hm.tier2, hm.rspamd, hf, Option.map_none, Option.map_some, Config.mergeRspamd]
  split_ifs
  · rfl
  · simp only [Config.mergeTier1, hok]

/-- **The per-message path.** -/
theorem evaluate_verdict {gate : EvaluateRequest → RiskSignals → Tier0Outcome} {t1 : Tier1Outcome}
    (hm : Mirrors c o e) (hgate : e.tier0 = some gate) (h1 : e.tier1Answer req = some t1)
    (sig : RiskSignals) (now : ℕ) :
    ∃ full, e.evaluate now req sig = .ok full ∧
      full.verdict =
        if (gate req sig).bypass then
          (0, (gate req sig).forcedCategory, [], some (forcedTierFor (gate req sig).forcedCategory))
        else if skipsModels (gate req sig) then
          shortVerdict c e.tierDecider (e.resolveTenantConfig req.tenantID).1 sig none []
        else
          shortVerdict c e.tierDecider (e.resolveTenantConfig req.tenantID).1 sig (some t1.score)
            t1.reasonCodes := by
  unfold Config.evaluate
  simp only [hgate]
  split
  · exact ⟨_, rfl, rfl⟩
  · refine ⟨_, rfl, ?_⟩
    rw [aggregate_verdict (hm.categorizer_batch.trans hm.categorizer.symm) hm.tierDecider,
      gather_tier1 hm _ h1, ← hm.tierDecider]
    split_ifs
    · rw [aggregateLightweight_verdict ⟨rfl, rfl, rfl, rfl, rfl, rfl, rfl⟩ hm.categorizer_batch]
      rfl
    · rw [aggregateLightweight_verdict ⟨rfl, rfl, rfl, rfl, rfl, rfl, rfl⟩ hm.categorizer_batch]
      rfl

lemma propagateTier0OntoResult_verdict (res : EvaluateResult) (outcome : Tier0Outcome) :
    (propagateTier0OntoResult res outcome).verdict = res.verdict := by
  unfold propagateTier0OntoResult
  dsimp only
  split_ifs <;> rfl

lemma finalised_verdict (now : ℕ) (p : Pending) (res : EvaluateResult) :
    (o.finalised now p res).verdict = res.verdict := by
  unfold BatchOrchestrator.finalised stampResultParticipantHashes
  cases o.sightingFor p.req <;> rfl

lemma shouldFallbackToTier2_runs {v : Verdict} {tier0 : Tier0Outcome}
    (h : shouldFallbackToTier2 v tier0 = true) : skipsModels tier0 = false := by
  unfold shouldFallbackToTier2 at h
  split_ifs at h with hskip
  · exact Bool.eq_false_of_not_eq_true hskip
  · exact Bool.eq_false_of_not_eq_true hskip

/-- **The batch path**, for a message that the gate does not bypass. -/
theorem tier1Result_verdict {gate : EvaluateRequest → RiskSignals → Tier0Outcome} {t1 : Tier1Outcome}
    {p : Pending} {resp : PredictResponse} (hm : Mirrors c o e) (hgate : e.tier0 = some gate)
    (h1 : e.tier1Answer p.req = some t1) (hout : p.tier0Outcome = gate p.req p.sig)
    (hby : p.tier0Outcome.bypass = false)
    (hresp : resp.score = t1.score ∧ resp.reasonCodes = t1.reasonCodes) (now : ℕ) :
    (o.tier1Result now p resp).verdict =
      shortVerdict c e.tierDecider (e.resolveTenantConfig p.req.tenantID).1 p.sig (some t1.score)
        t1.reasonCodes := by
  unfold BatchOrchestrator.tier1Result
  dsimp only
  rw [propagateTier0OntoResult_verdict]
  cases hf : o.fallbackResult p resp with
  | none =>
    rw [aggregateLightweight_verdict ⟨rfl, rfl, rfl, rfl, rfl, rfl, rfl⟩ hm.categorizer_batch,
      resolveTenantConfig_mirrors hm, hm.tierDecider, ← hresp.1, ← hresp.2]
    rfl
  | some full =>
    -- the fallback is the evaluator, and it only runs when the models are not skipped
    obtain ⟨f, hfb, hfull⟩ := BatchOrchestrator.fallbackResult_some hf
    obtain ⟨t, ht⟩ := hm.fallback f hfb _ _ _ _ hfull
    obtain ⟨full', hfull', hv⟩ := evaluate_verdict hm hgate h1 p.sig t
    cases ht.symm.trans hfull'
    have hrun : skipsModels p.tier0Outcome = false := by
      unfold BatchOrchestrator.fallbackResult at hf
      split_ifs at hf with hfall
      exact shouldFallbackToTier2_runs hfall
    rw [hout] at hby hrun
    simpa [hby, hrun] using hv

lemma decide_leaders {c' : RuleCategorizer} (h : NoBenignSignal sig) (r : EvaluateResult) :
    ((c'.decide r sig).primary, (c'.decide r sig).secondary) = leaders (c'.votes r sig) := by
  obtain ⟨hint, hvendor, hservice⟩ := h
  unfold RuleCategorizer.decide leaders
  simp only [hint, hvendor, hservice, Bool.false_eq_true, if_false]
  cases sortCategories (tally (c'.votes r sig)) <;> rfl

/-- A benign signal leaves nothing to vote on. -/
lemma decide_benign {c' : RuleCategorizer} (h : ¬ NoBenignSignal sig) (r r' : EvaluateResult) :
    c'.decide r sig = c'.decide r' sig := by
  unfold RuleCategorizer.decide
  split_ifs with hint hvendor hservice
  · rfl
  · rfl
  · rfl
  · exact absurd ⟨by simpa using hint, by simpa using hvendor, by simpa using hservice⟩ h

/-- What the reason codes of Tier 1 have to be for the categoriser. -/
lemma decide_eq_iff {c' : RuleCategorizer} {reasonCodes : List String} :
    ((c'.decide { reasonCodes } sig).primary = (c'.decide {} sig).primary ∧
        (c'.decide { reasonCodes } sig).secondary = (c'.decide {} sig).secondary) ↔
      (NoBenignSignal sig → Unmoved c' sig reasonCodes) := by
  by_cases hbenign : NoBenignSignal sig
  · have hvotes : ∀ codes, c'.votes { reasonCodes := codes } sig = c'.ruleVotes 0 sig ++ c'.reasonVotes codes := by
      intro codes
      simp [RuleCategorizer.votes, RuleCategorizer.llmVotes]
    have hnone : c'.ruleVotes 0 sig ++ c'.reasonVotes [] = c'.ruleVotes 0 sig := List.append_nil _
    rw [← Prod.mk.injEq, decide_leaders hbenign, decide_leaders hbenign, hvotes, hvotes, hnone]
    exact ⟨fun h _ => h, fun h => h hbenign⟩
  · rw [decide_benign hbenign { reasonCodes } {}]
    exact iff_of_true ⟨rfl, rfl⟩ fun h => absurd h hbenign

/-- Reason codes that the categoriser does not read move nothing. -/
lemma unmoved_of_unread {c' : RuleCategorizer} {reasonCodes : List String}
    (h : ∀ code ∈ reasonCodes, c'.reasonCategory code = none) : Unmoved c' sig reasonCodes := by
  have hnone : c'.reasonVotes reasonCodes = [] := by
    unfold RuleCategorizer.reasonVotes
    rw [List.filterMap_eq_nil_iff]
    intro code hcode
    rw [h code hcode, Option.map_none]
  rw [Unmoved, hnone, List.append_nil]

/-- Skipping Tier 1 makes no difference exactly when its answer is inert. -/
lemma shortVerdict_none_iff (tierDecider : Option (ℤ → Option Category → RiskSignals → Tier))
    (w : Weights) (t1 : Tier1Outcome) :
    shortVerdict c tierDecider w sig (some t1.score) t1.reasonCodes =
        shortVerdict c tierDecider w sig none [] ↔ Inert c w sig t1 := by
  have hzero : scoreWithAvailability (fromResultEx {}) w = 0 := score_zero _
  have hai : scoreWithAvailability (fromResultEx { tier1 := some { score := t1.score } }) w = aiShare w t1.score := rfl
  unfold shortVerdict Inert
  simp only [Option.map_some, Option.map_none, hai, hzero, Prod.mk.injEq, ← decide_eq_iff]
  constructor
  · rintro ⟨hs, hp, hsec, -⟩
    refine ⟨hs, ?_⟩
    rintro c' rfl
    rw [hs] at hp hsec
    exact ⟨Option.some.inj hp, hsec⟩
  · rintro ⟨hs, hdec⟩
    rw [hs]
    cases c with
    | none => simp only [Option.map_none, Option.getD_none, and_self]
    | some c' =>
      obtain ⟨hp, hsec⟩ := hdec c' rfl
      simp only [Option.map_some, Option.getD_some, hp, hsec, and_self]

lemma decodes_tier0 {gate : EvaluateRequest → RiskSignals → Tier0Outcome} {now i : ℕ}
    {msgs : List (List UInt8)} {p : Pending} (hgate : o.tier0 = some fun _ => gate)
    (h : o.Decodes now msgs i p) :
    p.tier0Outcome = gate p.req p.sig ∧ p.hit0 = p.tier0Outcome.bypass := by
  obtain ⟨data, -, hpend⟩ := h
  unfold BatchOrchestrator.pend at hpend
  split at hpend
  · cases hpend
  · simp only [hgate] at hpend
    split at hpend
    · next hby =>
      cases hpend
      exact ⟨rfl, hby.symm⟩
    · next hby =>
      cases hpend
      exact ⟨rfl, (Bool.eq_false_of_not_eq_true hby).symm⟩

end Paths

/-- When a published result has the verdict of the evaluator. -/
lemma batch_verdict {c : Option RuleCategorizer} {o : BatchOrchestrator} {e : Config}
    (hm : Mirrors c o e)
    (hlen : ∀ items out, o.predictBatch items = .ok out → out.length = items.length)
    {now i : ℕ} {msgs : List (List UInt8)} {log : List Effect} {p : Pending} {res : EvaluateResult}
    {t1 : Tier1Outcome} (hlog : o.processOnce now (.ok msgs) = some (.ok log))
    (hp : o.Decodes now msgs i p) (hpub : .published i res ∈ log)
    (h1 : e.tier1Answer p.req = some t1)
    (hresp : ∀ resp, o.ResponseOf now msgs i resp →
      resp.score = t1.score ∧ resp.reasonCodes = t1.reasonCodes) (now' : ℕ) :
    ∃ full, e.evaluate now' p.req p.sig = .ok full ∧
      (res.verdict = full.verdict ↔
        p.tier0Outcome.bypass = true ∨
          (p.tier0Outcome.skipML = false ∧ p.tier0Outcome.rspamdOnly = false) ∨
          Inert c (e.resolveTenantConfig p.req.tenantID).1 p.sig t1) := by
  obtain ⟨log', hlog', hblock⟩ := BatchOrchestrator.processOnce_block now msgs hlen
  cases hlog.symm.trans hlog'
  have hi : i < msgs.length := by
    obtain ⟨data, hdata, -⟩ := hp
    exact (List.getElem?_eq_some_iff.mp hdata).1
  obtain ⟨p', hp', hres⟩ := (hblock i hi).result (List.mem_filter.mpr ⟨hpub, by simp [Effect.msg]⟩)
  obtain rfl : p' = p := by
    obtain ⟨data, hdata, hpend⟩ := hp
    obtain ⟨data', hdata', hpend'⟩ := hp'
    cases hdata.symm.trans hdata'
    cases hpend.symm.trans hpend'
    rfl
  obtain ⟨gate, hgate, hgate'⟩ := hm.tier0
  obtain ⟨hout, hhit⟩ := decodes_tier0 hgate' hp
  obtain ⟨full, hfull, hv⟩ := evaluate_verdict hm hgate h1 p'.sig now'
  refine ⟨full, hfull, ?_⟩
  rw [← hout] at hv
  rcases hres with ⟨hhit', rfl⟩ | ⟨hhit', resp, hr, rfl⟩
  · -- bypassed: both sides publish what the gate forces
    have hby : p'.tier0Outcome.bypass = true := hhit.symm.trans hhit'
    obtain ⟨data, -, hpend⟩ := hp
    rw [finalised_verdict, BatchOrchestrator.pend_tier0Result hpend hhit', hv, if_pos hby]
    exact ⟨fun _ => Or.inl hby, fun _ => rfl⟩
  · have hby : p'.tier0Outcome.bypass = false := hhit.symm.trans hhit'
    rw [finalised_verdict, tier1Result_verdict hm hgate h1 hout hby (hresp resp hr) now, hv]
    cases hskip : skipsModels p'.tier0Outcome with
    | true =>
      have hskip' : ¬ (p'.tier0Outcome.skipML = false ∧ p'.tier0Outcome.rspamdOnly = false) := by
        simpa [skipsModels, or_iff_not_imp_left] using hskip
      simp only [hby, Bool.false_eq_true, if_false, if_true, shortVerdict_none_iff, hskip', false_or]
    | false =>
      have hskip' : p'.tier0Outcome.skipML = false ∧ p'.tier0Outcome.rspamdOnly = false := by
        simpa [skipsModels] using hskip
      simp only [hby, Bool.false_eq_true, if_false, hskip', and_self, true_or, or_true]

/-- **The two paths agree** on a published result exactly when the gate bypasses the message, or leaves the
models on, or Tier 1 has nothing to say; as it has not when its share of the score rounds to zero and the categoriser
reads none of its reason codes. -/
theorem batch_verdict_iff {c : Option RuleCategorizer} {o : BatchOrchestrator} {e : Config}
    (hm : Mirrors c o e)
    (hlen : ∀ items out, o.predictBatch items = .ok out → out.length = items.length)
    {now i : ℕ} {msgs : List (List UInt8)} {log : List Effect} {p : Pending} {res : EvaluateResult}
    {t1 : Tier1Outcome} (hlog : o.processOnce now (.ok msgs) = some (.ok log))
    (hp : o.Decodes now msgs i p) (hpub : .published i res ∈ log)
    (h1 : e.tier1Answer p.req = some t1)
    (hresp : ∀ resp, o.ResponseOf now msgs i resp →
      resp.score = t1.score ∧ resp.reasonCodes = t1.reasonCodes) (now' : ℕ) :
    ∃ full, e.evaluate now' p.req p.sig = .ok full ∧
      (res.verdict = full.verdict ↔
        p.tier0Outcome.bypass = true ∨
          (p.tier0Outcome.skipML = false ∧ p.tier0Outcome.rspamdOnly = false) ∨
          Inert c (e.resolveTenantConfig p.req.tenantID).1 p.sig t1) ∧
      (aiShare (e.resolveTenantConfig p.req.tenantID).1 t1.score = 0 →
        (∀ c' ∈ c, ∀ code ∈ t1.reasonCodes, c'.reasonCategory code = none) → res.verdict = full.verdict) := by
  obtain ⟨full, hfull, hverdict⟩ := batch_verdict hm hlen hlog hp hpub h1 hresp now'
  refine ⟨full, hfull, hverdict, fun hshare hcodes => hverdict.mpr (.inr (.inr ⟨hshare, ?_⟩))⟩
  exact fun c' hc' _ => unmoved_of_unread (hcodes c' hc')

/-! ### One message, both ways -/

/-- The message `"m"`, of a sender of high volume or not. -/
def signalsPayload (highVolume : Bool) : List UInt8 :=
  bytesOf ("\x7b\"request\":\x7b\"message_id\":\"m\"\x7d,\"signals\":\x7b" ++
    (if highVolume then "\"is_high_volume_sender\":true" else "") ++ "\x7d\x7d")

/-- The batch side of `tier1Pipeline`, which can read these two messages. -/
def tier1Orchestrator (score : ℤ) : BatchOrchestrator where
  unmarshalBatchMessage data :=
    if data = signalsPayload true then .ok ⟨{ messageID := "m" }, { isHighVolumeSender := true }⟩
    else if data = signalsPayload false then .ok ⟨{ messageID := "m" }, {}⟩
    else .error "unexpected end of JSON input"
  unmarshalRequest := fun _ => .error "unexpected end of JSON input"
  tier0 := some fun _ => defaultGate.applyWithContext
  predictBatch := fun items => .ok (items.map fun _ => { score })
  thresholds := ⟨20, 60, 0⟩
  categorizer := some newRuleCategorizer.categorise
  tierDecider := some (Action.tierDeciderAdapter (some Action.defaultTierDecider))
  publishResult := fun _ _ => true

lemma tier1Orchestrator_mirrors (score : ℤ) :
    Mirrors (some newRuleCategorizer) (tier1Orchestrator score) (tier1Pipeline score) :=
  ⟨⟨_, rfl, rfl⟩, rfl, rfl, rfl, rfl, rfl, rfl, rfl, rfl, fun f hf => by cases hf⟩

lemma tier1Orchestrator_length (score : ℤ) (items : List PredictRequest)
    (out : List PredictResponse) (h : (tier1Orchestrator score).predictBatch items = .ok out) :
    out.length = items.length := by
  cases h
  simp

lemma tier1Orchestrator_response {score : ℤ} {now i : ℕ}
    {msgs : List (List UInt8)} {resp : PredictResponse}
    (h : (tier1Orchestrator score).ResponseOf now msgs i resp) : resp = { score } := by
  obtain ⟨out, hout, hget⟩ := h
  cases hout
  rw [List.getElem?_map] at hget
  obtain ⟨_, -, rfl⟩ := Option.map_eq_some_iff.mp hget
  rfl

/-- What the batch path publishes for a message without signals that Tier 1 scores 50. -/
def unremarkable : EvaluateResult where
  messageID := "m"
  evaluatedAt := 1
  score := 43
  tier := some .caution
  primary := some .firstContactExternal
  tier0 := some {}
  tier1 := some { score := 50, escalate := true }

theorem batch_verdict_unremarkable :
    ∃ full, (tier1Pipeline 50).evaluate 1 { messageID := "m" } {} = .ok full ∧
      (unremarkable.verdict = full.verdict ↔
        false = true ∨ (false = false ∧ false = false) ∨
          Inert (some newRuleCategorizer) ((tier1Pipeline 50).resolveTenantConfig "").1 {}
            { score := 50 }) := by
  have hlog : (tier1Orchestrator 50).processOnce 1 (.ok [signalsPayload false]) =
      some (.ok [.published 0 unremarkable, .ack 0]) := by decide +kernel
  have hp : (tier1Orchestrator 50).Decodes 1 [signalsPayload false] 0
      { msg := 0, req := { messageID := "m" }, sig := {} } := ⟨_, rfl, by decide +kernel⟩
  obtain ⟨full, hfull, hiff, -⟩ := batch_verdict_iff (tier1Orchestrator_mirrors 50) (tier1Orchestrator_length 50) hlog
    hp List.mem_cons_self rfl (fun resp h => by rw [tier1Orchestrator_response h]; exact ⟨rfl, rfl⟩) 1
  exact ⟨full, hfull, hiff⟩

/-- What the batch path publishes for the same message of a high-volume sender: the gate asked for Rspamd
only, and the score is the Tier 1 score all the same. -/
def highVolume : EvaluateResult :=
  { unremarkable with
    tier0 := some { skipML := true, rspamdOnly := true, reason := "high_volume_sender" }
    reasonCodes := ["high_volume_sender"] }

/-- The per-message path does not ask Tier 1 about a high-volume sender and scores it 0. -/
theorem batch_verdict_high_volume :
    ¬ ∀ (c : Option RuleCategorizer) (o : BatchOrchestrator) (e : Config), Mirrors c o e →
        (∀ items out, o.predictBatch items = .ok out → out.length = items.length) →
        ∀ (now i : ℕ) (msgs : List (List UInt8)) (log : List Effect) (p : Pending)
          (res : EvaluateResult) (t1 : Tier1Outcome),
          o.processOnce now (.ok msgs) = some (.ok log) → o.Decodes now msgs i p →
          .published i res ∈ log → e.tier1Answer p.req = some t1 →
          (∀ resp, o.ResponseOf now msgs i resp →
            resp.score = t1.score ∧ resp.reasonCodes = t1.reasonCodes ∧ o.verdictFor p resp ≠ .flag) →
          ∀ now', ∃ full, e.evaluate now' p.req p.sig = .ok full ∧ res.verdict = full.verdict := by
  intro h
  obtain ⟨full, hfull, hv⟩ := h _ _ _ (tier1Orchestrator_mirrors 50) (tier1Orchestrator_length 50)
    1 0 [signalsPayload true] [.published 0 highVolume, .ack 0]
    { msg := 0, req := { messageID := "m" }, sig := { isHighVolumeSender := true },
      tier0Outcome := { skipML := true, rspamdOnly := true, reason := "high_volume_sender" } }
    highVolume { score := 50 } (by decide +kernel) ⟨_, rfl, by decide +kernel⟩ List.mem_cons_self rfl
    (fun resp hr => by rw [tier1Orchestrator_response hr]; exact ⟨rfl, rfl, by decide +kernel⟩) 1
  have hscore : ((tier1Pipeline 50).evaluate 1 { messageID := "m" } { isHighVolumeSender := true }).map
      (fun r => r.score) = .ok 0 := by decide +kernel
  rw [hfull] at hscore
  have h43 : (43 : ℤ) = full.score := congrArg Prod.fst hv
  have h0 : full.score = 0 := Except.ok.inj hscore
  omega

end Sn360Es.Evaluate
