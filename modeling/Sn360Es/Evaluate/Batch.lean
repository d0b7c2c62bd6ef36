import Sn360Es.Evaluate.Evaluator

/-!
# The batch orchestrator (`internal/service/evaluate/batch.go`, `comm_history.go`)

One cycle of `BatchOrchestrator`: decode and gate every fetched message, score the survivors in one Tier 1
call, publish and settle. The cycle is modelled by the journal of what it does to the outside. A message is
its place in the fetched batch. The two index expressions of the Tier 1 loop (`tier1Out[j]`, `pendings[idx]`)
panic out of range in the source and are `none` here.

The JSON decoders, the enricher, the gate, the Tier 1 client, the fallback and the sink are parameters. The ones
that are called once per message also get its place, so equal requests may be answered differently.
-/

namespace Sn360Es.Evaluate

open Sn360Es.Tier1

/-- `dto.CommHistoryUpdate`. -/
structure CommHistoryUpdate where
  tenantID : String
  messageID : String
  senderHash : List UInt8
  recipientHash : List UInt8
  senderDomainHash : List UInt8 := []
  senderDomain : String := ""
  /-- `SentAt`; `0` is the zero time. -/
  sentAt : ℕ
  deriving DecidableEq, Repr

/-- `CommHistoryUpdate.Validate`. -/
def CommHistoryUpdate.validate (u : CommHistoryUpdate) : Except String Unit :=
  if u.tenantID = "" ∨ u.senderHash = [] ∨ u.recipientHash = [] ∨ u.messageID = "" ∨ u.sentAt = 0 then
    .error "dto: CommHistoryUpdate is incomplete (tenant_id, sender_hash, recipient_hash, message_id, sent_at all required)"
  else .ok ()

/-- What a cycle does to message `i`, or on its behalf. -/
inductive Effect where
  | nak (i : ℕ)
  | ack (i : ℕ)
  | published (i : ℕ) (res : EvaluateResult)
  | publishFailed (i : ℕ) (res : EvaluateResult)
  | sighting (i : ℕ) (upd : CommHistoryUpdate)
  deriving DecidableEq, Repr

/-- The message an effect is about. -/
def Effect.msg : Effect → ℕ
  | nak i | ack i | published i _ | publishFailed i _ | sighting i _ => i

/-- `BatchMessage`. -/
structure BatchMessage where
  request : EvaluateRequest
  signals : RiskSignals := {}
  deriving DecidableEq, Repr

/-- `BatchOrchestratorConfig`, as `NewBatchOrchestrator` leaves it. -/
structure BatchOrchestrator where
  unmarshalBatchMessage : List UInt8 → Except String BatchMessage
  unmarshalRequest : List UInt8 → Except String EvaluateRequest
  enrich : ℕ → EvaluateRequest → RiskSignals → RiskSignals := fun _ _ base => base
  sightingFor : EvaluateRequest → Option CommHistoryUpdate := fun _ => none
  tier0 : Option (ℕ → EvaluateRequest → RiskSignals → Tier0Outcome) := none
  predictBatch : List PredictRequest → Except String (List PredictResponse)
  thresholds : Thresholds := defaultThresholds
  fallback : Option (ℕ → EvaluateRequest → RiskSignals → Except String EvaluateResult) := none
  categorizer : Option Categorizer := none
  tierDecider : Option (ℤ → Option Category → RiskSignals → Tier) := none
  weights : Weights := defaultWeights
  tenantConfig : Option (String → Except String TenantScoringConfig) := none
  /-- Whether `publishResult` succeeds, given what the cycle has done before. -/
  publishResult : List Effect → EvaluateResult → Bool

/-- The defaults of `NewBatchOrchestrator`: thresholds and weights are defaulted as wholes. -/
def newBatchOrchestrator (o : BatchOrchestrator) : BatchOrchestrator :=
  { o with
    thresholds := if o.thresholds = ⟨0, 0, 0⟩ then defaultThresholds else o.thresholds
    weights := if o.weights = ⟨0, 0, 0, 0⟩ then defaultWeights else o.weights }

/-- The local type `pending` of `processOnce`. -/
structure Pending where
  msg : ℕ
  req : EvaluateRequest
  sig : RiskSignals
  tier0Outcome : Tier0Outcome := {}
  tier0Result : EvaluateResult := {}
  hit0 : Bool := false
  deriving DecidableEq, Repr

/-- `tier0BypassResult`. -/
def tier0BypassResult (now : ℕ) (req : EvaluateRequest) (outcome : Tier0Outcome) : EvaluateResult :=
  { tenantID := req.tenantID
    messageID := req.messageID
    correlationID := req.correlationID
    evaluatedAt := now
    primary := outcome.forcedCategory
    tier := some (forcedTierFor outcome.forcedCategory)
    tier0 := some outcome
    reasonCodes := if outcome.reason = "" then [] else [outcome.reason] }

/-- `shouldFallbackToTier2`. -/
def shouldFallbackToTier2 (verdict : Verdict) (tier0 : Tier0Outcome) : Bool :=
  if tier0.skipML || tier0.rspamdOnly then false
  else if tier0.forceEscalate then true
  else verdict = .escalate

/-- `propagateTier0OntoResult`. -/
def propagateTier0OntoResult (res : EvaluateResult) (outcome : Tier0Outcome) : EvaluateResult :=
  let res := { res with tier0 := res.tier0 <|> some outcome }
  if outcome.reason = "" ∨ outcome.reason ∈ res.reasonCodes then res
  else { res with reasonCodes := res.reasonCodes ++ [outcome.reason] }

/-- `StampResultParticipantHashes`, after `SightingFor`. -/
def stampResultParticipantHashes (upd : Option CommHistoryUpdate) (res : EvaluateResult) :
    EvaluateResult :=
  match upd with
  | none => res
  | some upd =>
    { res with
      senderHash := if res.senderHash = [] then upd.senderHash else res.senderHash
      recipientHash := if res.recipientHash = [] then upd.recipientHash else res.recipientHash }

/-- The entry of a message in the Tier 1 batch. -/
def Pending.predictRequest (p : Pending) : PredictRequest :=
  ⟨p.req.subject, p.req.body, p.sig.senderDomain, p.req.messageID⟩

namespace BatchOrchestrator

variable (o : BatchOrchestrator) (now : ℕ)

/-- `decodeEvaluatePayload`: the wrapped shape, then the flat one. The flag says that the flat one was used. -/
def decodeEvaluatePayload (data : List UInt8) : Except String (BatchMessage × Bool) :=
  match o.unmarshalBatchMessage data with
  | .error err => .error err
  | .ok bm =>
    if bm.request.messageID ≠ "" then .ok (bm, false)
    else
      match o.unmarshalRequest data with
      | .error err => .error err
      | .ok flat =>
        if flat.messageID = "" then
          .error "evaluate: payload missing message_id (neither BatchMessage.Request nor flat dto.EvaluateRequest)"
        else .ok (⟨flat, flat.signals⟩, true)

/-- The body of the first loop. The `legacy` flag feeds a counter only. -/
def pend (i : ℕ) (data : List UInt8) : Except String Pending :=
  match o.decodeEvaluatePayload data with
  | .error err => .error err
  | .ok (bm, _) =>
    let sig := o.enrich i bm.request bm.signals
    let p : Pending := { msg := i, req := bm.request, sig }
    match o.tier0 with
    | none => .ok p
    | some gate =>
      let outcome := gate i bm.request sig
      if outcome.bypass then
        .ok { p with tier0Outcome := outcome, tier0Result := tier0BypassResult now bm.request outcome
                     hit0 := true }
      else .ok { p with tier0Outcome := outcome }

/-- The first loop, over payloads and their places: what does not decode is nacked, the rest is pending. -/
def collect : List (List UInt8 × ℕ) → List Effect × List Pending
  | [] => ([], [])
  | (data, i) :: msgs =>
    let (log, pendings) := collect msgs
    match o.pend now i data with
    | .error _ => (.nak i :: log, pendings)
    | .ok p => (log, p :: pendings)

/-- The second loop: the Tier 1 batch, and for each of its entries the index into `pendings`. -/
def tier1Batch : ℕ → List Pending → List PredictRequest × List ℕ
  | _, [] => ([], [])
  | i, p :: pendings =>
    let (inputs, indices) := tier1Batch (i + 1) pendings
    if p.hit0 then (inputs, indices) else (p.predictRequest :: inputs, i :: indices)

/-- `BatchOrchestrator.resolveTenantConfig`. -/
def resolveTenantConfig (tenantID : String) : Weights × Thresholds :=
  match o.tenantConfig with
  | none => (o.weights, o.thresholds)
  | some load =>
    if tenantID = "" then (o.weights, o.thresholds)
    else applyTenantConfig o.weights o.thresholds (load tenantID)

/-- `aggregateLightweight`. -/
def aggregateLightweight (res : EvaluateResult) (sig : RiskSignals) (weights : Weights) :
    EvaluateResult :=
  let res := { res with score := scoreWithAvailability (fromResultEx res) weights }
  let res := match o.categorizer with
    | none => res
    | some categorise =>
      let (primary, secondary, reasons) := categorise res sig
      { res with primary := some primary, secondary, reasonCodes := res.reasonCodes ++ reasons }
  match o.tierDecider with
  | none => res
  | some decide => { res with tier := some (decide res.score res.primary sig) }

/-- The thresholds and the verdict of a Tier 1 response. -/
def verdictFor (p : Pending) (resp : PredictResponse) : Verdict :=
  let t := (o.resolveTenantConfig p.req.tenantID).2.adjustForRelationship p.sig.relationshipCategory
  let t := if 0 < p.tier0Outcome.tier1ThresholdOverride then
    { t with passBelow := p.tier0Outcome.tier1ThresholdOverride } else t
  t.decision resp.score

/-- The result that a Tier 1 response alone gives. -/
def tier1Only (p : Pending) (resp : PredictResponse) : EvaluateResult :=
  let verdict := o.verdictFor p resp
  { tenantID := p.req.tenantID
    messageID := p.req.messageID
    correlationID := p.req.correlationID
    evaluatedAt := now
    score := resp.score
    reasonCodes := resp.reasonCodes
    tier1 := some
      { score := resp.score
        confidence := resp.confidence
        language := resp.language
        modelName := resp.modelTag
        pass := verdict = .pass
        flag := verdict = .flag
        escalate := verdict = .escalate } }

/-- The fallback's result, where the message goes to the fallback and it does not fail. -/
def fallbackResult (p : Pending) (resp : PredictResponse) : Option EvaluateResult :=
  if shouldFallbackToTier2 (o.verdictFor p resp) p.tier0Outcome then
    o.fallback.bind fun f => (f p.msg p.req p.sig).toOption
  else none

/-- The body of the Tier 1 loop, up to `finalisePending`. -/
def tier1Result (p : Pending) (resp : PredictResponse) : EvaluateResult :=
  let res := match o.fallbackResult p resp with
    | some full => full
    | none =>
      o.aggregateLightweight (o.tier1Only now p resp) p.sig (o.resolveTenantConfig p.req.tenantID).1
  propagateTier0OntoResult res p.tier0Outcome

/-- The result that `finalisePending` publishes. -/
def finalised (p : Pending) (res : EvaluateResult) : EvaluateResult :=
  stampResultParticipantHashes (o.sightingFor p.req) (backfillRoutingFields now res p.req)

/-- `PublishCommHistoryUpdate`, best effort: whether the bus takes the sighting changes nothing. -/
def publishCommHistoryUpdate (p : Pending) : List Effect :=
  match o.sightingFor p.req with
  | none => []
  | some upd =>
    match upd.validate with
    | .error _ => []
    | .ok () => [.sighting p.msg upd]

/-- `finalisePending`. -/
def finalisePending (p : Pending) (res : EvaluateResult) (log : List Effect) : List Effect :=
  let res := o.finalised now p res
  if o.publishResult log res then
    log ++ (.published p.msg res :: o.publishCommHistoryUpdate p ++ [.ack p.msg])
  else log ++ [.publishFailed p.msg res, .nak p.msg]

/-- The Tier 1 loop, at entry `j` of the answer. -/
def tier1Loop (tier1Out : List PredictResponse) (pendings : List Pending) :
    ℕ → List ℕ → List Effect → Option (List Effect)
  | _, [], log => some log
  | j, idx :: indices, log =>
    match tier1Out[j]?, pendings[idx]? with
    | some resp, some p =>
      tier1Loop tier1Out pendings (j + 1) indices
        (o.finalisePending now p (o.tier1Result now p resp) log)
    | _, _ => none

/-- The loop that nacks the Tier 1 group. -/
def nakGroup (pendings : List Pending) : List ℕ → List Effect → Option (List Effect)
  | [], log => some log
  | idx :: indices, log =>
    match pendings[idx]? with
    | some p => nakGroup pendings indices (log ++ [.nak p.msg])
    | none => none

/-- The Tier 1 stage: one call for the whole batch, if there is anything in it. -/
def tier1Stage (pendings : List Pending) (log : List Effect) : Option (List Effect) :=
  let (inputs, indices) := tier1Batch 0 pendings
  if inputs = [] then o.tier1Loop now [] pendings 0 indices log
  else
    match o.predictBatch inputs with
    | .error _ => nakGroup pendings indices log
    | .ok out => o.tier1Loop now out pendings 0 indices log

/-- `processOnce` on a fetched batch. -/
def processBatch (msgs : List (List UInt8)) : Option (List Effect) :=
  let (log, pendings) := o.collect now msgs.zipIdx
  (o.tier1Stage now pendings log).map fun log =>
    (pendings.filter (·.hit0)).foldl (fun log p => o.finalisePending now p p.tier0Result log) log

/-- `processOnce`: the journal of a cycle, or the error of the fetch; `none` is a panic. -/
def processOnce (fetched : Except String (List (List UInt8))) : Option (Except String (List Effect)) :=
  match fetched with
  | .error err => some (.error ("fetch: " ++ err))
  | .ok msgs => (o.processBatch now msgs).map .ok

end BatchOrchestrator

end Sn360Es.Evaluate
