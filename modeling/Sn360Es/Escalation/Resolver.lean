import Sn360Es.Constant
import Sn360Es.Lib.GoStrings
import Sn360Es.Lib.Prog
import Sn360Es.Repository

/-!
# Resolutions of the SOC (`internal/service/escalation/resolver.go`)

An analyst has resolved an incident; `Reconcile` compares the resolution with the verdict of the platform, overrides
it if they differ, reopens the banner and writes one audit row. It is a program over the operations of the
repositories and of the banner reopener; an operation that fails has no effect.

* `ResolverOp.exec_cases` and the lemmas after it — what an operation answers and does;
* `Resolver.reconcile` — the call.
-/

namespace Sn360Es.Escalation

open Lib

/-- The verdicts of the column `final_verdict`; the empty one is `none`. -/
inductive Verdict where
  | malicious
  | suspicious
  | benign
  deriving DecidableEq, Repr

def resolutionConfirmedThreat : String := "confirmed_threat"
def resolutionFalsePositive : String := "false_positive"
def resolutionBenign : String := "benign"
def resolutionInconclusive : String := "inconclusive"

/-- `IsValidResolution`. -/
def isValidResolution (r : String) : Bool :=
  r = resolutionConfirmedThreat || r = resolutionFalsePositive || r = resolutionBenign ||
    r = resolutionInconclusive

/-- `EmailLink`, less the sender hash. -/
structure EmailLink where
  pseudoMessageID : String := ""
  correlationID : String := ""
  deriving DecidableEq, Repr

structure IncidentResolved where
  incidentID : String
  tenantID : String
  resolution : String
  resolvedAt : ℤ
  resolvedBy : String
  analystNotes : String := ""
  relatedEmail : Option EmailLink := none
  dedupID : String
  deriving DecidableEq, Repr

/-- `repository.EvaluationResult`, as far as the resolver reads it. -/
structure EvaluationResult where
  tenantID : String
  messageIDHash : String
  correlationID : String := ""
  tier : Option Tier := none
  finalVerdict : Option Verdict := none
  deriving DecidableEq, Repr

/-- `repository.EmailVerdictAudit`. -/
structure EmailVerdictAudit where
  id : String := ""
  tenantID : String
  dedupID : String
  pseudoMessageID : String
  originalVerdict : Option Verdict := none
  newVerdict : Option Verdict := none
  resolution : String
  resolvedBy : String
  resolvedAt : ℤ
  sourceIncidentID : String
  reason : String
  deriving DecidableEq, Repr

/-- `repository.BannerState`, as far as the resolver reads it. -/
structure BannerState where
  deliveredAt : Option ℤ := none
  deriving DecidableEq, Repr

inductive OutcomeKind where
  | flipped
  | noop
  | skipped
  | duplicate
  deriving DecidableEq, Repr

structure Outcome where
  kind : OutcomeKind
  auditID : String := ""
  originalVerdict : Option Verdict := none
  newVerdict : Option Verdict := none
  bannerReopened : Bool := false
  reason : String := ""
  deriving DecidableEq, Repr

/-! ### Operations -/

inductive ResolverOp where
  | getByDedupID (tenantID dedupID : String)
  | getByMessageHash (tenantID messageIDHash : String)
  | listRecent (tenantID : String) (limit : ℕ)
  | setFinalVerdict (tenantID messageIDHash : String) (verdict : Verdict)
  | getBanner (tenantID messageIDHash : String)
  | reopenBanner (tenantID messageID reason : String)
  | insertAudit (row : EmailVerdictAudit)
  deriving DecidableEq, Repr

/-- The answers; `Insert` says whether the row is new, and the id under which it is stored. -/
abbrev ResolverOp.Ans : ResolverOp → Type
  | getByDedupID _ _ => Except RepoError EmailVerdictAudit
  | getByMessageHash _ _ => Except RepoError EvaluationResult
  | listRecent _ _ => Except String (List EvaluationResult)
  | setFinalVerdict _ _ _ => Option RepoError
  | getBanner _ _ => Except RepoError BannerState
  | reopenBanner _ _ _ => Option String
  | insertAudit _ => Except String (Bool × String)

abbrev ResolverM := Prog ResolverOp ResolverOp.Ans

/-- A banner that was reopened. -/
structure Reopening where
  tenantID : String
  messageID : String
  reason : String
  deriving DecidableEq, Repr

/-- The repositories, and the banners reopened so far. The evaluations are in the order of their creation. -/
structure ResolverWorld where
  audits : String → String → Option EmailVerdictAudit := fun _ _ => none
  evaluations : List EvaluationResult := []
  banners : String → String → Option BannerState := fun _ _ => none
  reopened : List Reopening := []

/-- Whether an operation fails, and the fresh UUID of a row that it inserts. -/
structure ResolverEnv where
  fail : Option String := none
  uuid : String := ""
  deriving DecidableEq, Repr

def EvaluationResult.keyed (tenantID messageIDHash : String) (r : EvaluationResult) : Bool :=
  r.tenantID = tenantID && r.messageIDHash = messageIDHash

namespace ResolverWorld

variable (w : ResolverWorld)

/-- `GetByMessageHash`. -/
def evaluation (tenantID messageIDHash : String) : Option EvaluationResult :=
  w.evaluations.find? (·.keyed tenantID messageIDHash)

/-- `ListRecent`: the newest first. -/
def recent (tenantID : String) (limit : ℕ) : List EvaluationResult :=
  (w.evaluations.reverse.filter (·.tenantID = tenantID)).take limit

/-- `SetFinalVerdict`. -/
def setVerdict (tenantID messageIDHash : String) (v : Verdict) : ResolverWorld :=
  { w with evaluations := w.evaluations.map fun r =>
      if r.keyed tenantID messageIDHash then { r with finalVerdict := some v } else r }

def reopen (r : Reopening) : ResolverWorld := { w with reopened := w.reopened ++ [r] }

/-- `Insert`, of a row that is not there. -/
def addAudit (row : EmailVerdictAudit) : ResolverWorld :=
  { w with audits := fun t d => if t = row.tenantID ∧ d = row.dedupID then some row else w.audits t d }

end ResolverWorld

/-- The effect of an operation that does not fail. The checks of `Insert` are those that `validateInput` has made. -/
def ResolverOp.effect (e : ResolverEnv) (w : ResolverWorld) : (o : ResolverOp) → o.Ans × ResolverWorld
  | .getByDedupID tenantID dedupID =>
    (match w.audits tenantID dedupID with
      | some row => .ok row
      | none => .error .notFound, w)
  | .getByMessageHash tenantID hash =>
    (match w.evaluation tenantID hash with
      | some row => .ok row
      | none => .error .notFound, w)
  | .listRecent tenantID limit => (.ok (w.recent tenantID limit), w)
  | .setFinalVerdict tenantID hash v =>
    match w.evaluation tenantID hash with
    | some _ => (none, w.setVerdict tenantID hash v)
    | none => (some .notFound, w)
  | .getBanner tenantID hash =>
    (if hash = "" then .error (.failed "repository: BannerStates.Get: message_id_hash required")
      else match w.banners tenantID hash with
        | some row => .ok row
        | none => .error .notFound, w)
  | .reopenBanner tenantID messageID reason => (none, w.reopen ⟨tenantID, messageID, reason⟩)
  | .insertAudit row =>
    match w.audits row.tenantID row.dedupID with
    | some existing => (.ok (false, existing.id), w)
    | none => (.ok (true, e.uuid), w.addAudit { row with id := e.uuid })

/-- The answer of an operation that fails. -/
def ResolverOp.failure (err : String) : (o : ResolverOp) → o.Ans
  | .getByDedupID _ _ => .error (.failed err)
  | .getByMessageHash _ _ => .error (.failed err)
  | .listRecent _ _ => .error err
  | .setFinalVerdict _ _ _ => some (.failed err)
  | .getBanner _ _ => .error (.failed err)
  | .reopenBanner _ _ _ => some err
  | .insertAudit _ => .error err

def ResolverOp.exec (o : ResolverOp) (e : ResolverEnv) (w : ResolverWorld) : o.Ans × ResolverWorld :=
  match e.fail with
  | some err => (o.failure err, w)
  | none => o.effect e w

/-- The operation has overridden a verdict. -/
def ResolverOp.overrides : (o : ResolverOp) → o.Ans → Bool
  | .setFinalVerdict _ _ _, none => true
  | _, _ => false

/-- The operation has reopened a banner. -/
def ResolverOp.reopens : (o : ResolverOp) → o.Ans → Bool
  | .reopenBanner _ _ _, none => true
  | _, _ => false

/-- The operation has failed, so that the call returns the error. -/
def ResolverOp.fails : (o : ResolverOp) → o.Ans → Bool
  | .getByDedupID _ _, .error (.failed _) => true
  | .getByMessageHash _ _, .error (.failed _) => true
  | .listRecent _ _, .error _ => true
  | .setFinalVerdict _ _ _, some (.failed _) => true
  | .insertAudit _, .error _ => true
  | _, _ => false

/-- The operation of the banner path has failed: this is only logged. There is no banner of the empty hash, and the
probe for it is always refused. -/
def ResolverOp.bannerFails : (o : ResolverOp) → o.Ans → Bool
  | .getBanner _ hash, .error (.failed _) => hash ≠ ""
  | .reopenBanner _ _ _, some _ => true
  | _, _ => false

/-- Without failures, no operation fails. -/
lemma ResolverOp.effect_fails (e : ResolverEnv) (w : ResolverWorld) (o : ResolverOp) :
    o.fails (o.effect e w).1 = false ∧ o.bannerFails (o.effect e w).1 = false := by
  cases o with
  | getByDedupID tenantID dedupID =>
    cases h : w.audits tenantID dedupID <;> simp [effect, fails, bannerFails, h]
  | getByMessageHash tenantID hash =>
    cases h : w.evaluation tenantID hash <;> simp [effect, fails, bannerFails, h]
  | listRecent tenantID limit => simp [effect, fails, bannerFails]
  | setFinalVerdict tenantID hash v =>
    cases h : w.evaluation tenantID hash <;> simp [effect, fails, bannerFails, h]
  | getBanner tenantID hash =>
    by_cases hempty : hash = ""
    · simp [effect, fails, bannerFails, hempty]
    · cases h : w.banners tenantID hash <;> simp [effect, fails, bannerFails, hempty, h]
  | reopenBanner tenantID messageID reason => simp [effect, fails, bannerFails]
  | insertAudit row =>
    cases h : w.audits row.tenantID row.dedupID <;> simp [effect, fails, bannerFails, h]

section Exec

variable {e : ResolverEnv} {w w' : ResolverWorld} {tenantID dedupID hash : String}

/-- An operation fails and does nothing, or it does not fail. -/
lemma ResolverOp.exec_cases {o : ResolverOp} {a : o.Ans} (h : o.exec e w = (a, w')) :
    (∃ err, e.fail = some err ∧ a = o.failure err ∧ w' = w) ∨ (e.fail = none ∧ o.effect e w = (a, w')) := by
  unfold ResolverOp.exec at h
  cases hf : e.fail with
  | some err =>
    simp only [hf] at h
    cases h
    exact .inl ⟨err, rfl, rfl, rfl⟩
  | none =>
    simp only [hf] at h
    exact .inr ⟨rfl, h⟩

lemma exec_getByDedupID {a : Except RepoError EmailVerdictAudit}
    (h : ResolverOp.exec (.getByDedupID tenantID dedupID) e w = (a, w')) : w' = w ∧
      ((∃ err, e.fail = some err ∧ a = .error (.failed err)) ∨
        (e.fail = none ∧ ∃ row, w.audits tenantID dedupID = some row ∧ a = .ok row) ∨
        (e.fail = none ∧ w.audits tenantID dedupID = none ∧ a = .error .notFound)) := by
  obtain ⟨err, hf, rfl, rfl⟩ | ⟨hf, heff⟩ := ResolverOp.exec_cases h
  · exact ⟨rfl, .inl ⟨err, hf, rfl⟩⟩
  · cases hrow : w.audits tenantID dedupID with
    | some row =>
      simp only [ResolverOp.effect, hrow] at heff
      cases heff
      exact ⟨rfl, .inr (.inl ⟨hf, row, rfl, rfl⟩)⟩
    | none =>
      simp only [ResolverOp.effect, hrow] at heff
      cases heff
      exact ⟨rfl, .inr (.inr ⟨hf, rfl, rfl⟩)⟩

lemma exec_getByMessageHash {a : Except RepoError EvaluationResult}
    (h : ResolverOp.exec (.getByMessageHash tenantID hash) e w = (a, w')) : w' = w ∧
      ((∃ err, e.fail = some err ∧ a = .error (.failed err)) ∨
        (e.fail = none ∧ ∃ row, w.evaluation tenantID hash = some row ∧ a = .ok row) ∨
        (e.fail = none ∧ w.evaluation tenantID hash = none ∧ a = .error .notFound)) := by
  obtain ⟨err, hf, rfl, rfl⟩ | ⟨hf, heff⟩ := ResolverOp.exec_cases h
  · exact ⟨rfl, .inl ⟨err, hf, rfl⟩⟩
  · cases hrow : w.evaluation tenantID hash with
    | some row =>
      simp only [ResolverOp.effect, hrow] at heff
      cases heff
      exact ⟨rfl, .inr (.inl ⟨hf, row, rfl, rfl⟩)⟩
    | none =>
      simp only [ResolverOp.effect, hrow] at heff
      cases heff
      exact ⟨rfl, .inr (.inr ⟨hf, rfl, rfl⟩)⟩

lemma exec_listRecent {limit : ℕ} {a : Except String (List EvaluationResult)}
    (h : ResolverOp.exec (.listRecent tenantID limit) e w = (a, w')) : w' = w ∧
      ((∃ err, e.fail = some err ∧ a = .error err) ∨ (e.fail = none ∧ a = .ok (w.recent tenantID limit))) := by
  obtain ⟨err, hf, rfl, rfl⟩ | ⟨hf, heff⟩ := ResolverOp.exec_cases h
  · exact ⟨rfl, .inl ⟨err, hf, rfl⟩⟩
  · cases heff
    exact ⟨rfl, .inr ⟨hf, rfl⟩⟩

lemma exec_setFinalVerdict {v : Verdict} {a : Option RepoError}
    (h : ResolverOp.exec (.setFinalVerdict tenantID hash v) e w = (a, w')) :
    (∃ err, e.fail = some err ∧ a = some (.failed err) ∧ w' = w) ∨
      (e.fail = none ∧ w.evaluation tenantID hash = none ∧ a = some .notFound ∧ w' = w) ∨
      (e.fail = none ∧ (w.evaluation tenantID hash).isSome ∧ a = none ∧ w' = w.setVerdict tenantID hash v) := by
  obtain ⟨err, hf, rfl, rfl⟩ | ⟨hf, heff⟩ := ResolverOp.exec_cases h
  · exact .inl ⟨err, hf, rfl, rfl⟩
  · cases hrow : w.evaluation tenantID hash with
    | some row =>
      simp only [ResolverOp.effect, hrow] at heff
      cases heff
      exact .inr (.inr ⟨hf, rfl, rfl, rfl⟩)
    | none =>
      simp only [ResolverOp.effect, hrow] at heff
      cases heff
      exact .inr (.inl ⟨hf, rfl, rfl, rfl⟩)

lemma exec_getBanner {a : Except RepoError BannerState}
    (h : ResolverOp.exec (.getBanner tenantID hash) e w = (a, w')) : w' = w ∧
      ((∃ err, e.fail = some err ∧ a = .error (.failed err)) ∨
        (e.fail = none ∧ a = (ResolverOp.effect e w (.getBanner tenantID hash)).1)) := by
  obtain ⟨err, hf, rfl, rfl⟩ | ⟨hf, heff⟩ := ResolverOp.exec_cases h
  · exact ⟨rfl, .inl ⟨err, hf, rfl⟩⟩
  · cases heff
    exact ⟨rfl, .inr ⟨hf, rfl⟩⟩

lemma exec_reopenBanner {messageID reason : String} {a : Option String}
    (h : ResolverOp.exec (.reopenBanner tenantID messageID reason) e w = (a, w')) :
    (∃ err, e.fail = some err ∧ a = some err ∧ w' = w) ∨
      (e.fail = none ∧ a = none ∧ w' = w.reopen ⟨tenantID, messageID, reason⟩) := by
  obtain ⟨err, hf, rfl, rfl⟩ | ⟨hf, heff⟩ := ResolverOp.exec_cases h
  · exact .inl ⟨err, hf, rfl, rfl⟩
  · cases heff
    exact .inr ⟨hf, rfl, rfl⟩

lemma exec_insertAudit {row : EmailVerdictAudit} {a : Except String (Bool × String)}
    (h : ResolverOp.exec (.insertAudit row) e w = (a, w')) :
    (∃ err, e.fail = some err ∧ a = .error err ∧ w' = w) ∨
      (e.fail = none ∧ ∃ old, w.audits row.tenantID row.dedupID = some old ∧ a = .ok (false, old.id) ∧ w' = w) ∨
      (e.fail = none ∧ w.audits row.tenantID row.dedupID = none ∧ a = .ok (true, e.uuid) ∧
        w' = w.addAudit { row with id := e.uuid }) := by
  obtain ⟨err, hf, rfl, rfl⟩ | ⟨hf, heff⟩ := ResolverOp.exec_cases h
  · exact .inl ⟨err, hf, rfl, rfl⟩
  · cases hrow : w.audits row.tenantID row.dedupID with
    | some old =>
      simp only [ResolverOp.effect, hrow] at heff
      cases heff
      exact .inr (.inl ⟨hf, old, rfl, rfl, rfl⟩)
    | none =>
      simp only [ResolverOp.effect, hrow] at heff
      cases heff
      exact .inr (.inr ⟨hf, rfl, rfl, rfl⟩)

end Exec

namespace ResolverM

def getByDedupID (tenantID dedupID : String) : ResolverM (Except RepoError EmailVerdictAudit) :=
  Prog.perform (ResolverOp.getByDedupID tenantID dedupID)

def getByMessageHash (tenantID hash : String) : ResolverM (Except RepoError EvaluationResult) :=
  Prog.perform (ResolverOp.getByMessageHash tenantID hash)

def listRecent (tenantID : String) (limit : ℕ) : ResolverM (Except String (List EvaluationResult)) :=
  Prog.perform (ResolverOp.listRecent tenantID limit)

def setFinalVerdict (tenantID hash : String) (v : Verdict) : ResolverM (Option RepoError) :=
  Prog.perform (ResolverOp.setFinalVerdict tenantID hash v)

def getBanner (tenantID hash : String) : ResolverM (Except RepoError BannerState) :=
  Prog.perform (ResolverOp.getBanner tenantID hash)

def reopenBanner (tenantID messageID reason : String) : ResolverM (Option String) :=
  Prog.perform (ResolverOp.reopenBanner tenantID messageID reason)

def insertAudit (row : EmailVerdictAudit) : ResolverM (Except String (Bool × String)) :=
  Prog.perform (ResolverOp.insertAudit row)

end ResolverM

/-! ### The resolver -/

/-- `validateInput`: the error, if the payload is refused. -/
def validateInput (ev : IncidentResolved) : Option String :=
  if ev.incidentID = "" then some "escalation: invalid payload: incident_id required"
  else if ev.tenantID = "" then some "escalation: invalid payload: tenant_id required"
  else if !isValidResolution ev.resolution then
    some ("escalation: invalid payload: invalid resolution \"" ++ ev.resolution ++ "\"")
  else if ev.resolvedAt = 0 then some "escalation: invalid payload: resolved_at required"
  else if ev.dedupID = "" then some "escalation: invalid payload: dedup_id required"
  else if ev.resolvedBy = "" then some "escalation: invalid payload: resolved_by required"
  else none

/-- `automatedVerdict`. -/
def automatedVerdict (r : EvaluationResult) : Option Verdict :=
  match r.finalVerdict with
  | some v => some v
  | none =>
    match r.tier with
    | some .blocked => some .malicious
    | some .highRisk => some .malicious
    | some .warning => some .suspicious
    | some .caution => some .suspicious
    | some .informational => some .benign
    | some .trusted => some .benign
    | none => none

/-- `flipFor`: the new verdict, if the resolution overrides the old one. -/
def flipFor (resolution : String) (automated : Option Verdict) : Option Verdict :=
  if resolution = resolutionConfirmedThreat then
    if automated = some .malicious then none else some .malicious
  else if resolution = resolutionFalsePositive then
    if automated = some .benign then none else some .benign
  else if resolution = resolutionBenign then
    if automated = some .malicious then some .benign else none
  else none

/-- `composeReason`. -/
def composeReason (resolution notes : String) : String :=
  if GoStrings.trimSpace notes = "" then resolution else resolution ++ ": " ++ GoStrings.trimSpace notes

def maxBannerNoteChars : ℕ := 256

/-- `composeBannerReason`. -/
def composeBannerReason (resolution notes : String) : String :=
  let trimmed := GoStrings.trimSpace notes
  let lead := "Updated by SOC analyst: " ++ resolution
  if trimmed = "" then lead
  else
    let short := if maxBannerNoteChars < trimmed.length then
        String.ofList (trimmed.toList.take (maxBannerNoteChars - 1)) ++ "…"
      else trimmed
    lead ++ " — " ++ short

/-- `pseudoMessageIDFor`. -/
def pseudoMessageIDFor (ev : IncidentResolved) : String :=
  match ev.relatedEmail with
  | none => ""
  | some link =>
    if GoStrings.trimSpace link.pseudoMessageID ≠ "" then GoStrings.trimSpace link.pseudoMessageID
    else GoStrings.trimSpace link.correlationID

def evalListLookbackForCorrelation : ℕ := 500

/-- The audit row of an event, less the verdicts and the reason. -/
def auditRow (ev : IncidentResolved) (original new : Option Verdict) (reason : String) : EmailVerdictAudit where
  tenantID := ev.tenantID
  dedupID := ev.dedupID
  pseudoMessageID := pseudoMessageIDFor ev
  originalVerdict := original
  newVerdict := new
  resolution := ev.resolution
  resolvedBy := ev.resolvedBy
  resolvedAt := ev.resolvedAt
  sourceIncidentID := ev.incidentID
  reason := reason

/-- `Resolver`: whether it has a reopener, and `strings.EqualFold`. -/
structure Resolver where
  reopener : Bool := true
  equalFold : String → String → Bool

namespace Resolver

variable (r : Resolver)

/-- What `locateEvaluation` found: the hash it is keyed by, and the row; or why there is none. -/
inductive Located where
  | found (hash : String) (row : EvaluationResult)
  | missing (reason : String)
  deriving DecidableEq, Repr

/-- The search of `locateEvaluation` among the recent rows. -/
def searchRecent (corr : String) (recents : List EvaluationResult) : Located :=
  match recents.find? fun row => r.equalFold row.correlationID corr with
  | some row => .found row.messageIDHash row
  | none => .missing ("no evaluation_results row for correlation_id=" ++ corr ++ " within recent window")

/-- `locateEvaluation`. -/
def locateEvaluation (ev : IncidentResolved) : ResolverM (Except String Located) := do
  match ev.relatedEmail with
  | none => return .ok (.missing "payload missing related_email")
  | some link =>
    let pseudo := GoStrings.trimSpace link.pseudoMessageID
    let corr := GoStrings.trimSpace link.correlationID
    if pseudo ≠ "" then
      match ← ResolverM.getByMessageHash ev.tenantID pseudo with
      | .ok row => return .ok (.found pseudo row)
      | .error (.failed err) => return .error ("escalation: GetByMessageHash: " ++ err)
      | .error .notFound =>
        if corr ≠ "" then
          match ← ResolverM.listRecent ev.tenantID evalListLookbackForCorrelation with
          | .error err => return .error ("escalation: ListRecent for correlation: " ++ err)
          | .ok recents => return .ok (r.searchRecent corr recents)
        else return .ok (.missing ("no evaluation_results row for pseudo_message_id=" ++ pseudo))
    else if corr ≠ "" then
      match ← ResolverM.listRecent ev.tenantID evalListLookbackForCorrelation with
      | .error err => return .error ("escalation: ListRecent for correlation: " ++ err)
      | .ok recents => return .ok (r.searchRecent corr recents)
    else return .ok (.missing "payload related_email had no identifiers")

/-- `persistSkip`. -/
def persistSkip (ev : IncidentResolved) (reason : String) : ResolverM (Except String Outcome) := do
  let full := composeReason ev.resolution ev.analystNotes ++ " [skip: " ++
    (if reason = "" then "no findable evaluation row" else reason) ++ "]"
  match ← ResolverM.insertAudit (auditRow ev none none full) with
  | .error err => return .error ("escalation: audit insert (skip): " ++ err)
  | .ok (inserted, id) =>
    return .ok { kind := if inserted then .skipped else .duplicate, auditID := id, reason := full }

/-- The banner-reopen path of `Reconcile`: whether it reopened the banner. What fails is only logged. -/
def reopenPath (ev : IncidentResolved) (tenantID hash : String) (new : Verdict) : ResolverM Bool := do
  if new = .malicious ∧ r.reopener then
    match ← ResolverM.getBanner tenantID hash with
    | .error _ => return false
    | .ok bs =>
      if bs.deliveredAt = none then return false
      else
        match ← ResolverM.reopenBanner tenantID hash (composeBannerReason ev.resolution ev.analystNotes) with
        | some _ => return false
        | none => return true
  else return false

/-- The audit row that `Reconcile` writes last. -/
def persistAudit (ev : IncidentResolved) (out : Outcome) : ResolverM (Except String Outcome) := do
  match ← ResolverM.insertAudit (auditRow ev out.originalVerdict out.newVerdict out.reason) with
  | .error err => return .error ("escalation: audit insert: " ++ err)
  | .ok (inserted, id) =>
    return .ok { out with auditID := id, kind := if inserted then out.kind else .duplicate }

/-- `Reconcile`, once the evaluation is located. -/
def applyResolution (ev : IncidentResolved) (hash : String) (row : EvaluationResult) :
    ResolverM (Except String Outcome) := do
  if row.tenantID ≠ ev.tenantID then
    persistSkip ev ("cross-tenant: payload tenant=" ++ ev.tenantID ++ " row tenant=" ++ row.tenantID)
  else
    let original := automatedVerdict row
    let reason := composeReason ev.resolution ev.analystNotes
    match flipFor ev.resolution original with
    | none => persistAudit ev { kind := .noop, originalVerdict := original, reason }
    | some new =>
      match ← ResolverM.setFinalVerdict row.tenantID hash new with
      | some .notFound =>
        persistSkip ev "evaluation_results row vanished between locate and SetFinalVerdict"
      | some (.failed err) => return .error ("escalation: SetFinalVerdict: " ++ err)
      | none =>
        let reopened ← r.reopenPath ev row.tenantID hash new
        persistAudit ev { kind := .flipped, originalVerdict := original, newVerdict := some new,
                          bannerReopened := reopened, reason }

/-- `Resolver.Reconcile`. -/
def reconcile (ev : IncidentResolved) : ResolverM (Except String Outcome) := do
  match validateInput ev with
  | some err => return .error err
  | none =>
    match ← ResolverM.getByDedupID ev.tenantID ev.dedupID with
    | .ok existing =>
      return .ok { kind := .duplicate, auditID := existing.id, originalVerdict := existing.originalVerdict
                   newVerdict := existing.newVerdict, reason := existing.reason }
    | .error (.failed err) => return .error ("escalation: dedup probe: " ++ err)
    | .error .notFound =>
      match ← r.locateEvaluation ev with
      | .error err => return .error err
      | .ok (.missing reason) => persistSkip ev reason
      | .ok (.found hash row) => r.applyResolution ev hash row

end Resolver

/-! ### A threat that was delivered as trusted -/

def threatConfirmed : IncidentResolved where
  incidentID := "inc-1"
  tenantID := "acme"
  resolution := resolutionConfirmedThreat
  resolvedAt := 1
  resolvedBy := "soc"
  relatedEmail := some { pseudoMessageID := "m1" }
  dedupID := "d1"

def trustedDelivered : ResolverWorld where
  evaluations := [{ tenantID := "acme", messageIDHash := "m1", tier := some .trusted }]
  banners _ hash := if hash = "m1" then some { deliveredAt := some 0 } else none

def plainResolver : Resolver where
  equalFold a b := a.toLower = b.toLower

end Sn360Es.Escalation
