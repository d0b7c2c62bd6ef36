import Sn360Es.Lib.Amid
import Sn360Es.Lib.Solo
import Sn360Es.Relationship.Categories
import Sn360Es.Relationship.CommunicationHistory
import Sn360Es.Repository

/-!
# The relationship job (`RelationshipJob.Run` of `internal/service/worker/relationship_worker.go`)

A cycle walks the tenants and refreshes their communication histories: it resets `Count7d`, classifies the sender again
and adds the hour of the last mail to the behavioural baseline of the recipient, unless the watermark of the tenant says
that an earlier cycle has done so. The watermarks live in the job. The world keeps a record of the samples: the row, and
the `LastSeenAt` whose hour was added.

* `RelationshipJob.run` — a cycle;
* `JobOp.exec` — what its operations do, `exec_updateCountsIfFresh` the compare-and-set;
* `reclassify_cases`, `prepareRow_cases` — what the classification and the baseline of a row perform.
-/

namespace Sn360Es.Worker

open Lib Relationship

/-- `repository.UserBehavioralBaseline`, less its id, the device types and the instants of its writes. -/
structure UserBehavioralBaseline where
  tenantID : String
  userEmailHash : Bytes
  senderDomainHash : Bytes
  typicalSendHours : List ℤ
  avgMessagesPerWeek : ℚ
  lastSeenAt : ℤ
  deriving DecidableEq, Repr

/-- A sample of a baseline: the row and the `LastSeenAt` that it is taken from. -/
abbrev Sample := CommKey × ℤ

/-- The tables, the watermarks (`lastCycleStartedAt`, where a missing entry reads as the zero time), and the samples
taken so far. -/
structure JobWorld where
  comms : CommTable := {}
  baselines : String → Bytes → Bytes → Option UserBehavioralBaseline := fun _ _ _ => none
  watermarks : String → ℤ := fun _ => 0
  samples : List Sample := []

/-! ### Operations -/

inductive JobOp where
  | now
  | iterateActive
  | ctxErr
  | listByTenant (tenantID : String) (since limit : ℤ)
  | watermark (tenantID : String)
  | getBaseline (tenantID : String) (userEmailHash senderDomainHash : Bytes)
  | updateCountsIfFresh (h : CommunicationHistory) (readAt : ℤ)
  | upsertBaseline (sample : Sample) (b : UserBehavioralBaseline)
  | setWatermark (tenantID : String) (start : ℤ)
  | prune (active : List String)
  deriving DecidableEq, Repr

/-- The answers; `IterateActive` yields the tenants of its batches and ends with an error or without. -/
abbrev JobOp.Ans : JobOp → Type
  | now => Instant
  | iterateActive => List String × Option String
  | ctxErr => Option String
  | listByTenant _ _ _ => Except String (List CommunicationHistory)
  | watermark _ => ℤ
  | getBaseline _ _ _ => Except RepoError UserBehavioralBaseline
  | updateCountsIfFresh _ _ => Except String Bool
  | upsertBaseline _ _ => Option String
  | setWatermark _ _ => Unit
  | prune _ => Unit

/-- What an operation meets: a failure, the instant, and the active tenants. -/
structure JobEnv where
  fail : Option String := none
  clock : Instant := default
  tenants : List String := []

/-- What an operation does; one that fails does nothing. -/
def JobOp.exec (o : JobOp) (e : JobEnv) (w : JobWorld) : o.Ans × JobWorld :=
  match o with
  | .now => (e.clock, w)
  | .iterateActive => ((e.tenants, e.fail), w)
  | .ctxErr => (e.fail, w)
  | .listByTenant tenantID since limit =>
    (match e.fail with
      | some err => .error err
      | none => .ok (w.comms.listByTenant tenantID since limit), w)
  | .watermark tenantID => (w.watermarks tenantID, w)
  | .getBaseline tenantID u d =>
    (match e.fail, w.baselines tenantID u d with
      | some err, _ => .error (.failed err)
      | none, some b => .ok b
      | none, none => .error .notFound, w)
  | .updateCountsIfFresh h readAt =>
    match e.fail with
    | some err => (.error err, w)
    | none =>
      match w.comms.updateCountsIfFresh h readAt e.clock with
      | .error err => (.error err, w)
      | .ok (updated, comms) => (.ok updated, { w with comms })
  | .upsertBaseline sample b =>
    match e.fail with
    | some err => (some err, w)
    | none => (none, { w with
        baselines := fun t u d => if t = b.tenantID ∧ u = b.userEmailHash ∧ d = b.senderDomainHash then some b
          else w.baselines t u d
        samples := sample :: w.samples })
  | .setWatermark tenantID start =>
    ((), { w with watermarks := fun t => if t = tenantID then start else w.watermarks t })
  | .prune active => ((), { w with watermarks := fun t => if t ∈ active then w.watermarks t else 0 })

/-- **The compare-and-set** writes the row if it is still the one that was read. -/
lemma exec_updateCountsIfFresh {e : JobEnv} {w w' : JobWorld} {h : CommunicationHistory} {readAt : ℤ}
    {a : Except String Bool} (hexec : JobOp.exec (.updateCountsIfFresh h readAt) e w = (a, w')) :
    (w' = w ∧ a ≠ .ok true) ∨
      (a = .ok true ∧ (∃ cur, w.comms.get h.key = some cur ∧ cur.updatedAt = readAt) ∧
        w' = { w with comms := w.comms.retouch e.clock h.key (CommTable.refreshed h) }) := by
  simp only [JobOp.exec] at hexec
  cases hf : e.fail with
  | some err =>
    simp only [hf] at hexec
    cases hexec
    exact .inl ⟨rfl, nofun⟩
  | none =>
    simp only [hf] at hexec
    cases hupd : w.comms.updateCountsIfFresh h readAt e.clock with
    | error err =>
      simp only [hupd] at hexec
      cases hexec
      exact .inl ⟨rfl, nofun⟩
    | ok res =>
      simp only [hupd] at hexec
      cases hexec
      unfold CommTable.updateCountsIfFresh at hupd
      split at hupd
      · cases hupd
      · split at hupd
        · cases hupd
        · split at hupd
          · cases hupd
          · cases hget : w.comms.get h.key with
            | none =>
              simp only [hget] at hupd
              cases hupd
            | some cur =>
              simp only [hget] at hupd
              by_cases hne : cur.updatedAt ≠ readAt
              · rw [if_pos hne] at hupd
                cases hupd
                exact .inl ⟨rfl, by simp⟩
              · rw [if_neg hne] at hupd
                cases hupd
                exact .inr ⟨rfl, ⟨cur, rfl, not_not.mp hne⟩, rfl⟩

/-- It does so if nothing fails. -/
lemma exec_updateCountsIfFresh_of_fresh {e : JobEnv} {w : JobWorld} {h cur : CommunicationHistory} {readAt : ℤ}
    (hf : e.fail = none) (hid : h.id ≠ "") (htenant : h.tenantID ≠ "") (hread : readAt ≠ 0)
    (hget : w.comms.get h.key = some cur) (hcur : cur.updatedAt = readAt) :
    JobOp.exec (.updateCountsIfFresh h readAt) e w =
      (.ok true, { w with comms := w.comms.retouch e.clock h.key (CommTable.refreshed h) }) := by
  simp [JobOp.exec, hf, CommTable.updateCountsIfFresh, hid, htenant, hread, hget, hcur]

abbrev JobM := Prog JobOp JobOp.Ans

/-! ### The job -/

def hour : ℤ := 3600 * GoTime.second

def week : ℤ := 7 * 24 * hour

/-- `Time.UTC().Hour()`. -/
def hourOfDay (t : ℤ) : ℤ := t / hour % 24

def maxBaselineSendHours : ℕ := 168

/-- `modalHourOf`: the most frequent hour, the lowest of them on ties. -/
def modalHourOf (hours : List ℤ) : ℤ :=
  ((List.range 24).foldl (fun (best : ℤ × ℕ) h =>
    if best.2 < hours.count (h : ℤ) then ((h : ℤ), hours.count (h : ℤ)) else best) (-1, 0)).1

/-- `baselineCache`: the baselines that a cycle has met, `none` for one that is not there. The key of a baseline is
read off the two hashes, so it is the pair of them. -/
abbrev BaselineCache := List ((Bytes × Bytes) × Option UserBehavioralBaseline)

/-- `RelationshipJob`: its window and limit, whether it has baselines and a hasher, and `strings.ToLower`. -/
structure RelationshipJob where
  window : ℤ := 30 * 24 * hour
  maxPerTenant : ℤ := 1000
  hasBaselines : Bool := true
  toLower : String → String

/-- `Count7d` is reset when the last mail is more than seven days old. -/
def decay (now : ℤ) (h : CommunicationHistory) : CommunicationHistory :=
  if 0 < h.count7d ∧ h.lastSeenAt < now - week then { h with count7d := 0 } else h

/-- A row that has a baseline. -/
def Sampleable (h : CommunicationHistory) : Prop := h.recipientHash ≠ [] ∧ h.senderDomainHash ≠ []

instance (h : CommunicationHistory) : Decidable (Sampleable h) := inferInstanceAs (Decidable (_ ∧ _))

/-- The sample that is taken from a row. -/
def sampleOf (h : CommunicationHistory) : Sample := (h.key, h.lastSeenAt)

/-- The hours of a baseline with one more, the oldest dropped beyond the cap. -/
def appendHour (hours : List ℤ) (sendHour : ℤ) : List ℤ :=
  let all := hours ++ [sendHour]
  all.drop (all.length - maxBaselineSendHours)

/-- The baseline with one more hour. -/
def nextBaseline (tenantID : String) (h : CommunicationHistory) (sendHour : ℤ)
    (prev : Option UserBehavioralBaseline) : UserBehavioralBaseline where
  tenantID := tenantID
  userEmailHash := h.recipientHash
  senderDomainHash := h.senderDomainHash
  typicalSendHours := appendHour ((prev.map (·.typicalSendHours)).getD []) sendHour
  avgMessagesPerWeek := if 0 < h.count30d then h.count30d / 4 else 0
  lastSeenAt := h.lastSeenAt

namespace RelationshipJob

variable (j : RelationshipJob)

/-- The relationship label of a row; the classifier reads the clock. -/
def reclassify (h : CommunicationHistory) : JobM CommunicationHistory := do
  let domain := j.toLower (GoStrings.trimSpace h.senderDomain)
  if domain ≠ "" ∧ 0 < h.count30d then
    let now ← Prog.perform JobOp.now
    match classify j.toLower now.1 ""
        { senderDomain := domain, inboundCount := h.count30d, lastSeen := h.lastSeenAt } with
    | .error _ => return h
    | .ok cat => return { h with relationship := categoryText cat }
  else return h

/-- `prepareBaselineUpdate`: the prepared baseline, and the cache. -/
def prepareBaselineUpdate (tenantID : String) (h : CommunicationHistory) (sendHour : ℤ) (cache : BaselineCache) :
    JobM (Option UserBehavioralBaseline × BaselineCache) := do
  let key := (h.recipientHash, h.senderDomainHash)
  match cache.lookup key with
  | some prev => return (some (nextBaseline tenantID h sendHour prev), cache)
  | none =>
    match ← Prog.perform (JobOp.getBaseline tenantID h.recipientHash h.senderDomainHash) with
    | .ok b => return (some (nextBaseline tenantID h sendHour (some b)), (key, some b) :: cache)
    | .error .notFound => return (some (nextBaseline tenantID h sendHour none), (key, none) :: cache)
    | .error (.failed _) => return (none, cache)

/-- `persistBaselineUpdate`: the cache. -/
def persistBaselineUpdate (sample : Sample) (cache : BaselineCache) :
    Option UserBehavioralBaseline → JobM BaselineCache
  | none => return cache
  | some b => do
    match ← Prog.perform (JobOp.upsertBaseline sample b) with
    | some _ => return cache
    | none => return ((b.userEmailHash, b.senderDomainHash), some b) :: cache

/-- The hour that is written back to a row. -/
def typicalHourFor (h : CommunicationHistory) (prepared : Option UserBehavioralBaseline) : ℤ :=
  let modalHour := (prepared.map fun b => modalHourOf b.typicalSendHours).getD (-1)
  if 0 ≤ modalHour ∧ modalHour < 24 then modalHour
  else if h.typicalHour < 0 ∨ 24 ≤ h.typicalHour then typicalHourUnset
  else h.typicalHour

/-- The gate: the row has a baseline, and was seen after the watermark. -/
def Gate (watermark : ℤ) (h : CommunicationHistory) : Prop :=
  j.hasBaselines = true ∧ Sampleable h ∧ watermark < h.lastSeenAt

instance (watermark : ℤ) (h : CommunicationHistory) : Decidable (j.Gate watermark h) :=
  inferInstanceAs (Decidable (_ ∧ _ ∧ _))

/-- The write of a row, and its baseline after it: the cache, and an error. -/
def writeRow (h : CommunicationHistory) (readAt : ℤ) (prepared : Option UserBehavioralBaseline)
    (cache : BaselineCache) : JobM (BaselineCache × Option String) := do
  if readAt = 0 then return (cache, none)
  else
    match ← Prog.perform (JobOp.updateCountsIfFresh h readAt) with
    | .error err => return (cache, some err)
    | .ok false => return (cache, none)
    | .ok true =>
      let cache ← persistBaselineUpdate (sampleOf h) cache prepared
      return (cache, none)

/-- The baseline of a row that passes the gate. -/
def prepareRow (tenantID : String) (watermark : ℤ) (h : CommunicationHistory) (cache : BaselineCache) :
    JobM (Option UserBehavioralBaseline × BaselineCache) := do
  if j.Gate watermark h then prepareBaselineUpdate tenantID h (hourOfDay h.lastSeenAt) cache
  else return (none, cache)

/-- One row of the loop. -/
def runRow (tenantID : String) (now watermark : ℤ) (h : CommunicationHistory) (cache : BaselineCache) :
    JobM (BaselineCache × Option String) := do
  let h' ← j.reclassify (decay now h)
  let prepared ← j.prepareRow tenantID watermark h' cache
  writeRow { h' with typicalHour := typicalHourFor h' prepared.1 } h.updatedAt prepared.1 prepared.2

/-- The row loop: the first error. -/
def runRows (tenantID : String) (now watermark : ℤ) :
    List CommunicationHistory → BaselineCache → JobM (Option String)
  | [], _ => return none
  | h :: hs, cache => do
    let res ← j.runRow tenantID now watermark h cache
    let rest ← runRows tenantID now watermark hs res.1
    return res.2 <|> rest

/-- One tenant: the first error. -/
def runTenant (now : ℤ) (tenantID : String) : JobM (Option String) := do
  match ← Prog.perform (JobOp.listByTenant tenantID (now - j.window) j.maxPerTenant) with
  | .error err => return some err
  | .ok rows =>
    let watermark ← Prog.perform (JobOp.watermark tenantID)
    let err ← j.runRows tenantID now watermark rows []
    Prog.perform (JobOp.setWatermark tenantID now)
    return err

/-- The tenants: the first error, and the error that ends the iteration if the job is cancelled. -/
def runTenants (now : ℤ) : List String → JobM (Option String × Option String)
  | [] => return (none, none)
  | t :: ts => do
    match ← Prog.perform JobOp.ctxErr with
    | some err => return (none, some err)
    | none =>
      let first ← j.runTenant now t
      let rest ← runTenants now ts
      return (first <|> rest.1, rest.2)

/-- The cycle over the active tenants. The watermarks of tenants that are gone are pruned after a complete iteration. -/
def runActive (now : ℤ) (active : List String × Option String) : JobM (Option String) := do
  let errs ← j.runTenants now active.1
  match errs.2 <|> active.2 with
  | some err => return errs.1 <|> some err
  | none =>
    Prog.perform (JobOp.prune active.1)
    return errs.1

/-- `RelationshipJob.Run`. -/
def run : JobM (Option String) := do
  let now ← Prog.perform JobOp.now
  let active ← Prog.perform JobOp.iterateActive
  j.runActive now.1 active

/-! ### What the parts of a row perform -/

variable {j}

/-- The label is all that changes, and the clock is all that is read. -/
lemma reclassify_cases (h : CommunicationHistory) :
    (∃ f : Instant → String, j.reclassify h = do
      let now ← Prog.perform JobOp.now
      return { h with relationship := f now }) ∨ j.reclassify h = return h := by
  unfold reclassify
  simp only
  generalize j.toLower (GoStrings.trimSpace h.senderDomain) = domain
  split
  · refine .inl ⟨fun now => match classify j.toLower now.1 ""
        { senderDomain := domain, inboundCount := h.count30d, lastSeen := h.lastSeenAt } with
      | .error _ => h.relationship
      | .ok cat => categoryText cat, ?_⟩
    congr 1
    funext now
    beta_reduce
    cases classify j.toLower now.1 ""
      { senderDomain := domain, inboundCount := h.count30d, lastSeen := h.lastSeenAt } with
    | error err => rfl
    | ok cat => rfl
  · exact .inr rfl

/-- A row that passes the gate has its baseline prepared, from the cache or after one read, unless the read fails. -/
lemma prepareRow_cases (tenantID : String) (watermark : ℤ) (h : CommunicationHistory) (cache : BaselineCache) :
    (¬ j.Gate watermark h ∧ j.prepareRow tenantID watermark h cache = return (none, cache)) ∨
    (j.Gate watermark h ∧ ∃ b, j.prepareRow tenantID watermark h cache = return (some b, cache)) ∨
    (j.Gate watermark h ∧ ∃ f : Except RepoError UserBehavioralBaseline → Option UserBehavioralBaseline × BaselineCache,
      (∀ a, (f a).1.isSome ↔ ∀ err, a ≠ .error (.failed err)) ∧ j.prepareRow tenantID watermark h cache = do
        let a ← Prog.perform (JobOp.getBaseline tenantID h.recipientHash h.senderDomainHash)
        return f a) := by
  unfold prepareRow
  by_cases hgate : j.Gate watermark h
  · rw [if_pos hgate]
    unfold prepareBaselineUpdate
    simp only
    cases cache.lookup (h.recipientHash, h.senderDomainHash) with
    | some prev => exact .inr (.inl ⟨hgate, _, rfl⟩)
    | none =>
      refine .inr (.inr ⟨hgate, fun a => match a with
        | .ok b => (some (nextBaseline tenantID h (hourOfDay h.lastSeenAt) (some b)),
            ((h.recipientHash, h.senderDomainHash), some b) :: cache)
        | .error .notFound => (some (nextBaseline tenantID h (hourOfDay h.lastSeenAt) none),
            ((h.recipientHash, h.senderDomainHash), none) :: cache)
        | .error (.failed _) => (none, cache), fun a => ?_, ?_⟩)
      · rcases a with (_ | err) | b
        · simp
        · simp
        · simp
      · dsimp only
        congr 1
        funext a
        rcases a with (_ | err) | b
        · rfl
        · rfl
        · rfl
  · rw [if_neg hgate]
    exact .inl ⟨hgate, rfl⟩

end RelationshipJob

end Sn360Es.Worker
