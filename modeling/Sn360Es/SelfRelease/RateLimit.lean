import Sn360Es.Lib.Phase
import Sn360Es.SelfRelease.Service

/-!
# The hourly cap under concurrent calls

A call reads the audit rows before the release and writes its own row after it. Between the two, and for good when the
write fails, it holds a place under the cap that no count sees.

* `Uncrowded` — the condition on a count: the rows and the unseen places together are below the cap, or the rows alone
  have reached it;
* `released_le_cap` — then no window has more releases than the cap;
* `two_released_at_cap_one` — two calls that both count before either has written its row.
-/

namespace Sn360Es.SelfRelease

open Lib Sn360Es.Action

/-! ### The steps of a call -/

inductive ReleaseOp where
  | now
  | lookupReference (tenant pseudoMessage : String)
  | policy (tenantID : String)
  | countRecent (tenantID : String) (recipientUserHash : Bytes) (since : ℤ)
  | runner (req : ReleaseRequest)
  | record (entry : AuditEntry)
  deriving DecidableEq, Repr

abbrev ReleaseOp.Ans : ReleaseOp → Type
  | now => ℤ
  | lookupReference _ _ => Except String (Option QuarantineRecord)
  | policy _ => Except String TenantReleasePolicy
  | countRecent _ _ _ => Except String ℕ
  | runner _ => ReleaseOutcome × Option ReleaseError
  | record _ => Except String AuditEntry

/-- The repositories that the calls share. -/
structure ReleaseWorld where
  entries : List AuditEntry := []
  policies : String → Option TenantReleasePolicy := fun _ => none

/-- The tenant's `QuarantineSelfReleasePerHour`. -/
def ReleaseWorld.cap (w : ReleaseWorld) (tenantID : String) : ℕ :=
  ((w.policies tenantID).getD { tenantID }).quarantineSelfReleasePerHour

/-- What the world answers to one operation: the clock, which shows no time before the zero time, the error of a
repository, and the answers of the quarantine store and of the release service. -/
structure ReleaseEnv where
  now : ℕ := 0
  uuid : String := ""
  repoError : Option String := none
  lookup : Except String (Option QuarantineRecord) := .ok none
  runner : ReleaseOutcome × Option ReleaseError := ({}, none)

/-- The effect of an operation. -/
def ReleaseOp.exec : (o : ReleaseOp) → ReleaseEnv → ReleaseWorld → o.Ans × ReleaseWorld
  | now, e, w => ((e.now : ℤ), w)
  | lookupReference _ _, e, w => (e.lookup, w)
  | policy tenantID, e, w =>
    match e.repoError with
    | some err => (.error err, w)
    | none => (getPolicy w.policies tenantID, w)
  | countRecent tenantID hash since, e, w =>
    match e.repoError with
    | some err => (.error err, w)
    | none => (countRecentByRecipient w.entries tenantID hash since, w)
  | runner _, e, w => (e.runner, w)
  | record entry, e, w =>
    match e.repoError with
    | some err => (.error err, w)
    | none =>
      ((recordEntry w.entries entry e.uuid e.now).1,
        { w with entries := (recordEntry w.entries entry e.uuid e.now).2 })

/-- The service on these operations. -/
def stepwise (rateWindow : ℤ) : Service ReleaseOp ReleaseOp.Ans where
  lookupReference := fun tenant msg => Prog.perform (ReleaseOp.lookupReference tenant msg)
  runner := fun req => Prog.perform (ReleaseOp.runner req)
  record := fun entry => Prog.perform (ReleaseOp.record entry)
  countRecent := fun tenantID hash since => Prog.perform (ReleaseOp.countRecent tenantID hash since)
  policy := fun tenantID => Prog.perform (ReleaseOp.policy tenantID)
  now := Prog.perform ReleaseOp.now
  rateWindow

abbrev ReleaseCall := Thread ReleaseOp ReleaseOp.Ans (Except String Result)

abbrev ReleasePool := Pool ReleaseOp ReleaseOp.Ans (Except String Result) ReleaseWorld

/-- The requests of one recipient, for any messages. -/
abbrev RecipientRequest (tenantID : String) (hash : Bytes) :=
  { req : Request // req.tenantID = tenantID ∧ req.recipientUserHash = hash }

def releaseStep (rateWindow : ℤ) (tenantID : String) (hash : Bytes) :
    ReleasePool → Pool.Label (RecipientRequest tenantID hash) ReleaseEnv → Option ReleasePool :=
  Pool.step ReleaseOp.exec fun req => (stepwise rateWindow).release req.1

/-- The time that a call has read, its `requestedAt`. -/
def ReleaseCall.requestedAt? (t : ReleaseCall) : Option ℤ :=
  t.performed.findSome? fun
    | ⟨.now, a⟩ => some a
    | _ => none

/-- The outcome that a call has returned. -/
def ReleaseCall.outcome? (t : ReleaseCall) : Option QuarantineReleaseOutcome :=
  match t.result? with
  | some (.ok res) => some res.outcome
  | _ => none

/-- The call has released its message, and its `requestedAt` is in the window from `start` to `stop`. -/
def ReleaseCall.releasedIn (start stop : ℤ) (t : ReleaseCall) : Bool :=
  t.outcome? = some .released && t.requestedAt?.any fun r => start ≤ r && r < stop

/-! ### Places under the cap -/

/-- What a call holds: nothing, a place that no row shows, or a place with its row. -/
inductive Place where
  | none
  | unseen
  | recorded
  deriving DecidableEq, Repr

structure ReleasePhase where
  requestedAt : Option ℤ := none
  place : Place := .none
  deriving DecidableEq, Repr

namespace ReleasePhase

/-- How an operation changes the phase. -/
def next (cap : ℕ) (g : ReleasePhase) : (o : ReleaseOp) → o.Ans → ReleasePhase
  | .now, a => { g with requestedAt := some a }
  | .countRecent _ _ _, .ok count => if count < cap then { g with place := .unseen } else g
  | .runner _, (outcome, err) =>
    if err = none ∧ outcome.reason = some .allowed then g else { g with place := .none }
  | .record _, .ok _ => if g.place = .unseen then { g with place := .recorded } else g
  | _, _ => g

/-- A call that asked at `since` or later and holds a place that no row shows. -/
def unseenSince (since : ℤ) (g : ReleasePhase) : Bool :=
  g.place = .unseen && g.requestedAt.any fun r => since ≤ r

def recordedSince (since : ℤ) (g : ReleasePhase) : Bool :=
  g.place = .recorded && g.requestedAt.any fun r => since ≤ r

/-- A call that asked in the window and holds a place. -/
def holdsIn (start stop : ℤ) (g : ReleasePhase) : Bool :=
  g.place ≠ .none && g.requestedAt.any fun r => start ≤ r && r < stop

end ReleasePhase

/-- **The condition on a count**: what it sees is the cap already, or stays below it with the places it does not see. -/
def Uncrowded (tenantID : String) (hash : Bytes) (w : ReleaseWorld) (gs : List ReleasePhase) : ReleaseOp → Prop
  | .countRecent _ _ since =>
    let count := w.entries.countP (AuditEntry.counts tenantID hash since)
    w.cap tenantID ≤ count ∨ count + gs.countP (ReleasePhase.unseenSince since) < w.cap tenantID
  | _ => True

instance (tenantID : String) (hash : Bytes) (w : ReleaseWorld) (gs : List ReleasePhase) :
    ∀ o : ReleaseOp, Decidable (Uncrowded tenantID hash w gs o)
  | .countRecent _ _ _ => inferInstanceAs (Decidable (_ ∨ _))
  | .now | .lookupReference _ _ | .policy _ | .runner _ | .record _ => isTrue trivial

/-- The books of the cap: every place with a row is counted, and no window holds more places than the cap. -/
structure CapBooks (rateWindow : ℤ) (tenantID : String) (hash : Bytes) (cap : ℕ) (w : ReleaseWorld)
    (gs : List ReleasePhase) : Prop where
  cap_eq : w.cap tenantID = cap
  recorded_le : ∀ since, gs.countP (ReleasePhase.recordedSince since) ≤
    w.entries.countP (AuditEntry.counts tenantID hash since)
  holds_le : ∀ start, gs.countP (ReleasePhase.holdsIn start (start + rateWindow)) ≤ cap

/-- The tracker of the calls of one recipient. -/
def capTracker (rateWindow : ℤ) (tenantID : String) (hash : Bytes) (cap : ℕ) :
    Tracker ReleaseOp ReleaseOp.Ans ReleaseWorld ReleaseEnv ReleasePhase where
  exec := ReleaseOp.exec
  start := {}
  next := ReleasePhase.next cap
  allows := fun w gs _ o _ => Uncrowded tenantID hash w gs o
  inv := CapBooks rateWindow tenantID hash cap

section Books

variable {rateWindow : ℤ} {tenantID : String} {hash : Bytes} {cap : ℕ} {w : ReleaseWorld} {gs : List ReleasePhase}
  {g g' : ReleasePhase} {n : ℕ}

lemma countP_set_le {q : ReleasePhase → Bool} (hn : gs[n]? = some g) (h : q g' = true → q g = true) :
    (gs.set n g').countP q ≤ gs.countP q := by
  have hset := Tracker.countP_set_add hn g' q
  cases hg' : q g' with
  | false =>
    rw [hg', Bool.toNat_false] at hset
    omega
  | true =>
    rw [hg', h hg'] at hset
    omega

/-- A call that changes its phase without a new place keeps the books. -/
lemma CapBooks.set (h : CapBooks rateWindow tenantID hash cap w gs) (hn : gs[n]? = some g)
    (hrec : ∀ since, g'.recordedSince since = true → g.recordedSince since = true)
    (hhold : ∀ start stop, g'.holdsIn start stop = true → g.holdsIn start stop = true) :
    CapBooks rateWindow tenantID hash cap w (gs.set n g') where
  cap_eq := h.cap_eq
  recorded_le := fun since => (countP_set_le hn (hrec since)).trans (h.recorded_le since)
  holds_le := fun start => (countP_set_le hn (hhold start _)).trans (h.holds_le start)

lemma CapBooks.set_self (h : CapBooks rateWindow tenantID hash cap w gs) (hn : gs[n]? = some g) :
    CapBooks rateWindow tenantID hash cap w (gs.set n g) :=
  h.set hn (fun _ => id) fun _ _ => id

lemma holdsIn_eq_false {start stop r : ℤ} (place : Place) (h : ¬ (start ≤ r ∧ r < stop)) :
    ReleasePhase.holdsIn start stop ⟨some r, place⟩ = false := by
  have hany : (decide (start ≤ r) && decide (r < stop)) = false := by
    rw [← Bool.decide_and]
    exact decide_eq_false h
  simp only [ReleasePhase.holdsIn, Option.any_some, hany, Bool.and_false]

/-- A place in a window is seen, or not, by a count that looks back beyond the window. -/
lemma countP_holdsIn_le (gs : List ReleasePhase) {since start : ℤ} (stop : ℤ) (hle : since ≤ start) :
    gs.countP (ReleasePhase.holdsIn start stop) ≤
      gs.countP (ReleasePhase.recordedSince since) + gs.countP (ReleasePhase.unseenSince since) := by
  induction gs with
  | nil => exact Nat.zero_le _
  | cons g gs ih =>
    have hg : (g.holdsIn start stop).toNat ≤ (g.recordedSince since).toNat + (g.unseenSince since).toNat := by
      obtain ⟨requestedAt, place⟩ := g
      cases requestedAt with
      | none => simp [ReleasePhase.holdsIn]
      | some r =>
        by_cases hr : start ≤ r ∧ r < stop
        · have hsince : since ≤ r := hle.trans hr.1
          cases place <;>
            simp [ReleasePhase.holdsIn, ReleasePhase.recordedSince, ReleasePhase.unseenSince, hr, hsince]
        · rw [holdsIn_eq_false place hr]
          exact Nat.zero_le _
    rw [List.countP_cons, List.countP_cons, List.countP_cons, Tracker.ite_eq_toNat, Tracker.ite_eq_toNat,
      Tracker.ite_eq_toNat]
    omega

/-- **A call that passes an uncrowded count** takes a place in no window that is full. -/
lemma CapBooks.take (h : CapBooks rateWindow tenantID hash cap w gs) {r : ℤ}
    (hn : gs[n]? = some { requestedAt := some r })
    (hroom : w.entries.countP (AuditEntry.counts tenantID hash (r - rateWindow)) +
      gs.countP (ReleasePhase.unseenSince (r - rateWindow)) < cap) :
    CapBooks rateWindow tenantID hash cap w (gs.set n { requestedAt := some r, place := .unseen }) where
  cap_eq := h.cap_eq
  recorded_le := fun since =>
    (countP_set_le hn (by simp [ReleasePhase.recordedSince])).trans (h.recorded_le since)
  holds_le := fun start => by
    have hset := Tracker.countP_set_add hn { requestedAt := some r, place := .unseen }
      (ReleasePhase.holdsIn start (start + rateWindow))
    have hold := h.holds_le start
    by_cases hr : start ≤ r ∧ r < start + rateWindow
    · -- the count reaches back beyond the start of the window
      have hback : r - rateWindow ≤ start := by omega
      have hsplit := countP_holdsIn_le gs (start + rateWindow) hback
      have hrec := h.recorded_le (r - rateWindow)
      have hone : (ReleasePhase.holdsIn start (start + rateWindow)
          { requestedAt := some r, place := .unseen }).toNat ≤ 1 := Bool.toNat_le _
      omega
    · rw [holdsIn_eq_false .unseen hr, Bool.toNat_false] at hset
      omega

/-- The row that `Record` writes is no earlier than the call. -/
lemma le_defaulted_requestedAt (entry : AuditEntry) (uuid : String) (now : ℕ) :
    entry.requestedAt ≤ (entry.defaulted uuid now).requestedAt := by
  simp only [AuditEntry.defaulted]
  split_ifs with hzero
  · omega
  · exact le_rfl

/-- A call that writes its row moves its place to the rows. -/
lemma CapBooks.write (uuid : String) (now : ℕ) (h : CapBooks rateWindow tenantID hash cap w gs) {r : ℤ}
    {place : Place} (hn : gs[n]? = some ⟨some r, place⟩) {entry : AuditEntry}
    (htenant : entry.tenantID = tenantID) (hhash : entry.recipientUserHash = hash) (hr : entry.requestedAt = r)
    (hauth : entry.outcome.authFailure = false) :
    CapBooks rateWindow tenantID hash cap { w with entries := w.entries ++ [entry.defaulted uuid now] }
      (gs.set n ⟨some r, if place = .unseen then .recorded else place⟩) where
  cap_eq := h.cap_eq
  recorded_le := fun since => by
    have hset := Tracker.countP_set_add hn ⟨some r, if place = .unseen then .recorded else place⟩
      (ReleasePhase.recordedSince since)
    have hold := h.recorded_le since
    have hnew : (ReleasePhase.recordedSince since ⟨some r, if place = .unseen then .recorded else place⟩).toNat ≤
        (AuditEntry.counts tenantID hash since (entry.defaulted uuid now)).toNat := by
      by_cases hsince : since ≤ r
      · have hle : since ≤ (entry.defaulted uuid now).requestedAt :=
          hsince.trans (hr ▸ le_defaulted_requestedAt entry uuid now)
        have hcounts : AuditEntry.counts tenantID hash since (entry.defaulted uuid now) = true := by
          simp only [AuditEntry.counts, hle, decide_true]
          simp [AuditEntry.defaulted, htenant, hhash, hauth]
        rw [hcounts]
        exact Bool.toNat_le _
      · simp [ReleasePhase.recordedSince, hsince]
    rw [List.countP_append, List.countP_singleton, Tracker.ite_eq_toNat]
    omega
  holds_le := fun start => by
    refine (countP_set_le hn fun hg' => ?_).trans (h.holds_le start)
    cases place <;> simp_all [ReleasePhase.holdsIn]

lemma CapBooks.spawn (h : CapBooks rateWindow tenantID hash cap w gs) :
    CapBooks rateWindow tenantID hash cap w (gs ++ [({} : ReleasePhase)]) where
  cap_eq := h.cap_eq
  recorded_le := fun since => by
    rw [List.countP_append]
    exact h.recorded_le since
  holds_le := fun start => by
    rw [List.countP_append]
    exact h.holds_le start

end Books

/-! ### A call keeps the books -/

section Keeps

variable {rateWindow : ℤ} {tenantID : String} {hash : Bytes} {cap : ℕ} {g : ReleasePhase} {r : ℤ} {req : Request}

lemma keeps_now : (capTracker rateWindow tenantID hash cap).Keeps (Prog.perform ReleaseOp.now) {}
    fun r g => g = { requestedAt := some r } := by
  refine Tracker.keeps_perform fun e w gs n hinv hn _ a w' hexec => ?_
  cases hexec
  refine ⟨CapBooks.set hinv hn ?_ ?_, rfl⟩
  · intro since h
    cases h
  · intro start stop h
    cases h

lemma keeps_lookupReference (tenant msg : String) : (capTracker rateWindow tenantID hash cap).Keeps
    (Prog.perform (ReleaseOp.lookupReference tenant msg)) g fun _ g' => g' = g := by
  refine Tracker.keeps_perform fun e w gs n hinv hn _ a w' hexec => ?_
  cases hexec
  exact ⟨CapBooks.set_self hinv hn, rfl⟩

/-- The policy that a call reads has the cap of the books. -/
lemma keeps_policy : (capTracker rateWindow tenantID hash cap).Keeps (Prog.perform (ReleaseOp.policy tenantID)) g
    fun a g' => g' = g ∧ ∀ policy, a = .ok policy → policy.quarantineSelfReleasePerHour = cap := by
  refine Tracker.keeps_perform fun e w gs n hinv hn _ a w' hexec => ?_
  simp only [capTracker, ReleaseOp.exec] at hexec
  split at hexec
  · cases hexec
    exact ⟨CapBooks.set_self hinv hn, rfl, fun policy h => by cases h⟩
  · cases hexec
    refine ⟨CapBooks.set_self hinv hn, rfl, fun policy h => ?_⟩
    unfold getPolicy at h
    split_ifs at h
    cases h
    exact hinv.cap_eq

/-- A count below the cap takes a place. -/
lemma keeps_countRecent : (capTracker rateWindow tenantID hash cap).Keeps
    (Prog.perform (ReleaseOp.countRecent tenantID hash (r - rateWindow))) { requestedAt := some r }
    fun a g' => g'.requestedAt = some r ∧
      ∀ count, a = .ok count → count < cap → g' = { requestedAt := some r, place := .unseen } := by
  refine Tracker.keeps_perform fun e w gs n hinv hn hok a w' hexec => ?_
  simp only [capTracker, ReleaseOp.exec] at hexec
  split at hexec
  · cases hexec
    exact ⟨CapBooks.set_self hinv hn, rfl, fun count h => by cases h⟩
  · unfold countRecentByRecipient at hexec
    split_ifs at hexec
    · cases hexec
      exact ⟨CapBooks.set_self hinv hn, rfl, fun count h => by cases h⟩
    · cases hexec
      exact ⟨CapBooks.set_self hinv hn, rfl, fun count h => by cases h⟩
    · cases hexec
      have hcap : w.cap tenantID = cap := hinv.cap_eq
      simp only [capTracker, ReleasePhase.next]
      split_ifs with hlt
      · refine ⟨CapBooks.take hinv hn ?_, rfl, fun _ _ _ => rfl⟩
        rcases hok with hfull | hroom
        · omega
        · rw [← hcap]
          exact hroom
      · refine ⟨CapBooks.set_self hinv hn, rfl, fun count h hcount => ?_⟩
        cases h
        exact absurd hcount hlt

/-- A release keeps the place, and everything else gives it up. -/
lemma keeps_runner (rreq : ReleaseRequest) : (capTracker rateWindow tenantID hash cap).Keeps
    (Prog.perform (ReleaseOp.runner rreq)) { requestedAt := some r, place := .unseen } fun a g' =>
      g'.requestedAt = some r ∧ (a.2 = none → a.1.reason = some .allowed → g'.place = .unseen) := by
  refine Tracker.keeps_perform fun e w gs n hinv hn _ a w' hexec => ?_
  cases hexec
  simp only [capTracker, ReleasePhase.next]
  split_ifs with hallowed
  · exact ⟨CapBooks.set_self hinv hn, rfl, fun _ _ => rfl⟩
  · refine ⟨CapBooks.set hinv hn ?_ ?_, rfl, fun herr hreason => absurd ⟨herr, hreason⟩ hallowed⟩
    · intro since h
      cases h
    · intro start stop h
      cases h

lemma keeps_record {entry : AuditEntry} (htenant : entry.tenantID = tenantID)
    (hhash : entry.recipientUserHash = hash) (hg : g.requestedAt = some entry.requestedAt)
    (hauth : entry.outcome.authFailure = false) : (capTracker rateWindow tenantID hash cap).Keeps
      (Prog.perform (ReleaseOp.record entry)) g fun _ g' => g.place = .unseen → g'.place ≠ .none := by
  obtain ⟨requestedAt, place⟩ := g
  refine Tracker.keeps_perform fun e w gs n hinv hn _ a w' hexec => ?_
  obtain rfl : requestedAt = some entry.requestedAt := hg
  have hne : place = .unseen → place ≠ .none := by
    rintro rfl h
    cases h
  simp only [capTracker, ReleaseOp.exec] at hexec
  split at hexec
  · cases hexec
    exact ⟨CapBooks.set_self hinv hn, hne⟩
  · unfold recordEntry at hexec
    cases hvalid : entry.validate with
    | some err =>
      rw [hvalid] at hexec
      cases hexec
      exact ⟨CapBooks.set_self hinv hn, hne⟩
    | none =>
      rw [hvalid] at hexec
      cases hexec
      have hwrite := CapBooks.write e.uuid e.now hinv hn htenant hhash rfl hauth
      simp only [capTracker, ReleasePhase.next]
      split_ifs with hplace
      · rw [if_pos hplace] at hwrite
        exact ⟨hwrite, fun _ h => by cases h⟩
      · rw [if_neg hplace] at hwrite
        exact ⟨hwrite, fun h => absurd h hplace⟩

/-- The audited end of a call. -/
lemma keeps_auditedWithRestored (htenant : req.tenantID = tenantID) (hhash : req.recipientUserHash = hash)
    (hg : g.requestedAt = some r) {outcome : QuarantineReleaseOutcome} (hauth : outcome.authFailure = false)
    (reason : String) (restored : Bool) : (capTracker rateWindow tenantID hash cap).Keeps
      ((stepwise rateWindow).auditedWithRestored req r outcome reason restored) g
      fun res g' => res.outcome = outcome ∧ (g.place = .unseen → g'.place ≠ .none) := by
  refine Tracker.Keeps.bind ((keeps_record htenant hhash hg hauth).mono fun a g' hg' => ?_)
  cases a with
  | error err => exact ⟨rfl, hg'⟩
  | ok written => exact ⟨rfl, hg'⟩

/-- A call that has released its message holds a place. -/
def EndsWithPlace (res : Except String Result) (g : ReleasePhase) : Prop :=
  ∀ result, res = .ok result → result.outcome = .released → g.place ≠ .none

/-- A call that is refused holds nothing. -/
lemma keeps_audited (htenant : req.tenantID = tenantID) (hhash : req.recipientUserHash = hash)
    (hg : g.requestedAt = some r) {outcome : QuarantineReleaseOutcome} (hauth : outcome.authFailure = false)
    (hne : outcome ≠ .released) (reason : String) : (capTracker rateWindow tenantID hash cap).Keeps
      (do return .ok (← (stepwise rateWindow).audited req r outcome reason)) g EndsWithPlace := by
  refine Tracker.Keeps.bind ((keeps_auditedWithRestored htenant hhash hg hauth reason false).mono
    fun res g' hres => ?_)
  intro result hresult hreleased
  cases hresult
  exact absurd (hres.1.symm.trans hreleased) hne

lemma keeps_runRelease (htenant : req.tenantID = tenantID) (hhash : req.recipientUserHash = hash) :
    (capTracker rateWindow tenantID hash cap).Keeps ((stepwise rateWindow).runRelease req r)
      { requestedAt := some r, place := .unseen } EndsWithPlace := by
  refine Tracker.Keeps.bind ((keeps_runner _).mono fun a g' hg' => ?_)
  obtain ⟨outcome, err⟩ := a
  obtain ⟨hr, hplace⟩ := hg'
  cases err with
  | some err =>
    intro result hresult
    cases hresult
  | none =>
    simp only [Service.fromRunnerOutcome]
    cases hreason : outcome.reason with
    | none => exact keeps_audited htenant hhash hr rfl (fun h => by cases h) _
    | some reason =>
      cases reason with
      | refused => exact keeps_audited htenant hhash hr rfl (fun h => by cases h) _
      | notFound => exact keeps_audited htenant hhash hr rfl (fun h => by cases h) _
      | alreadyDone => exact keeps_audited htenant hhash hr rfl (fun h => by cases h) _
      | allowed =>
        simp only
        refine Tracker.Keeps.bind ((keeps_auditedWithRestored htenant hhash hr rfl _ _).mono fun res g hres => ?_)
        intro result hresult _
        exact hres.2 (hplace rfl hreason)

lemma keeps_rateLimited (htenant : req.tenantID = tenantID) (hhash : req.recipientUserHash = hash) :
    (capTracker rateWindow tenantID hash cap).Keeps ((stepwise rateWindow).rateLimited req r)
      { requestedAt := some r } EndsWithPlace := by
  unfold Service.rateLimited
  rw [htenant]
  refine Tracker.Keeps.bind (keeps_policy.mono fun a g' hg' => ?_)
  obtain ⟨rfl, hcap⟩ := hg'
  cases a with
  | error err =>
    intro result hresult
    cases hresult
  | ok policy =>
    simp only
    split_ifs
    · exact keeps_audited htenant hhash rfl rfl (fun h => by cases h) _
    · rw [hhash]
      refine Tracker.Keeps.bind (keeps_countRecent.mono fun a g' hg' => ?_)
      cases a with
      | error err =>
        intro result hresult
        cases hresult
      | ok count =>
        simp only
        split_ifs with hcount
        · exact keeps_audited htenant hhash hg'.1 rfl (fun h => by cases h) _
        · rw [hcap policy rfl] at hcount
          rw [hg'.2 count rfl (not_le.mp hcount)]
          exact keeps_runRelease htenant hhash

lemma keeps_release (htenant : req.tenantID = tenantID) (hhash : req.recipientUserHash = hash) :
    (capTracker rateWindow tenantID hash cap).Keeps ((stepwise rateWindow).release req) {} EndsWithPlace := by
  have herror : ∀ err g, EndsWithPlace (.error err) g := by
    intro err g result hresult
    cases hresult
  unfold Service.release
  split_ifs
  · exact herror _ _
  · exact herror _ _
  · exact herror _ _
  · refine Tracker.Keeps.bind (keeps_now.mono fun r g hg => ?_)
    subst hg
    refine Tracker.Keeps.bind ((keeps_lookupReference _ _).mono fun a g hg => ?_)
    subst hg
    cases a with
    | error err => exact herror _ _
    | ok found =>
      cases found with
      | none => exact keeps_audited htenant hhash rfl rfl (fun h => by cases h) _
      | some rec =>
        simp only
        split_ifs
        · exact keeps_audited htenant hhash rfl rfl (fun h => by cases h) _
        · exact keeps_rateLimited htenant hhash

end Keeps

/-! ### Any number of calls -/

section Runs

/-- The phase of a call has the time that it has read. -/
lemma phase_requestedAt (rateWindow : ℤ) (tenantID : String) (hash : Bytes) (cap : ℕ) (t : ReleaseCall) :
    ((capTracker rateWindow tenantID hash cap).phase t).requestedAt = t.requestedAt? := by
  obtain ⟨performed, rest⟩ := t
  induction performed with
  | nil => rfl
  | cons x done ih =>
    obtain ⟨o, a⟩ := x
    have hphase : (capTracker rateWindow tenantID hash cap).phase (⟨⟨o, a⟩ :: done, rest⟩ : ReleaseCall) =
        ((capTracker rateWindow tenantID hash cap).phase (⟨done, rest⟩ : ReleaseCall)).next cap o a := rfl
    rw [hphase]
    cases o with
    | now => rfl
    | lookupReference tenant msg => exact ih
    | policy tenantID => exact ih
    | countRecent tenantID hash since =>
      cases a with
      | error err => exact ih
      | ok count =>
        simp only [ReleasePhase.next]
        split_ifs <;> exact ih
    | runner req =>
      simp only [ReleasePhase.next]
      split_ifs <;> exact ih
    | record entry =>
      cases a with
      | error err => exact ih
      | ok written =>
        simp only [ReleasePhase.next]
        split_ifs <;> exact ih

variable {rateWindow : ℤ} {tenantID : String} {hash : Bytes}

/-- The condition on a step of the calls, when the tenant's cap is `cap`. -/
def ReleaseUncrowded (rateWindow : ℤ) (tenantID : String) (hash : Bytes) (cap : ℕ) (s : ReleasePool) :
    Pool.Label (RecipientRequest tenantID hash) ReleaseEnv → Prop :=
  (capTracker rateWindow tenantID hash cap).Allows s

instance (cap : ℕ) (s : ReleasePool) (l : Pool.Label (RecipientRequest tenantID hash) ReleaseEnv) :
    Decidable (ReleaseUncrowded rateWindow tenantID hash cap s l) :=
  have : ∀ w gs n o e, Decidable ((capTracker rateWindow tenantID hash cap).allows w gs n o e) :=
    fun w gs _ o _ => inferInstanceAs (Decidable (Uncrowded tenantID hash w gs o))
  inferInstanceAs (Decidable ((capTracker rateWindow tenantID hash cap).Allows s l))

/-- **The cap holds in every window**, for any number of concurrent calls of one recipient, if no count is crowded by
places that it does not see. -/
theorem released_le_cap (rateWindow : ℤ) (tenantID : String) (hash : Bytes) (w : ReleaseWorld) (s : ReleasePool)
    (ls : List (Pool.Label (RecipientRequest tenantID hash) ReleaseEnv))
    (hmeets : Lts.Meets (releaseStep rateWindow tenantID hash)
      (ReleaseUncrowded rateWindow tenantID hash (w.cap tenantID)) ⟨w, []⟩ ls)
    (hrun : Lts.run (releaseStep rateWindow tenantID hash) ⟨w, []⟩ ls = some s) (start : ℤ) :
    s.threads.countP (ReleaseCall.releasedIn start (start + rateWindow)) ≤ w.cap tenantID := by
  have hholds : (capTracker rateWindow tenantID hash (w.cap tenantID)).Holds (fun _ => EndsWithPlace) s := by
    refine Tracker.run_holds (fun w gs hinv => CapBooks.spawn hinv)
      (fun req _ => keeps_release req.2.1 req.2.2) (Tracker.holds_nil ?_) hmeets hrun
    exact ⟨rfl, fun _ => Nat.zero_le _, fun _ => Nat.zero_le _⟩
  refine le_trans ?_ (hholds.inv.holds_le start)
  rw [Tracker.phases, List.countP_map]
  refine List.countP_mono_left fun t ht hrel => ?_
  obtain ⟨n, hn⟩ := List.mem_iff_getElem?.mp ht
  simp only [ReleaseCall.releasedIn, Bool.and_eq_true, decide_eq_true_eq] at hrel
  obtain ⟨hout, hwin⟩ := hrel
  have hplace : ((capTracker rateWindow tenantID hash (w.cap tenantID)).phase t).place ≠ .none := by
    unfold ReleaseCall.outcome? at hout
    cases hres : t.result? with
    | none =>
      rw [hres] at hout
      cases hout
    | some res =>
      cases res with
      | error err =>
        rw [hres] at hout
        cases hout
      | ok result =>
        rw [hres] at hout
        exact hholds.returned hn hres result rfl (Option.some.inj hout)
  simp only [Function.comp_apply, ReleasePhase.holdsIn, phase_requestedAt, Bool.and_eq_true, decide_eq_true_eq]
  exact ⟨hplace, hwin⟩

end Runs

section Witness

/-- A record that the second tier did not call malicious. -/
def suspiciousRecord : QuarantineRecord :=
  { provider := .gmail, email := "bob@acme.example", messageID := "g1", tenant := "acme", labelID := "L1"
    originalTier := some .blocked, primary := none, quarantineAt := 1 }

/-- A request of the recipient `07` of the tenant `acme`. -/
def bobAsks (msg : String) : RecipientRequest "acme" [7] :=
  ⟨{ tenantID := "acme", pseudoMessageID := msg, recipientUserHash := [7] }, rfl, rfl⟩

def capOf (cap : ℕ) : ReleaseWorld :=
  { policies := fun tenantID => some { tenantID, quarantineSelfReleasePerHour := cap } }

/-- The message is found, and its release succeeds. -/
def cleared : ReleaseEnv :=
  { now := 100, uuid := "a1", lookup := .ok (some suspiciousRecord)
    runner := ({ reason := some .allowed, restored := true }, none) }

/-- Two calls take turns up to their counts, and then each runs to its end. -/
def bothCount : List (Pool.Label (RecipientRequest "acme" [7]) ReleaseEnv) :=
  [.spawn (bobAsks "m1"), .spawn (bobAsks "m2"),
    .advance 0 cleared, .advance 1 cleared, .advance 0 cleared, .advance 1 cleared, .advance 0 cleared,
    .advance 1 cleared, .advance 0 cleared, .advance 1 cleared, .advance 0 cleared, .advance 0 cleared,
    .advance 1 cleared, .advance 1 cleared]

/-- With room for two, both calls release, and a third one is refused. -/
theorem released_le_cap_two : ∃ s, Lts.run (releaseStep 50 "acme" [7]) ⟨capOf 2, []⟩
      (bothCount ++ .spawn (bobAsks "m3") :: List.replicate 5 (.advance 2 cleared)) = some s ∧
    s.threads.map ReleaseCall.outcome? = [some .released, some .released, some .rateLimited] ∧
    ∀ start, s.threads.countP (ReleaseCall.releasedIn start (start + 50)) ≤ (capOf 2).cap "acme" := by
  have hend : (Lts.run (releaseStep 50 "acme" [7]) ⟨capOf 2, []⟩
      (bothCount ++ .spawn (bobAsks "m3") :: List.replicate 5 (.advance 2 cleared))).map
        (fun s => s.threads.map ReleaseCall.outcome?) =
      some [some .released, some .released, some .rateLimited] := by
    decide +kernel
  obtain ⟨s, hrun, hs⟩ := Option.map_eq_some_iff.mp hend
  exact ⟨s, hrun, hs, released_le_cap 50 "acme" [7] (capOf 2) s _ (by decide +kernel) hrun⟩

/-- **Two releases under a cap of one.** Both calls count before either has written its row. -/
theorem two_released_at_cap_one : ∃ s,
    Lts.run (releaseStep 50 "acme" [7]) ⟨capOf 1, []⟩ bothCount = some s ∧ (capOf 1).cap "acme" = 1 ∧
      s.threads.countP (ReleaseCall.releasedIn 80 (80 + 50)) = 2 := by
  have hend : (Lts.run (releaseStep 50 "acme" [7]) ⟨capOf 1, []⟩ bothCount).map
      (fun s => s.threads.countP (ReleaseCall.releasedIn 80 (80 + 50))) = some 2 := by
    decide +kernel
  obtain ⟨s, hrun, hs⟩ := Option.map_eq_some_iff.mp hend
  exact ⟨s, hrun, rfl, hs⟩

end Witness

end Sn360Es.SelfRelease
